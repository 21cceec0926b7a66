import Shdlc.Proofs.Session.History
import Shdlc.Proofs.Station.Errors
/-!
Sessions, and the errors that devices are blamed for in them. Main statement: `afterAll_describes`,
after any operations the errors of a device have the descriptions that were registered for it last.
-/
namespace Shdlc

namespace Session

namespace DeviceOperation

variable {s : Station} {entry : DeviceError}

/-- What an operation at a device blames it for is what its command does. -/
theorem work_eq_device_iff {o : DeviceOperation} {inquiry : Inquiry} (h : o.inquiry? = some inquiry)
    (s : Station) (entry : DeviceError) :
    (∃ t, o.work s = .error (.device entry) t) ↔ s.Blames inquiry.command entry := by
  cases o with
  | execute inquiry' wait =>
    cases h
    simp only [work, Work.map_eq_error_iff]
    exact Station.execute_eq_device_iff inquiry.command wait s entry
  | productTypeNumber =>
    cases h
    simp only [work, Work.map_eq_error_iff]
    refine @Station.ask_bind_eq_device_iff UInt32 .getProductType _ (fun text => ?_) s entry
    exact Station.blameless_onBus fun _ _ _ => Bus.not_isDevice_of_productType
  | describedErrorState clear =>
    cases h
    simp only [work, Work.map_eq_error_iff]
    refine @Station.ask_bind_eq_device_iff _ (.getErrorState clear) _ (fun answer => ?_) s entry
    exact Station.blameless_of_ok fun _ => ⟨_, _, rfl⟩
  | setAddress address follow =>
    cases h
    simp only [work, Work.map_eq_error_iff]
    refine @Station.ask_bind_eq_device_iff Unit (.setSlaveAddress address) _ (fun _ => ?_) s entry
    cases follow <;> exact Station.blameless_of_ok fun _ => ⟨_, _, rfl⟩
  | setBaudrate baudrate follow =>
    cases h
    simp only [work, Work.map_eq_error_iff]
    refine @Station.ask_bind_eq_device_iff Unit (.setBaudrate baudrate) _ (fun _ => ?_) s entry
    cases follow with
    | true => exact Station.blameless_onBus fun _ _ _ => Bus.not_isDevice_of_setBitrate
    | false => exact Station.blameless_of_ok fun _ => ⟨_, _, rfl⟩
  | reset =>
    cases h
    simp only [work, Work.map_eq_error_iff]
    refine @Station.ask_bind_eq_device_iff Unit .deviceReset _ (fun _ => ?_) s entry
    exact Station.blameless_of_ok fun _ => ⟨_, _, rfl⟩
  | factoryReset =>
    cases h
    simp only [work, Work.map_eq_error_iff]
    refine @Station.ask_bind_eq_device_iff Unit .factoryReset _ (fun _ => ?_) s entry
    exact Station.blameless_of_ok fun _ => ⟨_, _, rfl⟩
  | register errors => cases h
  | lookUp code => cases h

/-- What is done without the device does not fail. -/
theorem exists_work_eq_ok {o : DeviceOperation} (h : o.inquiry? = none) (s : Station) :
    ∃ value t, o.work s = .ok value t := by
  cases o with
  | register errors => exact ⟨_, _, rfl⟩
  | lookUp code => exact ⟨_, _, rfl⟩
  | _ => cases h

end DeviceOperation

/-- The descriptions of errors that an operation adds for a device. -/
def Operation.registered (index : Nat) : Operation → List DeviceError
  | .atDevice i (.register errors) => if i = index then errors else []
  | _ => []

section Registration

open Device

variable {s : Session} {index : Nat} {device : Device}

theorem registrations_occurrencesOf (answer : Option Response) {sequel : List Occurrence}
    (h : sequel.flatMap Occurrence.registrations = []) :
    (Station.occurrencesOf answer sequel).flatMap Occurrence.registrations = [] := by
  cases answer with
  | none => rfl
  | some r => exact h

theorem registrations_atDevice (address : UInt8) (b : Bus) (o : DeviceOperation) :
    (o.occurrences address b).flatMap Occurrence.registrations =
      (Operation.atDevice index o).registered index := by
  cases o with
  | register errors =>
    show errors ++ [] = if index = index then errors else []
    rw [if_pos rfl, List.append_nil]
  | lookUp code => rfl
  | setAddress address follow =>
    cases follow <;> exact registrations_occurrencesOf _ rfl
  | _ => exact registrations_occurrencesOf _ rfl

theorem registrations_update (emergency : Bool) (address : UInt8) (b : Bus) :
    (Update.occurrences emergency address b).flatMap Occurrence.registrations = [] := by
  unfold Update.occurrences
  split
  · exact registrations_occurrencesOf _ rfl
  · rfl

/-- Descriptions are added at a device by registering them there, and by nothing else. -/
theorem registrations_occurrences (h : s.devices[index]? = some device) (o : Operation) :
    (s.occurrences index o).flatMap Occurrence.registrations = o.registered index := by
  by_cases ho : o.index? = some index
  · cases o with
    | atDevice i operation =>
      obtain rfl : i = index := Option.some.inj ho
      simp only [occurrences, h, if_true]
      exact registrations_atDevice device.address s.bus operation
    | update i emergency listening =>
      simp only [occurrences, h]
      split
      · exact registrations_update emergency device.address s.bus
      · rfl
    | _ => cases ho
  · rw [occurrences_of_ne ho]
    cases o with
    | atDevice i operation =>
      have hne : i ≠ index := fun he => ho (congrArg some he)
      cases operation with
      | register errors => exact (if_neg hne).symm
      | _ => rfl
    | _ => rfl

theorem registrations_history (h : s.devices[index]? = some device)
    (operations : List Operation) :
    (s.history index operations).flatMap Occurrence.registrations =
      operations.flatMap (Operation.registered index) := by
  induction operations generalizing s device with
  | nil => rfl
  | cons o rest ih =>
    rw [history, List.flatMap_append, List.flatMap_cons, registrations_occurrences h o,
      ih (devices_after h o)]

/-- After any operations a device has the descriptions that were registered for it. -/
theorem errors_afterAll (h : s.devices[index]? = some device) (operations : List Operation) :
    ∃ device', (s.afterAll operations).devices[index]? = some device' ∧
      device'.errors =
        (operations.flatMap (Operation.registered index)).reverse ++ device.errors := by
  refine ⟨_, devices_afterAll h operations, ?_⟩
  rw [errors_foldl_after, registrations_history h]

/-- Registering descriptions at a device changes that device only. -/
theorem after_register (h : s.devices[index]? = some device) (errors : List DeviceError) :
    s.after (.atDevice index (.register errors)) =
      { s with devices := s.devices.set index (device.register errors) } :=
  after_atDevice h _

end Registration

section Perform

variable {s : Session} {index : Nat} {device : Device}

theorem perform_atDevice_eq_ok_iff (h : s.devices[index]? = some device) (o : DeviceOperation)
    (value : Value) :
    (∃ t, perform (.atDevice index o) s = .ok (.value value) t) ↔
      ∃ t, o.work ⟨device, s.bus⟩ = .ok value t := by
  obtain ⟨bus, devices, image⟩ := s
  simp only at h
  simp only [perform, atDevice, h]
  cases o.work ⟨device, bus⟩ with
  | ok value' t => simp
  | error e t => simp

theorem perform_atDevice_eq_error_iff (h : s.devices[index]? = some device) (o : DeviceOperation)
    (e : Error) :
    (∃ t, perform (.atDevice index o) s = .error e t) ↔
      ∃ t, o.work ⟨device, s.bus⟩ = .error e t := by
  obtain ⟨bus, devices, image⟩ := s
  simp only at h
  simp only [perform, atDevice, h]
  cases o.work ⟨device, bus⟩ with
  | ok value' t => simp
  | error e' t => simp

end Perform

/-- How the errors of a device are described in a session: by what was registered for it, the latest
last, and otherwise by the standard descriptions. -/
structure Describes (s : Session) (index : Nat) (past : List DeviceError) (device : Device) :
    Prop where
  zero : device.error? 0 = none
  latest : ∀ earlier entry later, past = earlier ++ entry :: later → entry.code ≠ 0 →
    (∀ e ∈ later, e.code ≠ entry.code) → device.error? entry.code = some entry
  standard : ∀ entry ∈ DeviceError.standard, (∀ e ∈ past, e.code ≠ entry.code) →
    device.error? entry.code = some entry
  unknown : ∀ code, code ≠ 0 → (∀ e ∈ past ++ DeviceError.standard, e.code ≠ code) →
    device.error? code = some ⟨code, "Unknown error."⟩
  lookUp : ∀ code, ∃ t, perform (.atDevice index (.lookUp code)) s =
    .ok (.value (.deviceError (device.error? code))) t
  /-- Whatever is done at the device, it is blamed for an error just if its response names the code,
  or if the command finds an error in data that come without one. -/
  blamed : ∀ operation entry,
    (∃ t, perform (.atDevice index operation) s = .error (.device entry) t) ↔
      ∃ inquiry r, operation.inquiry? = some inquiry ∧
        s.bus.Answers device.address inquiry.command r ∧
        (device.error? (r.state &&& 0x7F) = some entry ∨
          ∃ found, inquiry.command.Finds r found ∧ (device.error? found.code).getD found = entry)
  /-- The latter is not done by a command that finds fault with nothing but the data. -/
  blamed_of_code : ∀ operation inquiry, operation.inquiry? = some inquiry →
    Answer.BlamesData inquiry.command.interpret → ∀ entry,
      (∃ t, perform (.atDevice index operation) s = .error (.device entry) t) ↔
        ∃ r, s.bus.Answers device.address inquiry.command r ∧
          device.error? (r.state &&& 0x7F) = some entry
  state : ∀ clear state error, (∃ t, perform (.atDevice index (.describedErrorState clear)) s =
      .ok (.value (.describedState state error)) t) ↔
    ∃ r high code, s.bus.Answers device.address (Standard.getErrorState clear).command r ∧
      r.state &&& 0x7F = 0 ∧ r.data = high ++ [code] ∧ high.length = 4 ∧
      state = (Bytes.bigEndian high).toUInt32 ∧ error = device.error? code

section Describes

variable {s : Session} {index : Nat} {device : Device} {past : List DeviceError}

theorem perform_blamed_iff (h : s.devices[index]? = some device) {o : DeviceOperation}
    {inquiry : Inquiry} (ho : o.inquiry? = some inquiry) (entry : DeviceError) :
    (∃ t, perform (.atDevice index o) s = .error (.device entry) t) ↔
      Station.Blames ⟨device, s.bus⟩ inquiry.command entry :=
  (perform_atDevice_eq_error_iff h o _).trans (DeviceOperation.work_eq_device_iff ho _ entry)

theorem perform_describedErrorState_iff (h : s.devices[index]? = some device) (clear : Bool)
    (state : UInt32) (error : Option DeviceError) :
    (∃ t, perform (.atDevice index (.describedErrorState clear)) s =
        .ok (.value (.describedState state error)) t) ↔
      ∃ t, Station.describedErrorState clear ⟨device, s.bus⟩ = .ok (state, error) t := by
  rw [perform_atDevice_eq_ok_iff h]
  refine exists_congr fun t => ?_
  rw [DeviceOperation.work, Work.map_eq_ok_iff]
  constructor
  · rintro ⟨⟨state, error⟩, ht, ⟨⟩⟩
    exact ht
  · intro ht
    exact ⟨_, ht, rfl⟩

theorem describes (h : s.devices[index]? = some device)
    (hd : device.errors = past.reverse ++ DeviceError.standard) : s.Describes index past device where
  zero := Device.error?_zero device
  latest := by
    rintro earlier entry later rfl hzero hlast
    exact Device.error?_of_registered hd hzero hlast
  standard entry hentry hpast := Device.error?_of_standard hd hentry hpast
  unknown code hzero hnone := Device.error?_of_unknown hd hzero hnone
  lookUp code := (perform_atDevice_eq_ok_iff h _ _).2 ⟨_, rfl⟩
  blamed operation entry := by
    constructor
    · rintro ⟨t, ht⟩
      cases ho : operation.inquiry? with
      | none =>
        obtain ⟨u, hu⟩ := (perform_atDevice_eq_error_iff h operation _).1 ⟨t, ht⟩
        obtain ⟨value, v, hv⟩ := DeviceOperation.exists_work_eq_ok ho ⟨device, s.bus⟩
        cases hv.symm.trans hu
      | some inquiry =>
        obtain ⟨r, hr⟩ := (perform_blamed_iff h ho entry).1 ⟨t, ht⟩
        exact ⟨inquiry, r, rfl, hr⟩
    · rintro ⟨inquiry, r, ho, hr⟩
      exact (perform_blamed_iff h ho entry).2 ⟨r, hr⟩
  blamed_of_code operation inquiry ho hc entry :=
    (perform_blamed_iff h ho entry).trans (Station.blames_iff hc _ entry)
  state clear state error :=
    (perform_describedErrorState_iff h clear state error).trans
      (Station.describedErrorState_eq_ok_iff clear _ state error)

theorem bus_after_register (s : Session) (index : Nat) (errors : List DeviceError) :
    (s.after (.atDevice index (.register errors))).bus = s.bus := by
  cases h : s.devices[index]? with
  | none => rw [after_of_missing rfl h]
  | some device => rw [after_register h errors]

end Describes

/-- After any operations in a session, whatever the far side does, the errors of a device have the
descriptions that were registered for it last, whichever way they come to light; and what is
registered for another device changes neither them nor what the device answers. -/
theorem afterAll_describes (port : Port) (surroundings : Surroundings) (addresses : List UInt8)
    (operations : List Operation) (index : Nat) (address : UInt8)
    (h : addresses[index]? = some address) :
    let s := (start port surroundings addresses).afterAll operations
    ∃ device, s.devices[index]? = some device ∧
      s.Describes index (operations.flatMap (Operation.registered index)) device ∧
      ∀ other errors, other ≠ index →
        (s.after (.atDevice other (.register errors))).devices[index]? = some device ∧
          (s.after (.atDevice other (.register errors))).bus = s.bus := by
  intro s
  obtain ⟨device, hd, herrors⟩ :=
    errors_afterAll (devices_start port surroundings h) operations
  refine ⟨device, hd, describes hd herrors, ?_⟩
  intro other errors hne
  have ho : (Operation.atDevice other (.register errors)).index? ≠ some index := by
    intro he
    exact hne (Option.some.inj he)
  exact ⟨(devices_after_of_ne ho).trans hd, bus_after_register s other errors⟩

/-- Two devices refuse what they are asked with the same code, which is described differently for
them; the code of the first one's last error is greater than those in a response can be. -/
theorem afterAll_describes_two :
    let surroundings : Surroundings := {
      farSide := Script.farSide {
        rules := [⟨some 0xD2, none, .frame 0 [0, 0, 0, 9, 0x90] none none⟩,
          ⟨none, none, .frame 2 [] none none⟩] } }
    let s := (start (.memory { bitrate := none }) surroundings [7, 8]).afterAll
      [.atDevice 0 (.register [⟨2, "Too hot."⟩, ⟨0, "Fine."⟩, ⟨2, "Too cold."⟩]),
        .atDevice 1 (.register [⟨2, "Too wet."⟩]), .atDevice 0 (.register [⟨0x90, "Worn out."⟩])]
    (∃ t, perform (.atDevice 0 .productTypeNumber) s = .error (.device ⟨2, "Too cold."⟩) t) ∧
      (∃ t, perform (.atDevice 1 .reset) s = .error (.device ⟨2, "Too wet."⟩) t) ∧
      (∃ t, perform (.atDevice 0 (.describedErrorState true)) s =
        .ok (.value (.describedState 9 (some ⟨0x90, "Worn out."⟩))) t) ∧
      ∃ t, perform (.atDevice 0 (.lookUp 0)) s = .ok (.value (.deviceError none)) t := by
  intro surroundings s
  obtain ⟨first, hfirst, hdescribes, -⟩ := afterAll_describes (.memory { bitrate := none })
    surroundings [7, 8]
    [.atDevice 0 (.register [⟨2, "Too hot."⟩, ⟨0, "Fine."⟩, ⟨2, "Too cold."⟩]),
      .atDevice 1 (.register [⟨2, "Too wet."⟩]), .atDevice 0 (.register [⟨0x90, "Worn out."⟩])]
    0 7 rfl
  obtain ⟨second, hsecond, hdescribes', -⟩ := afterAll_describes (.memory { bitrate := none })
    surroundings [7, 8]
    [.atDevice 0 (.register [⟨2, "Too hot."⟩, ⟨0, "Fine."⟩, ⟨2, "Too cold."⟩]),
      .atDevice 1 (.register [⟨2, "Too wet."⟩]), .atDevice 0 (.register [⟨0x90, "Worn out."⟩])]
    1 8 rfl
  have hseven : first.address = 7 :=
    Option.some.inj ((congrArg (Option.map Device.address) hfirst).symm.trans rfl)
  have height : second.address = 8 :=
    Option.some.inj ((congrArg (Option.map Device.address) hsecond).symm.trans rfl)
  have hrefusal : s.bus.Answers first.address Standard.getProductType.command
      ⟨7, 0xD0, 2, []⟩ := by
    rw [hseven]
    exact ⟨by decide +kernel, rfl, rfl⟩
  have hrefusal' : s.bus.Answers second.address Standard.deviceReset.command ⟨8, 0xD3, 2, []⟩ := by
    rw [height]
    exact ⟨by decide +kernel, rfl, rfl⟩
  have hstate : s.bus.Answers first.address (Standard.getErrorState true).command
      ⟨7, 0xD2, 0, [0, 0, 0, 9, 0x90]⟩ := by
    rw [hseven]
    exact ⟨by decide +kernel, rfl, rfl⟩
  have htwo : first.error? 2 = some ⟨2, "Too cold."⟩ :=
    hdescribes.latest [⟨2, "Too hot."⟩, ⟨0, "Fine."⟩] ⟨2, "Too cold."⟩ [⟨0x90, "Worn out."⟩] rfl
      (by decide) (by decide)
  have htwo' : second.error? 2 = some ⟨2, "Too wet."⟩ :=
    hdescribes'.latest [] ⟨2, "Too wet."⟩ [] rfl (by decide) (by decide)
  have hworn : first.error? 0x90 = some ⟨0x90, "Worn out."⟩ :=
    hdescribes.latest [⟨2, "Too hot."⟩, ⟨0, "Fine."⟩, ⟨2, "Too cold."⟩] ⟨0x90, "Worn out."⟩ [] rfl
      (by decide) (by decide)
  refine ⟨?_, ?_, ?_, ?_⟩
  · exact (hdescribes.blamed_of_code .productTypeNumber (.standard .getProductType) rfl
      Standard.getProductType.blamesData _).2 ⟨_, hrefusal, htwo⟩
  · exact (hdescribes'.blamed_of_code .reset (.standard .deviceReset) rfl
      Standard.deviceReset.blamesData _).2 ⟨_, hrefusal', htwo'⟩
  · exact (hdescribes.state true 9 _).2
      ⟨_, [0, 0, 0, 9], 0x90, hstate, rfl, rfl, rfl, rfl, hworn.symm⟩
  · obtain ⟨t, ht⟩ := hdescribes.lookUp 0
    rw [hdescribes.zero] at ht
    exact ⟨t, ht⟩

end Session

end Shdlc
