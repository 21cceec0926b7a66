import Shdlc.FarSide.Script
import Shdlc.Proofs.Session.Occurrences
import Shdlc.Proofs.Update.Memory
/-!
Sessions, and what a host remembers of its devices in them. Main statement: `afterAll_remembers`,
after any operations a device is remembered by what has happened at it, and no operation touches
another device than its own.
-/
namespace Shdlc

namespace Session

def Operation.index? : Operation → Option Nat
  | .atDevice index _ | .update index _ _ => some index
  | _ => none

/-- What happens at a device when an operation is performed. -/
def occurrences (s : Session) (index : Nat) (o : Operation) : List Device.Occurrence :=
  match s.devices[index]?, o with
  | some device, .atDevice i operation =>
    if i = index then operation.occurrences device.address s.bus else []
  | some device, .update i emergency _ =>
    if i = index ∧ s.image.isSome then Update.occurrences emergency device.address s.bus else []
  | _, _ => []

/-- The session when an operation has been performed, well or badly. -/
def after (s : Session) (o : Operation) : Session := Work.final (perform o s)

def afterAll (s : Session) (operations : List Operation) : Session := operations.foldl after s

/-- All that happens at a device when operations are performed one after another. -/
def history (s : Session) (index : Nat) : List Operation → List Device.Occurrence
  | [] => []
  | o :: rest => s.occurrences index o ++ (s.after o).history index rest

section Step

variable {s : Session} {index : Nat} {device : Device}

abbrev KeepsDevices {α : Type} (work : Work α) : Prop := Work.Keeps Session.devices work

theorem keepsDevices_onBus {α : Type} (action : Action α) : KeepsDevices (onBus action) := by
  intro s
  cases h : action s.bus with
  | ok a bus => simp only [onBus, h, Work.final]
  | error e bus => simp only [onBus, h, Work.final]

theorem keepsDevices_modify_image (image : Option Image) :
    KeepsDevices (modify fun s => { s with image }) := Work.keeps_modify fun _ => rfl

theorem keepsDevices_load (layout : Image.Layout) (source : Image.Source) :
    KeepsDevices (load layout source) := by
  unfold load
  split
  · refine (keepsDevices_onBus _).bind fun _ => ?_
    exact (keepsDevices_modify_image _).bind fun _ => Work.keeps_pure _
  · exact (keepsDevices_onBus _).bind fun _ => Work.keeps_throw _

theorem keepsDevices_read (reading : Reading) : KeepsDevices (read reading) := by
  refine Work.keeps_get.bind fun s => ?_
  split
  · exact Work.keeps_pure _
  · exact (keepsDevices_modify_image _).bind fun _ => Work.keeps_pure _

theorem keepsDevices_perform {o : Operation} (h : o.index? = none) : KeepsDevices (perform o) := by
  cases o with
  | description | isOpen | extraTime => exact Work.keeps_get.bind fun _ => Work.keeps_pure _
  | openPort | closePort | setBitrate | setExtraTime | push | bitrate =>
    exact (keepsDevices_onBus _).bind fun _ => Work.keeps_pure _
  | transceive => exact (keepsDevices_onBus _).map _
  | exchange | execute => exact (keepsDevices_onBus _).bind fun _ => Work.keeps_pure _
  | load layout source => exact keepsDevices_load layout source
  | read reading => exact keepsDevices_read reading
  | atDevice => cases h
  | update => cases h

theorem after_atDevice (h : s.devices[index]? = some device) (operation : DeviceOperation) :
    let t := Work.final (operation.work ⟨device, s.bus⟩)
    s.after (.atDevice index operation) =
      { s with bus := t.bus, devices := s.devices.set index t.device } := by
  obtain ⟨bus, devices, image⟩ := s
  simp only at h
  simp only [after, perform, atDevice, h]
  cases operation.work ⟨device, bus⟩ with
  | ok value t => rfl
  | error e t => rfl

theorem after_update {image : Image} (h : s.devices[index]? = some device)
    (hi : s.image = some image) (emergency listening : Bool) :
    let t := Work.final (Update.run emergency listening ⟨⟨device, s.bus⟩, image⟩)
    s.after (.update index emergency listening) =
      ⟨t.bus, s.devices.set index t.device, some t.image⟩ := by
  obtain ⟨bus, devices, image'⟩ := s
  simp only at h hi
  simp only [after, perform, update, h, hi]
  cases Update.run emergency listening ⟨⟨device, bus⟩, image⟩ with
  | ok value t => rfl
  | error e t => rfl

theorem after_update_of_none (hi : s.image = none) (emergency listening : Bool) :
    s.after (.update index emergency listening) = s := by
  obtain ⟨bus, devices, image⟩ := s
  simp only at hi
  subst hi
  simp only [after, perform, update]
  cases devices[index]? <;> rfl

theorem after_of_missing {o : Operation} (ho : o.index? = some index)
    (h : s.devices[index]? = none) : s.after o = s := by
  obtain ⟨bus, devices, image⟩ := s
  simp only at h
  cases o with
  | atDevice i operation =>
    obtain rfl : i = index := Option.some.inj ho
    simp only [after, perform, atDevice, h, Work.final]
  | update i emergency listening =>
    obtain rfl : i = index := Option.some.inj ho
    simp only [after, perform, update, h, Work.final]
  | _ => cases ho

theorem devices_after_of_ne {o : Operation} (h : o.index? ≠ some index) :
    (s.after o).devices[index]? = s.devices[index]? := by
  cases o with
  | atDevice i operation =>
    have hne : i ≠ index := fun he => h (congrArg some he)
    cases hd : s.devices[i]? with
    | none => rw [after_of_missing rfl hd]
    | some device =>
      rw [after_atDevice hd]
      exact List.getElem?_set_ne hne
  | update i emergency listening =>
    have hne : i ≠ index := fun he => h (congrArg some he)
    cases hd : s.devices[i]? with
    | none => rw [after_of_missing rfl hd]
    | some device =>
      cases hi : s.image with
      | none => rw [after_update_of_none hi]
      | some image =>
        rw [after_update hd hi]
        exact List.getElem?_set_ne hne
  | _ => exact congrArg (·[index]?) (keepsDevices_perform rfl s)

theorem occurrences_of_ne {o : Operation} (h : o.index? ≠ some index) :
    s.occurrences index o = [] := by
  have hne : ∀ i, o.index? = some i → i ≠ index := by
    rintro i hi rfl
    exact h hi
  cases hd : s.devices[index]? with
  | none => simp only [occurrences, hd]
  | some device =>
    cases o with
    | atDevice i operation => simp only [occurrences, hd, if_neg (hne i rfl)]
    | update i emergency listening => simp only [occurrences, hd, hne i rfl, false_and, if_false]
    | _ => simp only [occurrences, hd]

/-- What happens at a device when an operation is performed makes of it what is remembered. -/
theorem devices_after (h : s.devices[index]? = some device) (o : Operation) :
    (s.after o).devices[index]? =
      some ((s.occurrences index o).foldl Device.after device) := by
  have hlt : index < s.devices.length := (List.getElem?_eq_some_iff.1 h).1
  by_cases ho : o.index? = some index
  · cases o with
    | atDevice i operation =>
      obtain rfl : i = index := Option.some.inj ho
      have hdevice := (operation.work_becomes ⟨device, s.bus⟩).device
      rw [after_atDevice h]
      simp only [List.getElem?_set_self hlt, occurrences, h, if_true, hdevice]
    | update i emergency listening =>
      obtain rfl : i = index := Option.some.inj ho
      cases hi : s.image with
      | none =>
        rw [after_update_of_none hi, h]
        simp [occurrences, h, hi]
      | some image =>
        have hdevice := Update.device_run emergency listening ⟨⟨device, s.bus⟩, image⟩
        rw [after_update h hi]
        simp only [List.getElem?_set_self hlt, occurrences, h, hi, Option.isSome_some, and_self,
          if_true, hdevice]
    | _ => cases ho
  · rw [devices_after_of_ne ho, occurrences_of_ne ho, h]
    rfl

theorem sendsOnly_atDevice (h : s.devices[index]? = some device) (operation : DeviceOperation) :
    s.bus.SendsOnly (·.address = device.address) (s.after (.atDevice index operation)).bus := by
  rw [after_atDevice h]
  exact (operation.work_becomes ⟨device, s.bus⟩).sends

theorem sendsOnly_update (h : s.devices[index]? = some device) (emergency listening : Bool) :
    s.bus.SendsOnly (fun r => r.address = if r.isForBootloader then 0 else device.address)
      (s.after (.update index emergency listening)).bus := by
  cases hi : s.image with
  | none =>
    rw [after_update_of_none hi]
    exact .refl s.bus
  | some image =>
    rw [after_update h hi]
    exact Update.run_sendsOnly emergency listening ⟨⟨device, s.bus⟩, image⟩

end Step

theorem devices_afterAll {s : Session} {index : Nat} {device : Device}
    (h : s.devices[index]? = some device) (operations : List Operation) :
    (s.afterAll operations).devices[index]? =
      some ((s.history index operations).foldl Device.after device) := by
  induction operations generalizing s device with
  | nil => exact h
  | cons o rest ih =>
    rw [history, List.foldl_append]
    exact ih (devices_after h o)

theorem devices_start (port : Port) (surroundings : Surroundings) {addresses : List UInt8}
    {index : Nat} {address : UInt8} (h : addresses[index]? = some address) :
    (start port surroundings addresses).devices[index]? = some { address } := by
  rw [start, List.getElem?_map, h]
  rfl

/-- After any operations in a session, whatever the far side does, a device is remembered by what
has happened at it: its address is the one that it has taken last, or the first, and it counts as
being in an error state if the latest response to a command executed on it has said so and it has
not been reset since. The next operation leaves the device as it is if its command is not answered,
or if it is about another device; and what it sends goes to the address of the device, except what
is meant for its bootloader. -/
theorem afterAll_remembers (port : Port) (surroundings : Surroundings) (addresses : List UInt8)
    (operations : List Operation) (index : Nat) (address : UInt8)
    (h : addresses[index]? = some address) :
    let s := (start port surroundings addresses).afterAll operations
    let past := (start port surroundings addresses).history index operations
    ∃ device, s.devices[index]? = some device ∧
      device.address = (past.filterMap Device.Occurrence.address?).getLast?.getD address ∧
      device.inErrorState =
        (past.filterMap Device.Occurrence.inErrorState?).getLast?.getD false ∧
      (∀ next inquiry, next.inquiry? = some inquiry →
        s.bus.answer? device.address inquiry.command = none →
          (s.after (.atDevice index next)).devices[index]? = some device) ∧
      (∀ emergency listening, emergency = true ∨
          s.bus.answer? device.address Standard.getProductType.command = none →
        (s.after (.update index emergency listening)).devices[index]? = some device) ∧
      (∀ next : Operation, next.index? ≠ some index →
        (s.after next).devices[index]? = some device) ∧
      (∀ next, s.bus.SendsOnly (·.address = device.address) (s.after (.atDevice index next)).bus) ∧
      ∀ emergency listening,
        s.bus.SendsOnly (fun r => r.address = if r.isForBootloader then 0 else device.address)
          (s.after (.update index emergency listening)).bus := by
  intro s past
  have hd : s.devices[index]? = some (past.foldl Device.after { address }) :=
    devices_afterAll (devices_start port surroundings h) operations
  refine ⟨_, hd, ?_, ?_, ?_, ?_, ?_, sendsOnly_atDevice hd, sendsOnly_update hd⟩
  · exact Device.address_foldl_after { address } past
  · exact Device.inErrorState_foldl_after { address } past
  · intro next inquiry hi hn
    have hnone : s.occurrences index (.atDevice index next) = [] := by
      simp only [occurrences, hd, if_true, DeviceOperation.occurrences, hi, hn,
        Station.occurrencesOf]
    rw [devices_after hd, hnone]
    rfl
  · intro emergency listening he
    have hnone : s.occurrences index (.update index emergency listening) = [] := by
      have hu : Update.occurrences emergency (past.foldl Device.after { address }).address s.bus =
          [] := by
        rcases he with rfl | hn
        · rfl
        · simp only [Update.occurrences, hn, Station.occurrencesOf, ite_self]
      simp only [occurrences, hd, hu, ite_self]
    rw [devices_after hd, hnone]
    rfl
  · intro next hne
    rw [devices_after_of_ne hne, hd]

/-- The first of two devices takes an address, which it does not give as text when it is asked what
it is; the other one is left alone. -/
theorem afterAll_remembers_two :
    let surroundings : Surroundings := {
      farSide := Script.farSide {
        rules := [⟨some 0x90, some [9], .frame 0 [] none none⟩,
          ⟨some 0xD0, none, .frame 0x80 [0x5A] none none⟩,
          ⟨some 0xD3, none, .frame 0x80 [] none none⟩] } }
    let s := (start (.memory { bitrate := none }) surroundings [7, 8]).afterAll
      [.atDevice 1 .reset, .atDevice 0 (.setAddress 9 true), .atDevice 0 .productTypeNumber]
    (∃ device, s.devices[0]? = some device ∧ device.address = 9 ∧ device.inErrorState = true) ∧
      ∃ device, s.devices[1]? = some device ∧ device.address = 8 ∧
        device.inErrorState = false := by
  intro surroundings s
  have hfirst : (start (.memory { bitrate := none }) surroundings [7, 8]).history 0
      [.atDevice 1 .reset, .atDevice 0 (.setAddress 9 true), .atDevice 0 .productTypeNumber] =
        [.answered ⟨7, 0x90, 0, []⟩, .moved 9, .answered ⟨9, 0xD0, 0x80, [0x5A]⟩] := by
    decide +kernel
  have hsecond : (start (.memory { bitrate := none }) surroundings [7, 8]).history 1
      [.atDevice 1 .reset, .atDevice 0 (.setAddress 9 true), .atDevice 0 .productTypeNumber] =
        [.answered ⟨8, 0xD3, 0x80, []⟩, .reset] := by
    decide +kernel
  constructor
  · obtain ⟨device, hd, ha, he, -⟩ := afterAll_remembers (.memory { bitrate := none }) surroundings
      [7, 8] [.atDevice 1 .reset, .atDevice 0 (.setAddress 9 true), .atDevice 0 .productTypeNumber]
      0 7 rfl
    rw [hfirst] at ha he
    exact ⟨device, hd, ha, he⟩
  · obtain ⟨device, hd, ha, he, -⟩ := afterAll_remembers (.memory { bitrate := none }) surroundings
      [7, 8] [.atDevice 1 .reset, .atDevice 0 (.setAddress 9 true), .atDevice 0 .productTypeNumber]
      1 8 rfl
    rw [hsecond] at ha he
    exact ⟨device, hd, ha, he⟩

end Session

end Shdlc
