import Shdlc.Proofs.Bus.Belief
import Shdlc.Proofs.Bus.Line
import Shdlc.Proofs.Station
/-!
The errors of a device and their descriptions. Main statements: `error?_of_registered`, which
description a code has after others were added, and `execute_eq_device_iff`, a device is blamed with
the description of the code in its response.
-/
namespace Shdlc

namespace Device

/-- The descriptions that an occurrence adds. -/
def Occurrence.registrations : Occurrence → List DeviceError
  | .registered errors => errors
  | _ => []

theorem errors_foldl_after (d : Device) (l : List Occurrence) :
    (l.foldl after d).errors = (l.flatMap Occurrence.registrations).reverse ++ d.errors := by
  induction l generalizing d with
  | nil => rfl
  | cons o rest ih =>
    have hstep : (d.after o).errors = o.registrations.reverse ++ d.errors := by
      cases o <;> rfl
    rw [List.foldl_cons, ih, hstep, List.flatMap_cons, List.reverse_append, List.append_assoc]

section Lookup

variable {d : Device} {past : List DeviceError} {code : UInt8} {entry : DeviceError}

theorem error?_zero (d : Device) : d.error? 0 = none := if_pos rfl

theorem error?_of_ne_zero (h : code ≠ 0) :
    d.error? code = some ((d.errors.find? (·.code == code)).getD (.unknown code)) := if_neg h

theorem ne_zero_of_error? (h : d.error? code = some entry) : code ≠ 0 := by
  rintro rfl
  rw [error?_zero] at h
  cases h

theorem find?_eq_none_of_ne (h : ∀ e ∈ past, e.code ≠ code) :
    past.find? (·.code == code) = none := by
  rw [List.find?_eq_none]
  intro e he
  simpa using h e he

/-- Of the descriptions that were added, the one with the code that came last counts. -/
theorem error?_of_registered {earlier later : List DeviceError}
    (hd : d.errors = (earlier ++ entry :: later).reverse ++ DeviceError.standard)
    (hzero : entry.code ≠ 0) (hlast : ∀ e ∈ later, e.code ≠ entry.code) :
    d.error? entry.code = some entry := by
  have hlater : later.reverse.find? (·.code == entry.code) = none := by
    apply find?_eq_none_of_ne
    intro e he
    exact hlast e (List.mem_reverse.1 he)
  have hfound : d.errors.find? (·.code == entry.code) = some entry := by
    rw [hd, List.reverse_append, List.reverse_cons, List.append_assoc, List.append_assoc,
      List.find?_append, hlater, Option.none_or, List.singleton_append, List.find?_cons_of_pos]
    exact beq_self_eq_true entry.code
  rw [error?_of_ne_zero hzero, hfound, Option.getD_some]

theorem find?_of_not_registered (hd : d.errors = past.reverse ++ DeviceError.standard)
    (hpast : ∀ e ∈ past, e.code ≠ code) :
    d.errors.find? (·.code == code) = DeviceError.standard.find? (·.code == code) := by
  have hnone : past.reverse.find? (·.code == code) = none := by
    apply find?_eq_none_of_ne
    intro e he
    exact hpast e (List.mem_reverse.1 he)
  rw [hd, List.find?_append, hnone, Option.none_or]

/-- The standard errors have one code each, and none has the code that stands for no error. -/
theorem find?_standard : ∀ entry ∈ DeviceError.standard, entry.code ≠ 0 ∧
    DeviceError.standard.find? (·.code == entry.code) = some entry := by decide

theorem error?_of_standard (hd : d.errors = past.reverse ++ DeviceError.standard)
    (hentry : entry ∈ DeviceError.standard) (hpast : ∀ e ∈ past, e.code ≠ entry.code) :
    d.error? entry.code = some entry := by
  obtain ⟨hzero, hfound⟩ := find?_standard entry hentry
  rw [error?_of_ne_zero hzero, find?_of_not_registered hd hpast, hfound, Option.getD_some]

theorem error?_of_unknown (hd : d.errors = past.reverse ++ DeviceError.standard) (hzero : code ≠ 0)
    (hnone : ∀ e ∈ past ++ DeviceError.standard, e.code ≠ code) :
    d.error? code = some ⟨code, "Unknown error."⟩ := by
  have hpast : ∀ e ∈ past, e.code ≠ code := fun e he => hnone e (List.mem_append_left _ he)
  have hstandard : DeviceError.standard.find? (·.code == code) = none :=
    find?_eq_none_of_ne fun e he => hnone e (List.mem_append_right _ he)
  rw [error?_of_ne_zero hzero, find?_of_not_registered hd hpast, hstandard, Option.getD_none]
  rfl

end Lookup

theorem describe_eq_device_iff (d : Device) (e : Error) (entry : DeviceError) :
    d.describe e = .device entry ↔
      ∃ found, e = .device found ∧ (d.error? found.code).getD found = entry := by
  cases e with
  | device found => simp [describe]
  | _ => simp [describe]

end Device

/-- Whether a command finds an error of the device in the data of a response that names none. -/
def Command.Finds {α : Type} (c : Command α) (r : Response) (found : DeviceError) : Prop :=
  r.state &&& 0x7F = 0 ∧ c.checkLength r.data = .ok () ∧ c.interpret r.data = .error (.device found)

theorem Command.not_finds {α : Type} {c : Command α} (hc : Answer.BlamesData c.interpret)
    (r : Response) (found : DeviceError) : ¬ c.Finds r found := by
  rintro ⟨-, -, hi⟩
  obtain ⟨flaw, hf⟩ := hc r.data _ hi
  cases hf

namespace Bus

variable {α : Type}

/-- A device names an error in its response, or the command finds one in the data. -/
theorem execute_eq_device_iff (b : Bus) (address : UInt8) (c : Command α) (wait : Bool)
    (found : DeviceError) :
    (∃ b', execute address c wait b = .error (.device found) b') ↔
      ∃ r, b.Answers address c r ∧
        (r.state &&& 0x7F ≠ 0 ∧ found = .unknown (r.state &&& 0x7F) ∨ c.Finds r found) := by
  have hblame : ∀ e, (.error (.device found) : Except Error (α × Bool)) = .error e →
      e.IsDevice := by
    rintro e ⟨⟩
    exact ⟨found, rfl⟩
  refine (exists_execute_iff hblame wait).trans (exists_congr fun r => ?_)
  rw [Command.judge_eq_device_iff, Answers, Command.Finds]
  simp only [Response.errorCode, and_assoc]

theorem execute_eq_ok_iff (b : Bus) (address : UInt8) (c : Command α) (wait : Bool) (a : α) :
    (∃ flag b', execute address c wait b = .ok (a, flag) b') ↔
      ∃ r, b.Answers address c r ∧
        r.state &&& 0x7F = 0 ∧ c.checkLength r.data = .ok () ∧ c.interpret r.data = .ok a := by
  have hresult : ∀ flag, (∃ b', execute address c wait b = .ok (a, flag) b') ↔
      ∃ r : Response, r.StandsIn (b.received address c) ∧ c.judge address r = .ok (a, flag) := by
    intro flag
    have hblame : ∀ e, (.ok (a, flag) : Except Error (α × Bool)) = .error e → e.IsDevice := by
      rintro e ⟨⟩
    exact exists_execute_iff hblame wait
  simp only [hresult, Command.judge_eq_ok_iff, Answers]
  constructor
  · rintro ⟨flag, r, hs, ha, hc, he, hl, hi, -⟩
    exact ⟨r, ⟨hs, ha, hc⟩, he, hl, hi⟩
  · rintro ⟨r, ⟨hs, ha, hc⟩, he, hl, hi⟩
    exact ⟨_, r, hs, ha, hc, he, hl, hi, rfl⟩

end Bus

namespace Station

variable {α : Type}

/-- Whether a device is blamed for an error when a command is executed: it has the description of
the code in the response, or of the code of an error that the command finds in the data. -/
def Blames (s : Station) (c : Command α) (entry : DeviceError) : Prop :=
  ∃ r, s.bus.Answers s.device.address c r ∧
    (s.device.error? (r.state &&& 0x7F) = some entry ∨
      ∃ found, c.Finds r found ∧ (s.device.error? found.code).getD found = entry)

theorem blames_iff {c : Command α} (hc : Answer.BlamesData c.interpret) (s : Station)
    (entry : DeviceError) :
    s.Blames c entry ↔ ∃ r, s.bus.Answers s.device.address c r ∧
      s.device.error? (r.state &&& 0x7F) = some entry := by
  refine exists_congr fun r => and_congr_right fun _ => ?_
  constructor
  · rintro (hcode | ⟨found, hf, -⟩)
    · exact hcode
    · exact absurd hf (Command.not_finds hc r found)
  · exact .inl

/-- What executing a command on a device adds to executing it on the bus. -/
theorem execute_cases (c : Command α) (wait : Bool) (s : Station) :
    (∃ a inErrorState bus,
      Bus.execute s.device.address c wait s.bus = .ok (a, inErrorState) bus ∧
        execute c wait s = .ok a { device := { s.device with inErrorState }, bus }) ∨
    ∃ e bus, Bus.execute s.device.address c wait s.bus = .error e bus ∧
      execute c wait s = .error (s.device.describe e) { s with bus } := by
  cases h : Bus.execute s.device.address c wait s.bus with
  | ok result bus => exact .inl ⟨result.1, result.2, bus, rfl, execute_of_ok h⟩
  | error e bus => exact .inr ⟨e, bus, rfl, execute_of_error h⟩

theorem execute_eq_error_iff (c : Command α) (wait : Bool) (s : Station) (e : Error) :
    (∃ t, execute c wait s = .error e t) ↔
      ∃ e', s.device.describe e' = e ∧
        ∃ b', Bus.execute s.device.address c wait s.bus = .error e' b' := by
  obtain ⟨a, flag, bus, hb, he⟩ | ⟨e', bus, hb, he⟩ := execute_cases c wait s
  · simp [hb, he]
  · simp [hb, he]

/-- A device is blamed with the description of the code in its response. -/
theorem execute_eq_device_iff (c : Command α) (wait : Bool) (s : Station) (entry : DeviceError) :
    (∃ t, execute c wait s = .error (.device entry) t) ↔ s.Blames c entry := by
  rw [execute_eq_error_iff]
  simp only [Device.describe_eq_device_iff]
  constructor
  · rintro ⟨_, ⟨found, rfl, hentry⟩, hb⟩
    obtain ⟨r, hr, ⟨hne, rfl⟩ | hf⟩ := (Bus.execute_eq_device_iff _ _ _ _ _).1 hb
    · refine ⟨r, hr, .inl ?_⟩
      rw [DeviceError.unknown, Device.error?_of_ne_zero hne, Option.getD_some] at hentry
      rw [Device.error?_of_ne_zero hne, hentry]
    · exact ⟨r, hr, .inr ⟨found, hf, hentry⟩⟩
  · rintro ⟨r, hr, hcode | ⟨found, hf, hentry⟩⟩
    · have hne := Device.ne_zero_of_error? hcode
      refine ⟨_, ⟨.unknown (r.state &&& 0x7F), rfl, ?_⟩,
        (Bus.execute_eq_device_iff _ _ _ _ _).2 ⟨r, hr, .inl ⟨hne, rfl⟩⟩⟩
      rw [DeviceError.unknown, hcode, Option.getD_some]
    · exact ⟨_, ⟨found, rfl, hentry⟩,
        (Bus.execute_eq_device_iff _ _ _ _ _).2 ⟨r, hr, .inr hf⟩⟩

theorem execute_eq_ok_iff (c : Command α) (wait : Bool) (s : Station) (a : α) :
    (∃ t, execute c wait s = .ok a t) ↔ ∃ r, s.bus.Answers s.device.address c r ∧
      r.state &&& 0x7F = 0 ∧ c.checkLength r.data = .ok () ∧ c.interpret r.data = .ok a := by
  rw [← Bus.execute_eq_ok_iff s.bus s.device.address c wait a]
  obtain ⟨a', flag, bus, hb, he⟩ | ⟨e, bus, hb, he⟩ := execute_cases c wait s
  · simp [hb, he]
  · simp [hb, he]

/-- The registered descriptions stay when a command is answered. -/
theorem error?_of_execute {c : Command α} {wait : Bool} {s t : Station} {a : α}
    (h : execute c wait s = .ok a t) : t.device.error? = s.device.error? := by
  obtain ⟨_, _, _, -, he⟩ | ⟨_, _, -, he⟩ := execute_cases c wait s
  · cases he.symm.trans h
    rfl
  · cases he.symm.trans h

end Station

/-- The answer about the state of a device: the state in four bytes, and the code of an error. -/
theorem Answer.errorState_eq_ok_iff (data : Bytes) (answer : ErrorState) :
    errorState data = .ok answer ↔
      ∃ high code, data = high ++ [code] ∧ high.length = 4 ∧
        answer = ⟨(Bytes.bigEndian high).toUInt32, code⟩ := by
  constructor
  · intro h
    unfold errorState at h
    split at h
    · next a b c d code =>
      cases h
      exact ⟨[a, b, c, d], code, rfl, rfl, rfl⟩
    · cases h
  · rintro ⟨high, code, rfl, hlen, rfl⟩
    match high, hlen with
    | [a, b, c, d], _ => rfl

theorem Command.checkLength_errorState {clear : Bool} {data : Bytes} {answer : ErrorState}
    (h : Answer.errorState data = .ok answer) :
    (Standard.getErrorState clear).command.checkLength data = .ok () := by
  obtain ⟨high, code, rfl, hlen, -⟩ := (Answer.errorState_eq_ok_iff data answer).1 h
  have hfive : (high ++ [code]).length = 5 := by rw [List.length_append, hlen, List.length_singleton]
  rw [checkLength_eq_ok_iff, hfive]
  exact ⟨Nat.le_refl 5, Nat.le_refl 5⟩

namespace Station

/-- The error that a device names when it is asked for its state has the description of its code,
whichever code that is. -/
theorem describedErrorState_eq_ok_iff (clear : Bool) (s : Station) (state : UInt32)
    (entry : Option DeviceError) :
    (∃ t, describedErrorState clear s = .ok (state, entry) t) ↔
      ∃ r high code, s.bus.Answers s.device.address (Standard.getErrorState clear).command r ∧
        r.state &&& 0x7F = 0 ∧ r.data = high ++ [code] ∧ high.length = 4 ∧
        state = (Bytes.bigEndian high).toUInt32 ∧ entry = s.device.error? code := by
  have hwork : (∃ t, describedErrorState clear s = .ok (state, entry) t) ↔
      ∃ answer : ErrorState, (∃ t, ask (.getErrorState clear) s = .ok answer t) ∧
        state = answer.state ∧ entry = s.device.error? answer.lastError := by
    constructor
    · rintro ⟨t, h⟩
      obtain ⟨answer, u, ha, hr⟩ := Work.bind_eq_ok_iff.1 h
      obtain ⟨v, w, hv, hr⟩ := Work.bind_eq_ok_iff.1 hr
      cases hv
      cases hr
      exact ⟨answer, ⟨_, ha⟩, rfl, congrFun (error?_of_execute ha) _⟩
    · rintro ⟨answer, ⟨t, ha⟩, rfl, rfl⟩
      refine ⟨t, (Work.bind_of_ok ha).trans ?_⟩
      show EStateM.Result.ok (answer.state, t.device.error? answer.lastError) t = _
      rw [error?_of_execute ha]
  rw [hwork]
  constructor
  · rintro ⟨answer, ha, rfl, rfl⟩
    obtain ⟨r, hr, hstate, -, hi⟩ := (execute_eq_ok_iff _ _ _ _).1 ha
    obtain ⟨high, code, hdata, hlen, rfl⟩ := (Answer.errorState_eq_ok_iff r.data answer).1 hi
    exact ⟨r, high, code, hr, hstate, hdata, hlen, rfl, rfl⟩
  · rintro ⟨r, high, code, hr, hstate, hdata, hlen, rfl, rfl⟩
    have hi := (Answer.errorState_eq_ok_iff r.data _).2 ⟨high, code, hdata, hlen, rfl⟩
    exact ⟨_, (execute_eq_ok_iff _ _ _ _).2
      ⟨r, hr, hstate, Command.checkLength_errorState hi, hi⟩, rfl, rfl⟩

/-- Whether work, if it fails, does so for other reasons than an error of the device. -/
def Blameless (work : Work α) : Prop := ∀ s e t, work s = .error e t → ¬ e.IsDevice

theorem blameless_of_ok {work : Work α} (h : ∀ s, ∃ a t, work s = .ok a t) : Blameless work := by
  intro s e t he
  obtain ⟨a, u, hok⟩ := h s
  cases hok.symm.trans he

theorem blameless_onBus {action : Action α} (h : ∀ b e c, action b = .error e c → ¬ e.IsDevice) :
    Blameless (onBus action) := by
  intro s e t ht
  cases hb : action s.bus with
  | ok a b =>
    simp only [onBus, hb] at ht
    cases ht
  | error e' b =>
    simp only [onBus, hb] at ht
    cases ht
    exact h s.bus e b hb

/-- A device is blamed for its answer to a command only, not for what is done then. -/
theorem ask_bind_eq_device_iff (standard : Standard) {f : standard.Answer → Work α}
    (hf : ∀ a, Blameless (f a)) (s : Station) (entry : DeviceError) :
    (∃ t, (ask standard >>= f) s = .error (.device entry) t) ↔ s.Blames standard.command entry := by
  rw [← execute_eq_device_iff standard.command true s entry]
  refine exists_congr fun t => ?_
  rw [Work.bind_eq_error_iff]
  constructor
  · rintro (h | ⟨a, u, -, hfail⟩)
    · exact h
    · exact absurd ⟨entry, rfl⟩ (hf a u _ _ hfail)
  · exact .inl

end Station

namespace Bus

variable {b c : Bus} {e : Error}

theorem not_isDevice_of_productType {text : String}
    (h : understand (Text.productType text) b = .error e c) : ¬ e.IsDevice := by
  obtain ⟨b', -, hu⟩ := understand_annotates (Text.productType text) b
  have hresult : Work.outcome b' (Text.productType text) = .error e c := hu.symm.trans h
  simp only [Text.productType] at hresult
  split at hresult
  · cases hresult
  · cases hresult
    rintro ⟨d, hd⟩
    cases hd

theorem not_isDevice_of_setBitrate {rate : UInt32} (h : setBitrate rate b = .error e c) :
    ¬ e.IsDevice := by
  rintro ⟨d, rfl⟩
  obtain ⟨_, hd⟩ | ⟨_, hd⟩ := cause_of_setBitrate h
  · cases hd
  · cases hd

end Bus

end Shdlc
