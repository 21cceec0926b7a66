import Shdlc.Station
import Shdlc.Proofs.Bus.Answering
/-!
What happens at a station to what a host remembers of a device. An occurrence is told by what is
done and by the response to it; of several that change the same, the latest counts. Main statement:
`execute_becomes`, a command that is executed changes what is remembered if it is answered.
-/
namespace Shdlc

namespace Device

/-- Something that changes what a host remembers of a device. -/
inductive Occurrence where
  /-- A command that was executed on the device has been answered. -/
  | answered (response : Response)
  /-- The device has taken an address, under which it is reached from now on. -/
  | moved (address : UInt8)
  /-- The device has been reset. -/
  | reset
  | registered (errors : List DeviceError)
deriving DecidableEq

namespace Occurrence

/-- The address that it makes the host remember, if it does so. -/
def address? : Occurrence → Option UInt8
  | .moved address => some address
  | _ => none

/-- Whether the device is in an error state, as far as this is to be remembered. -/
def inErrorState? : Occurrence → Option Bool
  | .answered response => some (response.state &&& 0x80 != 0)
  | .reset => some false
  | _ => none

end Occurrence

/-- What is remembered after an occurrence. -/
def after (d : Device) : Occurrence → Device
  | .answered response => { d with inErrorState := response.reportsErrorState }
  | .moved address => { d with address }
  | .reset => { d with inErrorState := false }
  | .registered errors => d.register errors

theorem address_foldl_after (d : Device) (l : List Occurrence) :
    (l.foldl after d).address = (l.filterMap Occurrence.address?).getLast?.getD d.address := by
  refine @Work.view_foldl_eq_getLast _ _ _ after Device.address Occurrence.address? ?_ d l
  intro d o
  cases o <;> rfl

theorem inErrorState_foldl_after (d : Device) (l : List Occurrence) :
    (l.foldl after d).inErrorState =
      (l.filterMap Occurrence.inErrorState?).getLast?.getD d.inErrorState := by
  refine @Work.view_foldl_eq_getLast _ _ _ after Device.inErrorState Occurrence.inErrorState? ?_ d l
  intro d o
  cases o <;> rfl

end Device

namespace Station

variable {s t u : Station} {l m : List Device.Occurrence}

section Execute

variable {α : Type} {c : Command α} {wait : Bool} {bus : Bus}

theorem execute_of_ok {answer : α} {inErrorState : Bool}
    (h : Bus.execute s.device.address c wait s.bus = .ok (answer, inErrorState) bus) :
    execute c wait s = .ok answer { device := { s.device with inErrorState }, bus } := by
  simp only [execute, h]

theorem execute_of_error {e : Error}
    (h : Bus.execute s.device.address c wait s.bus = .error e bus) :
    execute c wait s = .error (s.device.describe e) { s with bus } := by
  simp only [execute, h]

end Execute

/-- What a station has become: its device is remembered as occurrences demand, and the requests that
have been sent since went to the address of the device. -/
structure Becomes (s : Station) (l : List Device.Occurrence) (t : Station) : Prop where
  device : t.device = l.foldl Device.after s.device
  sends : s.bus.SendsOnly (·.address = s.device.address) t.bus

theorem Becomes.refl (s : Station) : Becomes s [] s := ⟨rfl, .refl s.bus⟩

theorem Becomes.append (h : Becomes s l t) (hd : u.device = m.foldl Device.after t.device)
    (hr : u.bus.requests = t.bus.requests) : Becomes s (l ++ m) u := by
  refine ⟨?_, h.sends.of_requests_eq hr⟩
  rw [hd, h.device, List.foldl_append]

/-- What an answer that may have come makes of a device, with what follows it. -/
def occurrencesOf (answer : Option Response) (sequel : List Device.Occurrence) :
    List Device.Occurrence :=
  match answer with
  | some response => .answered response :: sequel
  | none => []

theorem execute_becomes {α : Type} (c : Command α) (wait : Bool) (s : Station) :
    (∃ r a t, s.bus.answer? s.device.address c = some r ∧ execute c wait s = .ok a t ∧
      Becomes s [.answered r] t) ∨
    ∃ e t, s.bus.answer? s.device.address c = none ∧ execute c wait s = .error e t ∧
      Becomes s [] t := by
  obtain ⟨result, bus, he, hf, hs⟩ := s.bus.execute_eq s.device.address c wait
  cases result with
  | ok a =>
    left
    obtain ⟨answer, flag⟩ := a
    cases hr : s.bus.answer? s.device.address c with
    | none => simp [hr, Except.toOption] at hf
    | some r =>
      have hflag : flag = r.reportsErrorState := by simpa [hr, Except.toOption] using hf
      refine ⟨r, answer, _, rfl, execute_of_ok he, ?_, hs⟩
      rw [hflag]
      rfl
  | error e =>
    right
    cases hr : s.bus.answer? s.device.address c with
    | some r => simp [hr, Except.toOption] at hf
    | none => exact ⟨_, _, rfl, execute_of_error he, rfl, hs⟩

/-- Work that goes on once a command is answered, without sending more. -/
theorem ask_bind_becomes {β : Type} (standard : Standard) {f : standard.Answer → Work β}
    {sequel : List Device.Occurrence}
    (hd : ∀ a t, (Work.final (f a t)).device = sequel.foldl Device.after t.device)
    (hr : ∀ a, Work.Keeps (·.bus.requests) (f a)) (s : Station) :
    Becomes s (occurrencesOf (s.bus.answer? s.device.address standard.command) sequel)
      (Work.final ((ask standard >>= f) s)) := by
  obtain ⟨r, a, t, ha, he, ht⟩ | ⟨e, t, ha, he, ht⟩ := execute_becomes standard.command true s
  · rw [ha, ask, Work.bind_of_ok he]
    exact ht.append (hd a t) (hr a t)
  · rw [ha, ask, Work.bind_of_error he]
    exact ht

theorem keeps_device_onBus {α : Type} (action : Action α) :
    Work.Keeps Station.device (onBus action) := by
  intro s
  cases h : action s.bus with
  | ok a bus => simp only [onBus, h, Work.final]
  | error e bus => simp only [onBus, h, Work.final]

theorem keeps_requests_onBus {α : Type} {action : Action α}
    (h : Work.Keeps Bus.requests action) : Work.Keeps (·.bus.requests) (onBus action) := by
  intro s
  have hs := h s.bus
  cases hr : action s.bus with
  | ok a bus =>
    rw [hr] at hs
    simpa only [onBus, hr, Work.final] using hs
  | error e bus =>
    rw [hr] at hs
    simpa only [onBus, hr, Work.final] using hs

end Station

namespace Bus

theorem keeps_requests_understand {α : Type} (result : Except Error α) :
    Work.Keeps Bus.requests (understand result) := by
  intro b
  obtain ⟨c, hc, hu⟩ := understand_annotates result b
  rw [hu]
  cases result with
  | ok a => exact requests_of_annotates hc
  | error e => exact requests_of_annotates hc

theorem keeps_requests_setBitrate (rate : UInt32) :
    Work.Keeps Bus.requests (setBitrate rate) := by
  intro b
  by_cases ht : b.Takes 0 rate
  · rw [setBitrate_of_takes ht]
    rfl
  · obtain ⟨e, attempts, he, -⟩ := setBitrate_of_not_takes ht
    rw [he]
    rfl

end Bus

/-- Whether the text is the number of a type does not change what is remembered. -/
theorem Station.productTypeNumber_becomes (s : Station) :
    s.Becomes (occurrencesOf (s.bus.answer? s.device.address Standard.getProductType.command) [])
      (Work.final (productTypeNumber s)) := by
  apply @ask_bind_becomes UInt32 .getProductType
    fun (text : String) => onBus (Bus.understand (Text.productType text))
  · exact fun (text : String) t => keeps_device_onBus (Bus.understand (Text.productType text)) t
  · exact fun (text : String) =>
      keeps_requests_onBus (Bus.keeps_requests_understand (Text.productType text))

end Shdlc
