import Shdlc.Proofs.Bus.Line
/-!
Which response answers a command, told by what comes back and not by what is done with it. Main
statement: `execute_eq`, a command succeeds exactly if it is answered, and at most one request is
sent for it, to the address of the device.
-/
namespace Shdlc

namespace Bus

variable {α : Type} {b c d : Bus}

/-- The response with which a device answers a command: the one that comes back, if the request is
sent and the command takes this response. -/
def answer? (b : Bus) (address : UInt8) (c : Command α) : Option Response := do
  let request ← (Request.make address c.id c.payload).toOption
  if b.port.refusal?.isSome then none
  let response ← (b.reception request.encode c.timeout).result.toOption
  let _ ← (c.judge address response).toOption
  return response

/-- Between two moments only requests with some property have been sent. -/
def SendsOnly (P : Request → Prop) (b c : Bus) : Prop :=
  ∃ sent : List Request, c.requests = b.requests ++ (sent.map Request.encode).toArray ∧
    ∀ r ∈ sent, P r

section SendsOnly

variable {P : Request → Prop}

theorem sendsOnly_of_requests_eq (h : c.requests = b.requests) : SendsOnly P b c :=
  ⟨[], by simpa using h, fun _ hr => nomatch hr⟩

theorem SendsOnly.refl (b : Bus) : SendsOnly P b b := sendsOnly_of_requests_eq rfl

theorem SendsOnly.of_requests_eq (h : SendsOnly P b c) (hd : d.requests = c.requests) :
    SendsOnly P b d := by
  obtain ⟨sent, hs, hp⟩ := h
  exact ⟨sent, hd.trans hs, hp⟩

end SendsOnly

theorem requests_of_annotates (h : b.Annotates c) : c.requests = b.requests := by
  obtain ⟨more, -, rfl⟩ := h
  rfl

/-- Buses at the same line with the same past get the same answers. -/
theorem answer?_eq (hl : c.port.SameLine b.port) (hs : c.surroundings = b.surroundings)
    (hr : c.requests = b.requests) (address : UInt8) (command : Command α) :
    c.answer? address command = b.answer? address command := by
  simp only [answer?, hl.refusal, reception_eq hl hs hr]

/-- A command is executed exactly if it is answered; then the answer tells whether the device is in
an error state. -/
theorem execute_eq (b : Bus) (address : UInt8) (command : Command α) (wait : Bool) :
    ∃ result c, execute address command wait b = Work.outcome c result ∧
      result.toOption.map Prod.snd =
        (b.answer? address command).map Response.reportsErrorState ∧
      SendsOnly (·.address = address) b c := by
  cases hm : Request.make address command.id command.payload with
  | error e =>
    refine ⟨.error e, b, execute_of_oversize hm wait, ?_, .refl b⟩
    simp [answer?, hm, Except.toOption]
  | ok request =>
    have haddress : request.address = address := by
      unfold Request.make at hm
      split at hm
      · cases hm
        rfl
      · cases hm
    cases hr : b.port.refusal? with
    | some e =>
      refine ⟨.error (.system e), b, execute_of_refusal hm hr wait, ?_, .refl b⟩
      simp [answer?, hm, hr, Except.toOption]
    | none =>
      obtain ⟨c, hc, he⟩ := execute_of_make hm hr wait
      refine ⟨_, c, he, ?_, [request], ?_, by simpa using haddress⟩
      · cases hres : (b.reception request.encode command.timeout).result with
        | error e => simp [answer?, hm, hr, hres, Except.toOption, Except.bind]
        | ok r =>
          cases hj : command.judge address r with
          | error e => simp [answer?, hm, hr, hres, hj, Except.toOption, Except.bind]
          | ok x =>
            have hx := ((command.judge_eq_ok_iff address r x).1 hj).2.2.2.2.2
            simp [answer?, hm, hr, hres, hj, Except.toOption, Except.bind, hx]
      · rw [requests_of_annotates hc]
        simp [exchanged]

end Bus

end Shdlc
