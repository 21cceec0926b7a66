import Shdlc.Device
import Shdlc.Proofs.Bus.Execution
import Shdlc.Proofs.Command.Answers
import Shdlc.Proofs.Reception.Outcome
/-!
With which errors an exchange ends. Main statement: `endsExchange_of_execute`, when a command that
fits into a frame fails, the cause lies with the line, with the device or with what came back.
-/
namespace Shdlc

namespace Error

/-- Whether an exchange can end with an error: no response came in time, or what came is flawed, or
the device refused the command, or the system an operation. -/
def EndsExchange : Error → Prop
  | .timeout | .response _ _ | .device _ | .system _ => True
  | _ => False

variable {e : Error}

theorem EndsExchange.not_isOversize (h : e.EndsExchange) : ¬ e.IsOversize := by
  rintro ⟨length, rfl⟩
  exact h

theorem EndsExchange.ne_bitrateUnsupported (h : e.EndsExchange) (port : String) :
    e ≠ .bitrateUnsupported port := by
  rintro rfl
  exact h

theorem EndsExchange.describe (h : e.EndsExchange) (d : Device) : (d.describe e).EndsExchange := by
  cases e with
  | device e => trivial
  | _ => exact h

end Error

theorem Reception.endsExchange_of_receive {timeout : Nat} {reads : List Read} {e : Error}
    (h : (receive timeout reads).result = .error e) : e.EndsExchange := by
  have he := receive_ends timeout reads
  rw [h] at he
  cases he with
  | frame _ decoded =>
    obtain ⟨flaw, rfl⟩ := Response.exists_flaw_of_decode decoded
    trivial
  | timeout | failure | overlong => trivial

theorem Response.endsExchange_of_vet {r : Response} {address command : UInt8} {e : Error}
    (h : r.vet address command = .error e) : e.EndsExchange := by
  unfold vet at h
  split at h
  · cases h
    trivial
  · split at h
    · cases h
      trivial
    · split at h
      · cases h
        trivial
      · cases h

namespace Command

variable {α : Type} {c : Command α} {e : Error}

theorem endsExchange_of_checkLength {data : Bytes} (h : c.checkLength data = .error e) :
    e.EndsExchange := by
  unfold checkLength at h
  split at h
  · cases h
  · cases h
    trivial

theorem endsExchange_of_judge (hi : Answer.BlamesData c.interpret) {address : UInt8} {r : Response}
    (h : c.judge address r = .error e) : e.EndsExchange := by
  unfold judge at h
  cases hv : r.vet address c.id with
  | error e' =>
    rw [hv] at h
    cases h
    exact Response.endsExchange_of_vet hv
  | ok answer =>
    rw [hv] at h
    simp only [Except.bind, conclude] at h
    cases hl : c.checkLength answer.1 with
    | error e' =>
      rw [hl] at h
      cases h
      exact endsExchange_of_checkLength hl
    | ok _ =>
      rw [hl] at h
      cases hd : c.interpret answer.1 with
      | ok a =>
        rw [hd] at h
        cases h
      | error e' =>
        rw [hd] at h
        cases h
        obtain ⟨flaw, rfl⟩ := hi answer.1 _ hd
        trivial

end Command

namespace Bus

variable {α : Type} {b b' : Bus} {address : UInt8} {command : Command α} {request : Request}
  {wait : Bool} {e : Error}

theorem endsExchange_of_transceive {code : UInt8} {data : Bytes} {timeout : Nat}
    (hm : Request.make address code data = .ok request)
    (h : transceive address code data timeout b = .error e b') : e.EndsExchange := by
  cases hr : b.port.refusal? with
  | some cause =>
    rw [transceive_of_refusal hm hr] at h
    cases h
    trivial
  | none =>
    rw [transceive_of_make hm hr] at h
    exact Reception.endsExchange_of_receive (@Work.outcome_inj _ _ _ _ (.error e) _ _ h)

theorem endsExchange_of_exchange {code : UInt8} {data : Bytes} {timeout : Nat}
    (hm : Request.make address code data = .ok request)
    (h : exchange address code data timeout b = .error e b') : e.EndsExchange := by
  cases hr : b.port.refusal? with
  | some cause =>
    have ht : transceive address code data timeout b = _ := transceive_of_refusal hm hr
    rw [exchange, Work.bind_of_error ht] at h
    cases h
    trivial
  | none =>
    obtain ⟨sent, -, he⟩ := @exchange_of_make b address code data timeout request hm hr
    rw [he] at h
    have hresult := @Work.outcome_inj _ _ _ _ (.error e) _ _ h
    cases hres : (b.reception request.encode timeout).result with
    | error e' =>
      rw [hres] at hresult
      cases hresult
      exact Reception.endsExchange_of_receive hres
    | ok r =>
      rw [hres] at hresult
      exact Response.endsExchange_of_vet hresult

theorem endsExchange_of_execute (hi : Answer.BlamesData command.interpret)
    (hm : Request.make address command.id command.payload = .ok request)
    (h : execute address command wait b = .error e b') : e.EndsExchange := by
  cases hr : b.port.refusal? with
  | some e' =>
    rw [execute_of_refusal hm hr wait] at h
    cases h
    trivial
  | none =>
    obtain ⟨c, -, he⟩ := execute_of_make hm hr wait
    rw [he] at h
    cases hres : (b.reception request.encode command.timeout).result with
    | error e' =>
      rw [hres] at h
      cases h
      exact Reception.endsExchange_of_receive hres
    | ok r =>
      rw [hres] at h
      cases hj : command.judge address r with
      | ok a =>
        simp only [Except.bind, hj] at h
        cases h
      | error e' =>
        simp only [Except.bind, hj] at h
        cases h
        exact Command.endsExchange_of_judge hi hj

end Bus

end Shdlc
