import Shdlc.Proofs.Bus.Execution
import Shdlc.Proofs.Command.Answers
import Shdlc.Proofs.Frame.Standing
import Shdlc.Proofs.Reception.Outcome
/-!
Which responses are believed. Main statement: `execute_believes`, a command is answered, or refused
by its device, exactly if an undamaged response from that device about that command says so.
-/
namespace Shdlc

/-- Whether an error is that of a device. -/
def Error.IsDevice (e : Error) : Prop := ∃ d, e = .device d

namespace Reception

variable {timeout : Nat} {reads : List Read}

theorem receive_eq_ok_iff {r : Response} :
    (receive timeout reads).result = .ok r ↔
      r.StandsIn (Read.deliveredBy (begun timeout reads)) := by
  rw [Response.standsIn_iff]
  have he := receive_ends timeout reads
  constructor
  · intro h
    rw [h] at he
    cases he with
    | frame complete decoded => exact ⟨complete, decoded⟩
  · rintro ⟨hc, hd⟩
    exact (he.eq_decode hc).trans hd

theorem not_isDevice_of_receive {e : Error} (h : (receive timeout reads).result = .error e) :
    ¬ e.IsDevice := by
  have he := receive_ends timeout reads
  rw [h] at he
  rintro ⟨d, rfl⟩
  cases he with
  | frame _ decoded =>
    obtain ⟨flaw, hf⟩ := Response.exists_flaw_of_decode decoded
    cases hf

end Reception

namespace Command

variable {α : Type}

theorem conclude_eq_device_iff (c : Command α) (data : Bytes) (flag : Bool) (d : DeviceError) :
    c.conclude (data, flag) = .error (.device d) ↔
      c.checkLength data = .ok () ∧ c.interpret data = .error (.device d) := by
  unfold conclude
  cases hl : c.checkLength data with
  | error e =>
    unfold checkLength at hl
    split at hl
    · cases hl
    · cases hl
      simp
  | ok _ =>
    cases c.interpret data with
    | error e => simp [Except.map]
    | ok a => simp [Except.map]

theorem judge_eq_device_iff (c : Command α) (address : UInt8) (r : Response) (d : DeviceError) :
    c.judge address r = .error (.device d) ↔
      r.address = address ∧ r.command = c.id ∧
        (r.errorCode ≠ 0 ∧ d = .unknown r.errorCode ∨
          r.errorCode = 0 ∧ c.checkLength r.data = .ok () ∧
            c.interpret r.data = .error (.device d)) := by
  unfold judge Response.vet
  by_cases ha : r.address = address
  · by_cases hc : r.command = c.id
    · by_cases he : r.errorCode = 0
      · simp [ha, hc, he, Except.bind, conclude_eq_device_iff]
      · simp [ha, hc, he, Except.bind, eq_comm]
    · simp [ha, hc, Except.bind]
  · simp [ha, Except.bind]

theorem judge_of_foreign (c : Command α) {address : UInt8} {r : Response}
    (h : r.address ≠ address ∨ r.command ≠ c.id) :
    ∃ flaw, c.judge address r = .error (.response flaw none) := by
  unfold judge Response.vet
  by_cases ha : r.address = address
  · have hc : r.command ≠ c.id := h.resolve_left (fun hne => hne ha)
    exact ⟨.foreignCommand r.command c.id, by simp [ha, hc, Except.bind]⟩
  · exact ⟨.foreignAddress r.address address, by simp [ha, Except.bind]⟩

end Command

namespace Bus

variable {α : Type}

/-- The bytes received for a command: those of the reads that begin after its request is sent and
before its response is complete or given up. None are if the request is not sent. -/
def received (b : Bus) (address : UInt8) (c : Command α) : Bytes :=
  match Request.make address c.id c.payload, b.port.refusal? with
  | .ok r, none =>
    Read.deliveredBy (Reception.begun ((c.timeout + b.port.allowance) * 1000)
      (Arrival.reads b.port.hangUp (b.surroundings.farSide (b.requests.push r.encode))))
  | _, _ => []

/-- Whether a response came undamaged, from the device and about the command. -/
def Answers (b : Bus) (address : UInt8) (c : Command α) (r : Response) : Prop :=
  r.StandsIn (b.received address c) ∧ r.address = address ∧ r.command = c.id

/-- The outcome of a command: its judgement of the response that stands in what is received, or a
failure that no device is blamed for if there is none. -/
inductive Outcome (b : Bus) (address : UInt8) (c : Command α) : Except Error (α × Bool) → Prop where
  | judged (r : Response) (standsIn : r.StandsIn (b.received address c)) :
    Outcome b address c (c.judge address r)
  | failed (none : ∀ r : Response, ¬ r.StandsIn (b.received address c)) {e : Error}
    (blameless : ¬ e.IsDevice) : Outcome b address c (.error e)

theorem execute_outcome (b : Bus) (address : UInt8) (c : Command α) (wait : Bool) :
    ∃ b' result, execute address c wait b = Work.outcome b' result ∧ b.Outcome address c result := by
  have hnone : ∀ r : Response, ¬ r.StandsIn [] := by
    intro r hs
    have := (Response.standsIn_iff.1 hs).1
    simp at this
  cases hm : Request.make address c.id c.payload with
  | error e =>
    refine ⟨b, .error e, execute_of_oversize hm wait, .failed ?_ ?_⟩
    · simpa only [received, hm] using hnone
    · unfold Request.make at hm
      split at hm
      · cases hm
      · cases hm
        rintro ⟨d, hd⟩
        cases hd
  | ok request =>
    cases hr : b.port.refusal? with
    | some e =>
      refine ⟨b, .error (.system e), execute_of_refusal hm hr wait, .failed ?_ ?_⟩
      · simpa only [received, hm, hr] using hnone
      · rintro ⟨d, hd⟩
        cases hd
    | none =>
      obtain ⟨b', -, he⟩ := execute_of_make hm hr wait
      refine ⟨b', _, he, ?_⟩
      have hrec : b.received address c = Read.deliveredBy (Reception.begun
          ((c.timeout + b.port.allowance) * 1000) (Arrival.reads b.port.hangUp
            (b.surroundings.farSide (b.requests.push request.encode)))) := by
        simp only [received, hm, hr]
      cases hres : (b.reception request.encode c.timeout).result with
      | ok r =>
        exact .judged r (hrec ▸ Reception.receive_eq_ok_iff.1 hres)
      | error e =>
        refine .failed ?_ (Reception.not_isDevice_of_receive hres)
        intro r hs
        rw [hrec, ← Reception.receive_eq_ok_iff] at hs
        cases hres.symm.trans hs

variable {b : Bus} {address : UInt8} {c : Command α}

theorem Outcome.eq_judge {result : Except Error (α × Bool)} (h : b.Outcome address c result)
    {r : Response} (hs : r.StandsIn (b.received address c)) : result = c.judge address r := by
  cases h with
  | judged r' hs' => rw [hs.unique hs']
  | failed none => exact absurd hs (none r)

/-- An answer, or an error of the device, comes from a response. -/
theorem exists_execute_iff {result : Except Error (α × Bool)}
    (hr : ∀ e, result = .error e → e.IsDevice) (wait : Bool) :
    (∃ b', execute address c wait b = Work.outcome b' result) ↔
      ∃ r : Response, r.StandsIn (b.received address c) ∧ c.judge address r = result := by
  obtain ⟨b', result', he, ho⟩ := execute_outcome b address c wait
  constructor
  · rintro ⟨b'', h⟩
    obtain rfl : result' = result := Work.outcome_inj (he.symm.trans h)
    cases ho with
    | judged r hs => exact ⟨r, hs, rfl⟩
    | failed _ blameless => exact absurd (hr _ rfl) blameless
  · rintro ⟨r, hs, rfl⟩
    rw [← ho.eq_judge hs]
    exact ⟨b', he⟩

/-- A command is answered exactly if a response stands in what is received for it that comes from
the device and is about the command, without an error and with data that the command takes; then
the answer is what the command makes of these data. The device is blamed for an error only if such a
response names one, or if the command finds one in its data, as none of the given commands does. A
response from another device or about another command is flawed, whatever else it says. -/
theorem execute_believes (b : Bus) (address : UInt8) (c : Command α) (wait : Bool) :
    (∀ a flag, (∃ b', execute address c wait b = .ok (a, flag) b') ↔
      ∃ r, b.Answers address c r ∧ r.state &&& 0x7F = 0 ∧
        c.least ≤ r.data.length ∧ r.data.length ≤ c.most ∧ c.interpret r.data = .ok a ∧
        flag = (r.state &&& 0x80 != 0)) ∧
    (∀ d, (∃ b', execute address c wait b = .error (.device d) b') ↔
      ∃ r, b.Answers address c r ∧
        (r.state &&& 0x7F ≠ 0 ∧ d = .unknown (r.state &&& 0x7F) ∨
          r.state &&& 0x7F = 0 ∧ c.least ≤ r.data.length ∧ r.data.length ≤ c.most ∧
            c.interpret r.data = .error (.device d))) ∧
    (c.Given → ∀ d b', execute address c wait b = .error (.device d) b' →
      ∃ r, b.Answers address c r ∧ r.state &&& 0x7F = d.code ∧ d.code ≠ 0) ∧
    ∀ r : Response, r.StandsIn (b.received address c) → r.address ≠ address ∨ r.command ≠ c.id →
      ∃ flaw b', execute address c wait b = .error (.response flaw none) b' := by
  have hdevice : ∀ d, (∃ b', execute address c wait b = .error (.device d) b') ↔
      ∃ r, b.Answers address c r ∧
        (r.state &&& 0x7F ≠ 0 ∧ d = .unknown (r.state &&& 0x7F) ∨
          r.state &&& 0x7F = 0 ∧ c.least ≤ r.data.length ∧ r.data.length ≤ c.most ∧
            c.interpret r.data = .error (.device d)) := by
    intro d
    have hblame : ∀ e, (.error (.device d) : Except Error (α × Bool)) = .error e →
        e.IsDevice := by
      rintro e ⟨⟩
      exact ⟨d, rfl⟩
    refine (exists_execute_iff hblame wait).trans (exists_congr fun r => ?_)
    rw [Command.judge_eq_device_iff, Command.checkLength_eq_ok_iff, Answers]
    simp only [Response.errorCode, and_assoc]
  refine ⟨?_, hdevice, ?_, ?_⟩
  · intro a flag
    have hblame : ∀ e, (.ok (a, flag) : Except Error (α × Bool)) = .error e → e.IsDevice := by
      rintro e ⟨⟩
    refine (exists_execute_iff hblame wait).trans (exists_congr fun r => ?_)
    rw [Command.judge_eq_ok_iff, Command.checkLength_eq_ok_iff, Answers,
      eq_comm (a := flag)]
    simp only [Response.errorCode, Response.reportsErrorState, and_assoc]
  · intro hc d b' h
    obtain ⟨r, ha, ⟨hne, rfl⟩ | ⟨-, -, -, hi⟩⟩ := (hdevice d).1 ⟨b', h⟩
    · exact ⟨r, ha, rfl, hne⟩
    · obtain ⟨flaw, hf⟩ := hc.blamesData r.data _ hi
      cases hf
  · intro r hs hf
    obtain ⟨b', result, he, ho⟩ := execute_outcome b address c wait
    obtain ⟨flaw, hj⟩ := c.judge_of_foreign hf
    rw [ho.eq_judge hs, hj] at he
    exact ⟨flaw, b', he⟩

/-- A port in memory behind which every request is answered with the same bytes. -/
def speaking (bytes : Bytes) : Bus where
  port := .memory { bitrate := none }
  surroundings := { farSide := fun _ => [.wait 3, .bytes bytes] }

/-- A device that is asked for its address answers that it is 7 and in an error state, or it refuses
the command with an error, or another device does. -/
theorem execute_believes_of_speaking :
    (∃ b', execute 7 Standard.getSlaveAddress.command true
      (speaking [0x55, 0x7E, 0x07, 0x90, 0x80, 0x01, 0x07, 0xE0, 0x7E]) =
        .ok ((7 : UInt8), true) b') ∧
    (∃ r b', execute 7 Standard.getSlaveAddress.command true
        (speaking [0x7E, 0x07, 0x90, 0x02, 0x00, 0x66, 0x7E]) = .error (.device (.unknown 2)) b' ∧
      Answers (speaking [0x7E, 0x07, 0x90, 0x02, 0x00, 0x66, 0x7E]) 7
        Standard.getSlaveAddress.command r ∧ r.state &&& 0x7F = 2) ∧
    ∃ flaw b', execute 7 Standard.getSlaveAddress.command true
      (speaking [0x7E, 0x08, 0x90, 0x02, 0x00, 0x65, 0x7E]) = .error (.response flaw none) b' := by
  have hanswer : (⟨7, 0x90, 0x80, [7]⟩ : Response).StandsIn (received
      (speaking [0x55, 0x7E, 0x07, 0x90, 0x80, 0x01, 0x07, 0xE0, 0x7E]) 7
      Standard.getSlaveAddress.command) := by decide +kernel
  have herror : (⟨7, 0x90, 2, []⟩ : Response).StandsIn (received
      (speaking [0x7E, 0x07, 0x90, 0x02, 0x00, 0x66, 0x7E]) 7
      Standard.getSlaveAddress.command) := by decide +kernel
  have hforeign : (⟨8, 0x90, 2, []⟩ : Response).StandsIn (received
      (speaking [0x7E, 0x08, 0x90, 0x02, 0x00, 0x65, 0x7E]) 7
      Standard.getSlaveAddress.command) := by decide +kernel
  refine ⟨?_, ?_, ?_⟩
  · exact ((execute_believes _ 7 _ true).1 (7 : UInt8) true).2
      ⟨_, ⟨hanswer, rfl, rfl⟩, rfl, by decide, by decide, rfl, rfl⟩
  · obtain ⟨-, hdevice, hgiven, -⟩ := execute_believes
      (speaking [0x7E, 0x07, 0x90, 0x02, 0x00, 0x66, 0x7E]) 7 Standard.getSlaveAddress.command true
    obtain ⟨b', he⟩ := (hdevice (.unknown 2)).2
      ⟨_, ⟨herror, rfl, rfl⟩, .inl ⟨by decide, rfl⟩⟩
    obtain ⟨r, hr, hcode, -⟩ := hgiven (.standard .getSlaveAddress) _ b' he
    exact ⟨r, b', he, hr, hcode⟩
  · exact (execute_believes _ 7 _ true).2.2.2 _ hforeign (.inl (by decide))

end Bus

end Shdlc
