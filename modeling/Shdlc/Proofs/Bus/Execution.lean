import Shdlc.Bus
import Shdlc.Proofs.Work
/-!
What it means for a bus to execute a command. Main statement: unless the request is refused before
it is sent, exactly one frame goes out, and the outcome is the command's judgement of what was
received.
-/
namespace Shdlc

/-- What a response to a request about `command` that was sent to `address` carries, and whether the
device is in an error state. -/
def Response.vet (r : Response) (address command : UInt8) : Except Error (Bytes × Bool) :=
  if r.address ≠ address then .error (.response (.foreignAddress r.address address) none)
  else if r.command ≠ command then .error (.response (.foreignCommand r.command command) none)
  else if r.errorCode ≠ 0 then .error (.device (.unknown r.errorCode))
  else .ok (r.data, r.reportsErrorState)

namespace Command

variable {α : Type}

/-- What a command makes of the data of a response, with whether the device is in an error state. -/
def conclude (c : Command α) (answer : Bytes × Bool) : Except Error (α × Bool) :=
  match c.checkLength answer.1 with
  | .ok () => (c.interpret answer.1).map (·, answer.2)
  | .error e => .error e

/-- What a command makes of a response to a request that was sent to `address`. -/
def judge (c : Command α) (address : UInt8) (response : Response) : Except Error (α × Bool) :=
  (response.vet address c.id).bind c.conclude

theorem checkLength_eq_ok_iff (c : Command α) (data : Bytes) :
    c.checkLength data = .ok () ↔ c.least ≤ data.length ∧ data.length ≤ c.most := by
  unfold checkLength
  split <;> simp_all

theorem conclude_eq_ok_iff (c : Command α) (data : Bytes) (inErrorState : Bool) (a : α × Bool) :
    c.conclude (data, inErrorState) = .ok a ↔
      c.checkLength data = .ok () ∧ c.interpret data = .ok a.1 ∧ inErrorState = a.2 := by
  obtain ⟨value, flag⟩ := a
  unfold conclude
  cases c.checkLength data with
  | error e => simp
  | ok _ =>
    cases c.interpret data with
    | error e => simp [Except.map]
    | ok v => simp [Except.map]

/-- A response is understood exactly if it comes from the device about the command, without an
error, and the command takes its data. -/
theorem judge_eq_ok_iff (c : Command α) (address : UInt8) (r : Response) (a : α × Bool) :
    c.judge address r = .ok a ↔
      r.address = address ∧ r.command = c.id ∧ r.errorCode = 0 ∧
        c.checkLength r.data = .ok () ∧ c.interpret r.data = .ok a.1 ∧
        r.reportsErrorState = a.2 := by
  unfold judge Response.vet
  by_cases ha : r.address = address
  · by_cases hc : r.command = c.id
    · by_cases he : r.errorCode = 0
      · simp [ha, hc, he, Except.bind, conclude_eq_ok_iff]
      · simp [ha, hc, he, Except.bind]
    · simp [ha, hc, Except.bind]
  · simp [ha, Except.bind]

end Command

namespace Effect

def isQuiet : Effect → Bool
  | .note _ | .pause _ => true
  | _ => false

def frame? : Effect → Option Bytes
  | .request raw _ _ => some raw
  | _ => none

end Effect

namespace Bus

variable {α : Type}

/-- What has been done through a bus, notes and pauses apart. -/
def deeds (b : Bus) : List Effect := b.trace.toList.filter (!·.isQuiet)

/-- All frames that have been sent through a bus. -/
def sent (b : Bus) : List Bytes := b.trace.toList.filterMap Effect.frame?

/-- What is read off the trace but off notes and pauses is read off the deeds. -/
theorem filterMap_deeds (b : Bus) {f : Effect → Option α} (hf : ∀ e, e.isQuiet → f e = none) :
    b.deeds.filterMap f = b.trace.toList.filterMap f := by
  have he : f = fun e => if (!e.isQuiet) = true then f e else none := by
    funext e
    cases hq : e.isQuiet with
    | true => exact hf e hq
    | false => rfl
  rw [deeds, List.filterMap_filter, ← he]

theorem sent_eq (b : Bus) : b.sent = b.deeds.filterMap Effect.frame? := by
  rw [filterMap_deeds b]
  · rfl
  · intro e he
    cases e <;> first | rfl | cases he

/-- How receiving goes after a frame has been sent. -/
def reception (b : Bus) (raw : Bytes) (timeout : Nat) : Reception :=
  receive ((timeout + b.port.allowance) * 1000)
    (Arrival.reads b.port.hangUp (b.surroundings.farSide (b.requests.push raw)))

/-- The bus after a frame has been sent and received for. -/
def exchanged (b : Bus) (raw : Bytes) (timeout : Nat) : Bus :=
  let reception := b.reception raw timeout
  { b with
    port := (b.port.withWaiting []).withWaiting (reception.unread.flatMap Read.delivered)
    requests := b.requests.push raw
    trace := (b.trace ++ b.port.discard.1.map Effect.note ++
      (b.port.sendingNotes raw).map Effect.note).push
        (.request raw b.port.bitrate? ((timeout + b.port.allowance) * 1000)) ++
          reception.notes.map Effect.note }

theorem orFail_eq (x : Except Error α) (b : Bus) : orFail x b = Work.outcome b x := by
  cases x <;> rfl

theorem discardWaiting_eq (b : Bus) :
    discardWaiting b = .ok ()
      { b with
        port := b.port.withWaiting []
        trace := b.trace ++ b.port.discard.1.map Effect.note } := by
  rw [← Port.discard_snd]
  rfl

/-- Nothing is read in answer to a frame but what arrives after it. -/
theorem send_eq (raw : Bytes) (patience : Nat) (b : Bus) :
    send raw patience b =
      .ok (Arrival.reads b.port.hangUp (b.surroundings.farSide (b.requests.push raw)))
        { b with
          port := b.port.withWaiting []
          requests := b.requests.push raw
          trace := (b.trace ++ b.port.discard.1.map Effect.note ++
            (b.port.sendingNotes raw).map Effect.note).push
              (.request raw b.port.bitrate? patience) } := by
  rw [send, Work.bind_of_ok (discardWaiting_eq b)]
  cases b.port with
  | memory p => rfl
  | tcp p => rfl
  | serial p => rfl

theorem transceive_of_make {b : Bus} {address command : UInt8} {data : Bytes} {timeout : Nat}
    {r : Request} (hm : Request.make address command data = .ok r) (hr : b.port.refusal? = none) :
    transceive address command data timeout b =
      Work.outcome (b.exchanged r.encode timeout) (b.reception r.encode timeout).result := by
  have h1 : orFail (Request.make address command data) b = .ok r b := by rw [hm]; rfl
  have h2 : failIf b.port.refusal? b = .ok () b := by rw [hr]; rfl
  rw [transceive, Work.bind_of_ok h1]
  change (failIf b.port.refusal? >>= _) b = _
  rw [Work.bind_of_ok h2]
  rw [Work.bind_of_ok (send_eq r.encode _ b)]
  exact orFail_eq _ _

/-- A bus that differs from another at most in notes and pauses at the end of its trace. -/
def Annotates (b b' : Bus) : Prop :=
  ∃ more : List Effect, (∀ e ∈ more, e.isQuiet) ∧ b' = { b with trace := b.trace ++ more.toArray }

theorem Annotates.refl (b : Bus) : b.Annotates b := ⟨[], by simp, by simp⟩

theorem Annotates.trans {a b c : Bus} (hab : a.Annotates b) (hbc : b.Annotates c) :
    a.Annotates c := by
  obtain ⟨m, hm, rfl⟩ := hab
  obtain ⟨n, hn, rfl⟩ := hbc
  refine ⟨m ++ n, ?_, by simp⟩
  intro e he
  rcases List.mem_append.1 he with h | h
  · exact hm e h
  · exact hn e h

@[simp] theorem deeds_of_annotates {b b' : Bus} (h : b.Annotates b') : b'.deeds = b.deeds := by
  obtain ⟨more, hm, rfl⟩ := h
  have hn : more.filter (!·.isQuiet) = [] := by
    rw [List.filter_eq_nil_iff]
    intro e he
    simp [hm e he]
  simp [deeds, hn]

theorem deeds_exchanged (b : Bus) (raw : Bytes) (timeout : Nat) :
    (b.exchanged raw timeout).deeds = b.deeds ++
      [.request raw b.port.bitrate? ((timeout + b.port.allowance) * 1000)] := by
  have hq : ∀ notes : List Log.Note, (notes.map Effect.note).filter (!·.isQuiet) = [] := by
    intro notes
    rw [List.filter_eq_nil_iff]
    intro e he
    obtain ⟨n, -, rfl⟩ := List.mem_map.1 he
    simp [Effect.isQuiet]
  simp [deeds, exchanged, hq]
  simp [Effect.isQuiet]

theorem note_annotates (n : Log.Note) (b : Bus) : ∃ b', b.Annotates b' ∧ note n b = .ok () b' := by
  refine ⟨{ b with trace := b.trace.push (.note n) }, ⟨[.note n], ?_, by simp⟩, rfl⟩
  simp [Effect.isQuiet]

theorem record_pause_annotates (n : Nat) (b : Bus) :
    ∃ b', b.Annotates b' ∧ record (.pause n) b = .ok () b' := by
  refine ⟨{ b with trace := b.trace.push (.pause n) }, ⟨[.pause n], ?_, by simp⟩, rfl⟩
  simp [Effect.isQuiet]

theorem understand_annotates (x : Except Error α) (b : Bus) :
    ∃ b', b.Annotates b' ∧ understand x b = Work.outcome b' x := by
  unfold understand
  split
  · next raw =>
    obtain ⟨b', hb, h⟩ := note_annotates (.flawed raw) b
    exact ⟨b', hb, Work.bind_of_ok h⟩
  · exact ⟨b, .refl b, orFail_eq x b⟩

private theorem refuse_annotates (address code : UInt8) (value : Bytes × Bool) (b : Bus) :
    ∃ b', b.Annotates b' ∧
      (if code ≠ 0 then do
        note (.returnedError address code)
        throw (.device (.unknown code))
        pure value
      else pure value : Action (Bytes × Bool)) b =
        Work.outcome b' (if code ≠ 0 then .error (.device (.unknown code)) else .ok value) := by
  by_cases hc : code = 0
  · simp only [hc, ne_eq, not_true_eq_false, if_false]
    exact ⟨b, .refl b, rfl⟩
  · simp only [hc, ne_eq, not_false_eq_true, if_true]
    obtain ⟨b', hb, h⟩ := note_annotates (.returnedError address code) b
    exact ⟨b', hb, Work.bind_of_ok h⟩

theorem transceive_of_refusal {b : Bus} {address command : UInt8} {data : Bytes} {timeout : Nat}
    {r : Request} {e : SystemError} (hm : Request.make address command data = .ok r)
    (hr : b.port.refusal? = some e) :
    transceive address command data timeout b = .error (.system e) b := by
  have h1 : orFail (Request.make address command data) b = .ok r b := by rw [hm]; rfl
  have h2 : failIf b.port.refusal? b = .error (.system e) b := by rw [hr]; rfl
  rw [transceive, Work.bind_of_ok h1]
  exact @Work.bind_of_error _ _ _ _ (failIf b.port.refusal?) _ _ _ _ h2

/-- A request that is not refused is sent once, and the response to it is vetted. -/
theorem exchange_of_make {b : Bus} {address command : UInt8} {data : Bytes} {timeout : Nat}
    {r : Request} (hm : Request.make address command data = .ok r) (hr : b.port.refusal? = none) :
    ∃ b', (b.exchanged r.encode timeout).Annotates b' ∧
      exchange address command data timeout b =
        Work.outcome b' ((b.reception r.encode timeout).result.bind (·.vet address command)) := by
  have ht : transceive address command data timeout b = _ := transceive_of_make hm hr
  generalize b.exchanged r.encode timeout = sent at ht ⊢
  cases hres : (b.reception r.encode timeout).result with
  | error e =>
    rw [hres] at ht
    exact ⟨sent, .refl _, Work.bind_of_error ht⟩
  | ok response =>
    rw [hres] at ht
    rw [exchange, Work.bind_of_ok ht]
    simp only [Except.bind, Response.vet]
    by_cases ha : response.address = address
    · by_cases hc : response.command = command
      · simp only [ha, hc, ne_eq, not_true_eq_false, if_false]
        by_cases hs : response.reportsErrorState
        · obtain ⟨told, htold, hn⟩ := note_annotates (.inErrorState address) sent
          obtain ⟨b', hb, h⟩ := refuse_annotates address response.errorCode
            (response.data, response.reportsErrorState) told
          simp only [hs, if_true]
          rw [Work.bind_of_ok hn]
          exact ⟨b', htold.trans hb, hs ▸ h⟩
        · obtain ⟨b', hb, h⟩ := refuse_annotates address response.errorCode
            (response.data, response.reportsErrorState) sent
          rw [if_neg hs]
          exact ⟨b', hb, h⟩
      · simp only [ha, hc, ne_eq, not_true_eq_false, not_false_eq_true, if_false, if_true]
        exact ⟨sent, .refl _, rfl⟩
    · simp only [ha, ne_eq, not_false_eq_true, if_true]
      exact ⟨sent, .refl _, rfl⟩

private theorem conclude_annotates (c : Command α) (data : Bytes) (flag : Bool) (b : Bus) :
    ∃ b', b.Annotates b' ∧
      (do understand (c.checkLength data)
          return (← understand (c.interpret data), flag) : Action (α × Bool)) b =
        Work.outcome b' (c.conclude (data, flag)) := by
  obtain ⟨checked, hc, hce⟩ := understand_annotates (c.checkLength data) b
  obtain ⟨b', hb, he⟩ := understand_annotates (c.interpret data) checked
  simp only [Command.conclude]
  cases hl : c.checkLength data with
  | error e =>
    rw [hl] at hce
    exact ⟨checked, hc, Work.bind_of_error hce⟩
  | ok _ =>
    rw [hl] at hce
    refine ⟨b', hc.trans hb, ?_⟩
    rw [Work.bind_of_ok hce]
    cases hi : c.interpret data with
    | error e =>
      rw [hi] at he
      exact Work.bind_of_error he
    | ok a =>
      rw [hi] at he
      exact Work.bind_of_ok he

/-- A command whose request is not refused sends one frame, and its outcome is what it makes of the
response. -/
theorem execute_of_make {b : Bus} {address : UInt8} {command : Command α} {r : Request}
    (hm : Request.make address command.id command.payload = .ok r) (hr : b.port.refusal? = none)
    (wait : Bool) :
    ∃ b', (b.exchanged r.encode command.timeout).Annotates b' ∧
      execute address command wait b =
        Work.outcome b'
          ((b.reception r.encode command.timeout).result.bind (command.judge address)) := by
  obtain ⟨sent, hsent, he⟩ :=
    @exchange_of_make b address command.id command.payload command.timeout r hm hr
  have hj : (b.reception r.encode command.timeout).result.bind (command.judge address) =
      ((b.reception r.encode command.timeout).result.bind (·.vet address command.id)).bind
        command.conclude := by
    cases (b.reception r.encode command.timeout).result <;> rfl
  rw [hj]
  cases hv : (b.reception r.encode command.timeout).result.bind (·.vet address command.id) with
  | error e =>
    rw [hv] at he
    exact ⟨sent, hsent, Work.bind_of_error he⟩
  | ok answer =>
    rw [hv] at he
    rw [execute, Work.bind_of_ok he]
    obtain ⟨data, flag⟩ := answer
    cases hw : wait && decide (command.settling ≠ 0) with
    | true =>
      obtain ⟨settled, hs, hp⟩ := record_pause_annotates command.settling sent
      obtain ⟨b', hb, h⟩ := conclude_annotates command data flag settled
      refine ⟨b', hsent.trans (hs.trans hb), ?_⟩
      simp only [if_true]
      rw [Work.bind_of_ok hp]
      exact h
    | false =>
      obtain ⟨b', hb, h⟩ := conclude_annotates command data flag sent
      refine ⟨b', hsent.trans hb, ?_⟩
      simp only [Bool.false_eq_true, if_false]
      exact h

theorem execute_of_transceive_error {b b' : Bus} {address : UInt8} {command : Command α} {e : Error}
    (h : transceive address command.id command.payload command.timeout b = .error e b')
    (wait : Bool) : execute address command wait b = .error e b' := by
  have hx : exchange address command.id command.payload command.timeout b = .error e b' :=
    Work.bind_of_error h
  exact Work.bind_of_error hx

/-- A port that cannot send refuses a command, and nothing has happened. -/
theorem execute_of_refusal {b : Bus} {address : UInt8} {command : Command α} {r : Request}
    {e : SystemError} (hm : Request.make address command.id command.payload = .ok r)
    (hr : b.port.refusal? = some e) (wait : Bool) :
    execute address command wait b = .error (.system e) b :=
  execute_of_transceive_error (transceive_of_refusal hm hr) wait

/-- A command with more data than a frame holds is refused, and nothing has happened. -/
theorem execute_of_oversize {b : Bus} {address : UInt8} {command : Command α} {e : Error}
    (hm : Request.make address command.id command.payload = .error e) (wait : Bool) :
    execute address command wait b = .error e b := by
  have hf : orFail (Request.make address command.id command.payload) b = .error e b := by
    rw [hm]
    rfl
  exact execute_of_transceive_error (Work.bind_of_error hf) wait

end Bus

end Shdlc
