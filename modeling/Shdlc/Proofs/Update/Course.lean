import Shdlc.Proofs.Update.Script
/-!
The course of an update. Work that makes moves makes them in order, each after the one before it has
succeeded, and ends with the first that fails. Main statement: this is so of work that follows other
work.
-/
namespace Shdlc

namespace Standard

/-- Whether a command is one for the bootloader. -/
def isForBootloader : Standard → Bool
  | .enterBootloader | .updateStart | .updateData _ | .updateStop _ => true
  | _ => false

theorem judge_bootloader_iff (payload : Bytes) (timeout settling : Nat) (address : UInt8)
    (r : Response) :
    (∃ a, (bootloader payload timeout settling).judge address r = .ok a) ↔
      r.address = address ∧ r.command = 0xF3 ∧ r.errorCode = 0 ∧ r.data = [] := by
  simp only [Command.judge_eq_ok_iff, Command.checkLength_eq_ok_iff]
  constructor
  · rintro ⟨a, ha, hc, he, ⟨-, hl⟩, -, -⟩
    exact ⟨ha, hc, he, List.length_eq_zero_iff.1 (Nat.le_zero.1 hl)⟩
  · rintro ⟨ha, hc, he, hd⟩
    have hl : r.data.length ≤ 0 := Nat.le_of_eq (congrArg List.length hd)
    exact ⟨((), r.reportsErrorState), ha, hc, he, ⟨Nat.zero_le _, hl⟩, rfl, rfl⟩

theorem judge_information_iff (kind address : UInt8) (r : Response)
    (hl : r.data.length ≤ Frame.maxData) (a : String × Bool) :
    (information kind).judge address r = .ok a ↔
      r.address = address ∧ r.command = 0xD0 ∧ r.errorCode = 0 ∧ Answer.text r.data = .ok a.1 ∧
        r.reportsErrorState = a.2 := by
  rw [Command.judge_eq_ok_iff, Command.checkLength_eq_ok_iff]
  constructor
  · rintro ⟨ha, hc, he, -, ht, hs⟩
    exact ⟨ha, hc, he, ht, hs⟩
  · rintro ⟨ha, hc, he, ht, hs⟩
    exact ⟨ha, hc, he, ⟨Nat.zero_le _, hl⟩, ht, hs⟩

end Standard

namespace Update

section Trails

variable {b s : Bench} {done : List Move}

theorem Follows.refl (b : Bench) : Follows b [] b where
  address := rfl
  errors := rfl
  productType := rfl
  application := rfl
  surroundings := rfl
  line := .refl _
  bitrate := rfl
  requests := by simp [asks]
  deeds := by simp [effects]
  attempts := rfl

/-- Notes and pauses do not show, and neither does what a device reports of its state. -/
theorem Trails.annotate (h : Trails b done s) {bus : Bus} (ha : s.bus.Annotates bus)
    (inErrorState : Bool) :
    Trails b done { s with bus, device := { s.device with inErrorState } } := by
  have hd := Bus.deeds_of_annotates ha
  obtain ⟨more, -, rfl⟩ := ha
  exact { h with deeds := hd.trans h.deeds }

theorem Follows.annotate (h : Follows b done s) {bus : Bus} (ha : s.bus.Annotates bus)
    (inErrorState : Bool) :
    Follows b done { s with bus, device := { s.device with inErrorState } } := by
  have ht := h.toTrails.annotate ha inErrorState
  obtain ⟨more, -, rfl⟩ := ha
  exact { ht with attempts := h.attempts }

theorem Follows.tell (h : Follows b done s) (event : UpdateEvent) :
    Follows b (done ++ [.tell event])
      { s with bus := { s.bus with trace := s.bus.trace.push (.event event) } } := by
  refine { h with bitrate := ?_, requests := ?_, deeds := ?_, attempts := ?_ }
  · rw [rateAfter_append]
    exact h.bitrate
  · simpa [asks] using h.requests
  · rw [effects_append, ← List.append_assoc, ← h.deeds]
    simp [Bus.deeds, Effect.isQuiet, effects]
  · simpa [tunings] using h.attempts

theorem Trails.tune (h : Trails b done s) (rate : UInt32) (attempts : Nat) :
    Trails b (done ++ [.tune rate])
      { s with bus := { s.bus with
        attempts
        port := s.bus.port.withBitrate rate
        trace := s.bus.trace.push (.bitrate rate) } } := by
  refine { h with line := ?_, bitrate := ?_, requests := ?_, deeds := ?_ }
  · exact (Port.sameLine_withBitrate _ rate).trans h.line
  · rw [rateAfter_append, ← h.bitrate]
    exact Port.bitrate?_withBitrate _ rate
  · simpa [asks] using h.requests
  · rw [effects_append, ← List.append_assoc, ← h.deeds]
    simp [Bus.deeds, Effect.isQuiet, effects]

theorem Follows.tune (h : Follows b done s) (rate : UInt32) :
    Follows b (done ++ [.tune rate])
      { s with bus := { s.bus with
        attempts := s.bus.attempts + 1
        port := s.bus.port.withBitrate rate
        trace := s.bus.trace.push (.bitrate rate) } } := by
  refine { h.toTrails.tune rate (s.bus.attempts + 1) with attempts := ?_ }
  simp [tunings, h.attempts, Nat.add_assoc]

theorem Trails.attempt (h : Trails b done s) (attempts : Nat) :
    Trails b done { s with bus := { s.bus with attempts } } := { h with }

theorem Follows.ask (h : Follows b done s) (a : Ask) :
    Follows b (done ++ [.ask a])
      { s with bus := s.bus.exchanged a.raw a.standard.command.timeout } := by
  refine { h with line := ?_, bitrate := ?_, requests := ?_, deeds := ?_, attempts := ?_ }
  · exact ((Port.sameLine_withWaiting _ _).trans (Port.sameLine_withWaiting _ _)).trans h.line
  · rw [rateAfter_append, ← h.bitrate]
    simp [Bus.exchanged, rateAfter]
  · simp [Bus.exchanged, h.requests, asks]
  · rw [effects_append, ← List.append_assoc, ← h.deeds, ← h.bitrate, Bus.deeds_exchanged,
      h.line.allowance]
    rfl
  · simpa [tunings, Bus.exchanged] using h.attempts

theorem Follows.takes_iff (h : Follows b done s) (rate : UInt32) :
    s.bus.Takes 0 rate ↔ b.bus.Takes (tunings done).length rate := by
  rw [Bus.Takes, Bus.Takes, h.bitrate, h.line.isOpen, h.surroundings, h.attempts, Nat.add_zero, Ne,
    rateAfter_eq_none_iff]

/-- What comes back depends on the moves alone. -/
theorem Trails.answer_eq (h : Trails b done s) (a : Ask) :
    (s.bus.reception a.raw a.standard.command.timeout).result = answer b (asks done) a := by
  have hr : s.bus.reception a.raw a.standard.command.timeout =
      (busAfter b (asks done)).reception a.raw a.standard.command.timeout :=
    @Bus.reception_eq (busAfter b (asks done)) s.bus h.line h.surroundings h.requests _ _
  rw [answer, hr]

end Trails

/-- How work ends that makes moves after others: well, when all of them have succeeded, or else with
the first that fails. -/
inductive Ends (b : Bench) (done moves : List Move) : EStateM.Result Error Bench Unit → Prop
  | well {s : Bench} (succeeds : Throughout (Succeeds b) done moves)
      (follows : Follows b (done ++ moves) s) : Ends b done moves (.ok () s)
  | badly {e : Error} {s : Bench} {made rest : List Move} {move : Move}
      (split : moves = made ++ move :: rest) (succeeds : Throughout (Succeeds b) done made)
      (fails : ¬ Succeeds b (done ++ made) move) (stopped : Stopped b (done ++ made) s move)
      (explains : Explains b (done ++ made) move e) : Ends b done moves (.error e s)

/-- The first move fails. -/
theorem Ends.first {b s : Bench} {done rest : List Move} {move : Move} {e : Error}
    (fails : ¬ Succeeds b done move) (stopped : Stopped b done s move)
    (explains : Explains b done move e) : Ends b done (move :: rest) (.error e s) := by
  have hs : move :: rest = [] ++ move :: rest := rfl
  rw [← List.append_nil done] at fails stopped explains
  exact .badly hs trivial fails stopped explains

/-- Whether work makes moves and nothing else. -/
def Makes (b : Bench) (work : Work Unit) (moves : List Move) : Prop :=
  ∀ done s, Follows b done s → Ends b done moves (work s)

section Makes

variable {b : Bench} {work next : Work Unit} {moves more : List Move}

theorem Makes.bind (hw : Makes b work moves) (hn : Makes b next more) :
    Makes b (work >>= fun _ => next) (moves ++ more) := by
  intro done s h
  have hends := hw done s h
  cases hr : work s with
  | error e s' =>
    rw [hr] at hends
    rw [Work.bind_of_error hr]
    cases hends with
    | badly split succeeds fails stopped explains =>
      have hs := congrArg (· ++ more) split
      simp only [List.append_assoc, List.cons_append] at hs
      exact .badly hs succeeds fails stopped explains
  | ok _ s' =>
    rw [hr] at hends
    rw [Work.bind_of_ok hr]
    cases hends with
    | well succeeds follows =>
      have hmore := hn (done ++ moves) s' follows
      generalize next s' = result at hmore ⊢
      cases hmore with
      | well succeeds' follows' =>
        rw [List.append_assoc] at follows'
        exact .well ((throughout_append _ _ _).2 ⟨succeeds, succeeds'⟩) follows'
      | badly split succeeds' fails stopped explains =>
        rw [List.append_assoc done] at fails stopped explains
        exact .badly (by rw [split, List.append_assoc])
          ((throughout_append _ _ _).2 ⟨succeeds, succeeds'⟩) fails stopped explains

theorem onBus_of_ok {α : Type} {action : Action α} {s : Bench} {a : α} {bus : Bus}
    (h : action s.bus = .ok a bus) : onBus action s = .ok a { s with bus } := by
  obtain ⟨⟨device, bus⟩, image⟩ := s
  simp only [onBus, atStation, Station.onBus, h]

theorem onBus_of_error {α : Type} {action : Action α} {s : Bench} {e : Error} {bus : Bus}
    (h : action s.bus = .error e bus) : onBus action s = .error e { s with bus } := by
  obtain ⟨⟨device, bus⟩, image⟩ := s
  simp only [onBus, atStation, Station.onBus, h]

/-- Telling a listener, if there is one, succeeds. -/
theorem makes_of_told {action : Action Unit} {listening : Bool} {event : UpdateEvent}
    (h : ∀ bus, ∃ bus', bus.Annotates bus' ∧
      action bus = .ok () (if listening then
        { bus' with trace := bus'.trace.push (.event event) } else bus')) :
    Makes b (onBus action) (told listening event) := by
  intro done s hs
  obtain ⟨bus, ha, he⟩ := h s.bus
  rw [onBus_of_ok he]
  have hn := hs.annotate ha s.device.inErrorState
  cases listening with
  | false => exact .well trivial (by simpa [told] using hn)
  | true => exact .well ⟨trivial, trivial⟩ (hn.tell event)

theorem makes_status (listening : Bool) (text : String) :
    Makes b (status listening text) (told listening (.status text)) := by
  apply makes_of_told
  intro bus
  obtain ⟨bus', ha, hn⟩ := Bus.note_annotates (.updateStatus text) bus
  refine ⟨bus', ha, ?_⟩
  rw [Work.bind_of_ok hn]
  cases listening <;> rfl

theorem makes_progress (listening : Bool) (percent : Double) :
    Makes b (progress listening percent) (told listening (.ofPercent percent)) := by
  apply makes_of_told
  intro bus
  refine ⟨bus, .refl bus, ?_⟩
  cases listening <;> rfl

theorem makes_tune (rate : UInt32) : Makes b (onBus (Bus.setBitrate rate)) [.tune rate] := by
  intro done s h
  by_cases ht : s.bus.Takes 0 rate
  · rw [onBus_of_ok (Bus.setBitrate_of_takes ht)]
    exact .well ⟨(h.takes_iff rate).1 ht, trivial⟩ (h.tune rate)
  · obtain ⟨e, attempts, he, hf⟩ := Bus.setBitrate_of_not_takes ht
    have hs : ¬ Succeeds b done (.tune rate) := fun hb => ht ((h.takes_iff rate).2 hb)
    rw [onBus_of_error he]
    exact .first hs (h.toTrails.attempt attempts) (explains_tune hf)

end Makes

end Update

end Shdlc
