import Shdlc.CommandLine.Program
import Shdlc.Proofs.Update.Memory
/-!
What a run records as a matter of routine: no event of an update, nothing printed, and not the note
with which an update ends. Main statements: ports, devices and images record nothing else, and
an update nothing else but its events.
-/
namespace Shdlc

/-- Whether a note is that with which an update ends. -/
def Log.Note.isSummary : Log.Note → Bool
  | .updateDone _ _ => true
  | _ => false

namespace Effect

def isRoutine : Effect → Bool
  | .event _ | .output _ => false
  | .note n => !n.isSummary
  | _ => true

/-- What a trace holds beside routine. -/
def reports (trace : Array Effect) : List Effect := trace.toList.filter fun e => !e.isRoutine

end Effect

namespace Work

variable {ε σ α ν : Type} {view : σ → ν}

/-- How work has ended, without the state that it has left. -/
def verdict : EStateM.Result ε σ α → Except ε α
  | .ok a _ => .ok a
  | .error e _ => .error e

/-- The failure with which work has ended, if it has failed. -/
def failure? : EStateM.Result ε σ α → Option ε
  | .ok _ _ => none
  | .error e _ => some e

theorem attempt_eq (x : EStateM ε σ α) (s : σ) :
    attempt x s = .ok (verdict (x s)) (final (x s)) := by
  cases h : x s <;> simp only [attempt, h, verdict, final]

theorem keeps_ite {c : Prop} [Decidable c] {x y : EStateM ε σ α} (hx : Keeps view x)
    (hy : Keeps view y) : Keeps view (if c then x else y) := by
  split
  · exact hx
  · exact hy

end Work

section Notes

/-- Whether none of some notes is that with which an update ends. -/
def Log.Routine (ns : List Log.Note) : Prop := ∀ n ∈ ns, n.isSummary = false

theorem Reception.routine_notes_ofComplete (buffer : Frame.Buffer) (unread : List Read) :
    Log.Routine (ofComplete buffer unread).notes := by
  unfold ofComplete
  cases buffer.interpret with
  | ok response => simp [Log.Routine, Log.Note.isSummary]
  | error e => simp [Log.Routine, Log.Note.isSummary]

theorem Reception.routine_notes_collect (left : Nat) (buffer : Frame.Buffer) (reads : List Read) :
    Log.Routine (collect left buffer reads).notes := by
  induction reads generalizing left buffer with
  | nil => exact List.forall_mem_nil _
  | cons read rest ih =>
    rw [collect]
    by_cases hl : left = 0
    · rw [if_pos hl]
      exact List.forall_mem_nil _
    · rw [if_neg hl]
      obtain ⟨delay, outcome⟩ := read
      cases outcome with
      | failure e =>
        by_cases he : e.isPassing
        · simpa only [he, if_true, after] using ih _ _
        · simp [he, after, Log.Routine]
      | bytes bytes =>
        cases bytes with
        | nil => exact ih _ _
        | cons b bs =>
          cases hc : (buffer.append (b :: bs)).check with
          | error e => simp [hc, after, Log.Routine, Log.Note.isSummary]
          | ok complete =>
            cases complete with
            | false => simpa only [hc, after] using ih _ _
            | true => simpa only [hc, after] using routine_notes_ofComplete _ _

theorem TcpPort.routine_discard (p : TcpPort) : Log.Routine p.discard.1 := by
  fun_induction discard p with
  | case1 => simp [Log.Routine]
  | case2 p piece next h _ notes cleared hd ih =>
    rw [hd] at ih
    simpa [Log.Routine, Log.Note.isSummary] using ih

namespace Port

variable (p : Port)

theorem routine_discard : Log.Routine p.discard.1 := by
  cases p with
  | memory p => simp [discard, Log.Routine]
  | tcp p => exact p.routine_discard
  | serial p => simp [discard, Log.Routine]

theorem routine_sendingNotes (raw : Bytes) : Log.Routine (p.sendingNotes raw) := by
  cases p <;> simp [sendingNotes, Log.Routine, Log.Note.isSummary]

theorem routine_openingNotes : Log.Routine p.openingNotes := by
  cases p <;> simp [openingNotes, Log.Routine, Log.Note.isSummary]

theorem routine_closingNotes : Log.Routine p.closingNotes := by
  cases p <;> simp [closingNotes, Log.Routine, Log.Note.isSummary]

end Port

end Notes

namespace Bus

/-- What a bus meets, and the effects with a property, of those that it has recorded. -/
def shown (p : Effect → Bool) (b : Bus) : Surroundings × List Effect :=
  (b.surroundings, b.trace.toList.filter p)

section Shown

variable {α ν : Type} {view : Bus → ν} {p : Effect → Bool}

theorem keeps_failIf (e : Option SystemError) : Work.Keeps view (failIf e) := by
  cases e with
  | none => exact Work.keeps_pure ()
  | some e => exact Work.keeps_throw (Error.system e)

theorem keeps_orFail (x : Except Error α) : Work.Keeps view (orFail x) := by
  cases x with
  | ok a => exact Work.keeps_pure a
  | error e => exact Work.keeps_throw e

theorem keeps_shown_record {e : Effect} (h : p e = false) : Work.Keeps (shown p) (record e) := by
  apply Work.keeps_modify
  intro b
  simp [shown, h]

variable (hp : ∀ e : Effect, e.isRoutine = true → p e = false)

include hp

theorem keeps_shown_note {n : Log.Note} (h : n.isSummary = false) :
    Work.Keeps (shown p) (note n) := by
  apply keeps_shown_record
  apply hp
  simp [Effect.isRoutine, h]

theorem keeps_shown_notes {ns : List Log.Note} (h : Log.Routine ns) :
    Work.Keeps (shown p) (notes ns) := by
  apply Work.keeps_modify
  intro b
  have hnone : (ns.map Effect.note).filter p = [] := by
    simpa using fun n hn => hp (.note n) (by simp [Effect.isRoutine, h n hn])
  simp [shown, hnone]

theorem keeps_shown_connect : Work.Keeps (shown p) connect :=
  Work.keeps_get.bind fun _ => keeps_shown_note hp rfl

theorem keeps_shown_openPort : Work.Keeps (shown p) openPort := by
  have hopen : Work.Keeps (shown p)
      (modify fun b => { b with port := b.port.withOpen true } : Action Unit) :=
    Work.keeps_modify fun _ => rfl
  apply Work.keeps_get.bind
  intro b
  apply Work.keeps_ite
  · apply (keeps_shown_notes hp b.port.routine_openingNotes).bind
    intro _
    apply Work.keeps_ite
    · apply (keeps_shown_record (hp _ rfl)).bind
      intro _
      apply Work.keeps_get.bind
      intro _
      exact (keeps_failIf _).bind fun _ => hopen
    · exact hopen
  · exact Work.keeps_pure _

omit hp in
/-- A port opens unless the system refuses to open its line. Nothing is sent, and no bitrate is
set. -/
theorem openPort_cases (b : Bus) :
    (∃ f e t, b.surroundings.opening b.port = some f ∧ openPort b = .error e t) ∨
      ∃ t, openPort b = .ok () t ∧
        t.port = (if b.port.isOpen then b.port else b.port.withOpen true) ∧
        t.requests = b.requests ∧ t.attempts = b.attempts := by
  have hg : (get : Action Bus) b = .ok b b := rfl
  rw [openPort, Work.bind_of_ok hg]
  dsimp only
  cases ho : b.port.isOpen with
  | true => exact .inr ⟨b, rfl, rfl, rfl, rfl⟩
  | false =>
    cases hl : b.port.hasLine with
    | false => exact .inr ⟨_, rfl, rfl, rfl, rfl⟩
    | true =>
      cases hf : b.surroundings.opening b.port with
      | some f =>
        have hfails : ∀ c : Bus, failIf (some f) c = .error (.system f) c := fun _ => rfl
        rw [← hf] at hfails
        exact .inl ⟨f, _, _, rfl, (Work.bind_of_ok rfl).trans <| (Work.bind_of_ok rfl).trans <|
          (Work.bind_of_ok rfl).trans <| Work.bind_of_error (hfails _)⟩
      | none =>
        have hpasses : ∀ c : Bus, failIf none c = .ok () c := fun _ => rfl
        rw [← hf] at hpasses
        exact .inr ⟨_, (Work.bind_of_ok rfl).trans <| (Work.bind_of_ok rfl).trans <|
          (Work.bind_of_ok rfl).trans <| Work.bind_of_ok (hpasses _), rfl, rfl, rfl⟩

theorem keeps_shown_closePort : Work.Keeps (shown p) closePort := by
  apply Work.keeps_get.bind
  intro b
  apply Work.keeps_ite
  · refine Work.Keeps.bind (Work.keeps_modify fun _ => rfl) fun _ => ?_
    exact keeps_shown_notes hp b.port.routine_closingNotes
  · exact Work.keeps_pure _

omit hp in
theorem keeps_bitrate : Work.Keeps view bitrate := by
  apply Work.keeps_get.bind
  intro b
  dsimp only
  split
  · exact Work.keeps_pure _
  · exact Work.keeps_throw _

theorem keeps_shown_setBitrate (rate : UInt32) : Work.Keeps (shown p) (setBitrate rate) := by
  have hset : Work.Keeps (shown p) (do
      modify fun b => { b with port := b.port.withBitrate rate }
      record (.bitrate rate)) :=
    (Work.keeps_modify fun _ => rfl).bind fun _ => keeps_shown_record (hp _ rfl)
  apply keeps_bitrate.bind
  intro _
  refine Work.Keeps.bind (fun _ => rfl) fun b => ?_
  apply Work.keeps_ite
  · exact (keeps_failIf _).bind fun _ => hset
  · exact hset

theorem keeps_shown_discardWaiting : Work.Keeps (shown p) discardWaiting := by
  apply Work.keeps_get.bind
  intro b
  apply (keeps_shown_notes hp b.port.routine_discard).bind
  intro _
  exact Work.keeps_modify fun _ => rfl

theorem keeps_shown_send (raw : Bytes) (patience : Nat) :
    Work.Keeps (shown p) (send raw patience) := by
  apply (keeps_shown_discardWaiting hp).bind
  intro _
  apply Work.keeps_get.bind
  intro b
  apply (keeps_shown_notes hp (b.port.routine_sendingNotes raw)).bind
  intro _
  refine Work.Keeps.bind (Work.keeps_modify fun _ => rfl) fun _ => ?_
  apply (keeps_shown_record (hp _ rfl)).bind
  intro _
  exact Work.keeps_get.bind fun _ => Work.keeps_pure _

theorem keeps_shown_transceive (address command : UInt8) (data : Bytes) (timeout : Nat) :
    Work.Keeps (shown p) (transceive address command data timeout) := by
  apply (keeps_orFail _).bind
  intro request
  apply Work.keeps_get.bind
  intro b
  apply (keeps_failIf _).bind
  intro _
  apply (keeps_shown_send hp _ _).bind
  intro reads
  refine Work.Keeps.bind (Work.keeps_modify fun _ => rfl) fun _ => ?_
  apply (keeps_shown_notes hp (Reception.routine_notes_collect _ _ _)).bind
  intro _
  exact keeps_orFail _

theorem keeps_shown_exchange (address command : UInt8) (data : Bytes) (timeout : Nat) :
    Work.Keeps (shown p) (exchange address command data timeout) := by
  apply (keeps_shown_transceive hp _ _ _ _).bind
  intro response
  have hend : Work.Keeps (shown p) (do
      if response.errorCode ≠ 0 then
        note (.returnedError address response.errorCode)
        throw (.device (.unknown response.errorCode))
      return (response.data, response.reportsErrorState) : Action (Bytes × Bool)) := by
    apply Work.keeps_ite
    · apply (keeps_shown_note hp rfl).bind
      intro _
      exact (Work.keeps_throw _).bind fun _ => Work.keeps_pure _
    · exact Work.keeps_pure _
  have hrest : Work.Keeps (shown p) (do
      if response.reportsErrorState then note (.inErrorState address)
      if response.errorCode ≠ 0 then
        note (.returnedError address response.errorCode)
        throw (.device (.unknown response.errorCode))
      return (response.data, response.reportsErrorState) : Action (Bytes × Bool)) := by
    apply Work.keeps_ite
    · exact (keeps_shown_note hp rfl).bind fun _ => hend
    · exact hend
  apply Work.keeps_ite
  · exact fun _ => rfl
  apply Work.keeps_ite
  · exact fun _ => rfl
  exact hrest

theorem keeps_shown_understand (x : Except Error α) : Work.Keeps (shown p) (understand x) := by
  unfold understand
  split
  · exact (keeps_shown_note hp rfl).bind fun _ => keeps_orFail _
  · exact keeps_orFail _

theorem keeps_shown_execute (address : UInt8) (command : Command α) (wait : Bool) :
    Work.Keeps (shown p) (execute address command wait) := by
  apply (keeps_shown_exchange hp _ _ _ _).bind
  intro answer
  have hlast : Work.Keeps (shown p) (do
      understand (command.checkLength answer.1)
      return (← understand (command.interpret answer.1), answer.2) : Action (α × Bool)) := by
    apply (keeps_shown_understand hp _).bind
    intro _
    apply (keeps_shown_understand hp _).bind
    intro _
    exact Work.keeps_pure _
  apply Work.keeps_ite
  · exact (keeps_shown_record (hp _ rfl)).bind fun _ => hlast
  · exact hlast

end Shown

end Bus

section Stations

variable {α ν : Type} {view : Bus → ν} {p : Effect → Bool}

theorem Station.keeps_onBus {action : Action α} (h : Work.Keeps view action) :
    Work.Keeps (fun s : Station => view s.bus) (onBus action) := by
  intro s
  have hs := h s.bus
  cases hr : action s.bus with
  | ok a bus =>
    rw [hr] at hs
    simpa only [onBus, hr, Work.final] using hs
  | error e bus =>
    rw [hr] at hs
    simpa only [onBus, hr, Work.final] using hs

theorem Update.keeps_atStation {work : Station.Work α}
    (h : Work.Keeps (fun s : Station => view s.bus) work) :
    Work.Keeps (fun b : Bench => view b.bus) (atStation work) := by
  intro b
  have hs := h b.toStation
  cases hr : work b.toStation with
  | ok a s =>
    rw [hr] at hs
    simpa only [atStation, hr, Work.final] using hs
  | error e s =>
    rw [hr] at hs
    simpa only [atStation, hr, Work.final] using hs

theorem Update.keeps_onBus {action : Action α} (h : Work.Keeps view action) :
    Work.Keeps (fun b : Bench => view b.bus) (onBus action) :=
  keeps_atStation (Station.keeps_onBus h)

variable (hp : ∀ e : Effect, e.isRoutine = true → p e = false)

include hp

theorem Station.keeps_shown_execute (command : Command α) (wait : Bool) :
    Work.Keeps (fun s : Station => s.bus.shown p) (execute command wait) := by
  intro s
  have hs := Bus.keeps_shown_execute hp s.device.address command wait s.bus
  cases hr : Bus.execute s.device.address command wait s.bus with
  | ok answer bus =>
    rw [hr] at hs
    simpa only [execute, hr, Work.final] using hs
  | error e bus =>
    rw [hr] at hs
    simpa only [execute, hr, Work.final] using hs

theorem Station.keeps_shown_productTypeNumber :
    Work.Keeps (fun s : Station => s.bus.shown p) productTypeNumber :=
  (keeps_shown_execute hp _ _).bind fun _ => keeps_onBus (Bus.keeps_shown_understand hp _)

end Stations

namespace Update

section Shown

variable {p : Effect → Bool} (hp : ∀ e : Effect, e.isRoutine = true → p e = false)
  (he : ∀ event, p (.event event) = false)

/-- Whether work records no effect with a property. -/
abbrev KeepsShown (p : Effect → Bool) {α : Type} (work : Work α) : Prop :=
  Work.Keeps (fun b : Bench => b.bus.shown p) work

include hp

theorem keepsShown_send (standard : Standard) : KeepsShown p (send standard) :=
  keeps_onBus ((Bus.keeps_shown_execute hp _ _ _).bind fun _ => Work.keeps_pure _)

include he

theorem keepsShown_status (listening : Bool) (text : String) :
    KeepsShown p (status listening text) := by
  apply keeps_onBus
  apply (Bus.keeps_shown_note hp rfl).bind
  intro _
  exact Work.keeps_ite (Bus.keeps_shown_record (he _)) (Work.keeps_pure _)

omit hp in
theorem keepsShown_progress (listening : Bool) (percent : Double) :
    KeepsShown p (progress listening percent) :=
  keeps_onBus (Work.keeps_ite (Bus.keeps_shown_record (he _)) (Work.keeps_pure _))

theorem keepsShown_checkProductType (listening : Bool) :
    KeepsShown p (checkProductType listening) := by
  apply (keepsShown_status hp he _ _).bind
  intro _
  apply (keeps_atStation (Station.keeps_shown_productTypeNumber hp)).bind
  intro type
  apply Work.keeps_get.bind
  intro b
  apply Work.keeps_ite
  · exact fun _ => rfl
  · exact keepsShown_progress he _ _

theorem keepsShown_enterBootloader (listening : Bool) :
    KeepsShown p (enterBootloader listening) := by
  apply (keepsShown_status hp he _ _).bind
  intro _
  apply Work.keeps_get.bind
  intro b
  apply (keeps_onBus ((Bus.keeps_shown_execute hp _ _ _).bind fun _ => Work.keeps_pure _)).bind
  intro _
  exact keepsShown_progress he _ _

theorem keepsShown_writeBlocks (listening : Bool) (i : Image) :
    KeepsShown p (writeBlocks listening i) := by
  fun_induction writeBlocks listening i with
  | case1 => exact Work.keeps_pure _
  | case2 i _ _ next ih =>
    refine Work.Keeps.bind (Work.keeps_modify fun _ => rfl) fun _ => ?_
    apply (keepsShown_send hp _).bind
    intro _
    apply (keepsShown_status hp he _ _).bind
    intro _
    apply (keepsShown_progress he _ _).bind
    intro _
    exact ih

theorem keepsShown_flash (listening : Bool) : KeepsShown p (flash listening) := by
  apply (keepsShown_status hp he _ _).bind
  intro _
  apply (keepsShown_send hp _).bind
  intro _
  apply (keepsShown_progress he _ _).bind
  intro _
  apply (keepsShown_status hp he _ _).bind
  intro _
  refine Work.Keeps.bind (Work.keeps_modify fun _ => rfl) fun _ => ?_
  apply Work.keeps_get.bind
  intro b
  apply (keepsShown_writeBlocks hp he _ _).bind
  intro _
  apply (keepsShown_status hp he _ _).bind
  intro _
  apply (keepsShown_send hp _).bind
  intro _
  exact keepsShown_progress he _ _

/-- An update records nothing but its events and what is routine. -/
theorem keepsShown_run (emergency listening : Bool) : KeepsShown p (run emergency listening) := by
  have hfinish : ∀ before, KeepsShown p (do
      onBus (Bus.setBitrate bootloaderBitrate)
      finish listening before) := by
    intro before
    apply (keeps_onBus (Bus.keeps_shown_setBitrate hp _)).bind
    intro _
    apply (Work.keeps_attempt (keepsShown_flash hp he _)).bind
    intro flashed
    apply (Work.keeps_attempt (keeps_onBus (Bus.keeps_shown_setBitrate hp _))).bind
    intro restored
    apply (keeps_onBus (Bus.keeps_orFail _)).bind
    intro _
    apply (keeps_onBus (Bus.keeps_orFail _)).bind
    intro _
    exact keepsShown_status hp he _ _
  apply (keeps_onBus Bus.keeps_bitrate).bind
  intro before
  apply (keeps_onBus (Bus.keeps_shown_setBitrate hp _)).bind
  intro _
  apply Work.keeps_ite
  · apply (keepsShown_checkProductType hp he _).bind
    intro _
    apply (keepsShown_enterBootloader hp he _).bind
    intro _
    exact hfinish before
  · exact hfinish before

end Shown

end Update

namespace Image

/-- The notes with which updates end, among those of loading. -/
def summaries (notes : Array Log.Note) : List Log.Note := notes.toList.filter Log.Note.isSummary

theorem keeps_note {n : Log.Note} (h : n.isSummary = false) :
    Work.Keeps summaries (Loading.note n) := by
  apply Work.keeps_modify
  intro notes
  simp [summaries, h]

theorem keeps_orFail {α : Type} (x : Except Error α) : Work.Keeps summaries (Loading.orFail x) := by
  cases x with
  | ok a => exact Work.keeps_pure a
  | error e => exact Work.keeps_throw e

theorem keeps_ofText (layout : Layout) (text : String) :
    Work.Keeps summaries (ofText layout text) := by
  apply Work.keeps_ite
  · exact fun _ => rfl
  apply (keeps_orFail _).bind
  intro memory
  dsimp only
  split
  case h_2 => exact Work.keeps_throw _
  split
  case h_2 => exact Work.keeps_throw _
  apply (keeps_note rfl).bind
  intro _
  apply (keeps_orFail _).bind
  intro signature
  apply Work.keeps_ite
  · exact fun _ => rfl
  apply (keeps_note rfl).bind
  intro _
  apply (keeps_note rfl).bind
  intro _
  apply (keeps_note rfl).bind
  intro _
  apply (keeps_note rfl).bind
  intro _
  apply (keeps_orFail _).bind
  intro application
  apply (keeps_note rfl).bind
  intro _
  apply (keeps_note rfl).bind
  intro _
  exact Work.keeps_pure _

theorem keeps_load (layout : Layout) (source : Source) :
    Work.Keeps summaries (load layout source) := by
  cases source with
  | text text => exact keeps_ofText layout text
  | bytes bytes =>
    apply (keeps_orFail _).bind
    intro text
    exact keeps_ofText layout text
  | file path content =>
    apply (keeps_orFail _).bind
    intro bytes
    apply (keeps_orFail _).bind
    intro text
    apply (keeps_note rfl).bind
    intro _
    exact keeps_ofText layout text

end Image

namespace CommandLine.Run

/-- Whether nothing but routine lies between two states of a station. -/
structure Routine (s t : Station) : Prop where
  device : t.device = s.device
  surroundings : t.bus.surroundings = s.bus.surroundings
  reports : Effect.reports t.bus.trace = Effect.reports s.bus.trace

section Session

variable {α : Type} {r s t : Station}

/-- Whether a station is as another is when its port has been opened. -/
structure Opened (s t : Station) : Prop extends Routine s t where
  port : t.bus.port = if s.bus.port.isOpen then s.bus.port else s.bus.port.withOpen true
  requests : t.bus.requests = s.bus.requests
  attempts : t.bus.attempts = s.bus.attempts

theorem Routine.trans (h : Routine r s) (h' : Routine s t) : Routine r t where
  device := h'.device.trans h.device
  surroundings := h'.surroundings.trans h.surroundings
  reports := h'.reports.trans h.reports

theorem routine_onBus {action : Action α}
    (h : Work.Keeps (Bus.shown fun e => !e.isRoutine) action) (s : Station) :
    Routine s (Work.final (Station.onBus action s)) where
  device := Station.keeps_device_onBus action s
  surroundings := congrArg Prod.fst (Station.keeps_onBus h s)
  reports := congrArg Prod.snd (Station.keeps_onBus h s)

theorem not_isRoutine_of_isRoutine (e : Effect) (h : e.isRoutine = true) :
    (!e.isRoutine) = false := by
  rw [h, Bool.not_true]

theorem routine_openPort (s : Station) :
    Routine s (Work.final (Station.onBus Bus.openPort s)) :=
  routine_onBus (Bus.keeps_shown_openPort not_isRoutine_of_isRoutine) s

/-- What is noted of a port once it is open. -/
def greet : Action Unit := do
  Bus.note (.usingPort (← get).port.description)
  Bus.connect

theorem routine_greet (s : Station) : Routine s (Work.final (Station.onBus greet s)) := by
  apply routine_onBus
  apply Work.keeps_get.bind
  intro b
  apply (Bus.keeps_shown_note not_isRoutine_of_isRoutine rfl).bind
  intro _
  exact Bus.keeps_shown_connect not_isRoutine_of_isRoutine

theorem routine_release (s : Station) : Routine s (Work.final (Station.onBus release s)) := by
  apply routine_onBus
  apply Work.keeps_get.bind
  intro b
  split
  · exact Bus.keeps_shown_closePort not_isRoutine_of_isRoutine
  · exact Work.keeps_pure _

/-- Letting a port go does not fail. -/
theorem exists_release_eq (s : Station) : ∃ t, Station.onBus release s = .ok () t := by
  have hrelease : ∃ b, release s.bus = .ok () b := by
    obtain ⟨-, port, surroundings, requests, attempts, trace⟩ := s
    cases port with
    | memory p => exact ⟨_, rfl⟩
    | tcp p => exact ⟨_, rfl⟩
    | serial p =>
      obtain ⟨name, bitrate, extraTime, isOpen, waiting⟩ := p
      cases isOpen <;> exact ⟨_, rfl⟩
  obtain ⟨b, hb⟩ := hrelease
  exact ⟨{ s with bus := b }, by simp only [Station.onBus, hb]⟩

theorem onBus_orFail_eq (x : Except Error α) (s : Station) :
    Station.onBus (Bus.orFail x) s = Work.outcome s x := by
  cases x <;> rfl

/-- A session fails because the port does not open, or ends as the work does once it is open. -/
theorem session_cases (work : Station.Work α) (s : Station) :
    (∃ f e t, s.bus.surroundings.opening s.bus.port = some f ∧ session work s = .error e t ∧
        Routine s t) ∨
      ∃ t u, Opened s t ∧ Routine (Work.final (work t)) u ∧
        session work s = Work.outcome u (Work.verdict (work t)) := by
  have hopen := routine_openPort s
  obtain ⟨f, e, b, hf, hb⟩ | ⟨b, hb, hport, hrequests, hattempts⟩ := Bus.openPort_cases s.bus
  · have ho : Station.onBus Bus.openPort s = .error e { s with bus := b } := by
      simp only [Station.onBus, hb]
    rw [ho] at hopen
    exact .inl ⟨f, e, _, hf, Work.bind_of_error ho, hopen⟩
  · have ho : Station.onBus Bus.openPort s = .ok () { s with bus := b } := by
      simp only [Station.onBus, hb]
    rw [ho] at hopen
    have hgreet := routine_greet { s with bus := b }
    obtain ⟨t, hg, hport', hrequests', hattempts'⟩ : ∃ t : Station,
        Station.onBus greet { s with bus := b } = .ok () t ∧ t.bus.port = b.port ∧
          t.bus.requests = b.requests ∧ t.bus.attempts = b.attempts := ⟨_, rfl, rfl, rfl, rfl⟩
    rw [hg] at hgreet
    obtain ⟨u, hu⟩ := exists_release_eq (Work.final (work t))
    have hrelease := routine_release (Work.final (work t))
    rw [hu] at hrelease
    refine .inr ⟨t, u, ⟨hopen.trans hgreet, hport'.trans hport, hrequests'.trans hrequests,
      hattempts'.trans hattempts⟩, hrelease, ?_⟩
    rw [session, Work.bind_of_ok ho]
    refine (Work.bind_of_ok hg).trans ?_
    rw [Work.bind_of_ok (Work.attempt_eq work t), Work.bind_of_ok hu, onBus_orFail_eq]

end Session

end CommandLine.Run

end Shdlc
