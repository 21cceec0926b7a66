import Shdlc.Proofs.Image.Loading
import Shdlc.Proofs.CommandLine.Routine
import Shdlc.Proofs.CommandLine.Tasks
import Shdlc.Proofs.Json.Line
import Shdlc.Proofs.Json.Reading
import Shdlc.Proofs.Update.Snapshot
/-!
What an update prints in JSON. Main statement: `update_streams`, it prints a line for each event,
however it ends and in whatever order its tasks take turns, and the last line tells of success.
-/
namespace Shdlc

/-- An update that has told everything has come to 100 percent. -/
theorem isFinished_ofEvents_announcements (emergency : Bool) (size : Nat) :
    (UpdateSnapshot.ofEvents (Update.announcements emergency size)).isFinished = true := by
  have hlast : clampPercent (clampPercent (Update.percent 100)) = Double.hundred := by
    decide +kernel
  have hhundred : (!Double.hundred.isNaN && !Double.hundred.lt Double.hundred) = true := by decide
  rw [UpdateSnapshot.ofEvents, Update.announcements, List.foldl_append]
  simp only [Update.announcedLast, List.foldl_cons, List.foldl_nil, UpdateSnapshot.apply,
    UpdateEvent.ofPercent, UpdateSnapshot.isFinished, hlast]
  exact hhundred

namespace UpdateEvent

theorem ofText?_render_status (text : String) :
    Json.ofText? (status text).toJson.render = some (status text).toJson :=
  Json.ofText?_of_spells (Json.spells_render ⟨trivial, trivial, trivial⟩)

theorem render_progress_ne (percent : Double) (text : String) :
    (progress percent).toJson.render ≠ (status text).toJson.render := by
  have hp : (progress percent).toJson.render.toList[9]? = some 'p' := by
    simp [toJson, Json.render, Json.renderMembers, Json.quote, Json.escapeChar]
  have hs : (status text).toJson.render.toList[9]? = some 's' := by
    simp [toJson, Json.render, Json.renderMembers, Json.quote, Json.escapeChar]
  intro h
  rw [h, hs] at hp
  exact absurd hp (by decide)

/-- Only a status is written as one, and none as another. -/
theorem render_eq_status_iff (event : UpdateEvent) (text : String) :
    event.toJson.render = (status text).toJson.render ↔ event = .status text := by
  constructor
  · intro h
    cases event with
    | progress percent => exact absurd h (render_progress_ne percent text)
    | status other =>
      have hread := ofText?_render_status other
      rw [h, ofText?_render_status] at hread
      simpa [toJson, eq_comm] using hread
  · rintro rfl
    rfl

end UpdateEvent

/-- The note with which an update ends. -/
def Effect.summary? : Effect → Option Log.Note
  | .note n => if n.isSummary then some n else none
  | _ => none

theorem Effect.output?_of_isRoutine (e : Effect) (h : e.isRoutine = true) : e.output? = none := by
  cases e <;> first | rfl | cases h

theorem Effect.event?_of_isRoutine (e : Effect) (h : e.isRoutine = true) : e.event? = none := by
  cases e <;> first | rfl | cases h

theorem Effect.summary?_of_isRoutine (e : Effect) (h : e.isRoutine = true) :
    e.summary? = none := by
  cases e with
  | note n => simpa [summary?, isRoutine] using h
  | _ => rfl

/-- Everything that is read off effects but off routine is read off the others. -/
theorem filterMap_reports {β : Type} (l : List Effect) {f : Effect → Option β}
    (hf : ∀ e, e.isRoutine = true → f e = none) :
    (l.filter fun e => !e.isRoutine).filterMap f = l.filterMap f := by
  have he : f = fun e => if (!e.isRoutine) = true then f e else none := by
    funext e
    cases hq : e.isRoutine with
    | true => exact hf e hq
    | false => rfl
  rw [List.filterMap_filter, ← he]

theorem events_reports (l : List Effect) :
    (l.filter fun e => !e.isRoutine).filterMap Effect.event? = l.filterMap Effect.event? :=
  filterMap_reports l Effect.event?_of_isRoutine

theorem Image.decodeText_toUTF8 (text : String) :
    decodeText text.toUTF8.data.toList = .ok text := by
  have hread : String.fromUTF8? ⟨text.toUTF8.data.toList.toArray⟩ = some text := by
    rw [Array.toArray_toList, String.fromUTF8?, String.toUTF8_eq_toByteArray,
      dif_pos text.isValidUTF8]
    rfl
  rw [decodeText, hread]

namespace CommandLine

def Completion.events (c : Completion) : List UpdateEvent := c.trace.filterMap Effect.event?

namespace Run

section Loading

variable {α : Type}

theorem keeps_reports_orFail {ε : Type} (wrap : ε → Failure) (x : Except ε α) :
    Work.Keeps Effect.reports (orFail wrap x) := by
  cases x with
  | ok a => exact Work.keeps_pure a
  | error e => exact Work.keeps_throw (wrap e)

theorem keeps_reports_note {n : Log.Note} (h : n.isSummary = false) :
    Work.Keeps Effect.reports (note n) := by
  apply Work.keeps_modify
  intro trace
  simp [Effect.reports, Effect.isRoutine, h]

theorem keeps_reports_notes {ns : Array Log.Note} (h : Log.Routine ns.toList) :
    Work.Keeps Effect.reports (ns.forM note) := by
  obtain ⟨ns⟩ := ns
  rw [List.forM_toArray' _ _ rfl]
  induction ns with
  | nil => exact Work.keeps_pure _
  | cons n rest ih =>
    exact (keeps_reports_note (h n List.mem_cons_self)).bind fun _ =>
      ih fun m hm => h m (List.mem_cons_of_mem n hm)

theorem routine_notes_load (layout : Image.Layout) (source : Image.Source) :
    Log.Routine (Work.final (Image.load layout source #[])).toList := by
  have h := Image.keeps_load layout source #[]
  intro n hn
  simpa using List.filter_eq_nil_iff.1 h n hn

/-- The image that has been loaded, or the failure to load one, behind its notes. -/
def conveyed : EStateM.Result Error (Array Log.Note) Image → Run Image
  | .ok image notes => do
    notes.forM note
    return image
  | .error e notes => do
    notes.forM note
    throw (.operation e)

theorem loadImage_eq (host : Host) (i : ImageArguments) :
    loadImage host i = (do
      let plain : Image.Layout := { bootloader := i.bootloader, application := i.application }
      let signature ← i.signature.elim (pure plain.signature)
        fun text => orFail .hexBytes (Text.hexBytes text)
      note (.imageLoading i.path)
      let trace ← get
      conveyed (Image.load
        { plain with signature, versionOffset := i.versionOffset.getD plain.versionOffset }
        (.file i.path (host.file (notes trace) i.path)) #[])) := by
  cases i with
  | mk path bootloader application signature offset =>
    cases signature <;> rfl

theorem keeps_reports_conveyed (layout : Image.Layout) (source : Image.Source) :
    Work.Keeps Effect.reports (conveyed (Image.load layout source #[])) := by
  have hroutine := routine_notes_load layout source
  cases h : Image.load layout source #[] with
  | ok image notes =>
    rw [h] at hroutine
    exact (keeps_reports_notes hroutine).bind fun _ => Work.keeps_pure _
  | error e notes =>
    rw [h] at hroutine
    exact (keeps_reports_notes hroutine).bind fun _ => Work.keeps_throw _

theorem keeps_reports_loadImage (host : Host) (i : ImageArguments) :
    Work.Keeps Effect.reports (loadImage host i) := by
  rw [loadImage_eq]
  apply Work.Keeps.bind
  · cases i.signature with
    | none => exact Work.keeps_pure _
    | some text => exact keeps_reports_orFail _ _
  intro signature
  apply (keeps_reports_note rfl).bind
  intro _
  exact Work.keeps_get.bind fun _ => keeps_reports_conveyed _ _

theorem exists_notes_eq_ok (ns : Array Log.Note) (trace : Array Effect) :
    ∃ after, (ns.forM note : Run Unit) trace = .ok () after := by
  obtain ⟨ns⟩ := ns
  rw [List.forM_toArray' _ _ rfl]
  induction ns generalizing trace with
  | nil => exact ⟨trace, rfl⟩
  | cons n rest ih =>
    obtain ⟨after, h⟩ := ih (trace.push (.note n))
    exact ⟨after, h⟩

/-- The image in the text that a file holds is loaded. -/
theorem exists_loadImage_eq_ok {host : Host} {path text : String}
    {bootloader application : UInt32} {image : Image}
    (hf : ∀ notes, host.file notes path = .ok text.toUTF8.data.toList)
    (h : ∃ told, Image.ofText { bootloader, application } text #[.hexLoading path] =
      .ok image told) :
    ∃ before, loadImage host ⟨path, bootloader, application, none, none⟩ #[] =
      .ok image before := by
  obtain ⟨told, h⟩ := h
  have hload : ∀ notes, Image.load { bootloader, application }
      (.file path (host.file notes path)) #[] = .ok image told := by
    intro notes
    rw [hf, ← h, Image.load]
    exact Work.bind_of_ok (congrFun (congrArg Image.Loading.orFail
      (Image.decodeText_toUTF8 text)) #[])
  obtain ⟨after, hnotes⟩ := exists_notes_eq_ok told #[.note (.imageLoading path)]
  have hrun : loadImage host ⟨path, bootloader, application, none, none⟩ #[] =
      conveyed (Image.load { bootloader, application }
        (.file path (host.file [.imageLoading path] path)) #[]) #[.note (.imageLoading path)] := rfl
  rw [hrun, hload]
  exact ⟨after, Work.bind_of_ok hnotes⟩

end Loading

/-- An update at a station. -/
def updateAt (image : Image) (emergency : Bool) : Station.Work Unit := fun ⟨device, bus⟩ =>
  match Update.run emergency true ⟨⟨device, bus⟩, image⟩ with
  | .ok _ b => .ok () b.toStation
  | .error e b => .error e b.toStation

/-- The work of the program when it makes an update, while another task tells the events. -/
def updating (host : Host) (a : Arguments) (image : Image) (emergency : Bool) : Run Unit :=
  withDevice host a (updateAt image emergency)

theorem final_updateAt (image : Image) (emergency : Bool) (s : Station) :
    Work.final (updateAt image emergency s) =
      (Work.final (Update.run emergency true ⟨s, image⟩)).toStation := by
  simp only [updateAt]
  cases Update.run emergency true ⟨s, image⟩ <;> rfl

theorem verdict_updateAt (image : Image) (emergency : Bool) (s : Station) :
    Work.verdict (updateAt image emergency s) =
      Work.verdict (Update.run emergency true ⟨s, image⟩) := by
  simp only [updateAt]
  cases Update.run emergency true ⟨s, image⟩ <;> rfl

theorem withDevice_of_error {α : Type} {host : Host} {a : Arguments} {e : Failure}
    (h : choosePort a = .error e) (work : Station.Work α) (trace : Array Effect) :
    withDevice host a work trace = .error e trace := by
  have hport : orFail id (choosePort a) trace = .error e trace := by rw [h]; rfl
  exact Work.bind_of_error hport

theorem withDevice_of_ok {α : Type} {host : Host} {a : Arguments} {port : Port}
    (h : choosePort a = .ok port) (work : Station.Work α) (trace : Array Effect) :
    withDevice host a work trace =
      match session work
        ⟨{ address := a.address }, { port, surroundings := host.surroundings, trace }⟩ with
      | .ok result s => .ok result s.bus.trace
      | .error e s => .error (.operation e) s.bus.trace := by
  have hport : orFail id (choosePort a) trace = .ok port trace := by rw [h]; rfl
  exact Work.bind_of_ok hport

/-- The bench at which the program updates a device: the port that the arguments name is open, and
nothing has been sent through it. -/
structure Prepares (host : Host) (a : Arguments) (image : Image) (b : Bench) : Prop where
  image : b.image = image
  device : b.device = { address := a.address }
  port : ∃ port, choosePort a = .ok port ∧ b.bus.port = port.withOpen true
  surroundings : b.bus.surroundings = host.surroundings
  requests : b.bus.requests = #[]
  attempts : b.bus.attempts = 0
  reports : Effect.reports b.bus.trace = []

theorem Prepares.events {host : Host} {a : Arguments} {image : Image} {b : Bench}
    (h : Prepares host a image b) : b.bus.events = [] := by
  rw [Bus.events, ← events_reports]
  exact congrArg _ h.reports

/-- Ports are not open when they are chosen. -/
theorem isOpen_of_choosePort {a : Arguments} {port : Port} (h : choosePort a = .ok port) :
    port.isOpen = false := by
  unfold choosePort at h
  split at h
  · split at h
    · cases h
    · split at h
      · cases h
      · obtain rfl := Except.ok.inj h
        rfl
  · obtain rfl := Except.ok.inj h
    rfl
  · cases h

/-- Whether there is no port, or none that opens. -/
def Barred (host : Host) (a : Arguments) : Prop :=
  match choosePort a with
  | .ok port => host.surroundings.opening port ≠ none
  | .error _ => True

/-- The work fails because the port does not open, or ends as the update does. -/
theorem updating_cases (host : Host) (a : Arguments) (image : Image) (emergency : Bool) :
    (∃ e trace, Barred host a ∧ updating host a image emergency #[] = .error e trace ∧
        Effect.reports trace = []) ∨
      ∃ b trace, Prepares host a image b ∧
        Effect.reports trace =
          Effect.reports (Work.final (Update.run emergency true b)).bus.trace ∧
        updating host a image emergency #[] = Work.outcome trace
          ((Work.verdict (Update.run emergency true b)).mapError .operation) := by
  rw [Barred]
  cases hport : choosePort a with
  | error e => exact .inl ⟨e, #[], trivial, withDevice_of_error hport _ _, rfl⟩
  | ok port =>
    rw [updating, withDevice_of_ok hport]
    obtain ⟨f, e, t, hf, hs, ht⟩ | ⟨t, u, ht, hu, hs⟩ := session_cases (updateAt image emergency)
      ⟨{ address := a.address }, { port, surroundings := host.surroundings }⟩
    · rw [hs]
      exact .inl ⟨_, _, Option.ne_none_iff_exists'.2 ⟨f, hf⟩, rfl, ht.reports⟩
    · have hreports := hu.reports
      rw [final_updateAt] at hreports
      rw [hs, verdict_updateAt]
      have hopen : t.bus.port = port.withOpen true := by
        rw [ht.port, isOpen_of_choosePort hport]
        rfl
      refine .inr ⟨⟨t, image⟩, u.bus.trace, ⟨rfl, ht.device, ⟨port, hport, hopen⟩,
        ht.surroundings, ht.requests, ht.attempts, ht.reports⟩, hreports, ?_⟩
      cases Update.run emergency true ⟨t, image⟩ <;> rfl

/-- Whether a trace holds nothing but routine and events. -/
def Heard (trace : Array Effect) : Prop :=
  ∀ e ∈ Effect.reports trace, ∃ event, e = .event event

theorem heard_of_prepares {host : Host} {a : Arguments} {image : Image} {b : Bench}
    (h : Prepares host a image b) (emergency : Bool) :
    Heard (Work.final (Update.run emergency true b)).bus.trace := by
  let p : Effect → Bool := fun e => !e.isRoutine && e.event?.isNone
  have hkeeps : Update.KeepsShown p (Update.run emergency true) := by
    apply Update.keepsShown_run
    · intro e he
      simp [p, he]
    · intro event
      simp [p, Effect.event?]
  have hfilter : ∀ trace : Array Effect,
      trace.toList.filter p = (Effect.reports trace).filter (·.event?.isNone) := by
    intro trace
    rw [Effect.reports, List.filter_filter]
    simp only [p, Bool.and_comm]
  have hnone := congrArg Prod.snd (hkeeps b)
  simp only [Bus.shown, hfilter, h.reports, List.filter_nil] at hnone
  intro e he
  have hsome := List.filter_eq_nil_iff.1 hnone e he
  cases e with
  | event event => exact ⟨event, rfl⟩
  | _ => simp [Effect.event?] at hsome

theorem heard_updating (host : Host) (a : Arguments) (image : Image) (emergency : Bool) :
    Heard (Work.final (updating host a image emergency #[])) := by
  obtain ⟨e, trace, -, hu, hr⟩ | ⟨b, trace, hb, hr, hu⟩ := updating_cases host a image emergency
  · rw [hu, Heard, Work.final, hr]
    exact List.forall_mem_nil _
  · have hheard := heard_of_prepares hb emergency
    rw [Heard, ← hr] at hheard
    rw [hu]
    cases Work.verdict (Update.run emergency true b) <;> exact hheard

/-- The work of an update does nothing of a kind to which neither routine nor events belong. -/
theorem eq_none_of_mem_updating (host : Host) (a : Arguments) (image : Image) (emergency : Bool)
    {β : Type} {f : Effect → Option β} (hf : ∀ e : Effect, e.isRoutine = true → f e = none)
    (he : ∀ event, f (.event event) = none) :
    ∀ e ∈ (Work.final (updating host a image emergency #[])).toList, f e = none := by
  have hheard := heard_updating host a image emergency
  intro e hm
  cases hr : e.isRoutine with
  | true => exact hf e hr
  | false =>
    obtain ⟨event, rfl⟩ := hheard e (List.mem_filter.2 ⟨hm, by rw [hr]; rfl⟩)
    exact he event

end Run

/-- The events of which a listener hears when an update is made. -/
def heard (host : Host) (a : Arguments) (image : Image) (emergency : Bool) : List UpdateEvent :=
  (Work.final (Run.updating host a image emergency #[])).toList.filterMap Effect.event?

/-- To tell an event is neither to hear of another nor to note that the update is done. -/
theorem Run.event?_and_summary?_tell (a : Arguments) (event : UpdateEvent) :
    (Run.tell a event).event? = none ∧ (Run.tell a event).summary? = none := by
  unfold Run.tell
  split
  · exact ⟨rfl, rfl⟩
  · cases event <;> exact ⟨rfl, rfl⟩

/-- The events of work are also those of the work with each event told. -/
theorem Run.events_telling (a : Arguments) (worked : Array Effect) :
    Run.events (Run.telling a worked) = worked.toList.filterMap Effect.event? := by
  have hevents : Run.events (Run.telling a worked) =
      (Run.telling a worked).toList.filterMap Effect.event? := rfl
  rw [hevents, Tasks.toList_telling, List.filterMap_flatMap, List.filterMap_eq_flatMap_toList]
  congr 1
  funext e
  cases he : e.event? with
  | none => simp [he]
  | some event => simp [he, Run.event?_and_summary?_tell]

/-- What the arguments for an update have done, once the image is loaded: each event is told when it
is heard of, and what is done last depends on how the work has ended. -/
theorem Completion.ofArguments_eq {host : Host} {a : Arguments} {i : ImageArguments}
    {emergency : Bool} {image : Image} {before : Array Effect}
    (ht : a.task = .update i emergency) (hl : Run.loadImage host i #[] = .ok image before) :
    let worked := Run.updating host a image emergency #[]
    ofArguments host a = ⟨Work.failure? worked, before.toList ++
      ((Run.telling a (Work.final worked)).toList ++
        Tasks.closing (Work.failure? worked) (.ofEvents (heard host a image emergency)))⟩ := by
  have hperform : Run.perform host a #[] = Run.update host a image emergency before := by
    unfold Run.perform
    rw [ht]
    exact Work.bind_of_ok hl
  have hbefore : Run.events before = [] := by
    have hreports := Run.keeps_reports_loadImage host i #[]
    rw [hl] at hreports
    have hevents := events_reports before.toList
    exact hevents.symm.trans (congrArg (List.filterMap Effect.event?) hreports)
  rw [ofArguments, hperform, heard]
  cases hu : Run.updating host a image emergency #[] with
  | ok _ worked =>
    have hlistening : Run.listening a (Run.updating host a image emergency) before =
        .ok () (before ++ Run.telling a worked) := by
      simp only [Run.listening, hu]
    have hevents : Run.events (before ++ Run.telling a worked) =
        worked.toList.filterMap Effect.event? := by
      rw [← Run.events_telling a, ← List.nil_append (Run.events (Run.telling a worked)), ← hbefore]
      simp [Run.events]
    have h : Run.update host a image emergency before = .ok () _ := Work.bind_of_ok hlistening
    rw [h]
    simp [Tasks.closing, Work.failure?, Work.final, hevents]
  | error e worked =>
    have hlistening : Run.listening a (Run.updating host a image emergency) before =
        .error e (before ++ Run.telling a worked) := by
      simp only [Run.listening, hu]
    have h : Run.update host a image emergency before = .error e _ :=
      Work.bind_of_error hlistening
    rw [h]
    simp [Tasks.closing, Work.failure?, Work.final]

section Reports

/-- An event is heard of, and then printed in JSON. -/
def printed (event : UpdateEvent) : List Effect := [.event event, .output event.toJson.render]

/-- Beside routine there is nothing but events that are heard of and then printed. -/
theorem reports_telling {a : Arguments} {worked : Array Effect} (hj : a.json = true)
    (hw : Run.Heard worked) :
    (Run.telling a worked).toList.filter (fun e => !e.isRoutine) =
      (worked.toList.filterMap Effect.event?).flatMap printed := by
  have hcases : ∀ e ∈ worked.toList, e.isRoutine = true ∨ ∃ event, e = .event event := by
    intro e he
    cases hr : e.isRoutine with
    | true => exact .inl rfl
    | false => exact .inr (hw e (List.mem_filter.2 ⟨he, by rw [hr]; rfl⟩))
  rw [Tasks.toList_telling]
  generalize worked.toList = l at hcases
  induction l with
  | nil => rfl
  | cons e rest ih =>
    have hrest := ih fun e he => hcases e (List.mem_cons_of_mem _ he)
    obtain hr | ⟨event, rfl⟩ := hcases e List.mem_cons_self
    · simp [e.event?_of_isRoutine hr, hr, hrest]
    · have hevent : (Effect.event event).event? = some event := rfl
      have hheard : (Effect.event event).isRoutine = false := rfl
      have htell : Run.tell a event = .output event.toJson.render := if_pos hj
      have htold : (Effect.output event.toJson.render).isRoutine = false := rfl
      simp [hevent, hheard, htell, htold, hrest, printed]

theorem events_printed (events : List UpdateEvent) :
    (events.flatMap printed).filterMap Effect.event? = events := by
  have h : (fun event => (printed event).filterMap Effect.event?) = fun event => [event] := rfl
  rw [List.filterMap_flatMap, h, List.flatMap_singleton']

theorem outputs_printed (events : List UpdateEvent) :
    (events.flatMap printed).filterMap Effect.output? =
      events.map fun event => event.toJson.render := by
  have h : (fun event => (printed event).filterMap Effect.output?) =
      fun event => [event.toJson.render] := rfl
  rw [List.filterMap_flatMap, h, List.map_eq_flatMap]

theorem summaries_printed (events : List UpdateEvent) :
    (events.flatMap printed).filterMap Effect.summary? = [] := by
  have h : (fun event => (printed event).filterMap Effect.summary?) = fun _ => [] := rfl
  rw [List.filterMap_flatMap, h, List.flatMap_eq_nil_iff]
  exact fun _ _ => rfl

section Closing

variable (failure : Option Failure) (snapshot : UpdateSnapshot)

theorem outputs_closing : (Tasks.closing failure snapshot).filterMap Effect.output? = [] := by
  cases failure <;> rfl

theorem events_closing : (Tasks.closing failure snapshot).filterMap Effect.event? = [] := by
  cases failure <;> rfl

end Closing

theorem outputs_told {a : Arguments} (hj : a.json = true) (events : List UpdateEvent) :
    (events.map (Run.tell a)).filterMap Effect.output? =
      events.map fun event => event.toJson.render := by
  have h : Effect.output? ∘ Run.tell a = fun event => some event.toJson.render := by
    funext event
    exact congrArg Effect.output? (if_pos hj)
  rw [List.filterMap_map, h, List.filterMap_eq_map']

theorem summaries_told (a : Arguments) (events : List UpdateEvent) :
    (events.map (Run.tell a)).filterMap Effect.summary? = [] := by
  rw [List.filterMap_map, List.filterMap_eq_nil_iff]
  exact fun event _ => (Run.event?_and_summary?_tell a event).2

variable (c : Completion)

theorem Completion.outputs_eq :
    c.outputs = (c.trace.filter fun e => !e.isRoutine).filterMap Effect.output? := by
  rw [filterMap_reports c.trace Effect.output?_of_isRoutine]
  rfl

theorem Completion.events_eq :
    c.events = (c.trace.filter fun e => !e.isRoutine).filterMap Effect.event? :=
  (events_reports c.trace).symm

theorem Completion.summaries_eq : c.notes.filter (·.isSummary) =
    (c.trace.filter fun e => !e.isRoutine).filterMap Effect.summary? := by
  rw [filterMap_reports c.trace Effect.summary?_of_isRoutine, notes, List.filter_filterMap]
  congr 1
  funext e
  cases e <;> simp [Effect.summary?, Option.filter]

end Reports

section Completion

variable {host : Host} {a : Arguments} {i : ImageArguments} {emergency : Bool} {image : Image}
  {before : Array Effect}

theorem reports_ofArguments (hj : a.json = true) (ht : a.task = .update i emergency)
    (hl : Run.loadImage host i #[] = .ok image before) :
    (Completion.ofArguments host a).trace.filter (fun e => !e.isRoutine) =
      (heard host a image emergency).flatMap printed ++
        Tasks.closing (Completion.ofArguments host a).failure
          (.ofEvents (heard host a image emergency)) := by
  have hbefore : before.toList.filter (fun e => !e.isRoutine) = [] := by
    have h := Run.keeps_reports_loadImage host i #[]
    rwa [hl] at h
  have htelling := reports_telling hj (Run.heard_updating host a image emergency)
  have hclosing : ∀ failure snapshot, (Tasks.closing failure snapshot).filter
      (fun e => !e.isRoutine) = Tasks.closing failure snapshot := by
    intro failure snapshot
    cases failure <;> rfl
  rw [Completion.ofArguments_eq ht hl, List.filter_append, List.filter_append, hbefore, htelling,
    hclosing, List.nil_append, heard]

/-- Whether a run of the program ends as the update that it makes. -/
def EndsAs (failure : Option Failure) : EStateM.Result Error Bench Unit → Prop
  | .ok _ _ => failure = none
  | .error e _ => failure = some (.operation e)

theorem EndsAs.eq_none_iff {failure : Option Failure} {result : EStateM.Result Error Bench Unit}
    (h : EndsAs failure result) : failure = none ↔ ∃ s, result = .ok () s := by
  cases result with
  | ok _ s => exact ⟨fun _ => ⟨s, rfl⟩, fun _ => h⟩
  | error e s =>
    rw [show failure = _ from h]
    constructor
    · intro hn
      cases hn
    · rintro ⟨t, ht⟩
      cases ht

/-- The port does not open, or the listener of the update has heard the events. -/
theorem heard_cases (ht : a.task = .update i emergency)
    (hl : Run.loadImage host i #[] = .ok image before) :
    Run.Barred host a ∧ heard host a image emergency = [] ∧
        (Completion.ofArguments host a).failure ≠ none ∨
      ∃ b, Run.Prepares host a image b ∧
        heard host a image emergency = (Work.final (Update.run emergency true b)).bus.events ∧
        EndsAs (Completion.ofArguments host a).failure (Update.run emergency true b) := by
  have hc := Completion.ofArguments_eq ht hl
  obtain ⟨e, trace, hbarred, hu, hr⟩ | ⟨b, trace, hb, hr, hu⟩ :=
    Run.updating_cases host a image emergency
  · rw [hu] at hc
    rw [heard, hu, Work.final, ← events_reports, hc]
    exact .inl ⟨hbarred, congrArg _ hr, Option.some_ne_none e⟩
  · have hheard : heard host a image emergency =
        (Work.final (Update.run emergency true b)).bus.events := by
      have hfinal : Work.final (Run.updating host a image emergency #[]) = trace := by
        rw [hu]
        cases Work.verdict (Update.run emergency true b) <;> rfl
      have hevents := congrArg (List.filterMap Effect.event?) hr
      rw [Effect.reports, Effect.reports, events_reports, events_reports] at hevents
      rw [heard, hfinal, hevents]
      rfl
    refine .inr ⟨b, hb, hheard, ?_⟩
    rw [hu] at hc
    rw [hc]
    cases Update.run emergency true b with
    | ok _ s => exact rfl
    | error e s => exact rfl

theorem failure_ofArguments (ht : a.task = .update i emergency)
    (hl : Run.loadImage host i #[] = .ok image before) :
    (Completion.ofArguments host a).failure =
      Work.failure? (Run.updating host a image emergency #[]) := by
  rw [Completion.ofArguments_eq ht hl]

theorem events_ofArguments (hj : a.json = true) (ht : a.task = .update i emergency)
    (hl : Run.loadImage host i #[] = .ok image before) :
    (Completion.ofArguments host a).events = heard host a image emergency := by
  rw [Completion.events_eq, reports_ofArguments hj ht hl, List.filterMap_append, events_printed,
    events_closing, List.append_nil]

theorem outputs_ofArguments (hj : a.json = true) (ht : a.task = .update i emergency)
    (hl : Run.loadImage host i #[] = .ok image before) :
    (Completion.ofArguments host a).outputs =
      (heard host a image emergency).map fun event => event.toJson.render := by
  rw [Completion.outputs_eq, reports_ofArguments hj ht hl, List.filterMap_append, outputs_printed,
    outputs_closing, List.append_nil]

theorem summaries_ofArguments (hj : a.json = true) (ht : a.task = .update i emergency)
    (hl : Run.loadImage host i #[] = .ok image before) :
    (Completion.ofArguments host a).notes.filter (·.isSummary) =
      (Tasks.closing (Completion.ofArguments host a).failure
        (.ofEvents (heard host a image emergency))).filterMap Effect.summary? := by
  rw [Completion.summaries_eq, reports_ofArguments hj ht hl, List.filterMap_append,
    summaries_printed, List.nil_append]

/-- An update that succeeds has told everything. -/
theorem heard_of_failure_eq_none (ht : a.task = .update i emergency)
    (hl : Run.loadImage host i #[] = .ok image before)
    (hn : (Completion.ofArguments host a).failure = none) :
    heard host a image emergency = Update.announcements emergency image.size := by
  obtain ⟨-, -, hf⟩ | ⟨b, hb, hheard, hends⟩ := heard_cases ht hl
  · exact absurd hn hf
  · obtain ⟨s, hs⟩ := hends.eq_none_iff.1 hn
    rw [hheard, hs, Work.final, Update.events_of_ok hs, hb.events, hb.image, List.nil_append]

/-- An update succeeds exactly if the last that is heard of it is that it has finished. -/
theorem failure_eq_none_iff_getLast? (ht : a.task = .update i emergency)
    (hl : Run.loadImage host i #[] = .ok image before) :
    (Completion.ofArguments host a).failure = none ↔
      (heard host a image emergency).getLast? = some (.status "Finished!") := by
  constructor
  · intro hn
    rw [heard_of_failure_eq_none ht hl hn]
    simp [Update.announcements, Update.announcedLast]
  · intro hlast
    obtain ⟨-, hnone, -⟩ | ⟨b, hb, hheard, hends⟩ := heard_cases ht hl
    · rw [hnone] at hlast
      cases hlast
    · rw [hheard] at hlast
      exact hends.eq_none_iff.2 (Update.exists_ok_of_getLast? hb.events hlast)

end Completion

/-- Whether the tasks of an update get so far in some order of the turns that they take. -/
def Tasks.Reached (host : Host) (a : Arguments) (image : Image) (emergency : Bool) (t : Tasks) :
    Prop :=
  let worked := Run.updating host a image emergency #[]
  Tasks.Runs a (Work.failure? worked) (.start (Work.final worked).toList) t

/-- When the tasks have ended, what was printed and noted follows from what was heard. -/
theorem Tasks.Reached.ended {host : Host} {a : Arguments} {image : Image} {emergency : Bool}
    {t : Tasks} (h : Tasks.Reached host a image emergency t) (hj : a.json = true)
    (ht : t.Ended) :
    let failure := Work.failure? (Run.updating host a image emergency #[])
    let snapshot := UpdateSnapshot.ofEvents (heard host a image emergency)
    t.outcome = some failure ∧ t.snapshot = snapshot ∧
      t.done.filterMap Effect.output? =
        (heard host a image emergency).map (fun event => event.toJson.render) ∧
      t.done.filterMap Effect.summary? =
        (Tasks.closing failure snapshot).filterMap Effect.summary? := by
  obtain ⟨houtcome, hsnapshot⟩ := Tasks.Runs.outcome_eq h ht
  refine ⟨houtcome, hsnapshot, ?_, ?_⟩
  · rw [Tasks.Runs.filterMap_done h ht (Run.eq_none_of_mem_updating host a image emergency
        Effect.output?_of_isRoutine fun _ => rfl), List.filterMap_append, outputs_closing,
      List.append_nil, outputs_told hj]
    rfl
  · rw [Tasks.Runs.filterMap_done h ht (Run.eq_none_of_mem_updating host a image emergency
        Effect.summary?_of_isRoutine fun _ => rfl), List.filterMap_append, summaries_told,
      List.nil_append]
    rfl

/-- What an update prints in JSON when its image is loaded, which has left the trace `before`, and
how it ends. -/
structure Streams (host : Host) (a : Arguments) (image : Image) (emergency : Bool)
    (before : Array Effect) (c : Completion) : Prop where
  /-- The port does not open, or the listener of the update has heard the events. -/
  heard : Run.Barred host a ∧ c.events = [] ∧ c.failure ≠ none ∨
    ∃ b, Run.Prepares host a image b ∧
      c.events = (Work.final (Update.run emergency true b)).bus.events ∧
      EndsAs c.failure (Update.run emergency true b)
  lines : c.outputs = c.events.map fun event => event.toJson.render
  printed : ∀ line ∈ c.outputs, Json.Printed line.toList
  /-- In one order of the turns that its tasks take, the program has left its trace, and has ended
  as it did. -/
  ordered : ∃ done, c.trace = before.toList ++ done ∧
    Tasks.Reached host a image emergency ⟨[], [], .ofEvents c.events, done, some c.failure⟩
  /-- In whatever order the tasks take turns, they go on until they have ended, after a bounded
  count of turns. Then they have printed these lines and noted the same of the update as a whole,
  and the program has failed in the same way or not at all. -/
  scheduled : ∀ t, Tasks.Reached host a image emergency t →
    (¬ t.Ended → ∃ t', Tasks.Step a c.failure t t') ∧
      (∀ t', Tasks.Step a c.failure t t' → t'.turns < t.turns) ∧
      (t.Ended → t.outcome = some c.failure ∧ t.snapshot = .ofEvents c.events ∧
        t.done.filterMap Effect.output? = c.outputs ∧
        t.done.filterMap Effect.summary? = c.notes.filter (·.isSummary))
  succeeded : c.failure = none ↔
    c.outputs.getLast? = some (UpdateEvent.status "Finished!").toJson.render
  /-- Behind an update that succeeds it is noted once how many lines were printed. -/
  summary : c.failure = none →
    c.notes.filter (·.isSummary) = [.updateDone c.outputs.length true]
  noSummary : c.failure ≠ none → c.notes.filter (·.isSummary) = []

/-- An update prints a line of JSON for each event that its listener hears of, in their order, and
nothing else, also when it fails. It succeeds exactly if the last line tells so; then, and only
then, it is noted that it is done. -/
theorem update_streams {host : Host} {a : Arguments} {i : ImageArguments} {emergency : Bool}
    {image : Image} {before : Array Effect} (hj : a.json = true)
    (ht : a.task = .update i emergency) (hl : Run.loadImage host i #[] = .ok image before) :
    Streams host a image emergency before (.ofArguments host a) := by
  have hfailure := failure_ofArguments ht hl
  have hevents := events_ofArguments hj ht hl
  have houtputs := outputs_ofArguments hj ht hl
  have hsummaries := summaries_ofArguments hj ht hl
  refine ⟨?_, ?_, ?_, ?_, ?_, ?_, ?_, ?_⟩
  · rw [hevents]
    exact heard_cases ht hl
  · rw [houtputs, hevents]
  · intro line hline
    rw [houtputs] at hline
    obtain ⟨event, -, rfl⟩ := List.mem_map.1 hline
    exact Json.printed_render event.toJson
  · rw [hevents, Completion.ofArguments_eq ht hl]
    exact ⟨_, rfl, Tasks.runs_telling a _ _⟩
  · intro t hruns
    rw [hsummaries, houtputs, hevents, hfailure]
    exact ⟨Tasks.exists_step, fun _ => Tasks.Step.turns_lt, hruns.ended hj⟩
  · rw [failure_eq_none_iff_getLast? ht hl, houtputs, List.getLast?_map, Option.map_eq_some_iff]
    constructor
    · intro hlast
      exact ⟨_, hlast, rfl⟩
    · rintro ⟨event, hevent, hrender⟩
      obtain rfl := (UpdateEvent.render_eq_status_iff event _).1 hrender
      exact hevent
  · intro hn
    have hcount : (UpdateSnapshot.ofEvents (heard host a image emergency)).events =
        (Completion.ofArguments host a).outputs.length := by
      rw [houtputs, List.length_map, UpdateSnapshot.events_ofEvents]
    have hfinished :
        (UpdateSnapshot.ofEvents (heard host a image emergency)).isFinished = true := by
      rw [heard_of_failure_eq_none ht hl hn]
      exact isFinished_ofEvents_announcements _ _
    rw [hsummaries, hn, ← hcount, ← hfinished]
    rfl
  · intro hn
    obtain ⟨e, he⟩ := Option.ne_none_iff_exists'.1 hn
    rw [hsummaries, he]
    rfl

/-- An image of eight bytes, for devices of type `0x2A`. -/
def eightBytes : String := ":0C0000004A474F4B2A000000020100009C\n:00000001FF"

/-- A file with the image, and a device of its type behind every port that acknowledges all that it
is asked. -/
def obligingHost : Host where
  surroundings := {
    farSide := Script.farSide {
      rules := [⟨some 0xD0, none, .frame 0 [0x32, 0x41] none none⟩,
        ⟨some 0xF3, none, .frame 0 [] none none⟩] } }
  file _ _ := .ok eightBytes.toUTF8.data.toList

def updateInJson : Arguments where
  serial := some "line"
  tcp := none
  baudrate := 115200
  address := 0
  json := true
  task := .update ⟨"image", 0, 0, none, none⟩ false

def eightRecords : List Image.Record :=
  [.data 0 [0x4A, 0x47, 0x4F, 0x4B, 0x2A, 0, 0, 0, 2, 1, 0, 0]]

/-- The image of eight bytes. Nothing stands where the version of the bootloader would. -/
def eightImage : Image where
  productType := 0x2A
  bootloaderVersion := ⟨0xFF, 0xFF, false⟩
  applicationVersion := ⟨1, 2, false⟩
  application := [0x2A, 0, 0, 0, 2, 1, 0, 0]
  rest := [0x2A, 0, 0, 0, 2, 1, 0, 0]
  rest_suffix := List.suffix_refl _

theorem ofApplication_eight :
    Image.ofApplication ⟨0, 0, [0x4A, 0x47, 0x4F, 0x4B], 0x1004⟩ (.ofRecords eightRecords)
      [0x2A, 0, 0, 0, 2, 1, 0, 0] = eightImage := by
  have htype : (Image.Memory.ofRecords eightRecords).wordAt 4 = 0x2A := by
    refine UInt32.toNat_inj.1 ((Image.Memory.toNat_wordAt (by decide)).trans ?_)
    decide
  have hbootloader : (Image.Memory.ofRecords eightRecords).versionAt 0x1004 =
      ⟨0xFF, 0xFF, false⟩ := (Image.Memory.versionAt_eq (by decide)).trans (by decide)
  have happlication : (Image.Memory.ofRecords eightRecords).versionAt 8 = ⟨1, 2, false⟩ :=
    (Image.Memory.versionAt_eq (by decide)).trans (by decide)
  rw [Image.ofApplication, eightImage, Image.mk.injEq]
  exact ⟨htype, hbootloader, happlication, rfl, rfl⟩

/-- The device takes the image, and a line is printed for each of twelve events. -/
theorem update_streams_obliging :
    ∃ before, Run.loadImage obligingHost ⟨"image", 0, 0, none, none⟩ #[] =
        .ok eightImage before ∧
      Streams obligingHost updateInJson eightImage false before
        (.ofArguments obligingHost updateInJson) ∧
      (Completion.ofArguments obligingHost updateInJson).failure = none ∧
      (Completion.ofArguments obligingHost updateInJson).outputs.length = 12 ∧
      (Completion.ofArguments obligingHost updateInJson).outputs[7]? =
        some "\x7b\"kind\":\"status\",\"value\":\"Write new firmware: 0.01 kB of 0.01 kB\"\x7d" ∧
      (Completion.ofArguments obligingHost updateInJson).outputs[11]? =
        some "\x7b\"kind\":\"status\",\"value\":\"Finished!\"\x7d" := by
  have hr : Image.records (Text.lines eightBytes.toList) = .ok eightRecords := by rfl
  have htold := (Image.exists_ofText_eq_ok_iff ⟨0, 0, [0x4A, 0x47, 0x4F, 0x4B], 0x1004⟩ eightBytes
    #[.hexLoading "image"] eightImage).2
      ⟨_, hr, ⟨by decide, by decide, by decide, by decide, by decide, by decide⟩,
        ofApplication_eight.symm⟩
  have hf : ∀ notes, obligingHost.file notes "image" = .ok eightBytes.toUTF8.data.toList :=
    fun _ => rfl
  obtain ⟨before, hl⟩ := Run.exists_loadImage_eq_ok hf htold
  have hstreams : Streams obligingHost updateInJson eightImage false before
    (.ofArguments obligingHost updateInJson) := update_streams rfl rfl hl
  have hok :
      Work.failure? (Run.updating obligingHost updateInJson eightImage false #[]) = none := by
    decide +kernel
  have hfailure : (Completion.ofArguments obligingHost updateInJson).failure = none := by
    rw [Completion.ofArguments_eq rfl hl]
    exact hok
  have hevents : (Completion.ofArguments obligingHost updateInJson).events =
      Update.announcements false 8 := by
    obtain ⟨-, -, hn⟩ | ⟨b, hb, hevents, hends⟩ := hstreams.heard
    · exact absurd hfailure hn
    · obtain ⟨s, hs⟩ := hends.eq_none_iff.1 hfailure
      rw [hevents, hs, Work.final, Update.events_of_ok hs, hb.events, hb.image, List.nil_append]
      rfl
  refine ⟨before, hl, hstreams, hfailure, ?_, ?_, ?_⟩
  · rw [hstreams.lines, hevents, List.length_map]
    decide +kernel
  · rw [hstreams.lines, hevents, List.getElem?_map]
    decide +kernel
  · rw [hstreams.lines, hevents, List.getElem?_map]
    decide +kernel

end CommandLine

end Shdlc
