import Shdlc.CommandLine.Program
import Shdlc.Proofs.Update.Telling
/-!
The two tasks of an update: one works and puts each event that it hears of into a channel, the other
takes the events from there, tells them and keeps a snapshot of them. When the work is over and the
channel is empty, the program ends as the work has ended, with a note if that was well. Main
statements: in whatever order the tasks take turns, they come to an end, and then the same has been
printed and noted, and the program has failed or not, as if each event were told at once.
-/
namespace Shdlc

def Effect.output? : Effect → Option String
  | .output line => some line
  | _ => none

namespace CommandLine

/-- How far the two tasks have come. -/
structure Tasks where
  /-- What is still to be done of the work. -/
  pending : List Effect
  channel : List UpdateEvent
  /-- What is known of the update from the events that have been told. -/
  snapshot : UpdateSnapshot
  /-- What both tasks have done. -/
  done : List Effect
  /-- With which failure, if with any, the program has ended, once it has. -/
  outcome : Option (Option Failure)

namespace Tasks

/-- The tasks before they begin. -/
def start (work : List Effect) : Tasks := ⟨work, [], {}, [], none⟩

/-- What is done last, when the work has ended with a failure or without one. -/
def closing (failure : Option Failure) (snapshot : UpdateSnapshot) : List Effect :=
  match failure with
  | none => [.note (.updateDone snapshot.events snapshot.isFinished)]
  | some _ => []

/-- One of the tasks goes on, where the work ends with a failure or without one. -/
inductive Step (a : Arguments) (failure : Option Failure) : Tasks → Tasks → Prop
  | work (effect : Effect) (pending : List Effect) (channel : List UpdateEvent)
      (snapshot : UpdateSnapshot) (done : List Effect) :
      Step a failure ⟨effect :: pending, channel, snapshot, done, none⟩
        ⟨pending, channel ++ effect.event?.toList, snapshot, done ++ [effect], none⟩
  | tell (pending : List Effect) (event : UpdateEvent) (channel : List UpdateEvent)
      (snapshot : UpdateSnapshot) (done : List Effect) :
      Step a failure ⟨pending, event :: channel, snapshot, done, none⟩
        ⟨pending, channel, snapshot.apply event, done ++ [Run.tell a event], none⟩
  /-- The end of the work closes the channel, and what ends the work is awaited behind it. -/
  | finish (snapshot : UpdateSnapshot) (done : List Effect) :
      Step a failure ⟨[], [], snapshot, done, none⟩
        ⟨[], [], snapshot, done ++ closing failure snapshot, some failure⟩

/-- The tasks take turns in some order. -/
inductive Runs (a : Arguments) (failure : Option Failure) : Tasks → Tasks → Prop
  | refl (t : Tasks) : Runs a failure t t
  | step {r s t : Tasks} (first : Step a failure r s) (rest : Runs a failure s t) :
      Runs a failure r t

/-- Both tasks have ended, and so has the program. -/
def Ended (t : Tasks) : Prop := t.outcome ≠ none

/-- The events that are still to be told. -/
def untold (t : Tasks) : List UpdateEvent := t.channel ++ t.pending.filterMap Effect.event?

/-- What will be known of the update when all events have been told. -/
def forecast (t : Tasks) : UpdateSnapshot := t.untold.foldl .apply t.snapshot

/-- What is still to be done beside the work. -/
def ahead (a : Arguments) (failure : Option Failure) (t : Tasks) : List Effect :=
  match t.outcome with
  | none => t.untold.map (Run.tell a) ++ closing failure t.forecast
  | some _ => []

/-- How often the tasks can still take turns. -/
def turns (t : Tasks) : Nat :=
  2 * t.pending.length + t.channel.length + if t.outcome.isNone then 1 else 0

section Schedules

variable {a : Arguments} {failure : Option Failure} {r s t : Tasks}

theorem Step.pending_subset (h : Step a failure s t) : t.pending ⊆ s.pending := by
  cases h with
  | work effect pending channel snapshot done => exact List.subset_cons_self effect pending
  | tell pending event channel snapshot done => exact List.Subset.refl pending
  | finish snapshot done => exact List.Subset.refl []

/-- No turn changes what will be known in the end. -/
theorem Step.forecast_eq (h : Step a failure s t) : t.forecast = s.forecast := by
  cases h with
  | work effect pending channel snapshot done =>
    cases he : effect.event? with
    | none => simp [forecast, untold, he]
    | some event => simp [forecast, untold, he]
  | tell pending event channel snapshot done => rfl
  | finish snapshot done => rfl

/-- No turn changes what will have been done in the end of a kind that does not occur in the
work. -/
theorem Step.done_ahead_eq {β : Type} {f : Effect → Option β} (h : Step a failure s t)
    (hs : ∀ e ∈ s.pending, f e = none) :
    (t.done ++ t.ahead a failure).filterMap f = (s.done ++ s.ahead a failure).filterMap f := by
  have hforecast := h.forecast_eq
  cases h with
  | work effect pending channel snapshot done =>
    have hnone : f effect = none := hs effect List.mem_cons_self
    have huntold : untold ⟨pending, channel ++ effect.event?.toList, snapshot, done ++ [effect],
        none⟩ = untold ⟨effect :: pending, channel, snapshot, done, none⟩ := by
      cases he : effect.event? with
      | none => simp [untold, he]
      | some event => simp [untold, he]
    simp only [ahead, hforecast, huntold, List.filterMap_append, List.filterMap_cons, hnone,
      List.filterMap_nil, List.append_nil]
  | tell pending event channel snapshot done =>
    simp only [ahead, hforecast]
    simp [untold]
  | finish snapshot done => simp [ahead, untold, forecast]

theorem Runs.forecast_eq (h : Runs a failure s t) : t.forecast = s.forecast := by
  induction h with
  | refl => rfl
  | step first rest ih => rw [ih, first.forecast_eq]

theorem Runs.done_ahead_eq {β : Type} {f : Effect → Option β} (h : Runs a failure s t)
    (hs : ∀ e ∈ s.pending, f e = none) :
    (t.done ++ t.ahead a failure).filterMap f = (s.done ++ s.ahead a failure).filterMap f := by
  induction h with
  | refl => rfl
  | step first rest ih =>
    rw [ih fun e he => hs e (first.pending_subset he), first.done_ahead_eq hs]

/-- The program has not ended, or there is nothing left to do and it has ended as the work has. -/
def Settled (failure : Option Failure) (t : Tasks) : Prop :=
  t.outcome = none ∨ t.untold = [] ∧ t.outcome = some failure

theorem Step.settled (h : Step a failure s t) : t.Settled failure := by
  cases h with
  | work effect pending channel snapshot done => exact .inl rfl
  | tell pending event channel snapshot done => exact .inl rfl
  | finish snapshot done => exact .inr ⟨rfl, rfl⟩

theorem Runs.settled (h : Runs a failure s t) (hs : s.Settled failure) : t.Settled failure := by
  induction h with
  | refl => exact hs
  | step first rest ih => exact ih first.settled

variable {work : List Effect}

/-- However the tasks took turns, the program has ended as the work has, and knows of the update
what all its events amount to. -/
theorem Runs.outcome_eq (h : Runs a failure (start work) t) (ht : t.Ended) :
    t.outcome = some failure ∧
      t.snapshot = .ofEvents (work.filterMap Effect.event?) := by
  obtain hnone | ⟨huntold, hsome⟩ := h.settled (.inl rfl)
  · exact absurd hnone ht
  · have hforecast := h.forecast_eq
    rw [forecast, huntold] at hforecast
    exact ⟨hsome, hforecast⟩

/-- However the tasks took turns, the same of any kind has been done in the end, if it is of a kind
that does not occur in the work. -/
theorem Runs.filterMap_done {β : Type} {f : Effect → Option β}
    (h : Runs a failure (start work) t) (ht : t.Ended) (hw : ∀ e ∈ work, f e = none) :
    t.done.filterMap f = ((work.filterMap Effect.event?).map (Run.tell a) ++
      closing failure (.ofEvents (work.filterMap Effect.event?))).filterMap f := by
  have hdone := h.done_ahead_eq hw
  obtain ⟨houtcome, -⟩ := h.outcome_eq ht
  rw [ahead, houtcome] at hdone
  exact (congrArg (List.filterMap f) (List.append_nil t.done)).symm.trans hdone

theorem Step.turns_lt (h : Step a failure s t) : t.turns < s.turns := by
  cases h with
  | work effect pending channel snapshot done =>
    have hle : effect.event?.toList.length ≤ 1 := Option.length_toList_le
    simp only [turns, List.length_cons, List.length_append]
    omega
  | tell pending event channel snapshot done => simp [turns]
  | finish snapshot done => simp [turns]

/-- As long as the program has not ended, one of the tasks can go on. -/
theorem exists_step (h : ¬ s.Ended) : ∃ t, Step a failure s t := by
  obtain ⟨pending, channel, snapshot, done, outcome⟩ := s
  obtain rfl : outcome = none := Classical.not_not.1 h
  cases pending with
  | cons effect pending => exact ⟨_, .work effect pending channel snapshot done⟩
  | nil =>
    cases channel with
    | cons event channel => exact ⟨_, .tell [] event channel snapshot done⟩
    | nil => exact ⟨_, .finish snapshot done⟩

theorem toList_telling (a : Arguments) (work : Array Effect) :
    (Run.telling a work).toList =
      work.toList.flatMap fun e => e :: (e.event?.map (Run.tell a)).toList := by
  rw [Run.telling, Array.toList_flatMap]
  congr 1
  funext e
  cases e <;> rfl

/-- To tell each event at once is one of the orders. -/
theorem runs_telling (a : Arguments) (failure : Option Failure) (work : Array Effect) :
    let snapshot := UpdateSnapshot.ofEvents (work.toList.filterMap Effect.event?)
    Runs a failure (start work.toList)
      ⟨[], [], snapshot, (Run.telling a work).toList ++ closing failure snapshot,
        some failure⟩ := by
  have hruns : ∀ work snapshot done,
      let last := (work.filterMap Effect.event?).foldl UpdateSnapshot.apply snapshot
      Runs a failure ⟨work, [], snapshot, done, none⟩ ⟨[], [], last,
        done ++ (work.flatMap fun e => e :: (e.event?.map (Run.tell a)).toList) ++
          closing failure last, some failure⟩ := by
    intro work
    induction work with
    | nil =>
      intro snapshot done
      rw [List.flatMap_nil, List.append_nil]
      exact .step (.finish snapshot done) (.refl _)
    | cons effect rest ih =>
      intro snapshot done
      refine .step (.work effect rest [] snapshot done) ?_
      cases he : effect.event? with
      | none => simpa [he] using ih snapshot (done ++ [effect])
      | some event =>
        refine .step (.tell rest event [] snapshot (done ++ [effect])) ?_
        simpa [he] using ih (snapshot.apply event) (done ++ [effect] ++ [Run.tell a event])
  rw [toList_telling]
  exact hruns work.toList {} []

end Schedules

end Tasks

end CommandLine

end Shdlc
