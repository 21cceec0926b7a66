import Shdlc.Progress
import Shdlc.Proofs.Decimal.Order
import Shdlc.Proofs.Work
/-!
What is known of an update after its events. Main statement: `ofEvents_shows`, a snapshot shows the
latest status and the latest percentage, and the latter is a number from 0 to 100.
-/
namespace Shdlc

namespace UpdateEvent

def status? : UpdateEvent → Option String
  | .status text => some text
  | .progress _ => none

def percent? : UpdateEvent → Option Double
  | .status _ => none
  | .progress percent => some percent

end UpdateEvent

section Percentages

open Double

variable {x : Double}

/-- The percentage that is shown when the latest one is `last`. -/
def shownPercent : Option Double → Double
  | none => zero
  | some x =>
    if x.toFloat.isNaN then zero
    else if x.toFloat < 0 then zero
    else if 100 < x.toFloat then hundred
    else x

theorem clampPercent_eq (x : Double) : clampPercent x = shownPercent (some x) := by
  simp only [clampPercent, shownPercent, ← toFloat_zero, ← toFloat_hundred, isNaN_toFloat,
    toFloat_lt_iff]

/-- A number within the bounds, both included. -/
structure IsPercentage (x : Double) : Prop where
  isNumber : x.toFloat.isNaN = false
  least : 0 ≤ x.toFloat
  most : x.toFloat ≤ 100

theorem isPercentage_zero : IsPercentage zero := ⟨by decide, by decide, by decide⟩

theorem isPercentage_hundred : IsPercentage hundred := ⟨by decide, by decide, by decide⟩

theorem isPercentage_shownPercent (last : Option Double) : IsPercentage (shownPercent last) := by
  cases last with
  | none => exact isPercentage_zero
  | some x =>
    simp only [shownPercent]
    split
    · exact isPercentage_zero
    · next hnumber =>
      rw [Bool.not_eq_true] at hnumber
      have hx : x.isNaN = false := (isNaN_toFloat x).symm.trans hnumber
      split
      · exact isPercentage_zero
      · next hleast =>
        split
        · exact isPercentage_hundred
        · next hmost =>
          rw [← toFloat_zero, not_toFloat_lt_iff hx rfl] at hleast
          rw [← toFloat_hundred, not_toFloat_lt_iff rfl hx] at hmost
          exact ⟨hnumber, hleast, hmost⟩

theorem shownPercent_of_isPercentage (h : IsPercentage x) : shownPercent (some x) = x := by
  have hx : x.isNaN = false := (isNaN_toFloat x).symm.trans h.isNumber
  have hleast : ¬ x.toFloat < 0 := by
    rw [← toFloat_zero, not_toFloat_lt_iff hx rfl, toFloat_zero]
    exact h.least
  have hmost : ¬ 100 < x.toFloat := by
    rw [← toFloat_hundred, not_toFloat_lt_iff rfl hx, toFloat_hundred]
    exact h.most
  rw [shownPercent, h.isNumber, if_neg Bool.false_ne_true, if_neg hleast, if_neg hmost]

theorem clampPercent_clampPercent (x : Double) :
    clampPercent (clampPercent x) = clampPercent x := by
  rw [clampPercent_eq (clampPercent x)]
  refine shownPercent_of_isPercentage ?_
  rw [clampPercent_eq]
  exact isPercentage_shownPercent (some x)

theorem hundred_le_shownPercent_iff (last : Option Double) :
    100 ≤ (shownPercent last).toFloat ↔ ∃ x, last = some x ∧ 100 ≤ x.toFloat := by
  cases last with
  | none => exact iff_of_false (by decide) (by rintro ⟨_, ⟨⟩, -⟩)
  | some x =>
    have hlast : (∃ y, some x = some y ∧ 100 ≤ y.toFloat) ↔ 100 ≤ x.toFloat := by simp
    rw [hlast]
    simp only [shownPercent]
    split
    · next hnumber =>
      refine iff_of_false (by decide) fun h => ?_
      rw [← toFloat_hundred, toFloat_le_iff, ← isNaN_toFloat x, hnumber] at h
      cases h.2.1
    · next hnumber =>
      split
      · next hlow =>
        refine iff_of_false (by decide) fun h => ?_
        rw [← toFloat_zero] at hlow
        rw [← toFloat_hundred] at h
        exact absurd (toFloat_le_trans h (toFloat_le_of_lt hlow)) (by decide)
      · split
        · next hhigh =>
          rw [← toFloat_hundred] at hhigh ⊢
          exact iff_of_true (by decide) (toFloat_le_of_lt hhigh)
        · exact Iff.rfl

end Percentages

namespace UpdateSnapshot

theorem events_foldl (s : UpdateSnapshot) (l : List UpdateEvent) :
    (l.foldl apply s).events = s.events + l.length := by
  induction l generalizing s with
  | nil => rfl
  | cons event rest ih =>
    rw [List.foldl_cons, ih, List.length_cons]
    cases event with
    | status text => simp only [apply]; omega
    | progress percent => simp only [apply]; omega

theorem events_ofEvents (events : List UpdateEvent) : (ofEvents events).events = events.length :=
  (events_foldl {} events).trans (Nat.zero_add _)

theorem status_apply (s : UpdateSnapshot) (e : UpdateEvent) :
    (s.apply e).status = (e.status?.map some).getD s.status := by
  cases e with
  | status text => rfl
  | progress percent => rfl

theorem percent_apply (s : UpdateSnapshot) (e : UpdateEvent) :
    (s.apply e).percent = (e.percent?.map clampPercent).getD s.percent := by
  cases e with
  | status text => rfl
  | progress percent => rfl

theorem status_ofEvents (events : List UpdateEvent) :
    (ofEvents events).status = (events.filterMap UpdateEvent.status?).getLast? := by
  have hlast : (ofEvents events).status =
      (events.filterMap fun e => e.status?.map some).getLast?.getD none :=
    Work.view_foldl_eq_getLast status_apply {} events
  rw [hlast, ← List.map_filterMap, List.getLast?_map]
  cases (events.filterMap UpdateEvent.status?).getLast? with
  | none => rfl
  | some text => rfl

theorem percent_ofEvents (events : List UpdateEvent) :
    (ofEvents events).percent =
      shownPercent (events.filterMap UpdateEvent.percent?).getLast? := by
  have hlast : (ofEvents events).percent =
      (events.filterMap fun e => e.percent?.map clampPercent).getLast?.getD Double.zero :=
    Work.view_foldl_eq_getLast percent_apply {} events
  rw [hlast, ← List.map_filterMap, List.getLast?_map]
  cases (events.filterMap UpdateEvent.percent?).getLast? with
  | none => rfl
  | some x => exact clampPercent_eq x

theorem isFinished_iff (s : UpdateSnapshot) : s.isFinished ↔ 100 ≤ s.percent.toFloat := by
  rw [isFinished, ← Double.toFloat_hundred]
  cases hn : s.percent.isNaN with
  | true =>
    refine iff_of_false nofun fun h => ?_
    cases hn.symm.trans ((Double.toFloat_le_iff _ _).1 h).2.1
  | false =>
    rw [← Double.not_toFloat_lt_iff hn rfl, Double.toFloat_lt_iff]
    simp

/-- After any events a snapshot shows how many there were, the latest status and the latest
percentage. What is no number is shown as 0, and what is out of bounds as the nearer of 0 and 100,
whether it was brought into its bounds before or not. -/
theorem ofEvents_shows (events : List UpdateEvent) :
    let s := ofEvents events
    let last := (events.filterMap UpdateEvent.percent?).getLast?
    s.events = events.length ∧
    s.status = (events.filterMap UpdateEvent.status?).getLast? ∧
    s.percent = shownPercent last ∧
    (s.percent.toFloat.isNaN = false ∧ 0 ≤ s.percent.toFloat ∧ s.percent.toFloat ≤ 100) ∧
    (s.isFinished ↔ ∃ x, last = some x ∧ 100 ≤ x.toFloat) ∧
    ∀ (t : UpdateSnapshot) x, t.apply (.ofPercent x) = t.apply (.progress x) := by
  intro s last
  have hpercent : s.percent = shownPercent last := percent_ofEvents events
  have hbounds := isPercentage_shownPercent last
  refine ⟨events_ofEvents events, status_ofEvents events, hpercent, ?_, ?_, fun t x => ?_⟩
  · rw [hpercent]
    exact ⟨hbounds.isNumber, hbounds.least, hbounds.most⟩
  · rw [isFinished_iff, hpercent]
    exact hundred_le_shownPercent_iff last
  · simp only [UpdateEvent.ofPercent, apply, clampPercent_clampPercent]

end UpdateSnapshot

end Shdlc
