import Mathlib.Data.List.DropRight
import Shdlc.Text.Blank
/-!
Texts and the blanks around them. Main statement: `trim_eq_of_isPadded`, trimming leaves what stands
between the blanks at both ends.
-/
namespace Shdlc.Text

/-- Whether a text is `core` with blanks around it. -/
def IsPadded (core text : List Char) : Prop :=
  ∃ before after, text = before ++ core ++ after ∧ ∀ c ∈ before ++ after, isBlank c = true

/-- Whether no blank stands at either end of a text. -/
structure IsTrimmed (core : List Char) : Prop where
  head : ∀ c ∈ core.head?, isBlank c = false
  last : ∀ c ∈ core.getLast?, isBlank c = false

variable {core text : List Char}

theorem isPadded_self (text : List Char) : IsPadded text text :=
  ⟨[], [], (List.append_nil text).symm, fun _ hc => nomatch hc⟩

theorem isTrimmed_of_forall (h : ∀ c ∈ core, isBlank c = false) : IsTrimmed core :=
  ⟨fun c hc => h c (List.mem_of_head? hc), fun c hc => h c (List.mem_of_getLast? hc)⟩

/-- Blanks in front are dropped, up to what does not begin with one. -/
theorem dropWhile_isBlank_append {before rest : List Char} (hb : ∀ c ∈ before, isBlank c = true)
    (hr : ∀ c ∈ rest.head?, isBlank c = false) : (before ++ rest).dropWhile isBlank = rest := by
  rw [List.dropWhile_append_of_pos hb]
  cases rest with
  | nil => rfl
  | cons c rest => exact List.dropWhile_cons_of_neg (by simp [hr c rfl])

theorem trim_eq_of_isPadded (h : IsPadded core text) (hc : IsTrimmed core) : trim text = core := by
  obtain ⟨before, after, rfl, hb⟩ := h
  have hbefore : ∀ c ∈ before, isBlank c = true := fun c hm => hb c (List.mem_append_left _ hm)
  have hafter : ∀ c ∈ after.reverse, isBlank c = true := fun c hm =>
    hb c (List.mem_append_right _ (List.mem_reverse.1 hm))
  cases core with
  | nil =>
    have hall : (before ++ after ++ []).dropWhile isBlank = [] :=
      dropWhile_isBlank_append hb (fun c hm => nomatch hm)
    rw [List.append_nil] at hall
    rw [trim, List.append_nil, hall]
    rfl
  | cons c rest =>
    have hfront : (before ++ (c :: rest ++ after)).dropWhile isBlank = c :: rest ++ after :=
      dropWhile_isBlank_append hbefore hc.head
    have hback : (after.reverse ++ (c :: rest).reverse).dropWhile isBlank = (c :: rest).reverse := by
      apply dropWhile_isBlank_append hafter
      rw [List.head?_reverse]
      exact hc.last
    rw [trim, List.append_assoc, hfront, List.reverse_append, hback, List.reverse_reverse]

theorem isPadded_trim (text : List Char) : IsPadded (trim text) text := by
  have hsplit : trim text ++ (text.dropWhile isBlank).rtakeWhile isBlank =
      text.dropWhile isBlank := List.rdropWhile_append_rtakeWhile ..
  refine ⟨text.takeWhile isBlank, (text.dropWhile isBlank).rtakeWhile isBlank, ?_, ?_⟩
  · rw [List.append_assoc, hsplit, List.takeWhile_append_dropWhile]
  · intro c hc
    rcases List.mem_append.1 hc with hm | hm
    · exact List.mem_takeWhile_imp hm
    · exact List.mem_rtakeWhile_imp hm

/-- What is said of the core of a text, if it is never said of a core with blanks at an end, is said
of the trimmed text. -/
theorem exists_isPadded_iff {P : List Char → Prop} (hP : ∀ core, P core → IsTrimmed core) :
    (∃ core, IsPadded core text ∧ P core) ↔ P (trim text) := by
  constructor
  · rintro ⟨core, hpad, hcore⟩
    rwa [trim_eq_of_isPadded hpad (hP core hcore)]
  · intro h
    exact ⟨trim text, isPadded_trim text, h⟩

section Prefix

variable {rest : List Char}

theorem afterHexPrefix?_eq_some_iff :
    afterHexPrefix? text = some rest ↔ ∃ x, (x = 'x' ∨ x = 'X') ∧ text = '0' :: x :: rest := by
  constructor
  · intro h
    unfold afterHexPrefix? at h
    split at h
    · cases h
      exact ⟨'x', .inl rfl, rfl⟩
    · cases h
      exact ⟨'X', .inr rfl, rfl⟩
    · cases h
  · rintro ⟨x, rfl | rfl, rfl⟩
    · rfl
    · rfl

/-- The letter of a prefix is no blank. -/
theorem isBlank_eq_false_of_mark {x : Char} (h : x = 'x' ∨ x = 'X') : isBlank x = false := by
  rcases h with rfl | rfl
  · rfl
  · rfl

/-- The first two characters stay in front when no blank is among them. -/
theorem exists_trim_eq_cons_cons {before : List Char} {a b : Char}
    (hbefore : ∀ c ∈ before, isBlank c = true) (ha : isBlank a = false) (hb : isBlank b = false)
    (rest : List Char) : ∃ kept, trim (before ++ a :: b :: rest) = a :: b :: kept := by
  have hfront : (before ++ a :: b :: rest).dropWhile isBlank = a :: b :: rest := by
    apply dropWhile_isBlank_append hbefore
    rintro c ⟨⟩
    exact ha
  have hback : (a :: b :: rest).reverse = rest.reverse ++ [b, a] := by
    rw [List.reverse_cons, List.reverse_cons, List.append_assoc]
    rfl
  have hkept : [b, a].dropWhile isBlank = [b, a] := List.dropWhile_cons_of_neg (by simp [hb])
  rw [trim, hfront, hback, List.dropWhile_append, hkept]
  split
  · exact ⟨[], rfl⟩
  · exact ⟨_, List.reverse_append⟩

end Prefix

end Shdlc.Text
