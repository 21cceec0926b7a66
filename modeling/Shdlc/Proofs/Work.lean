/-!
Work that changes a state and may fail: what a sequence of two steps does, told by what each does.
-/
namespace Shdlc

namespace Work

variable {ε σ α β : Type}

/-- The outcome of work that leaves the state `s`. -/
def outcome (s : σ) : Except ε α → EStateM.Result ε σ α
  | .ok a => .ok a s
  | .error e => .error e s

def final : EStateM.Result ε σ α → σ
  | .ok _ s | .error _ s => s

theorem outcome_inj {x y : Except ε α} {s t : σ} (h : outcome s x = outcome t y) : x = y := by
  cases x <;> cases y <;> cases h <;> rfl

theorem bind_of_ok {x : EStateM ε σ α} {f : α → EStateM ε σ β} {s s' : σ} {a : α}
    (h : x s = .ok a s') : (x >>= f) s = f a s' := by
  simp only [bind, EStateM.bind, h]

theorem bind_of_error {x : EStateM ε σ α} {f : α → EStateM ε σ β} {s s' : σ} {e : ε}
    (h : x s = .error e s') : (x >>= f) s = .error e s' := by
  simp only [bind, EStateM.bind, h]

theorem map_of_ok {x : EStateM ε σ α} {s s' : σ} {a : α} (h : x s = .ok a s') (f : α → β) :
    (f <$> x) s = .ok (f a) s' := by
  simp only [Functor.map, EStateM.map, h]

theorem bind_eq_ok_iff {x : EStateM ε σ α} {f : α → EStateM ε σ β} {s s' : σ} {b : β} :
    (x >>= f) s = .ok b s' ↔ ∃ a t, x s = .ok a t ∧ f a t = .ok b s' := by
  cases h : x s with
  | ok a t =>
    rw [bind_of_ok h]
    constructor
    · intro hf
      exact ⟨a, t, rfl, hf⟩
    · rintro ⟨_, _, ⟨⟩, hf⟩
      exact hf
  | error e t =>
    rw [bind_of_error h]
    constructor
    · intro hf
      cases hf
    · rintro ⟨_, _, ⟨⟩, -⟩

theorem bind_eq_error_iff {x : EStateM ε σ α} {f : α → EStateM ε σ β} {s s' : σ} {e : ε} :
    (x >>= f) s = .error e s' ↔ x s = .error e s' ∨ ∃ a t, x s = .ok a t ∧ f a t = .error e s' := by
  cases h : x s with
  | ok a t =>
    rw [bind_of_ok h]
    constructor
    · intro hf
      exact .inr ⟨a, t, rfl, hf⟩
    · rintro (hx | ⟨_, _, ⟨⟩, hf⟩)
      · cases hx
      · exact hf
  | error e' t =>
    rw [bind_of_error h]
    constructor
    · intro hx
      cases hx
      exact .inl rfl
    · rintro (hx | ⟨_, _, hx, -⟩)
      · cases hx
        rfl
      · cases hx

theorem map_eq_ok_iff {x : EStateM ε σ α} {f : α → β} {s s' : σ} {b : β} :
    (f <$> x) s = .ok b s' ↔ ∃ a, x s = .ok a s' ∧ f a = b := by
  simp only [Functor.map, EStateM.map]
  cases x s with
  | ok a t =>
    constructor
    · rintro ⟨⟩
      exact ⟨a, rfl, rfl⟩
    · rintro ⟨_, ⟨⟩, rfl⟩
      rfl
  | error e t =>
    constructor
    · intro h
      cases h
    · rintro ⟨_, h, -⟩
      cases h

theorem map_eq_error_iff {x : EStateM ε σ α} {f : α → β} {s s' : σ} {e : ε} :
    (f <$> x) s = .error e s' ↔ x s = .error e s' := by
  simp only [Functor.map, EStateM.map]
  cases x s with
  | ok a t =>
    constructor
    · intro h
      cases h
    · intro h
      cases h
  | error e t =>
    constructor
    · intro h
      cases h
      rfl
    · intro h
      cases h
      rfl

/-- A part of a state that steps write or leave alone is what was written last. -/
theorem view_foldl_eq_getLast {ν : Type} {step : σ → β → σ} {view : σ → ν}
    {write? : β → Option ν} (h : ∀ s e, view (step s e) = (write? e).getD (view s)) (s : σ)
    (l : List β) : view (l.foldl step s) = (l.filterMap write?).getLast?.getD (view s) := by
  induction l generalizing s with
  | nil => rfl
  | cons e rest ih =>
    rw [List.foldl_cons, ih, h]
    cases hw : write? e with
    | none => rw [List.filterMap_cons_none hw, Option.getD_none]
    | some v =>
      rw [List.filterMap_cons_some hw, List.getLast?_cons, Option.getD_some, Option.getD_some]

section Keeps

variable {ν : Type}

/-- Whether work, however it ends, leaves alone what is seen of the state. -/
def Keeps (view : σ → ν) (x : EStateM ε σ α) : Prop := ∀ s, view (final (x s)) = view s

variable {view : σ → ν} {x : EStateM ε σ α}

theorem keeps_pure (a : α) : Keeps view (pure a : EStateM ε σ α) := fun _ => rfl

theorem keeps_throw (e : ε) : Keeps view (throw e : EStateM ε σ α) := fun _ => rfl

theorem keeps_get : Keeps view (get : EStateM ε σ σ) := fun _ => rfl

theorem keeps_modify {f : σ → σ} (h : ∀ s, view (f s) = view s) :
    Keeps view (modify f : EStateM ε σ Unit) := h

/-- What the second step leaves alone is as the first has left it. -/
theorem view_final_bind {f : α → EStateM ε σ β} (hf : ∀ a, Keeps view (f a)) (s : σ) :
    view (final ((x >>= f) s)) = view (final (x s)) := by
  cases h : x s with
  | ok a t =>
    rw [bind_of_ok h]
    exact hf a t
  | error e t => rw [bind_of_error h, final, final]

theorem Keeps.bind {f : α → EStateM ε σ β} (hx : Keeps view x) (hf : ∀ a, Keeps view (f a)) :
    Keeps view (x >>= f) := fun s => (view_final_bind hf s).trans (hx s)

theorem final_map (f : α → β) (s : σ) : final ((f <$> x) s) = final (x s) := by
  simp only [Functor.map, EStateM.map]
  cases x s with
  | ok a t => rfl
  | error e t => rfl

theorem Keeps.map (hx : Keeps view x) (f : α → β) : Keeps view (f <$> x) := fun s =>
  (congrArg view (final_map f s)).trans (hx s)

end Keeps

section Avoids

variable {p : ε → Prop} {x : EStateM ε σ α}

/-- Whether work, if it fails, fails with other errors than some. -/
def Avoids (p : ε → Prop) (x : EStateM ε σ α) : Prop := ∀ s e t, x s = .error e t → ¬ p e

theorem avoids_of_ok (h : ∀ s, ∃ a t, x s = .ok a t) : Avoids p x := by
  intro s e t hx
  obtain ⟨a, u, ha⟩ := h s
  cases ha.symm.trans hx

theorem Avoids.bind {f : α → EStateM ε σ β} (hx : Avoids p x) (hf : ∀ a, Avoids p (f a)) :
    Avoids p (x >>= f) := by
  intro s e t h
  obtain hx' | ⟨a, u, -, hf'⟩ := bind_eq_error_iff.1 h
  · exact hx s e t hx'
  · exact hf a u e t hf'

theorem Avoids.map (hx : Avoids p x) (f : α → β) : Avoids p (f <$> x) := fun s e t h =>
  hx s e t (map_eq_error_iff.1 h)

end Avoids

end Work

end Shdlc
