import Shdlc.Proofs.Json.Numerals
/-!
Other ways to write a structure, and ways to spoil it. Main statements: the fields of a structure
are the same however it is written, and those of one that is spoilt are not all there or spoilt
themselves.
-/
namespace Shdlc

namespace Json

/-- Values that hold no others. -/
inductive IsScalar : Json → Prop
  | text (s : String) : IsScalar (.text s)
  | integer (n : Int) : IsScalar (ofInt n)
  | bool (b : Bool) : IsScalar (.bool b)
  | null : IsScalar .null

mutual

/-- Whether a value is written in another way: the members of an object in any order among others
with unknown names, or as the elements of an array in their order. -/
inductive Rewrites : Json → Json → Prop
  | same (v : Json) : Rewrites v v
  | object {members written added all : List (String × Json)} (each : RewritesEach members written)
      (unknown : ∀ m ∈ added, m.1 ∉ members.map (·.1)) (scalar : ∀ m ∈ added, IsScalar m.2)
      (shuffled : all.Perm (written ++ added)) : Rewrites (.object members) (.object all)
  | array {members written : List (String × Json)} (each : RewritesEach members written) :
      Rewrites (.object members) (.array (written.map (·.2)))

inductive RewritesEach : List (String × Json) → List (String × Json) → Prop
  | nil : RewritesEach [] []
  | cons {name : String} {v w : Json} {members written : List (String × Json)}
      (value : Rewrites v w) (rest : RewritesEach members written) :
      RewritesEach ((name, v) :: members) ((name, w) :: written)

end

/-- What is known of the values of a type. -/
inductive Shape where
  /-- Integers of at most `most`. -/
  | natural (most : Nat)
  /-- Flags and texts. -/
  | other
  | record (fields : List (String × Shape))

/-- Whether a value cannot be of a shape: a number is out of range, or a structure lacks a field,
has it twice or has a value in it that is spoilt. -/
inductive Spoils : Shape → Json → Prop
  | outOfRange {most : Nat} {n : Int} (outside : ¬ (0 ≤ n ∧ n ≤ most)) :
      Spoils (.natural most) (ofInt n)
  | missing {fields : List (String × Shape)} {members : List (String × Json)} {name : String}
      (known : name ∈ fields.map (·.1)) (absent : name ∉ members.map (·.1)) :
      Spoils (.record fields) (.object members)
  | repeated {fields : List (String × Shape)} {members : List (String × Json)} {name : String}
      (known : name ∈ fields.map (·.1)) (twice : 2 ≤ (members.map (·.1)).count name) :
      Spoils (.record fields) (.object members)
  | member {fields : List (String × Shape)} {members : List (String × Json)} {name : String}
      {shape : Shape} {v : Json} (known : (name, shape) ∈ fields) (present : (name, v) ∈ members)
      (value : Spoils shape v) : Spoils (.record fields) (.object members)
  | count {fields : List (String × Shape)} {elements : List Json}
      (other : elements.length ≠ fields.length) : Spoils (.record fields) (.array elements)
  | element {fields : List (String × Shape)} {elements : List Json} {name : String} {shape : Shape}
      {v : Json} (present : ((name, shape), v) ∈ fields.zip elements) (value : Spoils shape v) :
      Spoils (.record fields) (.array elements)

section Members

variable {members written added all : List (String × Json)} {v w : Json} {name : String}

theorem RewritesEach.refl (members : List (String × Json)) : RewritesEach members members := by
  induction members with
  | nil => exact .nil
  | cons m rest ih => exact .cons (.same m.2) ih

theorem rewritesEach_nil_iff : RewritesEach [] written ↔ written = [] := by
  constructor
  · rintro ⟨⟩
    rfl
  · rintro rfl
    exact .nil

theorem rewritesEach_cons_iff : RewritesEach ((name, v) :: members) written ↔
    ∃ w, Rewrites v w ∧ ∃ rest, RewritesEach members rest ∧ written = (name, w) :: rest := by
  constructor
  · rintro @⟨⟩
    next value rest => exact ⟨_, value, _, rest, rfl⟩
  · rintro ⟨w, value, rest, others, rfl⟩
    exact .cons value others

theorem RewritesEach.names_eq (h : RewritesEach members written) :
    written.map (·.1) = members.map (·.1) := by
  induction members generalizing written with
  | nil =>
    cases h
    rfl
  | cons m rest ih =>
    cases h with
    | cons value others => rw [List.map_cons, List.map_cons, ih others]

theorem filter_eq_singleton (h : (members.map (·.1)).Nodup) {m : String × Json}
    (hm : m ∈ members) : members.filter (·.1 = m.1) = [m] := by
  induction members with
  | nil => cases hm
  | cons first rest ih =>
    rw [List.map_cons, List.nodup_cons] at h
    obtain ⟨hfirst, hrest⟩ := h
    rcases List.mem_cons.1 hm with rfl | hm
    · have hnone : rest.filter (·.1 = m.1) = [] := by
        rw [List.filter_eq_nil_iff]
        intro other ho he
        exact hfirst (of_decide_eq_true he ▸ List.mem_map_of_mem ho)
      rw [List.filter_cons_of_pos (by simp), hnone]
    · have hne : first.1 ≠ m.1 := fun he => hfirst (he ▸ List.mem_map_of_mem hm)
      rw [List.filter_cons_of_neg (by simpa using hne), ih hrest hm]

/-- A member is found in any order, among others with other names. -/
theorem member?_of_perm (hn : (written.map (·.1)).Nodup)
    (hu : ∀ m ∈ added, m.1 ∉ written.map (·.1)) (hp : all.Perm (written ++ added))
    {m : String × Json} (hm : m ∈ written) : member? all m.1 = some (some m.2) := by
  have hadded : added.filter (·.1 = m.1) = [] := by
    rw [List.filter_eq_nil_iff]
    intro other ho he
    exact hu other ho (of_decide_eq_true he ▸ List.mem_map_of_mem hm)
  have hfilter : all.filter (·.1 = m.1) = [m] := by
    have h := hp.filter (·.1 = m.1)
    rw [List.filter_append, filter_eq_singleton hn hm, hadded] at h
    exact List.perm_singleton.1 h
  rw [member?, hfilter]

theorem fields?_of_forall (h : ∀ m ∈ written, member? all m.1 = some (some m.2)) :
    (written.map (·.1)).mapM (member? all) = some (written.map fun m => some m.2) := by
  induction written with
  | nil => rfl
  | cons m rest ih =>
    have hrest := ih fun n hn => h n (List.mem_cons_of_mem m hn)
    rw [List.map_cons, List.mapM_cons, h m List.mem_cons_self, hrest]
    rfl

/-- The fields of a structure, however it is written. -/
theorem exists_fields?_of_rewrites (hn : (members.map (·.1)).Nodup)
    (h : Rewrites (.object members) v) :
    ∃ written, RewritesEach members written ∧
      v.fields? (members.map (·.1)) = some (written.map fun m => some m.2) := by
  cases h with
  | same =>
    refine ⟨members, .refl members, fields?_of_forall fun m hm => ?_⟩
    rw [member?, filter_eq_singleton hn hm]
  | @object _ written added all each unknown scalar shuffled =>
    refine ⟨written, each, ?_⟩
    rw [← each.names_eq] at hn unknown ⊢
    exact fields?_of_forall fun m hm => member?_of_perm hn unknown shuffled hm
  | @array _ written each =>
    refine ⟨written, each, ?_⟩
    rw [← each.names_eq, fields?, if_pos (by simp), List.map_map]
    rfl

end Members

section Spoilt

variable {fields : List (String × Shape)} {members : List (String × Json)} {v : Json}
  {values : List (Option Json)} {name : String}

/-- What a structure that is read from an object has for each of its fields. -/
theorem exists_member?_of_mapM
    (h : (fields.map (·.1)).mapM (member? members) = some values) {field : String × Shape}
    (hm : field ∈ fields) :
    ∃ value, (field, value) ∈ fields.zip values ∧ member? members field.1 = some value := by
  induction fields generalizing values with
  | nil => cases hm
  | cons first rest ih =>
    rw [List.map_cons, List.mapM_cons, Option.bind_eq_bind, Option.bind_eq_some_iff] at h
    obtain ⟨value, hvalue, h⟩ := h
    rw [Option.bind_eq_bind, Option.bind_eq_some_iff] at h
    obtain ⟨others, hothers, h⟩ := h
    obtain rfl : value :: others = values := by simpa using h
    rcases List.mem_cons.1 hm with rfl | hm
    · exact ⟨value, List.mem_cons_self, hvalue⟩
    · obtain ⟨w, hw, hmember⟩ := ih hothers hm
      exact ⟨w, List.mem_cons_of_mem _ hw, hmember⟩

theorem member?_of_notMem (h : name ∉ members.map (·.1)) : member? members name = some none := by
  have hnone : members.filter (·.1 = name) = [] := by
    rw [List.filter_eq_nil_iff]
    intro m hm he
    exact h (of_decide_eq_true he ▸ List.mem_map_of_mem hm)
  rw [member?, hnone]

theorem member?_of_two_le_count (h : 2 ≤ (members.map (·.1)).count name) :
    member? members name = none := by
  have hlen : 2 ≤ (members.filter (·.1 = name)).length := by
    rw [List.count_eq_countP, List.countP_map, List.countP_eq_length_filter] at h
    exact h
  rw [member?]
  generalize members.filter (·.1 = name) = found at hlen
  match found, hlen with
  | [], h => cases h
  | [m], h => exact absurd h (Nat.not_le.2 Nat.one_lt_two)
  | m :: n :: rest, _ => rfl

theorem member?_of_mem (hm : (name, v) ∈ members) {value : Option Json}
    (h : member? members name = some value) : value = some v := by
  have hf : (name, v) ∈ members.filter (·.1 = name) := List.mem_filter.2 ⟨hm, by simp⟩
  rw [member?] at h
  generalize members.filter (·.1 = name) = found at hf h
  match found with
  | [] => cases hf
  | [(other, w)] =>
    obtain ⟨-, rfl⟩ := Prod.mk.inj (List.mem_singleton.1 hf)
    exact (Option.some.inj h).symm
  | m :: n :: rest => cases h

/-- A field of a structure that is spoilt is not there, or spoilt itself. -/
theorem exists_spoils_of_fields? (h : Spoils (.record fields) v)
    (hf : v.fields? (fields.map (·.1)) = some values) :
    ∃ p ∈ fields.zip values, p.2 = none ∨ ∃ w, p.2 = some w ∧ Spoils p.1.2 w := by
  cases h with
  | @missing _ members name known absent =>
    obtain ⟨field, hfield, rfl⟩ := List.mem_map.1 known
    obtain ⟨value, hp, hvalue⟩ := exists_member?_of_mapM hf hfield
    rw [member?_of_notMem absent] at hvalue
    exact ⟨_, hp, .inl (Option.some.inj hvalue).symm⟩
  | @repeated _ members name known twice =>
    obtain ⟨field, hfield, rfl⟩ := List.mem_map.1 known
    obtain ⟨value, hp, hvalue⟩ := exists_member?_of_mapM hf hfield
    rw [member?_of_two_le_count twice] at hvalue
    cases hvalue
  | @member _ members name shape w known present spoilt =>
    obtain ⟨value, hp, hvalue⟩ := exists_member?_of_mapM hf known
    exact ⟨_, hp, .inr ⟨w, member?_of_mem present hvalue, spoilt⟩⟩
  | @count _ elements other =>
    rw [fields?, List.length_map, if_neg other] at hf
    cases hf
  | @element _ elements name shape w present spoilt =>
    rw [fields?] at hf
    split at hf
    · cases hf
      refine ⟨((name, shape), some w), ?_, .inr ⟨w, rfl, spoilt⟩⟩
      rw [List.zip_map_right]
      exact List.mem_map_of_mem present
    · cases hf

end Spoilt

end Json

end Shdlc
