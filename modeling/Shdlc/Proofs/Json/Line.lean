import Shdlc.Json.Writer
import Shdlc.Proofs.Json.Numerals
/-!
What stands in a JSON text. Main statement: `printed_render`, there is no control character in it,
so it stands on one line.
-/
namespace Shdlc

namespace Json

/-- Whether there are no control characters. -/
def Printed (cs : List Char) : Prop := ∀ c ∈ cs, 0x20 ≤ c.toNat

instance (cs : List Char) : Decidable (Printed cs) :=
  List.decidableBAll (fun c : Char => 0x20 ≤ c.toNat) cs

section Printed

variable {cs ds : List Char}

theorem Printed.append (h : Printed cs) (h' : Printed ds) : Printed (cs ++ ds) :=
  fun c hc => (List.mem_append.1 hc).elim (h c) (h' c)

theorem Printed.cons {c : Char} (hc : 0x20 ≤ c.toNat) (h : Printed cs) : Printed (c :: cs) :=
  List.forall_mem_cons.2 ⟨hc, h⟩

theorem Printed.of_subset (h : Printed cs) (hs : ds ⊆ cs) : Printed ds :=
  fun c hc => h c (hs hc)

theorem printed_toDigits (n : Nat) : Printed (Nat.toDigits 10 n) := by
  intro c hc
  have hdigit := Nat.isDigit_of_mem_toDigits (by decide) (Nat.le_refl 10) hc
  rw [Char.isDigit, Bool.and_eq_true, decide_eq_true_iff] at hdigit
  exact Nat.le_trans (by decide) (UInt32.le_iff_toNat_le.1 hdigit.1)

theorem printed_natural (n : Nat) : Printed (toString n).toList := by
  have h : (toString n).toList = Nat.toDigits 10 n := Nat.toList_repr
  rw [h]
  exact printed_toDigits n

theorem printed_integer (n : Int) : Printed (toString n).toList := by
  have hsign : Printed (if n < 0 then ['-'] else []) := by split <;> decide
  rw [Numeral.toList_toString]
  exact hsign.append (printed_toDigits _)

theorem printed_zeros (n : Nat) : Printed (List.replicate n '0') := by
  intro c hc
  rw [List.eq_of_mem_replicate hc]
  decide

theorem printed_scientificDigits (h : Printed cs) : Printed (scientificDigits cs) := by
  match cs, h with
  | [], h => exact h
  | [_], h => exact h
  | d :: e :: rest, h =>
    obtain ⟨hd, hrest⟩ := List.forall_mem_cons.1 h
    exact .cons hd (.cons (by decide) hrest)

theorem printed_layOut (h : Printed cs) (exponent : Int) : Printed (layOut cs exponent) := by
  have hpadded := h.append (printed_zeros (exponent.toNat + 1 - cs.length))
  simp only [layOut]
  split
  · split
    · exact .cons (by decide) (.cons (by decide) ((printed_zeros _).append h))
    · refine .append (hpadded.of_subset (List.take_subset _ _)) (.cons (by decide) ?_)
      split
      · decide
      · exact hpadded.of_subset (List.drop_subset _ _)
  · refine (printed_scientificDigits h).append (.cons (by decide) (.cons ?_ (printed_natural _)))
    split <;> decide

theorem printed_doubleText (x : Double) : Printed (doubleText x).toList := by
  have hsign : Printed (if x.isNegative then ['-'] else []) := by split <;> decide
  have hdigits : Printed
      ((toString (Decimal.shortest x).digits).toList.reverse.dropWhile (· == '0')).reverse := by
    apply (printed_natural (Decimal.shortest x).digits).of_subset
    intro c hc
    exact List.mem_reverse.1 ((List.dropWhile_sublist _).subset (List.mem_reverse.1 hc))
  simp only [doubleText]
  generalize (if x.isNegative then ['-'] else []) = sign at hsign
  split
  · decide
  split
  · rw [String.toList_ofList]
    exact hsign.append (by decide)
  · rw [String.toList_ofList]
    exact hsign.append (printed_layOut hdigits _)

theorem printed_escapeChar (c : Char) : Printed (escapeChar c) := by
  have hsmall : ∀ n : Fin 16, 0x20 ≤ (Hexadecimal.small n.val).toNat := by decide
  simp only [escapeChar]
  repeat' split
  all_goals try decide
  · next hc =>
    have hhigh := hsmall ⟨c.toNat / 16, by omega⟩
    have hlow := hsmall ⟨c.toNat % 16, by omega⟩
    have hfront : Printed ['\\', 'u', '0', '0'] := by decide
    exact hfront.append (.cons hhigh (.cons hlow nofun))
  · next hc => exact .cons (Nat.not_lt.1 hc) nofun

theorem printed_quote (s : String) : Printed (quote s).toList := by
  rw [quote, String.toList_ofList]
  refine .cons (by decide) (.append ?_ (.cons (by decide) nofun))
  intro c hc
  obtain ⟨d, -, hd⟩ := List.mem_flatMap.1 hc
  exact printed_escapeChar d c hd

theorem Printed.join {s t : String} (h : Printed s.toList) (h' : Printed t.toList) :
    Printed (s ++ t).toList := by
  rw [String.toList_append]
  exact h.append h'

mutual

/-- The text of a value stands on one line. -/
theorem printed_render : ∀ v : Json, Printed v.render.toList
  | .null => by decide
  | .bool b => by cases b <;> decide
  | .number (.integer n) => printed_integer n
  | .number (.double x) => printed_doubleText x
  | .text s => printed_quote s
  | .array elements => by
    rw [render]
    exact (Printed.join (by decide) (printed_renderElements elements)).join (by decide)
  | .object members => by
    rw [render]
    exact (Printed.join (by decide) (printed_renderMembers members)).join (by decide)
  | .unreadable => by decide

theorem printed_renderElements : ∀ elements : List Json,
    Printed (renderElements elements).toList
  | [] => by decide
  | [v] => printed_render v
  | v :: w :: rest => by
    rw [renderElements]
    · exact ((printed_render v).join (by decide)).join (printed_renderElements (w :: rest))
    · exact nofun

theorem printed_renderMembers : ∀ members : List (String × Json),
    Printed (renderMembers members).toList
  | [] => by decide
  | [(name, v)] => by
    rw [renderMembers]
    exact ((printed_quote name).join (by decide)).join (printed_render v)
  | (name, v) :: m :: rest => by
    rw [renderMembers]
    · exact ((((printed_quote name).join (by decide)).join (printed_render v)).join
        (by decide)).join (printed_renderMembers (m :: rest))
    · exact nofun

end

end Printed

end Json

end Shdlc
