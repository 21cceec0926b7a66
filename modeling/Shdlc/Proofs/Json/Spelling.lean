import Shdlc.Json.Writer
import Shdlc.Proofs.Json.Numerals
/-!
How JSON may be written: with blanks between the tokens, and the characters of texts escaped in any
way. Main statement: `spells_render`, the text that is written for a value spells it.
-/
namespace Shdlc

namespace Json

/-- Whether there is nothing but blanks. -/
def Blank (cs : List Char) : Prop := ∀ c ∈ cs, c = ' ' ∨ c = '\t' ∨ c = '\n' ∨ c = '\r'

def smallDigits : List Char :=
  ['0', '1', '2', '3', '4', '5', '6', '7', '8', '9', 'a', 'b', 'c', 'd', 'e', 'f']

def capitalDigits : List Char :=
  ['0', '1', '2', '3', '4', '5', '6', '7', '8', '9', 'A', 'B', 'C', 'D', 'E', 'F']

/-- Whether a character is a digit in base 16, small or capital, with this value. -/
def IsHex (value : Nat) (c : Char) : Prop :=
  smallDigits[value]? = some c ∨ capitalDigits[value]? = some c

/-- The characters that have a letter of their own behind a backslash. -/
def shortEscapes : List (Char × Char) :=
  [('"', '"'), ('\\', '\\'), ('/', '/'), ('\x08', 'b'), ('\x0c', 'f'), ('\n', 'n'), ('\r', 'r'),
    ('\t', 't')]

/-- Spellings of a UTF-16 unit by its number. -/
inductive SpellsUnit : Nat → List Char → Prop
  | digits {a b c d : Nat} {w x y z : Char} (first : IsHex a w) (second : IsHex b x)
      (third : IsHex c y) (fourth : IsHex d z) :
      SpellsUnit (((a * 16 + b) * 16 + c) * 16 + d) ['\\', 'u', w, x, y, z]

/-- Spellings of a character in quotes: as it is, with a letter behind a backslash, by the number of
its UTF-16 unit, or by the numbers of both of its units. -/
inductive SpellsChar : Char → List Char → Prop
  | plain {c : Char} (quote : c ≠ '"') (backslash : c ≠ '\\') (control : 0x20 ≤ c.toNat) :
      SpellsChar c [c]
  | short {c letter : Char} (letters : (c, letter) ∈ shortEscapes) : SpellsChar c ['\\', letter]
  | unit {c : Char} {w : List Char} (number : SpellsUnit c.toNat w) : SpellsChar c w
  | pair {c : Char} {high low : Nat} {w x : List Char} (first : SpellsUnit high w)
      (second : SpellsUnit low x) (isHigh : 0xD800 ≤ high ∧ high < 0xDC00)
      (isLow : 0xDC00 ≤ low ∧ low < 0xE000)
      (number : c.toNat = 0x10000 + (high - 0xD800) * 0x400 + (low - 0xDC00)) :
      SpellsChar c (w ++ x)

inductive SpellsChars : List Char → List Char → Prop
  | nil : SpellsChars [] []
  | cons {c : Char} {cs w ws : List Char} (first : SpellsChar c w) (rest : SpellsChars cs ws) :
      SpellsChars (c :: cs) (w ++ ws)

/-- Spellings of tokens; of numbers, the numerals of integers. -/
inductive SpellsToken : Token → List Char → Prop
  | openArray : SpellsToken .openArray ['[']
  | closeArray : SpellsToken .closeArray [']']
  | openObject : SpellsToken .openObject ['\x7b']
  | closeObject : SpellsToken .closeObject ['\x7d']
  | colon : SpellsToken .colon [':']
  | comma : SpellsToken .comma [',']
  | text {s : String} {w : List Char} (chars : SpellsChars s.toList w) :
      SpellsToken (.text (some s)) ('"' :: (w ++ ['"']))
  | null : SpellsToken (.scalar .null) ['n', 'u', 'l', 'l']
  | true : SpellsToken (.scalar (.bool Bool.true)) ['t', 'r', 'u', 'e']
  | false : SpellsToken (.scalar (.bool Bool.false)) ['f', 'a', 'l', 's', 'e']
  | integer (n : Int) : SpellsToken (.scalar (ofInt n)) (toString n).toList

/-- Spellings of tokens in a row, with blanks before, between and behind them. -/
inductive SpellsTokens : List Token → List Char → Prop
  | nil {blanks : List Char} (blank : Blank blanks) : SpellsTokens [] blanks
  | cons {t : Token} {ts : List Token} {blanks w rest : List Char} (blank : Blank blanks)
      (first : SpellsToken t w) (others : SpellsTokens ts rest) :
      SpellsTokens (t :: ts) (blanks ++ (w ++ rest))

mutual

/-- The tokens of a value. -/
def tokens : Json → List Token
  | .null => [.scalar .null]
  | .bool b => [.scalar (.bool b)]
  | .number n => [.scalar (.number n)]
  | .text s => [.text (some s)]
  | .array elements => .openArray :: (elementTokens elements ++ [.closeArray])
  | .object members => .openObject :: (memberTokens members ++ [.closeObject])
  | .unreadable => [.scalar .unreadable]

def elementTokens : List Json → List Token
  | [] => []
  | [v] => tokens v
  | v :: w :: rest => tokens v ++ .comma :: elementTokens (w :: rest)

def memberTokens : List (String × Json) → List Token
  | [] => []
  | [(name, v)] => .text (some name) :: .colon :: tokens v
  | (name, v) :: m :: rest =>
    .text (some name) :: .colon :: (tokens v ++ .comma :: memberTokens (m :: rest))

end

/-- Whether a text is a way to write a value. -/
def Spells (v : Json) (text : String) : Prop := SpellsTokens (tokens v) text.toList

section Rendering

mutual

/-- Whether a value can be read again: its numbers are integers that fit into a word. -/
def IsPlain : Json → Prop
  | .number (.integer n) => ofInt n = .number (.integer n)
  | .number (.double _) | .unreadable => False
  | .array elements => ArePlain elements
  | .object members => HavePlain members
  | .null | .bool _ | .text _ => True

def ArePlain : List Json → Prop
  | [] => True
  | v :: rest => IsPlain v ∧ ArePlain rest

def HavePlain : List (String × Json) → Prop
  | [] => True
  | (_, v) :: rest => IsPlain v ∧ HavePlain rest

end

theorem isHex_small {value : Nat} (h : value < 16) : IsHex value (Hexadecimal.small value) := by
  have hall : ∀ value : Fin 16,
      smallDigits[value.val]? = some (Hexadecimal.small value.val) := by decide
  exact .inl (hall ⟨value, h⟩)

theorem spellsChar_escapeChar (c : Char) : SpellsChar c (escapeChar c) := by
  unfold escapeChar
  split
  · next h =>
    subst h
    exact .short (by decide)
  · next hquote =>
    split
    · next h =>
      subst h
      exact .short (by decide)
    · next hbackslash =>
      split
      · next h =>
        subst h
        exact .short (by decide)
      split
      · next h =>
        subst h
        exact .short (by decide)
      split
      · next h =>
        subst h
        exact .short (by decide)
      split
      · next h =>
        subst h
        exact .short (by decide)
      split
      · next h =>
        subst h
        exact .short (by decide)
      split
      · next hcontrol =>
        have hzero : IsHex 0 '0' := .inl rfl
        have hnumber : ((0 * 16 + 0) * 16 + c.toNat / 16) * 16 + c.toNat % 16 = c.toNat := by omega
        have hhigh : c.toNat / 16 < 16 := by omega
        have hlow : c.toNat % 16 < 16 := Nat.mod_lt _ (by decide)
        have hunit := SpellsUnit.digits hzero hzero (isHex_small hhigh) (isHex_small hlow)
        rw [hnumber] at hunit
        exact .unit hunit
      · next hcontrol => exact .plain hquote hbackslash (Nat.not_lt.1 hcontrol)

theorem spellsChars_flatMap (cs : List Char) : SpellsChars cs (cs.flatMap escapeChar) := by
  induction cs with
  | nil => exact .nil
  | cons c rest ih => exact .cons (spellsChar_escapeChar c) ih

theorem spellsToken_quote (s : String) : SpellsToken (.text (some s)) (quote s).toList := by
  rw [quote, String.toList_ofList]
  exact .text (spellsChars_flatMap s.toList)

theorem SpellsToken.alone {t : Token} {w : List Char} (h : SpellsToken t w) :
    SpellsTokens [t] w := by
  have hblank : Blank [] := nofun
  have hs := SpellsTokens.cons hblank h (.nil hblank)
  rwa [List.nil_append, List.append_nil] at hs

theorem SpellsTokens.append {ts us : List Token} {cs ds : List Char} (h : SpellsTokens ts cs)
    (h' : SpellsTokens us ds) : SpellsTokens (ts ++ us) (cs ++ ds) := by
  induction h with
  | nil blank =>
    cases h' with
    | nil blank' => exact .nil fun c hc => (List.mem_append.1 hc).elim (blank c) (blank' c)
    | cons blank' first others =>
      rw [← List.append_assoc]
      exact .cons (fun c hc => (List.mem_append.1 hc).elim (blank c) (blank' c)) first others
  | cons blank first others ih =>
    rw [List.append_assoc, List.append_assoc]
    exact .cons blank first ih

mutual

/-- The text that is written for a value spells its tokens. -/
theorem spells_render : ∀ {v : Json}, v.IsPlain → Spells v v.render
  | .null, _ => SpellsToken.null.alone
  | .bool true, _ => SpellsToken.true.alone
  | .bool false, _ => SpellsToken.false.alone
  | .number (.integer n), h => by
    have hn := (SpellsToken.integer n).alone
    rw [h] at hn
    exact hn
  | .text s, _ => (spellsToken_quote s).alone
  | .array elements, h => by
    have hopen := SpellsToken.openArray.alone
    have hclose := SpellsToken.closeArray.alone
    have hall := (hopen.append (spells_renderElements h)).append hclose
    rw [Spells, render, String.toList_append, String.toList_append]
    exact hall
  | .object members, h => by
    have hopen := SpellsToken.openObject.alone
    have hclose := SpellsToken.closeObject.alone
    have hall := (hopen.append (spells_renderMembers h)).append hclose
    rw [Spells, render, String.toList_append, String.toList_append]
    exact hall

theorem spells_renderElements : ∀ {elements : List Json}, ArePlain elements →
    SpellsTokens (elementTokens elements) (renderElements elements).toList
  | [], _ => .nil nofun
  | [v], h => spells_render h.1
  | v :: w :: rest, h => by
    have hcomma := SpellsToken.comma.alone
    have hall := ((spells_render h.1).append hcomma).append (spells_renderElements h.2)
    have hrender : renderElements (v :: w :: rest) =
        v.render ++ "," ++ renderElements (w :: rest) := by
      rw [renderElements]
      exact nofun
    rw [hrender, String.toList_append, String.toList_append, elementTokens]
    rwa [List.append_assoc] at hall

theorem spells_renderMembers : ∀ {members : List (String × Json)}, HavePlain members →
    SpellsTokens (memberTokens members) (renderMembers members).toList
  | [], _ => .nil nofun
  | [(name, v)], h => by
    have hname := (spellsToken_quote name).alone
    have hcolon := SpellsToken.colon.alone
    have hall := (hname.append hcolon).append (spells_render h.1)
    rw [renderMembers, String.toList_append, String.toList_append]
    exact hall
  | (name, v) :: m :: rest, h => by
    have hname := (spellsToken_quote name).alone
    have hcolon := SpellsToken.colon.alone
    have hcomma := SpellsToken.comma.alone
    have hall := (((hname.append hcolon).append (spells_render h.1)).append hcomma).append
      (spells_renderMembers h.2)
    have hrender : renderMembers ((name, v) :: m :: rest) =
        quote name ++ ":" ++ v.render ++ "," ++ renderMembers (m :: rest) := by
      rw [renderMembers]
      exact nofun
    rw [hrender, String.toList_append, String.toList_append, String.toList_append,
      String.toList_append, memberTokens]
    simp only [List.append_assoc] at hall ⊢
    exact hall

end

end Rendering

end Json

end Shdlc
