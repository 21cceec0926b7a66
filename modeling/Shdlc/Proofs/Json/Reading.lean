import Shdlc.Proofs.Json.Spelling
/-!
Reading what is spelled. Main statement: `ofText?_of_spells`, a value is read from every text that
spells it.
-/
namespace Shdlc

namespace Json

section Values

/-- Whether a value may come next. -/
def Builder.AwaitsValue (b : Builder) : Prop := b.place = .value ∨ b.place = .element

section Steps

variable {b : Builder}

theorem Builder.step?_scalar (h : b.AwaitsValue) (v : Json) :
    b.step? (.scalar v) = some (b.put v) := by
  obtain ⟨place, stack, result⟩ := b
  obtain rfl | rfl := h <;> rfl

theorem Builder.place_of_step?_scalar {v : Json} {b' : Builder}
    (h : b.step? (.scalar v) = some b') : b'.place = .rest := by
  have hput : ∀ b : Builder, (b.put v).place = .rest := by
    rintro ⟨place, stack, result⟩
    match stack with
    | [] => rfl
    | .array done :: outer => rfl
    | .object done name :: outer => rfl
  obtain ⟨place, stack, result⟩ := b
  cases place with
  | value | element =>
    cases h
    exact hput _
  | member | name | colon | rest => cases h

theorem Builder.step?_text (h : b.AwaitsValue) (s : String) :
    b.step? (.text (some s)) = some (b.put (.text s)) := by
  obtain ⟨place, stack, result⟩ := b
  obtain rfl | rfl := h <;> rfl

theorem Builder.step?_openArray (h : b.AwaitsValue) :
    b.step? .openArray = some { b with place := .element, stack := .array [] :: b.stack } := by
  obtain ⟨place, stack, result⟩ := b
  obtain rfl | rfl := h <;> rfl

theorem Builder.step?_openObject (h : b.AwaitsValue) :
    b.step? .openObject =
      some { b with place := .member, stack := .object [] none :: b.stack } := by
  obtain ⟨place, stack, result⟩ := b
  obtain rfl | rfl := h <;> rfl

theorem Builder.step?_name {done : List (Option String × Json)} {name : Option String}
    {outer : List Open} (h : b.place = .name ∨ b.place = .member)
    (hs : b.stack = .object done none :: outer) :
    b.step? (.text name) =
      some { b with place := .colon, stack := .object done name :: outer } := by
  obtain ⟨place, stack, result⟩ := b
  obtain rfl := hs
  obtain rfl | rfl := h <;> rfl

theorem Builder.step?_colon (h : b.place = .colon) :
    b.step? .colon = some { b with place := .value } := by
  obtain ⟨place, stack, result⟩ := b
  obtain rfl := h
  rfl

/-- Where a value is put does not depend on what was awaited. -/
theorem Builder.put_withPlace (b : Builder) (place : Place) (v : Json) :
    { b with place }.put v = b.put v := by
  obtain ⟨before, stack, result⟩ := b
  match stack with
  | [] => rfl
  | .array done :: outer => rfl
  | .object done name :: outer => rfl

theorem Builder.foldlM_closeArray (b : Builder) (elements : List Json) :
    [Token.closeArray].foldlM Builder.step?
      { b with place := .rest, stack := .array elements.reverse :: b.stack } =
        some (b.put (.array elements)) := by
  have h : elements.reverse.reverse = elements := List.reverse_reverse elements
  rw [← b.put_withPlace .rest]
  exact congrArg (fun elements => some ({ b with place := .rest }.put (.array elements))) h

end Steps

/-- What stands on a stack for members that have been read, in reverse. -/
def opened (members : List (String × Json)) : List (Option String × Json) :=
  members.map fun m => (some m.1, m.2)

theorem Builder.objectOf_of_mapM {done : List (Option String × Json)}
    {members : List (String × Json)}
    (h : done.reverse.mapM (fun m => m.1.map (·, m.2)) = some members) :
    objectOf done = .object members := by
  rw [objectOf]
  split
  · next read hread => rw [Option.some.inj (hread.symm.trans h)]
  · next hread => cases hread.symm.trans h

theorem objectOf_opened (members : List (String × Json)) :
    Builder.objectOf (opened members.reverse) = .object members := by
  have hread : ∀ l, (opened l).mapM (fun m => m.1.map (·, m.2)) = some l := by
    intro l
    induction l with
    | nil => rfl
    | cons m rest ih => simp [opened] at ih ⊢; simp [ih]
  have hreverse : (opened members.reverse).reverse = opened members := by
    rw [opened, ← List.map_reverse, List.reverse_reverse, opened]
  exact Builder.objectOf_of_mapM (hreverse ▸ hread members)

theorem Builder.foldlM_closeObject (b : Builder) (members : List (String × Json)) :
    [Token.closeObject].foldlM Builder.step?
      { b with place := .rest, stack := .object (opened members.reverse) none :: b.stack } =
        some (b.put (.object members)) := by
  rw [← b.put_withPlace .rest, ← objectOf_opened]
  rfl

mutual

/-- The tokens of a value have it put where a value is awaited. -/
theorem foldlM_tokens : ∀ (v : Json) {b : Builder}, b.AwaitsValue →
    (tokens v).foldlM Builder.step? b = some (b.put v)
  | .null, b, h => by rw [tokens, List.foldlM_cons, Builder.step?_scalar h]; rfl
  | .bool _, b, h => by rw [tokens, List.foldlM_cons, Builder.step?_scalar h]; rfl
  | .number _, b, h => by rw [tokens, List.foldlM_cons, Builder.step?_scalar h]; rfl
  | .unreadable, b, h => by rw [tokens, List.foldlM_cons, Builder.step?_scalar h]; rfl
  | .text s, b, h => by rw [tokens, List.foldlM_cons, Builder.step?_text h]; rfl
  | .array [], b, h => by
    rw [tokens, List.foldlM_cons, Builder.step?_openArray h]
    rfl
  | .array (v :: rest), b, h => by
    have helements := foldlM_elementTokens (v :: rest)
      (b := { b with place := .element, stack := .array [] :: b.stack }) nofun (.inr rfl) rfl
    rw [tokens, List.foldlM_cons, Builder.step?_openArray h, Option.bind_eq_bind,
      Option.bind_some, List.foldlM_append, helements, List.append_nil]
    exact b.foldlM_closeArray (v :: rest)
  | .object [], b, h => by
    rw [tokens, List.foldlM_cons, Builder.step?_openObject h]
    rfl
  | .object (m :: rest), b, h => by
    have hmembers := foldlM_memberTokens (m :: rest) []
      (b := { b with place := .member, stack := .object [] none :: b.stack }) nofun (.inr rfl) rfl
    rw [tokens, List.foldlM_cons, Builder.step?_openObject h, Option.bind_eq_bind,
      Option.bind_some, List.foldlM_append, hmembers, List.append_nil]
    exact b.foldlM_closeObject (m :: rest)

theorem foldlM_elementTokens : ∀ (elements : List Json) {b : Builder} {done : List Json}
    {outer : List Open}, elements ≠ [] → b.AwaitsValue → b.stack = .array done :: outer →
    (elementTokens elements).foldlM Builder.step? b =
      some { b with place := .rest, stack := .array (elements.reverse ++ done) :: outer }
  | [], b, done, outer, hne, h, hs => absurd rfl hne
  | [v], b, done, outer, hne, h, hs => by
    rw [elementTokens, foldlM_tokens v h, Builder.put, hs]
    rfl
  | v :: w :: rest, b, done, outer, hne, h, hs => by
    have hrest := foldlM_elementTokens (w :: rest)
      (b := { b with place := .value, stack := .array (v :: done) :: outer }) nofun (.inl rfl) rfl
    rw [elementTokens, List.foldlM_append, foldlM_tokens v h, Builder.put, hs, List.reverse_cons,
      List.append_assoc]
    exact hrest

theorem foldlM_memberTokens : ∀ (members done : List (String × Json)) {b : Builder}
    {outer : List Open}, members ≠ [] →
    b.place = .name ∨ b.place = .member → b.stack = .object (opened done) none :: outer →
    (memberTokens members).foldlM Builder.step? b =
      some { b with
        place := .rest
        stack := .object (opened (members.reverse ++ done)) none :: outer }
  | [], done, b, outer, hne, h, hs => absurd rfl hne
  | [(name, v)], done, b, outer, hne, h, hs => by
    have hv := foldlM_tokens v (.inl rfl)
      (b := { b with place := .value, stack := .object (opened done) (some name) :: outer })
    rw [memberTokens, List.foldlM_cons, Builder.step?_name h hs]
    exact hv
  | (name, v) :: m :: rest, done, b, outer, hne, h, hs => by
    have hv := foldlM_tokens v (.inl rfl)
      (b := { b with place := .value, stack := .object (opened done) (some name) :: outer })
    have hrest := foldlM_memberTokens (m :: rest) ((name, v) :: done)
      (b := { b with place := .name, stack := .object (opened ((name, v) :: done)) none :: outer })
      nofun (.inl rfl) rfl
    rw [memberTokens, List.foldlM_cons, Builder.step?_name h hs, Option.bind_eq_bind,
      Option.bind_some, List.foldlM_cons, Builder.step?_colon rfl, Option.bind_eq_bind,
      Option.bind_some, List.foldlM_append, hv, List.reverse_cons, List.append_assoc]
    exact hrest

end

end Values

namespace Reader

/-- What a reader makes of the characters that are left. -/
def run? (r : Reader) (cs : List Char) : Option Json := (cs.foldlM step? r).bind finish?

theorem run?_cons (r : Reader) (c : Char) (cs : List Char) :
    r.run? (c :: cs) = (r.step? c).bind fun r => r.run? cs := by
  rw [run?, List.foldlM_cons, Option.bind_eq_bind, Option.bind_assoc]
  rfl

section Characters

variable (b : Builder) (cs : List Char)

theorem run?_blank {blanks : List Char} (h : Blank blanks) :
    run? ⟨b, .between⟩ (blanks ++ cs) = run? ⟨b, .between⟩ cs := by
  induction blanks with
  | nil => rfl
  | cons c rest ih =>
    have hrest := ih fun d hd => h d (List.mem_cons_of_mem c hd)
    have hstep : step? ⟨b, .between⟩ c = some ⟨b, .between⟩ := by
      obtain rfl | rfl | rfl | rfl := h c List.mem_cons_self <;> rfl
    rw [List.cons_append, run?_cons, hstep, Option.bind_some, hrest]

/-! #### Texts -/

omit b cs in
theorem value?_of_isHex {value : Nat} {c : Char} (h : IsHex value c) :
    Hexadecimal.value? c = some value := by
  have hsmall : ∀ i : Fin 16, Hexadecimal.value? (smallDigits.get i) = some i.val := by decide
  have hcapital : ∀ i : Fin 16, Hexadecimal.value? (capitalDigits.get i) = some i.val := by decide
  obtain h | h := h
  · obtain ⟨hlt, rfl⟩ := List.getElem?_eq_some_iff.1 h
    exact hsmall ⟨value, hlt⟩
  · obtain ⟨hlt, rfl⟩ := List.getElem?_eq_some_iff.1 h
    exact hcapital ⟨value, hlt⟩

/-- A digit of four, of which `missing + 1` were still to come. -/
theorem run?_digit {missing value d : Nat} {c : Char} (h : IsHex d c) (units : List Nat) :
    run? ⟨b, .quoted (.digits (missing + 1) value) units⟩ (c :: cs) =
      if missing = 0 then run? ⟨b, .quoted .plain ((16 * value + d) :: units)⟩ cs
      else run? ⟨b, .quoted (.digits missing (16 * value + d)) units⟩ cs := by
  rw [run?_cons]
  simp only [step?, quoted?, value?_of_isHex h, Option.bind_eq_bind, Option.bind_some,
    Nat.add_sub_cancel]
  by_cases hm : missing = 0
  · rw [if_pos (by omega), if_pos hm]
    rfl
  · rw [if_neg (by omega), if_neg hm]
    rfl

theorem run?_unit {unit : Nat} {w : List Char} (h : SpellsUnit unit w) (units : List Nat) :
    run? ⟨b, .quoted .plain units⟩ (w ++ cs) = run? ⟨b, .quoted .plain (unit :: units)⟩ cs := by
  obtain @⟨k, l, m, n, w, x, y, z, first, second, third, fourth⟩ := h
  have hbegin : run? ⟨b, .quoted .plain units⟩ ('\\' :: 'u' :: w :: x :: y :: z :: cs) =
      run? ⟨b, .quoted (.digits 4 0) units⟩ (w :: x :: y :: z :: cs) := rfl
  have hunit : 16 * (16 * (16 * (16 * 0 + k) + l) + m) + n = ((k * 16 + l) * 16 + m) * 16 + n := by
    omega
  simp only [List.cons_append, List.nil_append]
  rw [hbegin, run?_digit b _ first, if_neg (by decide), run?_digit b _ second,
    if_neg (by decide), run?_digit b _ third, if_neg (by decide), run?_digit b _ fourth,
    if_pos rfl, hunit]

omit b cs in
theorem joinSurrogates_toNat (c : Char) (later : List Nat) :
    joinSurrogates (c.toNat :: later) = (c :: ·) <$> joinSurrogates later := by
  have hvalid : c.toNat < 0xD800 ∨ 0xDFFF < c.toNat := by
    obtain h | ⟨h, -⟩ := c.valid
    · exact .inl h
    · exact .inr h
  rw [joinSurrogates.eq_def]
  simp only
  rw [if_neg (by omega), if_neg (by omega), Char.ofNat_toNat]

omit cs in
/-- The units that are read of a character are joined to it. -/
theorem exists_units_of_spellsChar {c : Char} {w : List Char} (h : SpellsChar c w) :
    ∃ read : List Nat,
      (∀ units cs, run? ⟨b, .quoted .plain units⟩ (w ++ cs) =
        run? ⟨b, .quoted .plain (read.reverse ++ units)⟩ cs) ∧
      ∀ later, joinSurrogates (read ++ later) = (c :: ·) <$> joinSurrogates later := by
  cases h with
  | plain quote backslash control =>
    refine ⟨[c.toNat], ?_, joinSurrogates_toNat c⟩
    intro units cs
    have hstep : step? ⟨b, .quoted .plain units⟩ c =
        some ⟨b, .quoted .plain (c.toNat :: units)⟩ := by
      simp only [step?, quoted?]
      rw [if_neg quote, if_neg backslash, if_neg (by omega)]
    rw [List.singleton_append, run?_cons, hstep]
    rfl
  | @short letter letters =>
    refine ⟨[c.toNat], ?_, joinSurrogates_toNat c⟩
    intro units cs
    have hescape : ∀ pair ∈ shortEscapes,
        pair.2 ≠ 'u' ∧ escape? pair.2 = some pair.1.toNat := by decide
    obtain ⟨hu, he⟩ := hescape _ letters
    have hstep : step? ⟨b, .quoted .escaped units⟩ letter =
        some ⟨b, .quoted .plain (c.toNat :: units)⟩ := by
      simp only [step?, quoted?]
      rw [if_neg hu, he]
      rfl
    have hbegin : step? ⟨b, .quoted .plain units⟩ '\\' = some ⟨b, .quoted .escaped units⟩ := rfl
    rw [List.cons_append, List.singleton_append, run?_cons, hbegin, Option.bind_some, run?_cons,
      hstep]
    rfl
  | unit number =>
    exact ⟨[c.toNat], fun units cs => run?_unit b cs number units, joinSurrogates_toNat c⟩
  | @pair high low w x first second isHigh isLow number =>
    refine ⟨[high, low], ?_, ?_⟩
    · intro units cs
      rw [List.append_assoc, run?_unit b _ first, run?_unit b _ second]
      rfl
    · intro later
      rw [List.cons_append, List.singleton_append]
      rw [joinSurrogates.eq_def]
      simp only
      rw [if_pos isHigh]
      rw [if_pos isLow, ← number, Char.ofNat_toNat]

omit cs in
theorem exists_units_of_spellsChars {s w : List Char} (h : SpellsChars s w) :
    ∃ read : List Nat,
      (∀ units cs, run? ⟨b, .quoted .plain units⟩ (w ++ cs) =
        run? ⟨b, .quoted .plain (read.reverse ++ units)⟩ cs) ∧
      joinSurrogates read = some s := by
  induction h with
  | nil => exact ⟨[], fun _ _ => rfl, rfl⟩
  | cons first rest ih =>
    obtain ⟨front, hfront, hc⟩ := exists_units_of_spellsChar b first
    obtain ⟨back, hback, hcs⟩ := ih
    refine ⟨front ++ back, ?_, ?_⟩
    · intro units cs
      rw [List.append_assoc, hfront, hback, List.reverse_append, List.append_assoc]
    · rw [hc, hcs]
      rfl

theorem run?_text {s : String} {w : List Char} (h : SpellsChars s.toList w) :
    run? ⟨b, .between⟩ ('"' :: (w ++ ['"']) ++ cs) =
      (b.step? (.text (some s))).bind fun b => run? ⟨b, .between⟩ cs := by
  obtain ⟨read, hread, hjoin⟩ := exists_units_of_spellsChars b h
  have hopen : step? ⟨b, .between⟩ '"' = some ⟨b, .quoted .plain []⟩ := rfl
  have htext : textOf? (read.reverse ++ []) = some s := by
    rw [textOf?, List.append_nil, List.reverse_reverse, hjoin, Option.map_some,
      String.ofList_toList]
  have hclose : step? ⟨b, .quoted .plain (read.reverse ++ [])⟩ '"' =
      (b.step? (.text (some s))).map fun b => ⟨b, .between⟩ := by
    rw [← htext]
    rfl
  rw [List.cons_append, run?_cons, hopen, Option.bind_some, List.append_assoc, hread,
    List.singleton_append, run?_cons, hclose, Option.bind_map]
  rfl

/-! #### Numerals -/

/-- Whether characters do not go on with a numeral: nothing follows, a blank, or punctuation that
can stand behind a value. -/
def EndsNumeral (cs : List Char) : Prop :=
  ∀ c rest, cs = c :: rest → c ∈ [' ', '\t', '\n', '\r', ',', ']', '\x7d']

omit b cs in
theorem next?_eq_none {m : Numeral} (hm : m.stage = .zero ∨ m.stage = .integer) {c : Char}
    (hc : c ∈ [' ', '\t', '\n', '\r', ',', ']', '\x7d']) : m.next? c = none := by
  obtain ⟨hpoint, hmark, hdigit⟩ :
      c ≠ '.' ∧ ¬ (c = 'e' ∨ c = 'E') ∧ Text.digit? 10 c = none := by
    simp only [List.mem_cons, List.not_mem_nil, or_false] at hc
    obtain rfl | rfl | rfl | rfl | rfl | rfl | rfl := hc <;> decide
  obtain hs | hs := hm
  · simp only [Numeral.next?, hs]
    rw [if_neg hpoint, if_neg hmark]
  · simp only [Numeral.next?, hs]
    rw [if_neg hpoint, if_neg hmark, hdigit, Option.map_none]

variable {cs} in
/-- A numeral that has come to its end is a scalar. -/
theorem run?_numeral {m : Numeral} (hm : m.stage = .zero ∨ m.stage = .integer)
    (h : EndsNumeral cs) :
    run? ⟨b, .numeral m⟩ cs = (b.step? (.scalar m.json)).bind fun b => run? ⟨b, .between⟩ cs := by
  have hend : endNumeral? ⟨b, .numeral m⟩ m =
      (b.step? (.scalar m.json)).map fun b => ⟨b, .between⟩ := by
    have hfinal : m.stage.isFinal = true := by
      obtain hs | hs := hm <;> rw [hs] <;> rfl
    rw [endNumeral?, if_pos hfinal]
    rfl
  cases cs with
  | nil =>
    have hfinish : finish? ⟨b, .numeral m⟩ = (endNumeral? ⟨b, .numeral m⟩ m).bind finish? := by
      rw [hend]
      simp only [finish?, hend]
      cases b.step? (.scalar m.json) <;> rfl
    have hrun : run? ⟨b, .numeral m⟩ [] = finish? ⟨b, .numeral m⟩ := rfl
    rw [hrun, hfinish, hend, Option.bind_map]
    rfl
  | cons c rest =>
    have hstep : step? ⟨b, .numeral m⟩ c = (b.step? (.scalar m.json)).bind fun b =>
        step? ⟨b, .between⟩ c := by
      simp only [step?, next?_eq_none hm (h c rest rfl), hend, Option.bind_eq_bind, Option.bind_map]
      rfl
    rw [run?_cons, hstep, Option.bind_assoc]
    simp only [run?_cons]

/-- The characters of a numeral, one after the other. -/
theorem run?_foldlM {n m : Numeral} {digits : List Char}
    (h : digits.foldlM Numeral.next? n = some m) :
    run? ⟨b, .numeral n⟩ (digits ++ cs) = run? ⟨b, .numeral m⟩ cs := by
  induction digits generalizing n with
  | nil =>
    obtain rfl : n = m := by simpa using h
    rfl
  | cons c rest ih =>
    rw [List.foldlM_cons, Option.bind_eq_bind, Option.bind_eq_some_iff] at h
    obtain ⟨next, hnext, hrest⟩ := h
    have hstep : step? ⟨b, .numeral n⟩ c = some ⟨b, .numeral next⟩ := by
      simp only [step?, hnext]
    rw [List.cons_append, run?_cons, hstep, Option.bind_some, ih hrest]

omit b cs in
theorem between?_of_start? {c : Char} {n : Numeral} (h : Numeral.start? c = some n) (b : Builder) :
    between? ⟨b, .between⟩ c = some ⟨b, .numeral n⟩ := by
  have hnone : [' ', '\t', '\n', '\r', '[', ']', '\x7b', '\x7d', ':', ',', '"', 't', 'f',
      'n'].all (fun other => (Numeral.start? other).isNone) = true := by decide
  have hne : ∀ other ∈ [' ', '\t', '\n', '\r', '[', ']', '\x7b', '\x7d', ':', ',', '"', 't', 'f',
      'n'], c ≠ other := by
    rintro other ho rfl
    have hc := List.all_eq_true.1 hnone c ho
    rw [h] at hc
    cases hc
  simp only [List.forall_mem_cons] at hne
  simp [between?, isSpace, hne, h]

theorem run?_integer (n : Int) (h : EndsNumeral cs) :
    run? ⟨b, .between⟩ ((toString n).toList ++ cs) =
      (b.step? (.scalar (ofInt n))).bind fun b => run? ⟨b, .between⟩ cs := by
  obtain ⟨m, hread, hholds⟩ := Numeral.exists_read?_toString n
  have hint : ofInt n = m.json := by rw [ofInt, hread]
  have hstage : m.stage = .zero ∨ m.stage = .integer := by
    rw [hholds.stage]
    by_cases hz : n.natAbs = 0
    · exact .inl (if_pos hz)
    · exact .inr (if_neg hz)
  cases hn : (toString n).toList with
  | nil =>
    rw [hn] at hread
    cases hread
  | cons c rest =>
    rw [hn, Numeral.read?, Option.bind_eq_some_iff] at hread
    obtain ⟨first, hfirst, hrest⟩ := hread
    have hstep : step? ⟨b, .between⟩ c = some ⟨b, .numeral first⟩ := between?_of_start? hfirst b
    rw [List.cons_append, run?_cons, hstep, Option.bind_some, run?_foldlM b cs hrest,
      run?_numeral b hstage h, hint]

/-! #### Tokens in a row -/

theorem run?_word (missing : List Char) (h : missing ≠ []) (v : Json) :
    run? ⟨b, .word missing v⟩ (missing ++ cs) =
      (b.step? (.scalar v)).bind fun b => run? ⟨b, .between⟩ cs := by
  induction missing with
  | nil => exact absurd rfl h
  | cons c rest ih =>
    rw [List.cons_append, run?_cons]
    simp only [step?, if_true]
    cases rest with
    | nil =>
      rw [List.isEmpty_nil, if_pos rfl, emit?, Option.bind_map]
      rfl
    | cons d rest => exact ih nofun

theorem run?_token {t : Token} {w : List Char} (h : SpellsToken t w)
    (hend : ∀ v, t = .scalar v → EndsNumeral cs) :
    run? ⟨b, .between⟩ (w ++ cs) = (b.step? t).bind fun b => run? ⟨b, .between⟩ cs := by
  have hpunctuation : ∀ c (t : Token), step? ⟨b, .between⟩ c = emit? ⟨b, .between⟩ t →
      run? ⟨b, .between⟩ ([c] ++ cs) = (b.step? t).bind fun b => run? ⟨b, .between⟩ cs := by
    intro c t hstep
    rw [List.singleton_append, run?_cons, hstep, emit?, Option.bind_map]
    rfl
  cases h with
  | openArray | closeArray | openObject | closeObject | colon | comma =>
    exact hpunctuation _ _ rfl
  | text chars => exact run?_text b cs chars
  | null => exact run?_word b cs ['u', 'l', 'l'] nofun .null
  | true => exact run?_word b cs ['r', 'u', 'e'] nofun (.bool true)
  | false => exact run?_word b cs ['a', 'l', 's', 'e'] nofun (.bool false)
  | integer n => exact run?_integer b cs n (hend _ rfl)

omit b cs in
/-- Behind a value there is nothing, a blank, or punctuation. -/
theorem endsNumeral_of_spells {ts : List Token} {cs : List Char} (h : SpellsTokens ts cs)
    {b b' : Builder} (hb : b.place = .rest) (hts : ts.foldlM Builder.step? b = some b') :
    EndsNumeral cs := by
  have hblank : ∀ c, c = ' ' ∨ c = '\t' ∨ c = '\n' ∨ c = '\r' →
      c ∈ [' ', '\t', '\n', '\r', ',', ']', '\x7d'] := by
    rintro c (rfl | rfl | rfl | rfl) <;> decide
  intro c tail hc
  cases h with
  | nil blank =>
    subst hc
    exact hblank c (blank c List.mem_cons_self)
  | @cons t ts blanks w rest blank first others =>
    cases blanks with
    | cons d blanks =>
      obtain ⟨rfl, -⟩ := List.cons.inj hc
      exact hblank d (blank d List.mem_cons_self)
    | nil =>
      rw [List.foldlM_cons, Option.bind_eq_bind, Option.bind_eq_some_iff] at hts
      obtain ⟨next, hnext, -⟩ := hts
      obtain ⟨place, stack, result⟩ := b
      obtain rfl : place = .rest := hb
      cases first with
      | comma | closeArray | closeObject =>
        obtain ⟨rfl, -⟩ := List.cons.inj hc
        decide
      | openArray | openObject | colon | text | null | true | false | integer => cases hnext

omit cs in
/-- A text that spells tokens is read as they are taken. -/
theorem run?_of_spells {ts : List Token} {cs : List Char} (h : SpellsTokens ts cs) {b' : Builder}
    (hts : ts.foldlM Builder.step? b = some b') :
    run? ⟨b, .between⟩ cs = finish? ⟨b', .between⟩ := by
  induction h generalizing b with
  | @nil blanks blank =>
    obtain rfl : b = b' := by simpa using hts
    have hrun := run?_blank b [] blank
    rw [List.append_nil] at hrun
    rw [hrun]
    rfl
  | cons blank first others ih =>
    rw [List.foldlM_cons, Option.bind_eq_bind, Option.bind_eq_some_iff] at hts
    obtain ⟨next, hnext, hrest⟩ := hts
    rw [run?_blank b _ blank, run?_token b _ first, hnext, Option.bind_some, ih next hrest]
    rintro v rfl
    exact endsNumeral_of_spells others (Builder.place_of_step?_scalar hnext) hrest

end Characters

end Reader

/-- A value is read from every text that spells it. -/
theorem ofText?_of_spells {v : Json} {text : String} (h : Spells v text) :
    ofText? text = some v := by
  have htokens := foldlM_tokens v (b := {}) (.inl rfl)
  have hread : ofText? text = Reader.run? ⟨{}, .between⟩ text.toList := rfl
  rw [hread, Reader.run?_of_spells {} h htokens]
  rfl

end Json

end Shdlc
