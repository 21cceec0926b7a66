import Shdlc.Image.Memory
/-!
What records write, byte by byte, and what a memory holds after that. Main statements: reading a
memory of records gives the last byte that was written to an address, and its highest address is the
highest to which one was written.
-/
namespace Shdlc.Image

/-- A byte that is written to an address. -/
structure Write where
  address : Nat
  byte : UInt8
deriving DecidableEq, Repr

/-- The bytes that records write, in order, where the offsets of the first ones count from `base`.
The greatest address of 32 bits is followed by zero. -/
def writes (base : Nat) : List Record → List Write
  | [] => []
  | .data offset bytes :: rest =>
    bytes.mapIdx (fun i b => ⟨(base + offset.toNat + i) % 0x100000000, b⟩) ++ writes base rest
  | .extendedSegment segment :: rest => writes (segment.toNat * 0x10) rest
  | .extendedLinear upper :: rest => writes (upper.toNat * 0x10000) rest
  | .endOfFile :: rest | .startSegment _ _ :: rest | .startLinear _ :: rest => writes base rest

namespace Write

/-- The byte that was written last to an address, if one was. -/
def last? (ws : List Write) (address : Nat) : Option UInt8 :=
  (ws.reverse.find? (·.address == address)).map (·.byte)

/-- What an address holds; `0xFF` if nothing was written there. -/
def held (ws : List Write) (address : Nat) : UInt8 := (last? ws address).getD 0xFF

/-- What the addresses from `first` to `last` hold, both included. -/
def heldFrom (ws : List Write) (first last : Nat) : Bytes :=
  (List.range (last + 1 - first)).map fun i => held ws (first + i)

def highest? (ws : List Write) : Option Nat := (ws.map (·.address)).max?

@[simp] theorem length_heldFrom (ws : List Write) (first last : Nat) :
    (heldFrom ws first last).length = last + 1 - first := by
  simp [heldFrom]

/-- Bytes are held somewhere if they have the right number and are the right ones. -/
theorem eq_heldFrom_iff (ws : List Write) (bytes : Bytes) (first last : Nat) :
    bytes = heldFrom ws first last ↔ bytes.length = last + 1 - first ∧
      ∀ i (h : i < bytes.length), bytes[i] = held ws (first + i) := by
  constructor
  · rintro rfl
    refine ⟨length_heldFrom ws first last, ?_⟩
    intro i h
    simp [heldFrom]
  · rintro ⟨hl, hb⟩
    apply List.ext_getElem (by rw [hl, length_heldFrom])
    intro i h h'
    rw [hb i h]
    simp [heldFrom]

theorem last?_append (ws more : List Write) (address : Nat) :
    last? (ws ++ more) address = (last? more address).or (last? ws address) := by
  simp only [last?, List.reverse_append, List.find?_append]
  cases more.reverse.find? (·.address == address) <;> rfl

theorem last?_cons (w : Write) (rest : List Write) (address : Nat) :
    last? (w :: rest) address =
      (last? rest address).or (if w.address = address then some w.byte else none) := by
  rw [← List.singleton_append, last?_append]
  by_cases h : w.address = address
  · simp [last?, h]
  · simp [last?, h]

theorem last?_ne_none_iff (ws : List Write) (address : Nat) :
    last? ws address ≠ none ↔ address ∈ ws.map (·.address) := by
  simp [last?, List.find?_eq_none]

end Write

theorem address_lt_of_mem_writes {base : Nat} {records : List Record} {w : Write}
    (h : w ∈ writes base records) : w.address < 0x100000000 := by
  fun_induction writes base records with
  | case1 => cases h
  | case2 base offset bytes rest ih =>
    rcases List.mem_append.1 h with h | h
    · obtain ⟨i, hi, rfl⟩ := List.mem_mapIdx.1 h
      exact Nat.mod_lt _ (by decide)
    · exact ih h
  | case3 base segment rest ih => exact ih h
  | case4 base upper rest ih => exact ih h
  | case5 base rest ih => exact ih h
  | case6 base codeSegment instruction rest ih => exact ih h
  | case7 base start rest ih => exact ih h

namespace Memory

/-- The byte that an address holds, if one was written there. -/
def byte? (m : Memory) (address : UInt32) : Option UInt8 := m.bytes[address]?

theorem get_eq (m : Memory) (address : UInt32) : m.get address = (m.byte? address).getD 0xFF := by
  rw [get, byte?, Std.HashMap.getD_eq_getD_getElem?]
  rfl

@[simp] theorem byte?_empty (address : UInt32) : byte? {} address = none :=
  Std.HashMap.getElem?_empty

theorem byte?_insert (m : Memory) (a address : UInt32) (b : UInt8) :
    byte? ⟨m.bytes.insert a b⟩ address = if a = address then some b else m.byte? address := by
  rw [byte?, Std.HashMap.getElem?_insert]
  simp only [beq_iff_eq, byte?]

/-- Bytes that are written in a row take the place of what was there. -/
theorem byte?_write (m : Memory) (start address : UInt32) (bytes : Bytes) (n : Nat)
    (h : start.toNat = n % 0x100000000) :
    (m.write start bytes).byte? address =
      (Write.last? (bytes.mapIdx fun i b => ⟨(n + i) % 0x100000000, b⟩) address.toNat).or
        (m.byte? address) := by
  induction bytes generalizing m start n with
  | nil => rfl
  | cons b rest ih =>
    have hnext : (start + 1).toNat = (n + 1) % 0x100000000 := by
      rw [UInt32.toNat_add, h]
      exact Nat.mod_add_mod n _ 1
    -- The byte is written first, so it counts only where none of the others is written over it.
    have hshift : (fun i (b : UInt8) => (⟨(n + (i + 1)) % 0x100000000, b⟩ : Write)) =
        fun i b => ⟨(n + 1 + i) % 0x100000000, b⟩ := by
      funext i b
      rw [Nat.add_assoc n 1 i, Nat.add_comm 1 i]
    have hsame : start = address ↔ n % 0x100000000 = address.toNat := by
      rw [← UInt32.toNat_inj, h]
    rw [write, ih _ _ _ hnext, byte?_insert, List.mapIdx_cons, Write.last?_cons, hshift,
      Option.or_assoc]
    simp only [Nat.add_zero, ← hsame]
    by_cases ha : start = address
    · simp only [if_pos ha, Option.some_or]
    · simp only [if_neg ha, Option.none_or]

theorem byte?_foldl_follow (records : List Record) (base : UInt32) (m : Memory)
    (address : UInt32) :
    (records.foldl follow (base, m)).2.byte? address =
      (Write.last? (writes base.toNat records) address.toNat).or (m.byte? address) := by
  induction records generalizing base m with
  | nil => rfl
  | cons record rest ih =>
    rw [List.foldl_cons]
    cases record with
    | data offset bytes =>
      have hstart : (base + offset.toUInt32).toNat = (base.toNat + offset.toNat) % 0x100000000 := by
        rw [UInt32.toNat_add, UInt16.toNat_toUInt32]
      rw [follow, ih, writes, Write.last?_append, Option.or_assoc,
        byte?_write m _ address bytes _ hstart]
    | extendedSegment segment =>
      have hbase : (segment.toUInt32 <<< 4).toNat = segment.toNat * 0x10 := by
        have hfits : segment.toNat * 0x10 < 0x100000000 := by
          have := segment.toNat_lt
          omega
        rw [UInt32.toNat_shiftLeft, UInt16.toNat_toUInt32, Nat.shiftLeft_eq]
        exact Nat.mod_eq_of_lt hfits
      rw [follow, ih, writes, hbase]
    | extendedLinear upper =>
      have hbase : (upper.toUInt32 <<< 16).toNat = upper.toNat * 0x10000 := by
        have hfits : upper.toNat * 0x10000 < 0x100000000 := by
          have := upper.toNat_lt
          omega
        rw [UInt32.toNat_shiftLeft, UInt16.toNat_toUInt32, Nat.shiftLeft_eq]
        exact Nat.mod_eq_of_lt hfits
      rw [follow, ih, writes, hbase]
    | endOfFile => exact ih base m
    | startSegment codeSegment instruction => exact ih base m
    | startLinear start => exact ih base m

theorem byte?_ofRecords (records : List Record) (address : UInt32) :
    (ofRecords records).byte? address = Write.last? (writes 0 records) address.toNat := by
  rw [ofRecords, byte?_foldl_follow, byte?_empty, Option.or_none]
  rfl

/-- Reading gives what was written last. -/
theorem get_ofRecords (records : List Record) (address : UInt32) :
    (ofRecords records).get address = Write.held (writes 0 records) address.toNat := by
  rw [get_eq, byte?_ofRecords, Write.held]

theorem mem_keys_ofRecords (records : List Record) (address : UInt32) :
    address ∈ (ofRecords records).bytes.keys ↔
      address.toNat ∈ (writes 0 records).map (·.address) := by
  rw [← Write.last?_ne_none_iff, ← byte?_ofRecords, byte?, Std.HashMap.mem_keys,
    Std.HashMap.mem_iff_isSome_getElem?, Option.isSome_iff_ne_none]

private theorem exists_mem_keys {records : List Record} {n : Nat}
    (h : n ∈ (writes 0 records).map (·.address)) :
    ∃ address ∈ (ofRecords records).bytes.keys, address.toNat = n := by
  obtain ⟨w, hw, rfl⟩ := List.mem_map.1 h
  have hn : (UInt32.ofNat w.address).toNat = w.address :=
    UInt32.toNat_ofNat_of_lt' (address_lt_of_mem_writes hw)
  exact ⟨UInt32.ofNat w.address, (mem_keys_ofRecords _ _).2 (hn.symm ▸ h), hn⟩

theorem lawfulMax : Std.LawfulOrderLeftLeaningMax UInt32 := by
  have hmax : ∀ a b : UInt32, max a b = if a ≤ b then b else a := fun _ _ => rfl
  constructor
  · intro a b h
    rw [hmax]
    split
    · next hab => exact UInt32.le_antisymm h hab
    · rfl
  · intro a b h
    rw [hmax, if_pos ((UInt32.le_total a b).resolve_right h)]

/-- The highest address is the highest to which a byte was written. -/
theorem highest?_ofRecords (records : List Record) :
    (ofRecords records).highest?.map UInt32.toNat = Write.highest? (writes 0 records) := by
  have := lawfulMax
  cases h : (ofRecords records).highest? with
  | none =>
    have hk : (ofRecords records).bytes.keys = [] := List.max?_eq_none_iff.1 h
    have hw : (writes 0 records).map (·.address) = [] := by
      rw [List.eq_nil_iff_forall_not_mem]
      intro n hn
      obtain ⟨address, ha, -⟩ := exists_mem_keys hn
      rw [hk] at ha
      cases ha
    rw [Write.highest?, hw]
    rfl
  | some highest =>
    obtain ⟨hm, hle⟩ := List.max?_eq_some_iff.1 h
    rw [Option.map_some, Write.highest?, eq_comm, List.max?_eq_some_iff]
    refine ⟨(mem_keys_ofRecords _ _).1 hm, ?_⟩
    intro n hn
    obtain ⟨address, ha, rfl⟩ := exists_mem_keys hn
    exact UInt32.le_iff_toNat_le.1 (hle address ha)

theorem lowest?_eq_none_iff (m : Memory) : m.lowest? = none ↔ m.highest? = none := by
  rw [lowest?, highest?, List.min?_eq_none_iff, List.max?_eq_none_iff]

end Memory

end Shdlc.Image
