import Shdlc.Proofs.Frame.Standing
import Shdlc.Proofs.Reception.Waiting
/-!
Cutting what arrives into reads. Main statement: `receive_alike`, the same bytes are received alike
however they are cut, and whatever comes behind the frame together with its end.
-/
namespace Shdlc

namespace Frame

/-- Bytes behind the first frame do not change what it encloses. -/
theorem enclosed_append {bytes : Bytes} (h : 2 ≤ bytes.count delimiter) (more : Bytes) :
    enclosed (bytes ++ more) = enclosed bytes := by
  obtain ⟨before, inside, after, rfl, hb, hi⟩ := exists_split_of_count h
  have ha : before ++ delimiter :: (inside ++ delimiter :: after) ++ more =
      before ++ delimiter :: (inside ++ delimiter :: (after ++ more)) := by simp
  rw [ha, enclosed_of_notMem hb hi, enclosed_of_notMem hb hi]

/-- Bytes that end the wait for a frame do so before there are too many of them, if their second
delimiter is not behind the first that would be too many. -/
theorem two_le_count_of_prefix {bytes start : Bytes} (hp : start <+: bytes)
    (hs : 2 ≤ (bytes.take (maxRaw + 1)).count delimiter) (hl : maxRaw < start.length) :
    2 ≤ start.count delimiter := by
  have ht : bytes.take (maxRaw + 1) <+: start := by
    apply List.prefix_of_prefix_length_le (List.take_prefix _ _) hp
    have := List.length_take_le (maxRaw + 1) bytes
    omega
  have hc := ht.sublist.count_le delimiter
  omega

end Frame

namespace Response

/-- The same response, or the same flaw in bytes that may differ. -/
inductive Alike : Except Error Response → Except Error Response → Prop
  | frame (r : Response) : Alike (.ok r) (.ok r)
  | flaw (flaw : Flaw) (raw raw' : Bytes) :
    Alike (.error (.response flaw (some raw))) (.error (.response flaw (some raw')))

theorem Alike.symm {x y : Except Error Response} (h : Alike x y) : Alike y x := by
  cases h with
  | frame r => exact .frame r
  | flaw flaw raw raw' => exact .flaw flaw raw' raw

theorem Alike.trans {x y z : Except Error Response} (h : Alike x y) (h' : Alike y z) :
    Alike x z := by
  cases h with
  | frame r => exact h'
  | flaw flaw raw raw' =>
    cases h' with
    | flaw _ _ raw'' => exact .flaw flaw raw raw''

theorem Alike.eq_ok {x : Except Error Response} {r : Response} (h : Alike x (.ok r)) :
    x = .ok r := by
  cases h with
  | frame r => rfl

/-- How bytes are read depends on the content of their first frame. -/
theorem decode_alike {raw raw' : Bytes} (h : Frame.contentOf raw = Frame.contentOf raw') :
    Alike (decode raw) (decode raw') := by
  unfold decode
  rw [h]
  split
  · dsimp only
    split
    · split
      · exact .frame _
      · exact .flaw _ _ _
    · exact .flaw _ _ _
  · exact .flaw _ _ _

theorem decode_append_alike {raw : Bytes} (h : 2 ≤ raw.count Frame.delimiter) (more : Bytes) :
    Alike (decode raw) (decode (raw ++ more)) := by
  apply decode_alike
  rw [Frame.contentOf, Frame.contentOf, Frame.enclosed_append h]

end Response

namespace Reception

open Response (Alike)

theorem check_eq_ok_of_prefix {filled : Frame.Buffer} {bytes : Bytes} (hp : filled.bytes <+: bytes)
    (hs : 2 ≤ (bytes.take (Frame.maxRaw + 1)).count Frame.delimiter) :
    filled.check = .ok false ∨ filled.check = .ok true := by
  rw [Frame.Buffer.check_eq_ok_false_iff, Frame.Buffer.check_eq_ok_true_iff]
  by_cases hl : Frame.maxRaw < filled.bytes.length
  · have := Frame.two_le_count_of_prefix hp hs hl
    omega
  · omega

/-- Receiving ends with what is read of all the bytes, in the buffer and to come, as long as no read
fails for good and all begin in time. -/
theorem collect_alike {left : Nat} {buffer : Frame.Buffer} {reads : List Read}
    (hw : buffer.check = .ok false) (hp : ∀ read ∈ reads, read.isPassing)
    (ht : ∀ offer ∈ Read.offers left reads, 0 < offer)
    (hs : 2 ≤ ((buffer.bytes ++ Read.deliveredBy reads).take (Frame.maxRaw + 1)).count
      Frame.delimiter) :
    Alike (collect left buffer reads).result
      (Response.decode (buffer.bytes ++ Read.deliveredBy reads)) := by
  induction reads generalizing left buffer with
  | nil =>
    have hcount := ((Frame.Buffer.check_eq_ok_false_iff buffer).1 hw).1
    have htake := (List.take_sublist (Frame.maxRaw + 1) buffer.bytes).count_le Frame.delimiter
    rw [Read.deliveredBy_nil, List.append_nil] at hs
    omega
  | cons read rest ih =>
    have hl : 0 < left := ht left List.mem_cons_self
    have hall : buffer.bytes ++ Read.deliveredBy (read :: rest) =
        (buffer.append read.delivered).bytes ++ Read.deliveredBy rest := by
      rw [Read.deliveredBy_cons, ← List.append_assoc]
      rfl
    rw [hall] at hs ⊢
    rcases check_eq_ok_of_prefix (List.prefix_append _ _) hs with hc | hc
    · rw [collect_cons_of_waiting hl (hp read List.mem_cons_self) hc]
      exact ih hc (fun r hr => hp r (List.mem_cons_of_mem read hr))
        (fun offer ho => ht offer (List.mem_cons_of_mem left ho)) hs
    · rw [collect_cons_of_complete hl hw hc]
      exact Response.decode_append_alike ((Frame.Buffer.check_eq_ok_true_iff _).1 hc) _

/-- What is received is what is read of all the bytes that are brought. -/
theorem receive_alike_decode {timeout : Nat} {reads : List Read}
    (hp : ∀ read ∈ reads, read.isPassing) (ht : ∀ offer ∈ Read.offers timeout reads, 0 < offer)
    (hs : 2 ≤ ((Read.deliveredBy reads).take (Frame.maxRaw + 1)).count Frame.delimiter) :
    Alike (receive timeout reads).result (Response.decode (Read.deliveredBy reads)) :=
  @collect_alike timeout {} reads rfl hp ht hs

/-- Bytes whose second delimiter is among the first 523 are received alike in whichever reads they
come, with any number of reads between them that bring nothing, if all reads begin in time: as the
same response, or with the same complaint. -/
theorem receive_alike (bytes : Bytes) (hs : 2 ≤ (bytes.take 523).count Frame.delimiter)
    {timeout timeout' : Nat} {reads reads' : List Read}
    (hd : Read.deliveredBy reads = bytes) (hd' : Read.deliveredBy reads' = bytes)
    (hp : ∀ read ∈ reads, read.isPassing) (hp' : ∀ read ∈ reads', read.isPassing)
    (ht : ∀ offer ∈ Read.offers timeout reads, 0 < offer)
    (ht' : ∀ offer ∈ Read.offers timeout' reads', 0 < offer) :
    (∃ r, (receive timeout reads).result = .ok r ∧ (receive timeout' reads').result = .ok r) ∨
      ∃ flaw raw raw', (receive timeout reads).result = .error (.response flaw (some raw)) ∧
        (receive timeout' reads').result = .error (.response flaw (some raw')) := by
  subst hd
  have h := receive_alike_decode hp ht hs
  have h' := receive_alike_decode hp' ht' (hd'.symm ▸ hs)
  rw [hd'] at h'
  have hboth : Alike (receive timeout reads).result (receive timeout' reads').result :=
    h.trans h'.symm
  generalize (receive timeout reads).result = result at hboth ⊢
  generalize (receive timeout' reads').result = result' at hboth ⊢
  cases hboth with
  | frame r => exact .inl ⟨r, rfl, rfl⟩
  | flaw flaw raw raw' => exact .inr ⟨flaw, raw, raw', rfl, rfl⟩

/-- A damaged frame comes at once with noise around it, or it comes cut in the middle of an escape
pair, and nothing comes in between. -/
theorem receive_alike_of_damaged :
    ∃ raw, (receive 30 [⟨3, .bytes [0x55, 0x7E, 0x07]⟩, ⟨9, .failure (.ofKind .timedOut)⟩,
        ⟨0, .bytes []⟩, ⟨4, .bytes [0xD0, 0x80, 0x01, 0x7D]⟩,
        ⟨2, .failure (.ofKind .interrupted)⟩, ⟨0, .bytes [0x31, 0x97, 0x7E]⟩,
        ⟨5, .bytes [0x7E, 0x08]⟩]).result = .error (.response .wrongChecksum (some raw)) := by
  have hwhole : (receive 20 [⟨7, .bytes [0x55, 0x7E, 0x07, 0xD0, 0x80, 0x01, 0x7D, 0x31, 0x97,
      0x7E, 0x7E, 0x08]⟩]).result = .error (.response .wrongChecksum (some
        [0x55, 0x7E, 0x07, 0xD0, 0x80, 0x01, 0x7D, 0x31, 0x97, 0x7E, 0x7E, 0x08])) := rfl
  have h := @receive_alike [0x55, 0x7E, 0x07, 0xD0, 0x80, 0x01, 0x7D, 0x31, 0x97, 0x7E, 0x7E, 0x08]
    (by decide) 20 30
    [⟨7, .bytes [0x55, 0x7E, 0x07, 0xD0, 0x80, 0x01, 0x7D, 0x31, 0x97, 0x7E, 0x7E, 0x08]⟩]
    [⟨3, .bytes [0x55, 0x7E, 0x07]⟩, ⟨9, .failure (.ofKind .timedOut)⟩,
      ⟨0, .bytes []⟩, ⟨4, .bytes [0xD0, 0x80, 0x01, 0x7D]⟩, ⟨2, .failure (.ofKind .interrupted)⟩,
      ⟨0, .bytes [0x31, 0x97, 0x7E]⟩, ⟨5, .bytes [0x7E, 0x08]⟩] rfl rfl (by decide) (by decide)
    (by decide) (by decide)
  rw [hwhole] at h
  obtain ⟨r, hr, -⟩ | ⟨flaw, raw, raw', hraw, hraw'⟩ := h
  · cases hr
  · cases hraw
    exact ⟨raw', hraw'⟩

end Reception

end Shdlc
