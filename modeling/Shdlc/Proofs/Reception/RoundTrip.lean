import Shdlc.Proofs.Reception.Waiting
/-!
Responses that travel in pieces. Main statement: a written response is received, whatever comes in
front of it and behind it, wherever what arrives is cut and however often nothing arrives in
between.
-/
namespace Shdlc
namespace Frame

/-- Before the last byte of a frame with noise in front, at most one delimiter has come. -/
theorem count_delimiter_le_one {noise content start : Bytes} (hn : delimiter ∉ noise)
    (hp : start <+: noise ++ enclose content)
    (hl : start.length < noise.length + (enclose content).length) : start.count delimiter ≤ 1 := by
  have he : noise ++ enclose content =
      (noise ++ delimiter :: stuff (content ++ [checksum content])) ++ [delimiter] := by
    simp [enclose, delimit]
  rw [he] at hp
  have hs : start <+: noise ++ delimiter :: stuff (content ++ [checksum content]) := by
    apply List.prefix_of_prefix_length_le hp (List.prefix_append _ _)
    simp only [enclose, delimit, List.length_append, List.length_cons, List.length_nil] at hl ⊢
    omega
  have hc := hs.sublist.count_le delimiter
  rw [List.count_append, List.count_eq_zero.2 hn, List.count_cons_self,
    List.count_eq_zero.2 (delimiter_not_mem_stuff _)] at hc
  exact hc

theorem two_le_count_delimiter (noise content after : Bytes) :
    2 ≤ (noise ++ enclose content ++ after).count delimiter := by
  simp only [enclose, delimit, List.count_append, List.count_cons_self, List.count_nil]
  omega

end Frame

namespace Reception

/-- A response that fits into a frame is received from every script of reads that brings it with
noise in front that holds no delimiter, if noise and frame together are no longer than the longest
frame and the read that brings the closing delimiter begins in time. No read is begun after that. -/
theorem receive_encode (r : Response) (hr : r.data.length ≤ 255) :
    ∃ raw, r.encode = .ok raw ∧
      ∀ (noise trailing : Bytes) (timeout : Nat) (reads earlier later : List Read) (closing : Read),
        Frame.delimiter ∉ noise → noise.length + raw.length ≤ 522 →
        Read.deliveredBy reads = noise ++ raw ++ trailing →
        (∀ read ∈ reads, read.isPassing) →
        reads = earlier ++ closing :: later →
        (Read.deliveredBy earlier).length < noise.length + raw.length →
        noise.length + raw.length ≤ (Read.deliveredBy (earlier ++ [closing])).length →
        Read.duration earlier < timeout →
          (receive timeout reads).result = .ok r ∧ (receive timeout reads).unread = later ∧
            (receive timeout reads).offered.length = earlier.length + 1 := by
  refine ⟨Frame.enclose r.content, if_pos hr, ?_⟩
  intro noise trailing timeout reads earlier later closing hn hm hd hp hs hb hc ht
  subst hs
  have hall : Read.deliveredBy (earlier ++ [closing]) <+:
      noise ++ Frame.enclose r.content ++ trailing := by
    have hs : earlier ++ closing :: later = (earlier ++ [closing]) ++ later := by simp
    rw [← hd, hs, Read.deliveredBy_append _ later]
    exact List.prefix_append _ _
  -- What has come with the closing read is noise, the whole frame and some of what trails it.
  obtain ⟨behind, hbehind⟩ :
      noise ++ Frame.enclose r.content <+: Read.deliveredBy (earlier ++ [closing]) := by
    apply List.prefix_of_prefix_length_le (List.prefix_append _ trailing) hall
    rwa [List.length_append]
  have hstart : Read.deliveredBy earlier <+: noise ++ Frame.enclose r.content := by
    have hpre : Read.deliveredBy earlier <+: Read.deliveredBy (earlier ++ [closing]) := by
      rw [Read.deliveredBy_append]
      exact List.prefix_append _ _
    apply List.prefix_of_prefix_length_le (hpre.trans hall) (List.prefix_append _ _)
    rw [List.length_append]
    exact Nat.le_of_lt hb
  have hwait : (⟨Read.deliveredBy earlier⟩ : Frame.Buffer).check = .ok false := by
    rw [Frame.Buffer.check_eq_ok_false_iff]
    have h1 := Frame.count_delimiter_le_one hn hstart hb
    simp only [Frame.maxRaw, Frame.maxData]
    omega
  have hend : (⟨Read.deliveredBy (earlier ++ [closing])⟩ : Frame.Buffer).check = .ok true := by
    rw [Frame.Buffer.check_eq_ok_true_iff, ← hbehind]
    exact Frame.two_le_count_delimiter noise r.content behind
  have hread : Response.decode (noise ++ Frame.enclose r.content ++ behind) = .ok r :=
    r.decode_enclose hr noise behind hn
  have hearlier : ∀ read ∈ earlier, read.isPassing :=
    fun read h => hp read (List.mem_append_left _ h)
  rw [receive_of_complete hearlier ht hwait hend, ← hbehind]
  refine ⟨hread, rfl, ?_⟩
  simp [afterAll, ofComplete]

/-- The reads are cut in the middle of an escape pair, with nothing arriving in between. -/
theorem receive_encode_cut :
    (receive 30 [⟨5, .bytes [0x00, 0x7D]⟩, ⟨10, .failure (.ofKind .timedOut)⟩,
        ⟨0, .bytes [0x7E, 0x7D]⟩, ⟨3, .bytes []⟩, ⟨4, .failure (.ofKind .interrupted)⟩,
        ⟨1, .bytes [0x33, 0xD1, 0x80, 0x01, 0x7D]⟩, ⟨90, .bytes [0x31, 0x89, 0x7E, 0x55]⟩,
        ⟨0, .bytes [0x7E]⟩]).result = .ok ⟨0x13, 0xD1, 0x80, [0x11]⟩ := by
  obtain ⟨raw, he, h⟩ := receive_encode ⟨0x13, 0xD1, 0x80, [0x11]⟩ (by decide)
  obtain rfl : [0x7E, 0x7D, 0x33, 0xD1, 0x80, 0x01, 0x7D, 0x31, 0x89, 0x7E] = raw := by
    injection he
  refine (h [0x00, 0x7D] [0x55, 0x7E] 30 _ [⟨5, .bytes [0x00, 0x7D]⟩,
    ⟨10, .failure (.ofKind .timedOut)⟩, ⟨0, .bytes [0x7E, 0x7D]⟩, ⟨3, .bytes []⟩,
    ⟨4, .failure (.ofKind .interrupted)⟩, ⟨1, .bytes [0x33, 0xD1, 0x80, 0x01, 0x7D]⟩]
    [⟨0, .bytes [0x7E]⟩] ⟨90, .bytes [0x31, 0x89, 0x7E, 0x55]⟩ (by decide) (by decide) rfl
    (by decide) rfl (by decide) (by decide) (by decide)).1

end Reception

end Shdlc
