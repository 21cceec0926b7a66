import Shdlc.FarSide
import Shdlc.Proofs.Reception.Begun
/-!
How much is received at most. Main statement: `receive_bounded`, rubbish ends a reception as soon as
more bytes have come than a response has.
-/
namespace Shdlc

namespace Read

/-- Whether a read has brought any bytes. -/
def bringsBytes (read : Read) : Bool := !read.delivered.isEmpty

/-- Reads that bring bytes bring at least one each. -/
theorem countP_bringsBytes_le (reads : List Read) :
    reads.countP bringsBytes ≤ (deliveredBy reads).length := by
  induction reads with
  | nil => exact Nat.le_refl 0
  | cons read rest ih =>
    rw [List.countP_cons, deliveredBy_cons, List.length_append]
    cases hd : read.delivered with
    | nil =>
      have hb : read.bringsBytes = false := by rw [bringsBytes, hd]; rfl
      simp only [hb, Bool.false_eq_true, if_false, List.length_nil]
      omega
    | cons b bs =>
      have hb : read.bringsBytes = true := by rw [bringsBytes, hd]; rfl
      simp only [hb, if_true, List.length_cons]
      omega

end Read

namespace Reception

variable {timeout k : Nat} {reads : List Read}

/-- When a read begins, no frame has come and not too many bytes. -/
theorem bounds_of_lt (hk : k < (receive timeout reads).offered.length) :
    (Read.deliveredBy (reads.take k)).length ≤ 522 ∧
      (Read.deliveredBy (reads.take k)).count 0x7E ≤ 1 := by
  obtain ⟨hfew, hlen⟩ := (Frame.Buffer.check_eq_ok_false_iff _).1 (check_of_lt hk)
  exact ⟨hlen, Nat.le_of_lt_succ hfew⟩

theorem length_deliveredBy_take_succ_le (hr : ∀ read ∈ reads, read.delivered.length ≤ Read.capacity)
    (k : Nat) : (Read.deliveredBy (reads.take (k + 1))).length ≤
      (Read.deliveredBy (reads.take k)).length + 1024 := by
  cases hread : reads[k]? with
  | none =>
    rw [List.take_add_one, hread, Option.toList_none, List.append_nil]
    omega
  | some read =>
    have hcap := hr read (List.mem_of_getElem? hread)
    rw [deliveredBy_take_succ hread, List.length_append]
    simp only [Read.capacity] at hcap
    omega

theorem length_deliveredBy_le_of_le (hr : ∀ read ∈ reads, read.delivered.length ≤ Read.capacity)
    (hk : k ≤ (receive timeout reads).offered.length) :
    (Read.deliveredBy (reads.take k)).length ≤ 522 + 1024 := by
  cases k with
  | zero => exact Nat.zero_le _
  | succ k =>
    have hstep := length_deliveredBy_take_succ_le hr k
    have hbounds := bounds_of_lt hk
    omega

theorem countP_bringsBytes_begun_le (timeout : Nat) (reads : List Read) :
    (begun timeout reads).countP Read.bringsBytes ≤ 523 := by
  cases hn : (receive timeout reads).offered.length with
  | zero =>
    rw [begun, hn]
    exact Nat.zero_le _
  | succ k =>
    have hk : k < (receive timeout reads).offered.length := by omega
    have hbounds := bounds_of_lt hk
    have hearlier := Read.countP_bringsBytes_le (reads.take k)
    have hlast : reads[k]?.toList.countP Read.bringsBytes ≤ 1 :=
      Nat.le_trans List.countP_le_length (Option.length_toList_le)
    rw [begun, hn, List.take_add_one, List.countP_append]
    omega

/-- Without a frame, receiving ends because of too many bytes, with the time or with a failing
read. -/
theorem result_of_rubbish (hfew : (Read.deliveredBy (begun timeout reads)).count 0x7E ≤ 1) :
    (522 < (Read.deliveredBy (begun timeout reads)).length ∧ (receive timeout reads).result =
      .error (.response .tooLong (some (Read.deliveredBy (begun timeout reads))))) ∨
    ((Read.deliveredBy (begun timeout reads)).length ≤ 522 ∧
      ((receive timeout reads).result = .error .timeout ∨
        ∃ e, (receive timeout reads).result = .error (.system e))) := by
  obtain ht | ⟨k, read, hn, hread, he⟩ := @collect_cases timeout {} reads rfl
  · exact .inr ⟨((Frame.Buffer.check_eq_ok_false_iff _).1 (quiet_of_timeout ht).2).2, .inl ht⟩
  · have hk : k < (receive timeout reads).offered.length := by
      rw [receive, hn]
      exact Nat.lt_succ_self k
    have hbegun : begun timeout reads = reads.take (k + 1) := congrArg (reads.take ·) hn
    rw [hbegun] at hfew ⊢
    change EndedBy ⟨Read.deliveredBy (reads.take (k + 1))⟩ read (receive timeout reads).result at he
    generalize (receive timeout reads).result = result at he
    cases he with
    | failure e outcome fatal =>
      have hnone : read.delivered = [] := by rw [Read.delivered, outcome]
      rw [deliveredBy_take_succ hread, hnone, List.append_nil]
      exact .inr ⟨(bounds_of_lt hk).1, .inr ⟨e, rfl⟩⟩
    | overlong few many => exact .inl ⟨many, rfl⟩
    | frame complete => exact absurd (Nat.le_trans complete hfew) (by decide)

/-- Whatever is delivered, as long as receiving goes on it has been at most 522 bytes, with at most
one delimiter among them; that is what the buffer holds, to which a read adds at most 1024. As soon
as it is more than 522 bytes, receiving ends, and without two delimiters among them it says that the
response is too long, and what was delivered. So at most 523 reads bring any bytes. -/
theorem receive_bounded (timeout : Nat) (reads : List Read)
    (hr : ∀ read ∈ reads, read.delivered.length ≤ Read.capacity) :
    let r := receive timeout reads
    let all := Read.deliveredBy (begun timeout reads)
    (∀ k < r.offered.length,
      (Read.deliveredBy (reads.take k)).length ≤ 522 ∧
      (Read.deliveredBy (reads.take k)).count 0x7E ≤ 1 ∧
      r = afterAll (Read.offers timeout (reads.take k))
        (collect (timeout - Read.duration (reads.take k)) ⟨Read.deliveredBy (reads.take k)⟩
          (reads.drop k))) ∧
    (r.result = .error .timeout → all.length ≤ 522 ∧ all.count 0x7E ≤ 1) ∧
    (∀ k ≤ r.offered.length, (Read.deliveredBy (reads.take k)).length ≤ 522 + 1024) ∧
    (∀ k, 522 < (Read.deliveredBy (reads.take k)).length → r.offered.length ≤ k) ∧
    (all.count 0x7E ≤ 1 →
      (522 < all.length ∧ ∃ flaw, flaw.message = "Response is too long." ∧
        r.result = .error (.response flaw (some all))) ∨
      (all.length ≤ 522 ∧ (r.result = .error .timeout ∨
        ∃ e, r.result = .error (.system e)))) ∧
    (begun timeout reads).countP Read.bringsBytes ≤ 523 := by
  intro r all
  refine ⟨?_, ?_, ?_, ?_, ?_, countP_bringsBytes_begun_le timeout reads⟩
  · intro k hk
    obtain ⟨hlen, hcount⟩ := bounds_of_lt hk
    exact ⟨hlen, hcount, collect_eq_of_lt rfl hk⟩
  · intro ht
    obtain ⟨hfew, hlen⟩ := (Frame.Buffer.check_eq_ok_false_iff _).1 (quiet_of_timeout ht).2
    exact ⟨hlen, Nat.le_of_lt_succ hfew⟩
  · exact fun k hk => length_deliveredBy_le_of_le hr hk
  · intro k hmany
    refine Nat.le_of_not_lt fun hk => ?_
    have hlen := (bounds_of_lt hk).1
    omega
  · intro hfew
    obtain ⟨hmany, hresult⟩ | hended := result_of_rubbish hfew
    · exact .inl ⟨hmany, .tooLong, rfl, hresult⟩
    · exact .inr hended

/-- A line on which there is nothing but rubbish: as many bytes as a response may have, and then,
behind a failure in passing and a read without bytes, a delimiter, with which there is one byte too
many. -/
def chatter : List Read :=
  Arrival.reads (.ofKind .unexpectedEnd)
    [.wait 2, .bytes (List.replicate 522 0x55), .wait 9, .failure (.ofKind .wouldBlock), .wait 1,
      .bytes [], .wait 4, .bytes [0x7E], .wait 1, .bytes [0x7E]]

theorem receive_bounded_chatter :
    (∀ read ∈ chatter, read.delivered.length ≤ Read.capacity) ∧
      (receive 50 chatter).offered.length = 4 ∧
      ∃ flaw, flaw.message = "Response is too long." ∧ (receive 50 chatter).result =
        .error (.response flaw (some (List.replicate 522 0x55 ++ [0x7E]))) := by
  have hr : ∀ read ∈ chatter, read.delivered.length ≤ Read.capacity :=
    fun _ => Arrival.length_delivered_le
  have hn : (receive 50 chatter).offered.length = 4 := by decide +kernel
  have hall : Read.deliveredBy (begun 50 chatter) = List.replicate 522 0x55 ++ [0x7E] := by
    rw [begun, hn]
    decide +kernel
  obtain ⟨-, -, -, -, hrubbish, -⟩ := receive_bounded 50 chatter hr
  rw [hall] at hrubbish
  obtain ⟨-, hflaw⟩ | ⟨hfew, -⟩ := hrubbish (by decide +kernel)
  · exact ⟨hr, hn, hflaw⟩
  · exact absurd hfew (by decide +kernel)

end Reception
end Shdlc
