import Shdlc.Proofs.Reception.Outcome
/-!
Which reads begin while a response is received. Main statement: `lt_length_offered_iff`, a read
begins exactly if the reads before it have ended nothing and there is time left.
-/
namespace Shdlc

namespace Reception

/-- Whether receiving still waits after some reads: none has failed for good, they have brought
neither a frame nor too many bytes, and there is time left. -/
structure Waits (left : Nat) (buffer : Frame.Buffer) (earlier : List Read) : Prop where
  passing : ∀ read ∈ earlier, read.isPassing
  waiting : (buffer.append (Read.deliveredBy earlier)).check = .ok false
  time : Read.duration earlier < left

/-- How a read ends a reception whose buffer holds with it `filled`. -/
inductive EndedBy (filled : Frame.Buffer) (read : Read) : Except Error Response → Prop where
  | failure (e : SystemError) (outcome : read.outcome = .failure e) (fatal : ¬ e.isPassing) :
    EndedBy filled read (.error (.system e))
  | overlong (few : filled.bytes.count Frame.delimiter < 2)
    (many : Frame.maxRaw < filled.bytes.length) :
    EndedBy filled read (.error (.response .tooLong (some filled.bytes)))
  | frame (complete : 2 ≤ filled.bytes.count Frame.delimiter) :
    EndedBy filled read filled.interpret

section Collect

variable {left k : Nat} {buffer : Frame.Buffer} {read : Read} {reads rest : List Read}

theorem EndedBy.ne_timeout {result : Except Error Response} (h : EndedBy buffer read result) :
    result ≠ .error .timeout := by
  cases h with
  | failure | overlong => exact nofun
  | frame =>
    intro ht
    obtain ⟨flaw, hf⟩ := Response.exists_flaw_of_decode ht
    cases hf

theorem collect_cons_of_failure {delay : Nat} {e : SystemError} (hl : 0 < left)
    (he : ¬ e.isPassing) :
    collect left buffer (⟨delay, .failure e⟩ :: rest) =
      { result := .error (.system e), offered := [left], unread := rest } := by
  have hz : left ≠ 0 := by omega
  rw [collect, if_neg hz]
  simp only [he, Bool.false_eq_true, if_false]
  rfl

theorem collect_cons_of_overlong {e : Error} (hl : 0 < left) (hw : buffer.check = .ok false)
    (hc : (buffer.append read.delivered).check = .error e) :
    collect left buffer (read :: rest) =
      { result := .error e, offered := [left]
        notes := [.flawed (buffer.append read.delivered).bytes], unread := rest } := by
  have hz : left ≠ 0 := by omega
  obtain ⟨delay, outcome⟩ := read
  rw [collect, if_neg hz]
  cases outcome with
  | failure e => simp [Read.delivered, hw] at hc
  | bytes bs =>
    cases bs with
    | nil => simp [Read.delivered, hw] at hc
    | cons b bs =>
      simp only [Read.delivered] at hc ⊢
      simp only [hc]
      rfl

/-- A read leaves a reception waiting, or it ends it. -/
theorem collect_cons_cases (hl : 0 < left) (hw : buffer.check = .ok false) (read : Read)
    (rest : List Read) :
    (read.isPassing ∧ (buffer.append read.delivered).check = .ok false) ∨
      (collect left buffer (read :: rest)).offered = [left] ∧
        EndedBy (buffer.append read.delivered) read (collect left buffer (read :: rest)).result := by
  by_cases hp : read.isPassing
  · cases hc : (buffer.append read.delivered).check with
    | ok complete =>
      cases complete with
      | false => exact .inl ⟨hp, rfl⟩
      | true =>
        have hcomplete := (Frame.Buffer.check_eq_ok_true_iff _).1 hc
        rw [collect_cons_of_complete hl hw hc]
        exact .inr ⟨rfl, .frame hcomplete⟩
    | error e =>
      obtain ⟨hfew, hmany, he⟩ := (Frame.Buffer.check_eq_error_iff _ e).1 hc
      rw [collect_cons_of_overlong hl hw hc, he]
      exact .inr ⟨rfl, .overlong hfew hmany⟩
  · obtain ⟨delay, outcome⟩ := read
    cases outcome with
    | bytes bs => exact absurd rfl hp
    | failure e =>
      rw [collect_cons_of_failure hl hp]
      exact .inr ⟨rfl, .failure e rfl hp⟩

/-- What ends a reception does not leave it waiting. -/
theorem EndedBy.not_waiting {result : Except Error Response}
    (h : EndedBy (buffer.append read.delivered) read result) :
    ¬ (read.isPassing ∧ (buffer.append read.delivered).check = .ok false) := by
  rintro ⟨hp, hc⟩
  obtain ⟨hfew, hlen⟩ := (Frame.Buffer.check_eq_ok_false_iff _).1 hc
  cases h with
  | failure e outcome fatal =>
    rw [Read.isPassing, outcome] at hp
    exact fatal hp
  | overlong few many => omega
  | frame complete => omega

theorem waits_nil (hw : buffer.check = .ok false) : Waits left buffer [] ↔ 0 < left := by
  constructor
  · exact fun h => h.time
  · intro hl
    refine ⟨List.forall_mem_nil _, ?_, hl⟩
    rwa [Read.deliveredBy_nil, Frame.Buffer.append_nil]

theorem waits_cons :
    Waits left buffer (read :: rest) ↔
      (read.isPassing ∧ (buffer.append read.delivered).check = .ok false) ∧
        Waits (left - read.delay) (buffer.append read.delivered) rest := by
  constructor
  · rintro ⟨hp, hc, ht⟩
    rw [Read.deliveredBy_cons, ← Frame.Buffer.append_append] at hc
    rw [Read.duration_cons] at ht
    have hread := hp read List.mem_cons_self
    have hrest : ∀ r ∈ rest, r.isPassing := fun r hr => hp r (List.mem_cons_of_mem read hr)
    exact ⟨⟨hread, Frame.Buffer.check_of_check_append hc⟩, hrest, hc, by omega⟩
  · rintro ⟨⟨hread, -⟩, hrest, hc, ht⟩
    refine ⟨List.forall_mem_cons.2 ⟨hread, hrest⟩, ?_, ?_⟩
    · rwa [Read.deliveredBy_cons, ← Frame.Buffer.append_append]
    · rw [Read.duration_cons]
      omega

theorem head?_offered (left : Nat) (buffer : Frame.Buffer) (reads : List Read) :
    (collect left buffer reads).offered.head? = if left = 0 then none else some left := by
  cases reads with
  | nil =>
    rw [collect]
    split <;> rfl
  | cons read rest =>
    rw [collect]
    split <;> rfl

theorem length_offered_pos_iff : 0 < (collect left buffer reads).offered.length ↔ 0 < left := by
  have hhead := head?_offered left buffer reads
  by_cases hl : left = 0
  · rw [if_pos hl, List.head?_eq_none_iff] at hhead
    rw [hhead, List.length_nil]
    omega
  · rw [if_neg hl] at hhead
    obtain ⟨more, hm⟩ := List.head?_eq_some_iff.1 hhead
    rw [hm, List.length_cons]
    omega

/-- A read begins exactly if receiving still waits after those before it. Behind the last of the
given reads one more begins, in which nothing comes. -/
theorem lt_length_offered_iff (hw : buffer.check = .ok false) :
    k < (collect left buffer reads).offered.length ↔
      k ≤ reads.length ∧ Waits left buffer (reads.take k) := by
  induction k generalizing left buffer reads with
  | zero =>
    rw [length_offered_pos_iff, List.take_zero, waits_nil hw]
    exact ⟨fun hl => ⟨Nat.zero_le _, hl⟩, And.right⟩
  | succ k ih =>
    cases reads with
    | nil =>
      have hone : (collect left buffer []).offered.length ≤ 1 := by
        rw [collect]
        split <;> simp
      rw [List.length_nil]
      omega
    | cons read rest =>
      rw [List.take_succ_cons, waits_cons, List.length_cons, Nat.add_le_add_iff_right]
      by_cases hl : left = 0
      · have hzero : ¬ 0 < (collect left buffer (read :: rest)).offered.length := by
          rw [length_offered_pos_iff]
          omega
        constructor
        · omega
        · rintro ⟨-, -, -, -, ht⟩
          omega
      · have hpos : 0 < left := by omega
        obtain ⟨hp, hc⟩ | ⟨ho, he⟩ := collect_cons_cases hpos hw read rest
        · have hrest := @ih (left - read.delay) (buffer.append read.delivered) rest hc
          rw [collect_cons_of_waiting hpos hp hc, after, List.length_cons,
            Nat.add_lt_add_iff_right, hrest]
          exact ⟨fun h => ⟨h.1, ⟨hp, hc⟩, h.2⟩, fun h => ⟨h.1, h.2.2⟩⟩
        · rw [ho, List.length_singleton]
          constructor
          · omega
          · exact fun h => absurd h.2.1 he.not_waiting

/-- Receiving ends because the time is over, or the last read that has begun ends it. -/
theorem collect_cases (hw : buffer.check = .ok false) :
    (collect left buffer reads).result = .error .timeout ∨
      ∃ k read, (collect left buffer reads).offered.length = k + 1 ∧ reads[k]? = some read ∧
        EndedBy (buffer.append (Read.deliveredBy (reads.take (k + 1)))) read
          (collect left buffer reads).result := by
  induction reads generalizing left buffer with
  | nil => exact .inl rfl
  | cons read rest ih =>
    by_cases hl : left = 0
    · rw [collect, if_pos hl]
      exact .inl rfl
    · have hpos : 0 < left := by omega
      obtain ⟨hp, hc⟩ | ⟨ho, he⟩ := collect_cons_cases hpos hw read rest
      · rw [collect_cons_of_waiting hpos hp hc]
        obtain hr | ⟨k, last, ho, hlast, he⟩ := @ih (left - read.delay) _ hc
        · exact .inl hr
        · rw [Frame.Buffer.append_append] at he
          refine .inr ⟨k + 1, last, congrArg (· + 1) ho, hlast, ?_⟩
          rw [List.take_succ_cons]
          exact he
      · refine .inr ⟨0, read, congrArg List.length ho, rfl, ?_⟩
        rw [List.take_succ_cons, List.take_zero, Read.deliveredBy_cons, Read.deliveredBy_nil,
          List.append_nil]
        exact he

/-- Where a reception stands when a read begins. -/
theorem collect_eq_of_lt (hw : buffer.check = .ok false)
    (hk : k < (collect left buffer reads).offered.length) :
    collect left buffer reads = afterAll (Read.offers left (reads.take k))
      (collect (left - Read.duration (reads.take k))
        (buffer.append (Read.deliveredBy (reads.take k))) (reads.drop k)) := by
  obtain ⟨-, hp, hc, ht⟩ := (lt_length_offered_iff hw).1 hk
  have happ := @collect_append left buffer (reads.take k) (reads.drop k) hp ht hc
  rwa [List.take_append_drop] at happ

end Collect

section Receive

variable {timeout k : Nat} {read : Read} {reads : List Read}

theorem deliveredBy_take_succ (hr : reads[k]? = some read) :
    Read.deliveredBy (reads.take (k + 1)) = Read.deliveredBy (reads.take k) ++ read.delivered := by
  rw [List.take_add_one, hr, Option.toList_some, Read.deliveredBy_append, Read.deliveredBy_cons,
    Read.deliveredBy_nil, List.append_nil]

theorem lt_length_receive_iff :
    k < (receive timeout reads).offered.length ↔
      k ≤ reads.length ∧ Waits timeout {} (reads.take k) := lt_length_offered_iff rfl

theorem length_offers_take (hk : k < (receive timeout reads).offered.length) :
    (Read.offers timeout (reads.take k)).length = k := by
  have hle := (lt_length_receive_iff.1 hk).1
  rw [Read.length_offers, List.length_take, Nat.min_eq_left hle]

/-- When a read begins, the buffer holds what the reads before it have brought, and no frame is
complete in it. -/
theorem check_of_lt (hk : k < (receive timeout reads).offered.length) :
    (⟨Read.deliveredBy (reads.take k)⟩ : Frame.Buffer).check = .ok false :=
  (lt_length_receive_iff.1 hk).2.waiting

/-- A read that begins leaves the reception waiting, or it ends it. -/
theorem receive_read_cases (hk : k < (receive timeout reads).offered.length)
    (hr : reads[k]? = some read) :
    (read.isPassing ∧
      (⟨Read.deliveredBy (reads.take (k + 1))⟩ : Frame.Buffer).check = .ok false) ∨
    (receive timeout reads).offered.length = k + 1 ∧
      EndedBy ⟨Read.deliveredBy (reads.take (k + 1))⟩ read (receive timeout reads).result := by
  obtain ⟨hkl, hread⟩ := List.getElem?_eq_some_iff.1 hr
  have htime := (lt_length_receive_iff.1 hk).2.time
  have hdrop : reads.drop k = read :: reads.drop (k + 1) := by
    rw [List.drop_eq_getElem_cons hkl, hread]
  have hstate := collect_eq_of_lt rfl hk
  rw [hdrop] at hstate
  rw [deliveredBy_take_succ hr]
  obtain ⟨hp, hc⟩ | ⟨ho, he⟩ := @collect_cons_cases (timeout - Read.duration (reads.take k))
    ⟨Read.deliveredBy (reads.take k)⟩ (by omega) (check_of_lt hk) read (reads.drop (k + 1))
  · exact .inl ⟨hp, hc⟩
  · right
    rw [receive, hstate, afterAll]
    constructor
    · rw [List.length_append, length_offers_take hk]
      exact congrArg (k + List.length ·) ho
    · exact he

theorem not_waits_all (timeout : Nat) (reads : List Read) :
    let n := (receive timeout reads).offered.length
    ¬ (n ≤ reads.length ∧ Waits timeout {} (reads.take n)) := fun h =>
  Nat.lt_irrefl _ (lt_length_receive_iff.2 h)

/-- When receiving ends because the time is over, no read has ended it. -/
theorem quiet_of_timeout (h : (receive timeout reads).result = .error .timeout) :
    let n := (receive timeout reads).offered.length
    (∀ read ∈ reads.take n, read.isPassing) ∧
      (⟨Read.deliveredBy (reads.take n)⟩ : Frame.Buffer).check = .ok false := by
  intro n
  cases hn : n with
  | zero => exact ⟨List.forall_mem_nil _, rfl⟩
  | succ k =>
    have hk : k < (receive timeout reads).offered.length := by omega
    obtain ⟨hkl, hw⟩ := lt_length_receive_iff.1 hk
    cases hr : reads[k]? with
    | none =>
      have hlen := List.getElem?_eq_none_iff.1 hr
      have htake : reads.take (k + 1) = reads.take k := by
        rw [List.take_of_length_le hlen, List.take_of_length_le (by omega)]
      rw [htake]
      exact ⟨hw.passing, hw.waiting⟩
    | some read =>
      obtain ⟨hp, hc⟩ | ⟨-, he⟩ := receive_read_cases hk hr
      · refine ⟨?_, hc⟩
        rw [List.take_add_one, hr]
        intro r hm
        obtain hm | hm := List.mem_append.1 hm
        · exact hw.passing r hm
        · exact List.mem_singleton.1 hm ▸ hp
      · exact absurd h he.ne_timeout

/-- The last read before the time is over lasts until then, or no such read is given. -/
theorem expired_of_timeout (h : (receive timeout reads).result = .error .timeout) :
    let n := (receive timeout reads).offered.length
    (n ≤ reads.length ∧ timeout ≤ Read.duration (reads.take n)) ∨ n = reads.length + 1 := by
  intro n
  obtain ⟨hp, hc⟩ := quiet_of_timeout h
  have hn := not_waits_all timeout reads
  by_cases hle : n ≤ reads.length
  · exact .inl ⟨hle, Nat.le_of_not_lt fun ht => hn ⟨hle, hp, hc, ht⟩⟩
  · right
    have hlast : ¬ reads.length + 1 < n := by
      intro hlt
      have := (lt_length_receive_iff.1 hlt).1
      omega
    omega

end Receive
end Reception
end Shdlc
