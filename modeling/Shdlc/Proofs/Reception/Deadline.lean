import Shdlc.Proofs.Reception.Begun
/-!
Receiving by a clock. Main statement: `receive_keeps_deadline`, every read begins before the
deadline and is given the time that is left, and only the deadline ends a reception in which nothing
comes.
-/
namespace Shdlc

namespace Read

/-- The reads in which a script goes by, by a clock that is looked at in front of each of them and
behind the last. -/
def timed (clock : Nat → Nat) (script : List Outcome) : List Read :=
  script.mapIdx fun k outcome => ⟨clock (k + 1) - clock k, outcome⟩

/-- Whether a read says only that nothing has come yet. -/
def Outcome.IsIdle (outcome : Outcome) : Prop :=
  outcome = .bytes [] ∨ ∃ e, outcome = .failure e ∧
    (e.kind = .timedOut ∨ e.kind = .wouldBlock ∨ e.kind = .interrupted)

theorem Outcome.isIdle_failure_iff (e : SystemError) : (failure e).IsIdle ↔ e.isPassing := by
  have hp : e.isPassing ↔ e.kind = .timedOut ∨ e.kind = .wouldBlock ∨ e.kind = .interrupted := by
    unfold SystemError.isPassing
    split <;> simp_all
  rw [hp]
  constructor
  · rintro (h | ⟨e', h, hk⟩)
    · cases h
    · cases h
      exact hk
  · exact fun hk => .inr ⟨e, rfl, hk⟩

theorem duration_append (a b : List Read) : duration (a ++ b) = duration a + duration b := by
  induction a with
  | nil => rw [List.nil_append, duration_nil, Nat.zero_add]
  | cons read rest ih => rw [List.cons_append, duration_cons, ih, duration_cons, Nat.add_assoc]

section Timed

variable {clock : Nat → Nat} {script : List Outcome}

@[simp] theorem length_timed (clock : Nat → Nat) (script : List Outcome) :
    (timed clock script).length = script.length := List.length_mapIdx

theorem getElem?_timed (clock : Nat → Nat) (script : List Outcome) (k : Nat) :
    (timed clock script)[k]? =
      script[k]?.map fun outcome => ⟨clock (k + 1) - clock k, outcome⟩ := List.getElem?_mapIdx

theorem map_outcome_timed (clock : Nat → Nat) (script : List Outcome) :
    (timed clock script).map outcome = script := by
  apply List.ext_getElem?
  intro k
  rw [List.getElem?_map, getElem?_timed, Option.map_map]
  exact Option.map_id'

/-- By such a clock, some reads take the time that has gone by since the first. -/
theorem add_duration_take_timed (hc : ∀ k, clock k ≤ clock (k + 1)) {k : Nat}
    (hk : k ≤ script.length) :
    clock 0 + duration ((timed clock script).take k) = clock k := by
  induction k with
  | zero => rfl
  | succ k ih =>
    have hstep := hc k
    have hearlier := ih (by omega)
    obtain ⟨outcome, ho⟩ : ∃ outcome, script[k]? = some outcome :=
      ⟨_, List.getElem?_eq_getElem hk⟩
    rw [List.take_add_one, getElem?_timed, ho, Option.map_some, Option.toList_some,
      duration_append, duration_cons, duration_nil]
    simp only
    omega

end Timed

end Read

namespace Reception

variable {timeout k : Nat} {reads : List Read}

/-- A read that begins is given the time that is left. -/
theorem getElem?_offered (hk : k < (receive timeout reads).offered.length) :
    (receive timeout reads).offered[k]? = some (timeout - Read.duration (reads.take k)) := by
  have htime := (lt_length_receive_iff.1 hk).2.time
  have hlen := length_offers_take hk
  have hhead := head?_offered (timeout - Read.duration (reads.take k))
    (({} : Frame.Buffer).append (Read.deliveredBy (reads.take k))) (reads.drop k)
  rw [if_neg (by omega)] at hhead
  rw [receive, collect_eq_of_lt rfl hk, afterAll, List.getElem?_append_right (by omega), hlen,
    Nat.sub_self, ← List.head?_eq_getElem?]
  exact hhead

/-- Without any time no read begins. -/
theorem receive_zero (reads : List Read) :
    (receive 0 reads).offered = [] ∧ (receive 0 reads).result = .error .timeout := by
  cases reads with
  | nil => exact ⟨rfl, rfl⟩
  | cons read rest => exact ⟨rfl, rfl⟩

/-- A read in which nothing comes leaves the reception waiting. -/
theorem Waits.concat_idle {left : Nat} {buffer : Frame.Buffer} {earlier : List Read}
    (h : Waits left buffer earlier) {read : Read} (hi : read.outcome.IsIdle)
    (ht : Read.duration (earlier ++ [read]) < left) : Waits left buffer (earlier ++ [read]) := by
  have hread : read.isPassing ∧ read.delivered = [] := by
    obtain ⟨delay, outcome⟩ := read
    obtain rfl | ⟨e, rfl, hk⟩ := hi
    · exact ⟨rfl, rfl⟩
    · exact ⟨(Read.Outcome.isIdle_failure_iff e).1 (.inr ⟨e, rfl, hk⟩), rfl⟩
  refine ⟨?_, ?_, ht⟩
  · intro r hr
    obtain hr | hr := List.mem_append.1 hr
    · exact h.passing r hr
    · exact List.mem_singleton.1 hr ▸ hread.1
  · rw [Read.deliveredBy_append, Read.deliveredBy_cons, Read.deliveredBy_nil, hread.2,
      List.append_nil, List.append_nil]
    exact h.waiting

/-- A read that fails for good ends the reception. -/
theorem receive_of_failure {delay : Nat} {e : SystemError}
    (hk : k < (receive timeout reads).offered.length) (hr : reads[k]? = some ⟨delay, .failure e⟩)
    (he : ¬ e.isPassing) :
    (receive timeout reads).result = .error (.system e) ∧
      (receive timeout reads).offered.length = k + 1 := by
  obtain ⟨hp, -⟩ | ⟨hn, hended⟩ := receive_read_cases hk hr
  · exact absurd hp he
  · -- What ends the reception is the failure, since the buffer is as it was before.
    obtain ⟨hfew, hlen⟩ := (Frame.Buffer.check_eq_ok_false_iff _).1 (check_of_lt hk)
    have hsame : Read.deliveredBy (reads.take (k + 1)) = Read.deliveredBy (reads.take k) := by
      rw [deliveredBy_take_succ hr]
      exact List.append_nil _
    rw [hsame] at hended
    generalize (receive timeout reads).result = result at hended ⊢
    cases hended with
    | failure e' outcome fatal =>
      cases outcome
      exact ⟨rfl, hn⟩
    | overlong few many => omega
    | frame complete => omega

section Timed

variable {clock : Nat → Nat} {deadline : Nat} {script : List Read.Outcome}
  (hc : ∀ k, clock k ≤ clock (k + 1))
include hc

theorem clock_le {i j : Nat} (h : i ≤ j) : clock i ≤ clock j := by
  induction h with
  | refl => exact Nat.le_refl _
  | step _ ih => exact Nat.le_trans ih (hc _)

/-- A read that begins does so before the deadline, and is given the time until then. -/
theorem getElem_offered_timed
    (hk : k < (receive (deadline - clock 0) (Read.timed clock script)).offered.length) :
    clock k < deadline ∧
      (receive (deadline - clock 0) (Read.timed clock script)).offered[k] =
        deadline - clock k := by
  obtain ⟨hle, hw⟩ := lt_length_receive_iff.1 hk
  rw [Read.length_timed] at hle
  have htime := hw.time
  have hclock := Read.add_duration_take_timed hc hle
  refine ⟨by omega, ?_⟩
  rw [(List.getElem_eq_iff hk).2 (getElem?_offered hk)]
  omega

/-- Behind a read in which nothing comes another one begins, if there is time. -/
theorem succ_lt_of_idle {outcome : Read.Outcome}
    (hk : k < (receive (deadline - clock 0) (Read.timed clock script)).offered.length)
    (ho : script[k]? = some outcome) (hi : outcome.IsIdle) (ht : clock (k + 1) < deadline) :
    k + 1 < (receive (deadline - clock 0) (Read.timed clock script)).offered.length := by
  obtain ⟨hlt, -⟩ := List.getElem?_eq_some_iff.1 ho
  obtain ⟨-, hw⟩ := lt_length_receive_iff.1 hk
  have hstart := clock_le hc (Nat.zero_le (k + 1))
  have hle : k + 1 ≤ script.length := hlt
  have hclock := Read.add_duration_take_timed hc hle
  have htake : (Read.timed clock script).take (k + 1) =
      (Read.timed clock script).take k ++ [⟨clock (k + 1) - clock k, outcome⟩] := by
    rw [List.take_add_one, Read.getElem?_timed, ho, Option.map_some, Option.toList_some]
  rw [lt_length_receive_iff, Read.length_timed, htake]
  rw [htake] at hclock
  exact ⟨hle, hw.concat_idle hi (by omega)⟩

/-- When receiving ends because the time is over, the clock has reached the deadline, unless the
script is over. -/
theorem le_clock_of_timeout
    (h : (receive (deadline - clock 0) (Read.timed clock script)).result = .error .timeout) :
    let n := (receive (deadline - clock 0) (Read.timed clock script)).offered.length
    deadline ≤ clock n ∨ n = script.length + 1 := by
  intro n
  have hexpired : (n ≤ (Read.timed clock script).length ∧
      deadline - clock 0 ≤ Read.duration ((Read.timed clock script).take n)) ∨
      n = (Read.timed clock script).length + 1 := expired_of_timeout h
  rw [Read.length_timed] at hexpired
  obtain ⟨hle, hover⟩ | hlast := hexpired
  · have hclock := Read.add_duration_take_timed hc hle
    exact .inl (by omega)
  · exact .inr hlast

end Timed

/-- The deadline lies `timeout` behind the time `start`, by a clock that never goes back and that is
looked at in front of each read and behind the last. Each read begins before the deadline and is
given the time until then. The time is over only if the clock has reached the deadline, or if the
script is over, behind which nothing comes until then; and only if there has been no frame, no
failure for good and not too much. While nothing comes, receiving goes on as long as there is time,
and a failure for good ends it at once. -/
theorem receive_keeps_deadline {clock : Nat → Nat} (hc : ∀ k, clock k ≤ clock (k + 1))
    {start : Nat} (hs : start ≤ clock 0) (timeout : Nat) (script : List Read.Outcome) :
    let deadline := start + timeout
    let reads := Read.timed clock script
    let r := receive (deadline - clock 0) reads
    let n := r.offered.length
    (∀ k (h : k < n), clock k < deadline ∧ r.offered[k] = deadline - clock k) ∧
    (∀ left ∈ r.offered, 0 < left ∧ left ≤ timeout) ∧
    r.offered.Pairwise (· ≥ ·) ∧
    (r.result = .error .timeout →
      (deadline ≤ clock n ∨ n = script.length + 1) ∧
      (Read.deliveredBy (reads.take n)).count 0x7E < 2 ∧
      (Read.deliveredBy (reads.take n)).length ≤ 522 ∧
      ∀ e, .failure e ∈ script.take n → (Read.Outcome.failure e).IsIdle) ∧
    (∀ k outcome, k < n → script[k]? = some outcome → outcome.IsIdle → clock (k + 1) < deadline →
      k + 1 < n) ∧
    (∀ k e, k < n → script[k]? = some (.failure e) → ¬ (Read.Outcome.failure e).IsIdle →
      r.result = .error (.system e) ∧ n = k + 1) ∧
    (timeout = 0 → r.offered = [] ∧ r.result = .error .timeout) := by
  intro deadline reads r n
  refine ⟨fun k hk => getElem_offered_timed hc hk, ?_, ?_, ?_, ?_, ?_, ?_⟩
  · intro left hleft
    obtain ⟨k, hk, rfl⟩ := List.getElem_of_mem hleft
    obtain ⟨hlt, hoffer⟩ := getElem_offered_timed hc hk
    have hlater := clock_le hc (Nat.zero_le k)
    rw [hoffer]
    omega
  · rw [List.pairwise_iff_getElem]
    intro i j hi hj hij
    have hlater := clock_le hc (Nat.le_of_lt hij)
    rw [(getElem_offered_timed hc hi).2, (getElem_offered_timed hc hj).2]
    omega
  · intro ht
    obtain ⟨hp, hcheck⟩ := quiet_of_timeout ht
    obtain ⟨hfew, hlen⟩ := (Frame.Buffer.check_eq_ok_false_iff _).1 hcheck
    refine ⟨le_clock_of_timeout hc ht, hfew, hlen, ?_⟩
    intro e he
    rw [← Read.map_outcome_timed clock script, ← List.map_take] at he
    obtain ⟨read, hread, ho⟩ := List.mem_map.1 he
    have hpassing := hp read hread
    rw [Read.isPassing, ho] at hpassing
    exact (Read.Outcome.isIdle_failure_iff e).2 hpassing
  · exact fun k outcome hk ho hi ht => succ_lt_of_idle hc hk ho hi ht
  · intro k e hk he hfatal
    rw [Read.Outcome.isIdle_failure_iff] at hfatal
    have hread : reads[k]? = some ⟨clock (k + 1) - clock k, .failure e⟩ := by
      rw [Read.getElem?_timed, he, Option.map_some]
    exact receive_of_failure hk hread hfatal
  · intro hz
    have hzero : deadline - clock 0 = 0 := by omega
    have hr : r = receive 0 reads := congrArg (receive · reads) hzero
    rw [hr]
    exact receive_zero reads

/-- A clock that is looked at every five microseconds, for the first time seven after its start. -/
def ticking (k : Nat) : Nat := 7 + 5 * k

/-- A line on which nothing comes until it breaks. -/
def breaking : List Read.Outcome :=
  [.failure (.ofKind .wouldBlock), .bytes [], .failure (.ofKind .brokenPipe), .bytes [0x7E, 0x7E]]

/-- The line breaks before the deadline, so that receiving ends with that and not with the time. -/
theorem receive_keeps_deadline_breaking :
    (∀ k, ticking k ≤ ticking (k + 1)) ∧ 5 ≤ ticking 0 ∧
      (receive (5 + 20 - ticking 0) (Read.timed ticking breaking)).result =
        .error (.system (.ofKind .brokenPipe)) ∧
      (receive (5 + 20 - ticking 0) (Read.timed ticking breaking)).offered = [18, 13, 8] ∧
      ∀ left ∈ (receive (5 + 20 - ticking 0) (Read.timed ticking breaking)).offered,
        0 < left ∧ left ≤ 20 := by
  have hc : ∀ k, ticking k ≤ ticking (k + 1) := by
    intro k
    simp only [ticking]
    omega
  have hs : 5 ≤ ticking 0 := by decide
  have hoffered :
      (receive (5 + 20 - ticking 0) (Read.timed ticking breaking)).offered = [18, 13, 8] := by decide
  have hfatal : ¬ (Read.Outcome.failure (.ofKind .brokenPipe)).IsIdle := by
    rw [Read.Outcome.isIdle_failure_iff]
    decide
  obtain ⟨-, hleft, -, -, -, hbroken, -⟩ := receive_keeps_deadline hc hs 20 breaking
  have hk : 2 < (receive (5 + 20 - ticking 0) (Read.timed ticking breaking)).offered.length := by
    rw [hoffered]
    decide
  exact ⟨hc, hs, (hbroken 2 _ hk rfl hfatal).1, hoffered, hleft⟩

end Reception
end Shdlc
