import Shdlc.Reception
/-!
Receiving as long as nothing ends it. Main statement: reads that begin in time, fail at most in
passing and bring neither a frame nor too many bytes leave a reception that goes on with the time
that is left and with all that they have brought.
-/
namespace Shdlc

namespace Read

def deliveredBy (reads : List Read) : Bytes := reads.flatMap delivered

/-- The microseconds that reads take. -/
def duration : List Read → Nat
  | [] => 0
  | read :: rest => read.delay + duration rest

/-- The microseconds that are left when each of the reads begins. -/
def offers (left : Nat) : List Read → List Nat
  | [] => []
  | read :: rest => left :: offers (left - read.delay) rest

/-- Whether a read brings bytes, or fails only because nothing has come yet. -/
def isPassing (read : Read) : Bool :=
  match read.outcome with
  | .bytes _ => true
  | .failure e => e.isPassing

@[simp] theorem deliveredBy_nil : deliveredBy [] = [] := rfl

@[simp] theorem deliveredBy_cons (read : Read) (rest : List Read) :
    deliveredBy (read :: rest) = read.delivered ++ deliveredBy rest := rfl

@[simp] theorem deliveredBy_append (a b : List Read) :
    deliveredBy (a ++ b) = deliveredBy a ++ deliveredBy b := List.flatMap_append

@[simp] theorem duration_nil : duration [] = 0 := rfl

@[simp] theorem duration_cons (read : Read) (rest : List Read) :
    duration (read :: rest) = read.delay + duration rest := rfl

@[simp] theorem length_offers (left : Nat) (reads : List Read) :
    (offers left reads).length = reads.length := by
  induction reads generalizing left with
  | nil => rfl
  | cons read rest ih => simp [offers, ih]

end Read

namespace Frame.Buffer

@[simp] theorem append_nil (b : Buffer) : b.append [] = b := by simp [append]

@[simp] theorem append_append (b : Buffer) (x y : Bytes) :
    (b.append x).append y = b.append (x ++ y) := by simp [append]

/-- A buffer waits for more as long as it holds at most one delimiter and not too many bytes. -/
theorem check_eq_ok_false_iff (b : Buffer) :
    b.check = .ok false ↔ b.bytes.count delimiter < 2 ∧ b.bytes.length ≤ maxRaw := by
  by_cases hc : 2 ≤ b.bytes.count delimiter
  · simp [check, overlong, complete, hc]
    omega
  · by_cases hl : maxRaw < b.bytes.length
    · simp [check, overlong, complete, hc, hl]
    · simp [check, overlong, complete, hc, hl]
      omega

theorem check_eq_ok_true_iff (b : Buffer) : b.check = .ok true ↔ 2 ≤ b.bytes.count delimiter := by
  by_cases hc : 2 ≤ b.bytes.count delimiter
  · simp [check, overlong, complete, hc]
  · by_cases hl : maxRaw < b.bytes.length
    · simp [check, overlong, complete, hc, hl]
    · simp [check, overlong, complete, hc, hl]

theorem check_eq_error_iff (b : Buffer) (e : Error) :
    b.check = .error e ↔ b.bytes.count delimiter < 2 ∧ maxRaw < b.bytes.length ∧
      e = .response .tooLong (some b.bytes) := by
  by_cases hc : 2 ≤ b.bytes.count delimiter
  · simp [check, overlong, complete, hc]
    omega
  · by_cases hl : maxRaw < b.bytes.length
    · simp [check, overlong, complete, hc, hl, eq_comm]
      omega
    · simp [check, overlong, complete, hc, hl]

/-- A buffer that waits for more has waited for more with fewer bytes in it, too. -/
theorem check_of_check_append {b : Buffer} {more : Bytes} (h : (b.append more).check = .ok false) :
    b.check = .ok false := by
  rw [check_eq_ok_false_iff] at h ⊢
  simp only [append, List.count_append, List.length_append] at h
  omega

end Frame.Buffer

namespace Reception

/-- The reception before which reads were begun with these microseconds left. -/
def afterAll (offers : List Nat) (r : Reception) : Reception :=
  { r with offered := offers ++ r.offered }

/-- After a read that ends nothing, receiving goes on. -/
theorem collect_cons_of_waiting {left : Nat} {buffer : Frame.Buffer} {read : Read}
    {rest : List Read} (hl : 0 < left) (hp : read.isPassing)
    (hc : (buffer.append read.delivered).check = .ok false) :
    collect left buffer (read :: rest) =
      after left (collect (left - read.delay) (buffer.append read.delivered) rest) := by
  have hz : left ≠ 0 := by omega
  obtain ⟨delay, outcome⟩ := read
  rw [collect, if_neg hz]
  cases outcome with
  | failure e =>
    have he : e.isPassing := hp
    simp only [he, if_true, Read.delivered, Frame.Buffer.append_nil]
  | bytes bs =>
    cases bs with
    | nil => simp only [Read.delivered, Frame.Buffer.append_nil]
    | cons b bs =>
      simp only [Read.delivered] at hc ⊢
      simp only [hc]

theorem collect_cons_of_complete {left : Nat} {buffer : Frame.Buffer} {read : Read}
    {rest : List Read} (hl : 0 < left) (hw : buffer.check = .ok false)
    (hc : (buffer.append read.delivered).check = .ok true) :
    collect left buffer (read :: rest) =
      after left (ofComplete (buffer.append read.delivered) rest) := by
  have hz : left ≠ 0 := by omega
  obtain ⟨delay, outcome⟩ := read
  rw [collect, if_neg hz]
  cases outcome with
  | failure e => simp [Read.delivered, hw] at hc
  | bytes bs =>
    cases bs with
    | nil => simp [Read.delivered, hw] at hc
    | cons b bs =>
      simp only [Read.delivered] at hc ⊢
      simp only [hc]

/-- Reads that end nothing: receiving goes on behind them. -/
theorem collect_append {left : Nat} {buffer : Frame.Buffer} {earlier later : List Read}
    (hp : ∀ read ∈ earlier, read.isPassing) (hd : Read.duration earlier < left)
    (hc : (buffer.append (Read.deliveredBy earlier)).check = .ok false) :
    collect left buffer (earlier ++ later) = afterAll (Read.offers left earlier)
      (collect (left - Read.duration earlier) (buffer.append (Read.deliveredBy earlier))
        later) := by
  induction earlier generalizing left buffer with
  | nil => simp [afterAll, Read.offers]
  | cons read rest ih =>
    simp only [Read.duration_cons] at hd
    rw [Read.deliveredBy_cons, ← Frame.Buffer.append_append] at hc
    have hlt : Read.duration rest < left - read.delay := by omega
    have hrest := ih (fun r hr => hp r (List.mem_cons_of_mem read hr)) hlt hc
    rw [List.cons_append, collect_cons_of_waiting (by omega) (hp read List.mem_cons_self)
      (Frame.Buffer.check_of_check_append hc), hrest]
    simp [after, afterAll, Read.offers, Nat.sub_sub]

/-- A frame that is completed in time ends the reception, and no read begins after that. -/
theorem receive_of_complete {timeout : Nat} {earlier later : List Read} {closing : Read}
    (hp : ∀ read ∈ earlier, read.isPassing) (ht : Read.duration earlier < timeout)
    (hw : (⟨Read.deliveredBy earlier⟩ : Frame.Buffer).check = .ok false)
    (hc : (⟨Read.deliveredBy (earlier ++ [closing])⟩ : Frame.Buffer).check = .ok true) :
    receive timeout (earlier ++ closing :: later) =
      afterAll (Read.offers timeout earlier ++ [timeout - Read.duration earlier])
        (ofComplete ⟨Read.deliveredBy (earlier ++ [closing])⟩ later) := by
  have he : (⟨[]⟩ : Frame.Buffer).append (Read.deliveredBy earlier) = ⟨Read.deliveredBy earlier⟩ :=
    rfl
  have hf : (⟨Read.deliveredBy earlier⟩ : Frame.Buffer).append closing.delivered =
      ⟨Read.deliveredBy (earlier ++ [closing])⟩ := by simp [Frame.Buffer.append]
  rw [receive, collect_append hp ht (he ▸ hw), he,
    collect_cons_of_complete (by omega) hw (hf ▸ hc), hf]
  simp [afterAll, after]

end Reception

end Shdlc
