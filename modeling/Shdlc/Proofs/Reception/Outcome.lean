import Shdlc.Proofs.Reception.Waiting
/-!
What a reception yields. Main statement: `receive_ends`, it is decided by the bytes that are
delivered while it lasts.
-/
namespace Shdlc

/-- Whether an error says that the data of a request fill more than a frame. -/
def Error.IsOversize (e : Error) : Prop := ∃ length, e = .payloadTooLong length

theorem Error.not_isOversize_system (e : SystemError) : ¬ (Error.system e).IsOversize := by
  rintro ⟨length, he⟩
  cases he

/-- What cannot be read as a response is flawed. -/
theorem Response.exists_flaw_of_decode {raw : Bytes} {e : Error} (h : decode raw = .error e) :
    ∃ flaw, e = .response flaw (some raw) := by
  unfold decode at h
  split at h
  · dsimp only at h
    split at h
    · split at h
      · cases h
      · cases h
        exact ⟨_, rfl⟩
    · cases h
      exact ⟨_, rfl⟩
  · cases h
    exact ⟨_, rfl⟩

namespace Reception

/-- The reads that begin while a response is received. -/
def begun (timeout : Nat) (reads : List Read) : List Read :=
  reads.take (receive timeout reads).offered.length

/-- How receiving can end that has brought these bytes: with a frame if one is among them, and else
with the time, with a failing read or with too many bytes. -/
inductive Ending (bytes : Bytes) : Except Error Response → Prop where
  | frame {result : Except Error Response} (complete : 2 ≤ bytes.count Frame.delimiter)
    (decoded : Response.decode bytes = result) : Ending bytes result
  | timeout (incomplete : bytes.count Frame.delimiter < 2) : Ending bytes (.error .timeout)
  | failure (incomplete : bytes.count Frame.delimiter < 2) (e : SystemError) :
    Ending bytes (.error (.system e))
  | overlong (incomplete : bytes.count Frame.delimiter < 2) :
    Ending bytes (.error (.response .tooLong (some bytes)))

/-- Where a frame is complete, all depends on what is read in it. -/
theorem Ending.eq_decode {bytes : Bytes} {result : Except Error Response} (h : Ending bytes result)
    (hc : 2 ≤ bytes.count Frame.delimiter) : result = Response.decode bytes := by
  cases h with
  | frame _ decoded => exact decoded.symm
  | timeout incomplete | failure incomplete | overlong incomplete => omega

theorem collect_ends {left : Nat} {buffer : Frame.Buffer} {reads : List Read}
    (hw : buffer.check = .ok false) :
    Ending (buffer.bytes ++
        Read.deliveredBy (reads.take (collect left buffer reads).offered.length))
      (collect left buffer reads).result := by
  have hcount : buffer.bytes.count Frame.delimiter < 2 :=
    ((Frame.Buffer.check_eq_ok_false_iff buffer).1 hw).1
  induction reads generalizing left buffer with
  | nil =>
    rw [List.take_nil, Read.deliveredBy_nil, List.append_nil]
    exact .timeout hcount
  | cons read rest ih =>
    rw [collect]
    by_cases hl : left = 0
    · rw [if_pos hl, List.length_nil, List.take_zero, Read.deliveredBy_nil, List.append_nil]
      exact .timeout hcount
    · rw [if_neg hl]
      obtain ⟨delay, outcome⟩ := read
      cases outcome with
      | failure e =>
        by_cases he : e.isPassing
        · simp only [he, if_true]
          exact ih hw hcount
        · simp only [he, Bool.false_eq_true, if_false]
          rw [← List.append_nil buffer.bytes] at hcount
          exact .failure hcount e
      | bytes bs =>
        cases bs with
        | nil => exact ih hw hcount
        | cons b bs =>
          -- What this read brings goes from what is delivered to what the buffer holds.
          dsimp only
          generalize hf : buffer.append (b :: bs) = filled
          have hb : buffer.bytes ++ (b :: bs) = filled.bytes := congrArg Frame.Buffer.bytes hf
          cases hc : filled.check with
          | error e =>
            obtain ⟨hfew, -, rfl⟩ := (Frame.Buffer.check_eq_error_iff filled e).1 hc
            simp only [after, List.length_cons, List.length_nil, List.take_succ_cons,
              List.take_zero, Read.deliveredBy_cons, Read.deliveredBy_nil, Read.delivered,
              List.append_nil, hb]
            exact .overlong hfew
          | ok complete =>
            cases complete with
            | false =>
              have hrest := @ih (left - delay) filled hc
                ((Frame.Buffer.check_eq_ok_false_iff filled).1 hc).1
              rw [← hb, List.append_assoc] at hrest
              exact hrest
            | true =>
              have hcomplete := (Frame.Buffer.check_eq_ok_true_iff filled).1 hc
              simp only [after, ofComplete, List.length_cons, List.length_nil, List.take_succ_cons,
                List.take_zero, Read.deliveredBy_cons, Read.deliveredBy_nil, Read.delivered,
                List.append_nil, hb]
              exact .frame hcomplete rfl

/-- A reception is decided by what is delivered while it lasts. -/
theorem receive_ends (timeout : Nat) (reads : List Read) :
    Ending (Read.deliveredBy (begun timeout reads)) (receive timeout reads).result := by
  have h := @collect_ends timeout {} reads rfl
  rwa [List.nil_append] at h

theorem exists_decode_of_receive {timeout : Nat} {reads : List Read} {r : Response}
    (h : (receive timeout reads).result = .ok r) : ∃ bytes, Response.decode bytes = .ok r := by
  have he := receive_ends timeout reads
  rw [h] at he
  cases he with
  | frame _ decoded => exact ⟨_, decoded⟩

theorem length_le_of_receive {timeout : Nat} {reads : List Read} {r : Response}
    (h : (receive timeout reads).result = .ok r) : r.data.length ≤ Frame.maxData := by
  obtain ⟨bytes, hd⟩ := exists_decode_of_receive h
  exact ((Response.decode_eq_ok_iff bytes r).1 hd).2

end Reception

end Shdlc
