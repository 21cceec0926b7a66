import Shdlc.Proofs.Reception.Cutting
import Shdlc.Proofs.Reception.Outcome
/-!
Bytes that gather in a buffer, piece by piece. Main statement: `additions_bind`, once a response is
complete it stays complete and is read alike, whatever is added to it.
-/
namespace Shdlc.Frame

/-- What came of adding bytes to a buffer: whether a response is complete, unless there are too many
bytes for one, and the buffer, which keeps them in any case. -/
structure Addition where
  answer : Except Error Bool
  buffer : Buffer

namespace Buffer

def add (b : Buffer) (more : Bytes) : Addition := ⟨(b.append more).check, b.append more⟩

/-- What comes of adding pieces one after the other. -/
def additions (b : Buffer) : List Bytes → List Addition
  | [] => []
  | piece :: rest => b.add piece :: additions (b.append piece) rest

/-- Whether two buffers are read as the same response, or with the same flaw and each with its own
bytes. -/
def ReadsAlike (b other : Buffer) : Prop :=
  (∃ r, b.interpret = .ok r ∧ other.interpret = .ok r) ∨
    ∃ flaw, b.interpret = .error (.response flaw (some b.bytes)) ∧
      other.interpret = .error (.response flaw (some other.bytes))

variable {b : Buffer}

theorem check_append_of_complete (h : b.check = .ok true) (more : Bytes) :
    (b.append more).check = .ok true := by
  rw [check_eq_ok_true_iff] at h ⊢
  exact Nat.le_trans h ((List.sublist_append_left ..).count_le delimiter)

/-- After too many bytes there are too many, until they hold a frame. -/
theorem check_append_of_overlong {e : Error} (h : b.check = .error e) (more : Bytes) :
    (b.append more).check = if 2 ≤ (b.append more).bytes.count delimiter then .ok true
      else .error (.response .tooLong (some (b.append more).bytes)) := by
  obtain ⟨-, hmany, -⟩ := (check_eq_error_iff b e).1 h
  split
  · next hc => exact (check_eq_ok_true_iff _).2 hc
  · next hc =>
    rw [check_eq_error_iff]
    refine ⟨Nat.lt_of_not_le hc, ?_, rfl⟩
    rw [append, List.length_append]
    omega

theorem readsAlike_append (h : b.check = .ok true) (more : Bytes) :
    b.ReadsAlike (b.append more) := by
  have halike : Response.Alike b.interpret (b.append more).interpret :=
    Response.decode_append_alike ((check_eq_ok_true_iff b).1 h) more
  have hflawed : ∀ (filled : Buffer) {e : Error}, filled.interpret = .error e →
      ∃ flaw, e = .response flaw (some filled.bytes) := fun _ _ => Response.exists_flaw_of_decode
  generalize hb : b.interpret = read, hmore : (b.append more).interpret = other at halike
  cases halike with
  | frame r => exact .inl ⟨r, hb, hmore⟩
  | flaw flaw raw raw' =>
    obtain ⟨_, ⟨⟩⟩ := hflawed b hb
    obtain ⟨_, ⟨⟩⟩ := hflawed _ hmore
    exact .inr ⟨flaw, hb, hmore⟩

@[simp] theorem length_additions (b : Buffer) (pieces : List Bytes) :
    (b.additions pieces).length = pieces.length := by
  induction pieces generalizing b with
  | nil => rfl
  | cons piece rest ih => rw [additions, List.length_cons, List.length_cons, ih]

/-- What comes of a piece is what would come of all pieces up to it in one. -/
theorem getElem?_additions {pieces : List Bytes} {k : Nat} {a : Addition}
    (h : (b.additions pieces)[k]? = some a) : a = b.add (pieces.take (k + 1)).flatten := by
  induction pieces generalizing b k with
  | nil => simp [additions] at h
  | cons piece rest ih =>
    rw [additions] at h
    cases k with
    | zero =>
      obtain rfl : b.add piece = a := Option.some.inj h
      simp
    | succ k =>
      rw [ih h, List.take_succ_cons, List.flatten_cons, add, add, append_append]

end Buffer

namespace Addition

/-- What an addition settles for those that come later. -/
structure Binds (earlier later : Addition) : Prop where
  complete : earlier.answer = .ok true → later.answer = .ok true
  readsAlike : earlier.answer = .ok true → earlier.buffer.ReadsAlike later.buffer
  overlong : ∀ e, earlier.answer = .error e →
    later.answer = if 2 ≤ later.buffer.bytes.count delimiter then .ok true
      else .error (.response .tooLong (some later.buffer.bytes))

/-- Adding to a buffer is bound by what came of adding to it before. -/
theorem binds_add (b : Buffer) (bytes more : Bytes) :
    (b.add bytes).Binds (b.add (bytes ++ more)) := by
  have happend : b.append (bytes ++ more) = (b.append bytes).append more :=
    (b.append_append bytes more).symm
  rw [Buffer.add, Buffer.add, happend]
  exact ⟨fun h => Buffer.check_append_of_complete h more, fun h => Buffer.readsAlike_append h more,
    fun _ h => Buffer.check_append_of_overlong h more⟩

end Addition

namespace Buffer

/-- Whatever is added to an empty buffer, it holds all of it in order, also what was too much when
it came. A response is complete exactly if there are two delimiters. From then on it stays complete,
for any number of bytes, and is read as the same response or with the same flaw. When there were too
many bytes, there are too many until the second delimiter has come. -/
theorem additions_bind (pieces : List Bytes) :
    (additions {} pieces).length = pieces.length ∧
    (∀ k a, (additions {} pieces)[k]? = some a → a.buffer.bytes = (pieces.take (k + 1)).flatten ∧
      (a.answer = .ok true ↔ 2 ≤ (pieces.take (k + 1)).flatten.count delimiter)) ∧
    ∀ (j k : Nat) (earlier later : Addition), j ≤ k → (additions {} pieces)[j]? = some earlier →
      (additions {} pieces)[k]? = some later → earlier.Binds later := by
  refine ⟨length_additions {} pieces, ?_, ?_⟩
  · intro k a h
    obtain rfl := getElem?_additions h
    exact ⟨rfl, check_eq_ok_true_iff _⟩
  · intro j k earlier later hjk hj hk
    obtain ⟨more, hmore⟩ : pieces.take (j + 1) <+: pieces.take (k + 1) :=
      List.take_prefix_take_left (Nat.succ_le_succ hjk)
    rw [getElem?_additions hj, getElem?_additions hk, ← hmore, List.flatten_append]
    exact Addition.binds_add _ _ _

/-- Noise, then a response in two pieces, and bytes behind it. -/
def crowded (noise : Bytes) : List Bytes :=
  [noise, [0x7E, 0x07, 0xD0], [0x00, 0x00, 0x28, 0x7E], [0x7E, 0x13, 0x7E]]

/-- The second piece is still too much, the third ends that, and the fourth changes nothing. -/
theorem additions_bind_crowded :
    ∃ first second third fourth,
      additions {} (crowded (List.replicate 523 0x55)) = [first, second, third, fourth] ∧
      second.answer = .error (.response .tooLong (some second.buffer.bytes)) ∧
      third.answer = .ok true ∧ fourth.answer = .ok true ∧
      fourth.buffer.interpret = .ok ⟨0x07, 0xD0, 0x00, []⟩ := by
  have hlong : maxRaw < (List.replicate 523 (0x55 : UInt8)).length := by decide +kernel
  have hnone : delimiter ∉ List.replicate 523 (0x55 : UInt8) := by decide +kernel
  generalize List.replicate 523 (0x55 : UInt8) = noise at hlong hnone
  obtain ⟨-, hgathered, hbinds⟩ := additions_bind (crowded noise)
  have hcount : noise.count delimiter = 0 := List.count_eq_zero.2 hnone
  have hfirst : (add {} noise).answer = .error (.response .tooLong (some noise)) :=
    (check_eq_error_iff ⟨noise⟩ _).2 ⟨by rw [hcount]; decide, hlong, rfl⟩
  have hsecond := (hbinds 0 1 _ _ (by decide) rfl rfl).overlong _ hfirst
  have hfew : ¬ 2 ≤ (noise ++ [0x7E, 0x07, 0xD0]).count delimiter := by
    rw [List.count_append, hcount]
    decide
  obtain ⟨hbytes, hcomplete⟩ := hgathered 2 _ rfl
  have hthree : ((crowded noise).take 3).flatten =
      noise ++ enclose (Response.content ⟨0x07, 0xD0, 0x00, []⟩) := by rfl
  have hread : Response.decode ((crowded noise).take 3).flatten = .ok ⟨0x07, 0xD0, 0x00, []⟩ := by
    have h := Response.decode_enclose ⟨0x07, 0xD0, 0x00, []⟩ (by decide) noise [] hnone
    rwa [List.append_nil, ← hthree] at h
  have hthird := hcomplete.2 (by
    rw [hthree, List.count_append]
    exact Nat.le_add_left 2 _)
  have hlater := hbinds 2 3 _ _ (by decide) rfl rfl
  refine ⟨_, _, _, _, rfl, hsecond.trans (if_neg hfew), hthird, hlater.complete hthird, ?_⟩
  obtain ⟨r, hr, hsame⟩ | ⟨flaw, hflawed, -⟩ := hlater.readsAlike hthird
  · cases hread.symm.trans ((congrArg Response.decode hbytes).symm.trans hr)
    exact hsame
  · cases hread.symm.trans ((congrArg Response.decode hbytes).symm.trans hflawed)

end Buffer

end Shdlc.Frame
