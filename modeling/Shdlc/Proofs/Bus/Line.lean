import Shdlc.Proofs.Bus.Execution
import Shdlc.Proofs.Reception.Outcome
/-!
What sending and changing the bitrate leave as it is at a port. Main statements: ports that differ
in their bitrates and in what is waiting receive alike, and a change of the bitrate fails without
effect or does nothing else.
-/
namespace Shdlc

namespace Port

/-- Ports that send and receive alike, apart from their bitrates and from what is waiting. -/
structure SameLine (p q : Port) : Prop where
  isOpen : p.isOpen = q.isOpen
  refusal : p.refusal? = q.refusal?
  allowance : p.allowance = q.allowance
  hangUp : p.hangUp = q.hangUp

theorem SameLine.refl (p : Port) : p.SameLine p := ⟨rfl, rfl, rfl, rfl⟩

theorem SameLine.trans {p q r : Port} (h : p.SameLine q) (h' : q.SameLine r) : p.SameLine r :=
  ⟨h.isOpen.trans h'.isOpen, h.refusal.trans h'.refusal, h.allowance.trans h'.allowance,
    h.hangUp.trans h'.hangUp⟩

theorem sameLine_withWaiting (p : Port) (waiting : Bytes) : (p.withWaiting waiting).SameLine p := by
  cases p <;> exact ⟨rfl, rfl, rfl, rfl⟩

theorem sameLine_withBitrate (p : Port) (rate : UInt32) : (p.withBitrate rate).SameLine p := by
  cases p <;> exact ⟨rfl, rfl, rfl, rfl⟩

@[simp] theorem bitrate?_withWaiting (p : Port) (waiting : Bytes) :
    (p.withWaiting waiting).bitrate? = p.bitrate? := by
  cases p <;> rfl

@[simp] theorem bitrate?_withBitrate (p : Port) (rate : UInt32) :
    (p.withBitrate rate).bitrate? = p.bitrate?.map fun _ => rate := by
  cases p <;> rfl

end Port

namespace Bus

/-- Whether a port changes to a bitrate when `earlier` attempts to set one have gone before. -/
def Takes (b : Bus) (earlier : Nat) (rate : UInt32) : Prop :=
  b.port.bitrate? ≠ none ∧
    (b.port.isOpen = true → b.surroundings.retuning (b.attempts + earlier) rate = none)

/-- What comes back depends on the requests so far, not on the bitrate or on what is waiting. -/
theorem reception_eq {b b' : Bus} (hl : b'.port.SameLine b.port)
    (hs : b'.surroundings = b.surroundings) (hr : b'.requests = b.requests) (raw : Bytes)
    (timeout : Nat) : b'.reception raw timeout = b.reception raw timeout := by
  rw [reception, reception, hl.allowance, hl.hangUp, hs, hr]

theorem bitrate_of_some {b : Bus} {rate : UInt32} (h : b.port.bitrate? = some rate) :
    bitrate b = .ok rate b := by
  have hg : (get : Action Bus) b = .ok b b := rfl
  rw [bitrate, Work.bind_of_ok hg, h]
  rfl

theorem bitrate_of_none {b : Bus} (h : b.port.bitrate? = none) :
    bitrate b = .error (.bitrateUnsupported b.port.description) b := by
  have hg : (get : Action Bus) b = .ok b b := rfl
  rw [bitrate, Work.bind_of_ok hg, h]
  rfl

def takeBitrate (rate : UInt32) : Action Unit := do
  modify fun b => { b with port := b.port.withBitrate rate }
  record (.bitrate rate)

/-- What setting the bitrate does at a port that has one. -/
private theorem setBitrate_of_some {b : Bus} {rate old : UInt32} (h : b.port.bitrate? = some old) :
    setBitrate rate b =
      (if b.port.isOpen then
        failIf (b.surroundings.retuning b.attempts rate) >>= fun _ => takeBitrate rate
      else takeBitrate rate : Action Unit) { b with attempts := b.attempts + 1 } := by
  rw [setBitrate, Work.bind_of_ok (bitrate_of_some h)]
  rfl

theorem setBitrate_of_takes {b : Bus} {rate : UInt32} (h : b.Takes 0 rate) :
    setBitrate rate b = .ok ()
      { b with
        attempts := b.attempts + 1
        port := b.port.withBitrate rate
        trace := b.trace.push (.bitrate rate) } := by
  obtain ⟨hr, hl⟩ := h
  obtain ⟨old, ho⟩ := Option.ne_none_iff_exists'.1 hr
  rw [setBitrate_of_some ho]
  by_cases hp : b.port.isOpen
  · have hn : b.surroundings.retuning b.attempts rate = none := hl hp
    rw [if_pos hp, hn]
    rfl
  · rw [if_neg hp]
    rfl

theorem setBitrate_of_not_takes {b : Bus} {rate : UInt32} (h : ¬ b.Takes 0 rate) :
    ∃ e attempts, setBitrate rate b = .error e { b with attempts } ∧ ¬ e.IsOversize := by
  cases ho : b.port.bitrate? with
  | none =>
    refine ⟨_, b.attempts, Work.bind_of_error (bitrate_of_none ho), ?_⟩
    rintro ⟨length, he⟩
    cases he
  | some old =>
    rw [setBitrate_of_some ho]
    by_cases hp : b.port.isOpen
    · cases hn : b.surroundings.retuning b.attempts rate with
      | none => exact absurd ⟨by simp [ho], fun _ => hn⟩ h
      | some e =>
        rw [if_pos hp]
        exact ⟨.system e, b.attempts + 1, rfl, Error.not_isOversize_system e⟩
    · exact absurd ⟨by simp [ho], fun hp' => absurd hp' hp⟩ h

/-- A bitrate is not taken because the port has none or because the system refuses. -/
theorem cause_of_setBitrate {b c : Bus} {rate : UInt32} {e : Error}
    (h : setBitrate rate b = .error e c) :
    (∃ port, e = .bitrateUnsupported port) ∨ ∃ cause, e = .system cause := by
  cases ho : b.port.bitrate? with
  | none =>
    rw [setBitrate, Work.bind_of_error (bitrate_of_none ho)] at h
    cases h
    exact .inl ⟨_, rfl⟩
  | some old =>
    rw [setBitrate_of_some ho] at h
    split at h
    · cases hn : b.surroundings.retuning b.attempts rate with
      | none =>
        rw [hn] at h
        cases h
      | some cause =>
        rw [hn] at h
        cases h
        exact .inr ⟨cause, rfl⟩
    · cases h

end Bus

end Shdlc
