import Shdlc.Proofs.Update.Refusal
/-!
The bitrates of an update. Main statement: `run_tunes`, devices are asked at the bitrate of the port
and bootloaders at theirs, a port whose bitrate cannot be changed is found out before anything is
sent, and the bitrate is the same afterwards unless the port refuses to change back to it.
-/
namespace Shdlc

namespace Effect

/-- A frame that is sent, and the bitrate at which it is. -/
def transmission? : Effect → Option (Bytes × Option UInt32)
  | .request raw rate _ => some (raw, rate)
  | _ => none

end Effect

/-- All frames that have been sent through a bus, with the bitrates at which they were. -/
def Bus.transmissions (b : Bus) : List (Bytes × Option UInt32) :=
  b.trace.toList.filterMap Effect.transmission?

theorem Bus.transmissions_eq (b : Bus) :
    b.transmissions = b.deeds.filterMap Effect.transmission? := by
  rw [filterMap_deeds b]
  · rfl
  · intro e he
    cases e <;> first | rfl | cases he

namespace Update

/-- The bitrate at which a request is to be sent: that of bootloaders for the three commands that
are sent to one, and for others that of the port. -/
def Ask.bitrate (own : Option UInt32) (a : Ask) : Option UInt32 :=
  match a.standard with
  | .updateStart | .updateData _ | .updateStop _ => some bootloaderBitrate
  | _ => own

/-- Whether a move that follows others, if it is a request, is made at the right bitrate. -/
def Tuned (own : Option UInt32) (done : List Move) : Move → Prop
  | .ask a => rateAfter own done = a.bitrate own
  | _ => True

section Moves

variable {own : Option UInt32} {done moves : List Move}

/-- Only tunings change the bitrate. -/
theorem rateAfter_eq_foldl (own : Option UInt32) (moves : List Move) :
    rateAfter own moves = (tunings moves).foldl (fun rate new => rate.map fun _ => new) own := by
  induction moves generalizing own with
  | nil => rfl
  | cons move rest ih => cases move <;> exact ih _

theorem transmissions_effects (allowance : Nat) (h : Throughout (Tuned own) done moves) :
    (effects allowance (rateAfter own done) moves).filterMap Effect.transmission? =
      (asks moves).map fun a => (a.raw, a.bitrate own) := by
  induction moves generalizing done with
  | nil => rfl
  | cons move rest ih =>
    obtain ⟨hmove, hrest⟩ := h
    have htail := ih hrest
    rw [rateAfter_append] at htail
    cases move with
    | tune new => exact htail
    | tell event => exact htail
    | ask a =>
      have hask : rateAfter own done = a.bitrate own := hmove
      exact List.cons_eq_cons.2 ⟨congrArg (a.raw, ·) hask, htail⟩

theorem throughout_tuned (ht : tunings moves = [])
    (ha : ∀ a ∈ asks moves, rateAfter own done = a.bitrate own) :
    Throughout (Tuned own) done moves := by
  induction moves generalizing done with
  | nil => trivial
  | cons move rest ih =>
    cases move with
    | tune new => cases ht
    | tell event =>
      refine ⟨trivial, ih ht ?_⟩
      rw [rateAfter_append]
      exact ha
    | ask a =>
      refine ⟨ha a List.mem_cons_self, ih ht ?_⟩
      rw [rateAfter_append]
      exact fun a hm => ha a (List.mem_cons_of_mem _ hm)

end Moves

section Script

variable {b s : Bench} {done : List Move}

theorem throughout_tuned_script (emergency listening : Bool) (b : Bench) (rate : UInt32) :
    Throughout (Tuned (some rate)) [] (script emergency listening b rate) := by
  have hopen : rateAfter (some rate)
      (opening emergency listening b.device.address rate) = some bootloaderBitrate := by
    rw [rateAfter_eq_foldl, tunings_opening]
    rfl
  rw [script, throughout_append, throughout_append, List.nil_append]
  -- Between the tunings the bitrate stays, so each of the stretches is looked at by itself.
  refine ⟨⟨trivial, (throughout_append _ _ _).2 ⟨throughout_tuned ?_ ?_, trivial, trivial⟩⟩,
    throughout_tuned (tunings_flashing listening b.image) ?_, trivial,
    throughout_tuned (tunings_told listening _) ?_⟩
  · cases emergency <;> simp [checking, entering]
  · intro a ha
    cases emergency with
    | true => cases ha
    | false =>
      obtain rfl | rfl := by simpa [checking, entering] using ha
      · rfl
      · rfl
  · intro a ha
    rw [hopen]
    obtain rfl | ⟨chunk, -, rfl⟩ | rfl := by simpa [flashing] using ha
    · rfl
    · rfl
    · rfl
  · simp

theorem Trails.transmissions_eq (h : Trails b done s)
    (ht : Throughout (Tuned b.bus.port.bitrate?) [] done) :
    s.bus.transmissions =
      b.bus.transmissions ++ (asks done).map fun a => (a.raw, a.bitrate b.bus.port.bitrate?) := by
  rw [Bus.transmissions_eq, h.deeds, List.filterMap_append, ← Bus.transmissions_eq,
    ← transmissions_effects b.bus.port.allowance ht]
  rfl

end Script

section Run

variable {b s : Bench} {done : List Move}

/-- What is sent of a plan is sent at the right bitrates. -/
theorem exists_transmissions (emergency listening : Bool) (b : Bench) :
    ∃ sent, sent <+: plan emergency b.device.address b.image ∧
      (Work.final (run emergency listening b)).bus.transmissions =
        b.bus.transmissions ++ sent.map fun a => (a.raw, a.bitrate b.bus.port.bitrate?) := by
  cases hb : b.bus.port.bitrate? with
  | none =>
    rw [run_of_none emergency listening hb]
    exact ⟨[], List.nil_prefix, (List.append_nil _).symm⟩
  | some rate =>
    have hscript := throughout_tuned_script emergency listening b rate
    have hc := run_concludes emergency listening hb
    cases hr : run emergency listening b with
    | ok _ s =>
      rw [hr] at hc
      cases hc with
      | well succeeds follows =>
        refine ⟨_, List.prefix_rfl, ?_⟩
        rw [← asks_script listening, ← hb]
        exact follows.toTrails.transmissions_eq (hb ▸ hscript)
    | error e s =>
      rw [hr] at hc
      obtain ⟨made, move, rest, tried, restoring, hs, -, -, htried, hrestoring, ht, -⟩ :=
        hc.exists_trails
      have hprefix := prefix_of_split hs htried
      refine ⟨asks (made ++ tried), ?_, ?_⟩
      · rw [← asks_script listening emergency b rate]
        exact asks_mono hprefix
      · have hback : Throughout (Tuned (some rate)) (made ++ tried) [.tune rate] :=
          ⟨trivial, trivial⟩
        have hdone : Throughout (Tuned (some rate)) [] (made ++ tried ++ restoring) :=
          (throughout_append _ _ _).2 ⟨hscript.mono hprefix, hback.mono hrestoring⟩
        have hsent := ht.transmissions_eq (hb ▸ hdone)
        rw [asks_append, asks_of_restoring hrestoring, List.append_nil, hb] at hsent
        exact hsent

/-- A port without a bitrate, or one that does not take its own, is found out at once. -/
theorem run_of_not_takes (emergency listening : Bool)
    (h : ∀ rate, b.bus.port.bitrate? = some rate → ¬ b.bus.Takes 0 rate) :
    ∃ e attempts, run emergency listening b =
      .error e { b with bus := { b.bus with attempts } } := by
  cases hb : b.bus.port.bitrate? with
  | none => exact ⟨_, _, run_of_none emergency listening hb⟩
  | some rate =>
    obtain ⟨e, attempts, he, -⟩ := Bus.setBitrate_of_not_takes (h rate hb)
    refine ⟨e, attempts, ?_⟩
    rw [run_of_some emergency listening hb]
    exact Work.bind_of_error (Work.bind_of_error (onBus_of_error he))

/-- The bitrate was changed, an update comes to change it back, and the port does not take it. -/
structure Unrestored (emergency : Bool) (b : Bench) (rate : UInt32) : Prop where
  own : b.bus.port.bitrate? = some rate
  kept : b.bus.Takes 0 rate
  entered : emergency = false → Acknowledged b [] ⟨b.device.address, .getProductType⟩ ∧
    Acknowledged b [⟨b.device.address, .getProductType⟩] ⟨b.device.address, .enterBootloader⟩
  changed : b.bus.Takes 1 bootloaderBitrate
  refused : ¬ b.bus.Takes 2 rate

theorem unrestored_of_succeeds {emergency listening : Bool} {rate : UInt32} {made : List Move}
    (hb : b.bus.port.bitrate? = some rate)
    (hs : Throughout (Succeeds b) [] (opening emergency listening b.device.address rate))
    (hm : tunings made = [])
    (hf : ¬ Succeeds b (opening emergency listening b.device.address rate ++ made) (.tune rate)) :
    Unrestored emergency b rate := by
  rw [throughout_succeeds_iff, tunings_opening] at hs
  obtain ⟨hasks, hkept, hchanged, -⟩ := hs
  refine ⟨hb, hkept, ?_, hchanged, ?_⟩
  · rintro rfl
    simpa [opening, checking, entering, Throughout] using hasks
  · intro h
    apply hf
    show b.bus.Takes _ rate
    rw [tunings_append, tunings_opening, hm]
    exact h

theorem Stopped.bitrate {move : Move} (h : Stopped b done s move) :
    s.bus.port.bitrate? = rateAfter b.bus.port.bitrate? done := by
  cases move with
  | tune rate =>
    have ht : Trails b done s := h
    exact ht.bitrate
  | ask a =>
    rcases h with hf | hf
    · exact hf.bitrate
    · rw [hf.bitrate, rateAfter_append]
      rfl
  | tell event => exact h.elim

/-- The bitrate is not changed before the last of the opening moves. -/
theorem rateAfter_of_opening {emergency listening : Bool} {address : UInt8} {rate : UInt32}
    {made rest : List Move} {move : Move}
    (h : opening emergency listening address rate = made ++ move :: rest) :
    rateAfter (some rate) made = some rate := by
  have hmade : made <+: opening emergency listening address rate := ⟨move :: rest, h.symm⟩
  have hp : made <+: .tune rate ::
      (if emergency then [] else checking listening address ++ entering listening address) := by
    rw [opening, ← List.cons_append] at hmade h
    refine (List.prefix_concat_iff.1 hmade).resolve_left fun he => ?_
    rw [he, List.self_eq_append_right] at h
    cases h
  have htunings : tunings made <+: [rate] := by
    have ht := tunings_mono hp
    cases emergency <;> simpa [checking, entering] using ht
  rw [rateAfter_eq_foldl]
  rcases List.prefix_cons_iff.1 htunings with hnone | ⟨more, hone, hmore⟩
  · rw [hnone]
    rfl
  · rw [hone, List.prefix_nil.1 hmore]
    rfl

theorem rateAfter_concat_tune (old rate : UInt32) (moves : List Move) :
    rateAfter (some old) (moves ++ [.tune rate]) = some rate := by
  obtain ⟨last, hlast⟩ := Option.ne_none_iff_exists'.1
    (mt (rateAfter_eq_none_iff (some old) moves).1 nofun)
  rw [rateAfter_append, hlast]
  rfl

/-- When an update is over, the bitrate is what it was, unless the port refuses to take it. -/
theorem Concludes.bitrate {emergency listening : Bool} {rate : UInt32}
    {result : EStateM.Result Error Bench Unit} (hb : b.bus.port.bitrate? = some rate)
    (h : Concludes emergency listening b rate result) :
    (Work.final result).bus.port.bitrate? = some rate ∨ Unrestored emergency b rate := by
  cases h with
  | well succeeds follows =>
    left
    rw [Work.final, follows.bitrate, rateAfter_eq_foldl, tunings_script, hb]
    rfl
  | early split succeeds fails stopped fits =>
    left
    rw [Work.final, stopped.bitrate, hb, rateAfter_of_opening split]
  | late opened_eq split succeeds fails prefix_tried restored fits =>
    rcases restored with ⟨-, hf⟩ | ⟨hf, -⟩
    · left
      rw [Work.final, hf.bitrate, hb, rateAfter_concat_tune]
    · right
      rw [opened_eq] at succeeds hf
      refine unrestored_of_succeeds hb ((throughout_append _ _ _).1 succeeds).1 ?_
        (List.append_assoc _ _ _ ▸ hf)
      have hmade := congrArg tunings split
      rw [tunings_flashing, tunings_append, eq_comm, List.append_eq_nil_iff] at hmade
      rw [tunings_append, hmade.1]
      exact List.prefix_nil.1 (tunings_mono prefix_tried)
  | unrestored made_eq succeeds fails trails fits =>
    right
    rw [made_eq] at succeeds fails
    exact unrestored_of_succeeds hb ((throughout_append _ _ _).1 succeeds).1
      (tunings_flashing listening b.image) fails

end Run

/-- Devices are asked at the bitrate of the port, bootloaders at theirs. A port without a bitrate,
or one that refuses to take its own, is found out before anything is sent or told. However an update
ends, the bitrate is what it was before, unless it is to be changed back and the port refuses that;
then the update fails. -/
theorem run_tunes (emergency listening : Bool) (b : Bench) :
    let after := Work.final (run emergency listening b)
    (∃ sent, sent <+: plan emergency b.device.address b.image ∧
      after.bus.transmissions =
        b.bus.transmissions ++ sent.map fun a => (a.raw, a.bitrate b.bus.port.bitrate?)) ∧
    ((∀ rate, b.bus.port.bitrate? = some rate → ¬ b.bus.Takes 0 rate) →
      (∃ e, run emergency listening b = .error e after) ∧
        after.bus.requests = b.bus.requests ∧ after.bus.trace = b.bus.trace) ∧
    (after.bus.port.bitrate? = b.bus.port.bitrate? ∨ ∃ rate, Unrestored emergency b rate) ∧
    ∀ rate, Unrestored emergency b rate → ∃ e, run emergency listening b = .error e after := by
  intro after
  refine ⟨exists_transmissions emergency listening b, ?_, ?_, ?_⟩
  · intro h
    obtain ⟨e, attempts, hr⟩ := run_of_not_takes emergency listening h
    have ha : after = { b with bus := { b.bus with attempts } } := congrArg Work.final hr
    rw [hr, ha]
    exact ⟨⟨e, rfl⟩, rfl, rfl⟩
  · cases hb : b.bus.port.bitrate? with
    | none =>
      left
      have ha : after = b := congrArg Work.final (run_of_none emergency listening hb)
      rw [ha, hb]
    | some rate =>
      exact ((run_concludes emergency listening hb).bitrate hb).imp id fun h => ⟨rate, h⟩
  · intro rate h
    cases hr : run emergency listening b with
    | error e s =>
      have ha : after = s := congrArg Work.final hr
      exact ⟨e, by rw [ha]⟩
    | ok _ s =>
      obtain ⟨-, rate', hb, -, -, htakes⟩ := (run_eq_ok_iff emergency listening b).1 ⟨s, hr⟩
      cases h.own.symm.trans hb
      exact absurd htakes h.refused

/-- A bench with another port, which does not take a bitrate after so many attempts to set one. -/
def refusingBench (port : Port) (earlier : Nat) : Bench :=
  let oblige := obligingBench 0x2A
  { oblige with
    bus := {
      port
      surroundings := { oblige.bus.surroundings with
        retuning := fun n _ => if n = earlier then some (.ofKind .other) else none } } }

/-- Nothing is sent or told over TCP, or at a serial port that does not take its own bitrate; and an
update fails if the bitrate cannot be changed back. If it can, the device has been asked at the
bitrate of the port and the bootloader at its own, and the port is back at the former. -/
theorem run_tunes_refusing :
    (∃ e s, run false true (refusingBench (.tcp ⟨"bridge", 4001, 5000, true, []⟩) 0) = .error e s ∧
      s.bus.trace = #[]) ∧
    (∃ e s, run false true (refusingBench (.serial ⟨"ttyS0", 9600, 100, true, []⟩) 0) =
      .error e s ∧ s.bus.trace = #[]) ∧
    (∃ e s, run true true (refusingBench (.serial ⟨"ttyS0", 9600, 100, true, []⟩) 2) =
      .error e s) ∧
    ∃ s, run false true (refusingBench (.serial ⟨"ttyS0", 9600, 100, true, []⟩) 3) = .ok () s ∧
      s.bus.transmissions.map Prod.snd =
        [some 9600, some 9600, some 115200, some 115200, some 115200] ∧
      s.bus.port.bitrate? = some 9600 := by
  have htcp := run_tunes false true (refusingBench (.tcp ⟨"bridge", 4001, 5000, true, []⟩) 0)
  have hfirst := run_tunes false true (refusingBench (.serial ⟨"ttyS0", 9600, 100, true, []⟩) 0)
  have hlast := run_tunes true true (refusingBench (.serial ⟨"ttyS0", 9600, 100, true, []⟩) 2)
  have hnever := run_tunes false true (refusingBench (.serial ⟨"ttyS0", 9600, 100, true, []⟩) 3)
  refine ⟨?_, ?_, ?_, ?_⟩
  · obtain ⟨⟨e, he⟩, -, ht⟩ := htcp.2.1 nofun
    exact ⟨e, _, he, ht⟩
  · obtain ⟨⟨e, he⟩, -, ht⟩ := hfirst.2.1 fun rate _ h => nomatch h.2 rfl
    exact ⟨e, _, he, ht⟩
  · obtain ⟨e, he⟩ := hlast.2.2.2 9600
      ⟨rfl, ⟨nofun, fun _ => rfl⟩, nofun, ⟨nofun, fun _ => rfl⟩, fun h => nomatch h.2 rfl⟩
    exact ⟨e, _, he⟩
  · have hcount : (match
          run false true (refusingBench (.serial ⟨"ttyS0", 9600, 100, true, []⟩) 3) with
        | .ok _ s => s.bus.transmissions.length
        | .error _ _ => 0) = 5 := by decide +kernel
    cases hr : run false true (refusingBench (.serial ⟨"ttyS0", 9600, 100, true, []⟩) 3) with
    | error e s =>
      rw [hr] at hcount
      cases hcount
    | ok _ s =>
      rw [hr] at hcount hnever
      replace hcount : s.bus.transmissions.length = 5 := hcount
      obtain ⟨⟨sent, hprefix, hsent⟩, -, hback, hfails⟩ := hnever
      rw [Work.final] at hsent
      -- As many requests have been sent as are planned, so the bitrates are those of the plan.
      have hlength : sent.length = 5 := by
        rw [hsent, List.length_append, List.length_map] at hcount
        exact (Nat.zero_add _).symm.trans hcount
      obtain rfl := hprefix.eq_of_length (hlength.trans (by decide +kernel))
      refine ⟨s, rfl, ?_, hback.resolve_right ?_⟩
      · rw [hsent]
        decide +kernel
      · rintro ⟨rate, h⟩
        obtain ⟨e, he⟩ := hfails rate h
        cases he

end Update

end Shdlc
