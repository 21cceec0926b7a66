import Shdlc.Proofs.Update.Refusal
/-!
With which error an update ends when a device refuses a request. Main statement: `run_blames`, what
the device's errors mean is known if the refused request is the question for the type of product,
and for every other request the error is an unknown one.
-/
namespace Shdlc

namespace Update

section Refused

variable {b : Bench} {before : List Ask} {a : Ask} {code : UInt8}

theorem refused_iff :
    Refused b before a code ↔ b.bus.port.refusal?.isNone ∧ code ≠ 0 ∧
      (answer b before a).toOption.any fun r =>
        r.address == a.address && r.command == a.standard.command.id && r.errorCode == code := by
  rw [Refused, Option.isNone_iff_eq_none]
  cases answer b before a with
  | error e => simp [Except.toOption]
  | ok r => simp [Except.toOption, and_assoc]

instance : Decidable (Refused b before a code) := decidable_of_iff' _ refused_iff

theorem Refused.not_acknowledged (h : Refused b before a code) : ¬ Acknowledged b before a := by
  obtain ⟨-, hz, r, ha, -, -, hcode⟩ := h
  rintro ⟨-, r', ha', -, -, hnone, -⟩
  cases ha.symm.trans ha'
  exact hz (hcode.symm.trans hnone)

theorem error?_eq_blamed {d : Device} (ha : a.standard = .getProductType) (hz : code ≠ 0) :
    d.error? code = some (blamed d a code) := by
  simp [blamed, ha, Device.error?, hz]

end Refused

section Run

variable {b : Bench} {emergency listening : Bool} {before : List Ask} {a : Ask}

/-- The frames that an update has sent tell which requests of the plan these are. -/
theorem Sends.eq_of_sent {sent l : List Ask} {result : EStateM.Result Error Bench Unit}
    (hs : Sends emergency b sent result) (hl : l <+: plan emergency b.device.address b.image)
    (h : (Work.final result).bus.sent = b.bus.sent ++ l.map Ask.raw) : sent = l := by
  have hraw := List.append_cancel_left (hs.frames.symm.trans h)
  have hlen : sent.length = l.length := by simpa using congrArg List.length hraw
  exact (List.prefix_of_prefix_length_le hs.planned hl (Nat.le_of_eq hlen)).eq_of_length hlen

/-- When moves have succeeded and one more has been tried, a last request that is not acknowledged is
what has been tried. -/
theorem eq_ask_of_tried {made tried : List Move} {move : Move}
    (hm : Throughout (Succeeds b) [] made) (ht : tried <+: [move]) (ha : ¬ Acknowledged b before a)
    (hasks : asks (made ++ tried) = before ++ [a]) : asks made = before ∧ move = .ask a := by
  have hne : asks made ≠ before ++ [a] := by
    intro h
    have hfine := ((throughout_succeeds_iff b [] made).1 hm).1
    exact ha ((throughout_iff [] _).1 hfine before a [] h)
  rcases List.prefix_concat_iff.1 (show tried <+: [] ++ [move] from ht) with rfl | hnone
  · cases move with
    | ask a' => simpa using hasks
    | tune new => exact absurd (by simpa using hasks) hne
    | tell event => exact absurd (by simpa using hasks) hne
  · exact absurd (by simpa [List.prefix_nil.1 hnone] using hasks) hne

/-- When the last request that has been sent is not acknowledged, the update ends with an error that
tells of it. -/
theorem Sends.explains (hs : Sends emergency b (before ++ [a]) (run emergency listening b))
    (ha : ¬ Acknowledged b before a) :
    ∃ e s done, run emergency listening b = .error e s ∧ asks done = before ∧
      Explains b done (.ask a) e := by
  obtain ⟨-, e, s, hr⟩ := hs.unacknowledged before a [] rfl ha
  cases hb : b.bus.port.bitrate? with
  | none =>
    -- Without a bitrate nothing is sent.
    have hnothing : before ++ [a] = [] := by
      apply hs.eq_of_sent List.nil_prefix
      rw [run_of_none emergency listening hb, Work.final, List.map_nil, List.append_nil]
    simp at hnothing
  | some rate =>
    have hc := run_concludes emergency listening hb
    rw [hr] at hc
    obtain ⟨made, move, rest, tried, restoring, hscript, hmade, -, htried, hrestoring, ht, he⟩ :=
      hc.exists_trails
    have hplan : asks (made ++ tried) <+: plan emergency b.device.address b.image := by
      rw [← asks_script listening emergency b rate]
      exact asks_mono (prefix_of_split hscript htried)
    have hsent := ht.sent_eq
    rw [asks_append, asks_of_restoring hrestoring, List.append_nil] at hsent
    have hasks : asks (made ++ tried) = before ++ [a] := (hs.eq_of_sent hplan (by rwa [hr])).symm
    obtain ⟨hbefore, rfl⟩ := eq_ask_of_tried hmade htried ha hasks
    exact ⟨e, s, made, hr, hbefore, he⟩

/-- A request that is refused is the last, and the update ends with the error for that. -/
theorem Sends.eq_error_of_refused {sent after : List Ask} {code : UInt8}
    (hs : Sends emergency b sent (run emergency listening b)) (h : Refused b before a code)
    (hsplit : sent = before ++ a :: after) :
    after = [] ∧
      ∃ s, run emergency listening b = .error (.device (blamed b.device a code)) s := by
  subst hsplit
  obtain ⟨rfl, -⟩ := hs.unacknowledged before a after rfl h.not_acknowledged
  obtain ⟨e, s, done, hr, rfl, he⟩ := hs.explains h.not_acknowledged
  rw [he.blames a code rfl h] at hr
  exact ⟨rfl, s, hr⟩

end Run

/-- A request that the device refuses is the last of an update, which ends with an error of the
device. This is the error that the device's code stands for if the refused request is the question
for the type of product; else it is an unknown error, whatever the code stands for. -/
theorem run_blames (emergency listening : Bool) (b : Bench) :
    ∃ sent, Sends emergency b sent (run emergency listening b) ∧
      ∀ before a after code, sent = before ++ a :: after → Refused b before a code →
        after = [] ∧ ∃ d s, run emergency listening b = .error (.device d) s ∧
          (a.standard = .getProductType → b.device.error? code = some d) ∧
          (a.standard ≠ .getProductType → d = .unknown code) := by
  obtain ⟨sent, hs⟩ := exists_sends emergency listening b
  refine ⟨sent, hs, ?_⟩
  intro before a after code hsplit hrefused
  obtain ⟨hafter, s, hr⟩ := hs.eq_error_of_refused hrefused hsplit
  refine ⟨hafter, _, s, hr, ?_, ?_⟩
  · intro ha
    exact error?_eq_blamed ha hrefused.2.1
  · intro ha
    exact blamed_of_ne ha b.device code

/-- A device that refuses everything. -/
def unwillingBench (code : UInt8) : Bench :=
  { obligingBench 0x2A with
    bus := { (obligingBench 0x2A).bus with
      surroundings := {
        farSide := Script.farSide { rules := [⟨none, none, .frame code [] none none⟩] } } } }

/-- The refusal of the question for the type of product is told as what it is. -/
theorem run_blames_unwilling :
    Refused (unwillingBench 6) [] ⟨7, .getProductType⟩ 6 ∧
      ∃ s, run false false (unwillingBench 6) =
        .error (.device ⟨6, "Firmware update failed."⟩) s := by
  have hrefused : Refused (unwillingBench 6) [] ⟨7, .getProductType⟩ 6 := by decide +kernel
  have hsent : (Work.final (run false false (unwillingBench 6))).bus.sent =
      [Ask.raw ⟨7, .getProductType⟩] := by decide +kernel
  obtain ⟨sent, hs, hblames⟩ := run_blames false false (unwillingBench 6)
  have hplan : [⟨7, .getProductType⟩] <+: plan false 7 (unwillingBench 6).image := ⟨_, rfl⟩
  obtain rfl := hs.eq_of_sent hplan hsent
  obtain ⟨-, d, s, hr, hd, -⟩ := hblames [] _ [] 6 rfl hrefused
  obtain rfl := Option.some.inj (hd rfl)
  exact ⟨hrefused, s, hr⟩

/-- That the bootloader has failed to update the firmware is an unknown error to an update, although
the device's errors tell of it. -/
theorem run_blames_bootloader :
    (unwillingBench 6).device.error? 6 = some ⟨6, "Firmware update failed."⟩ ∧
      Refused (unwillingBench 6) [] ⟨bootloaderAddress, .updateStart⟩ 6 ∧
      (Work.final (run true false (unwillingBench 6))).bus.sent =
        [Ask.raw ⟨bootloaderAddress, .updateStart⟩] ∧
      ¬ ∃ s, run true false (unwillingBench 6) =
        .error (.device ⟨6, "Firmware update failed."⟩) s := by
  have hrefused : Refused (unwillingBench 6) [] ⟨bootloaderAddress, .updateStart⟩ 6 := by
    decide +kernel
  have hsent : (Work.final (run true false (unwillingBench 6))).bus.sent =
      [Ask.raw ⟨bootloaderAddress, .updateStart⟩] := by decide +kernel
  obtain ⟨sent, hs⟩ := exists_sends true false (unwillingBench 6)
  have hplan : [⟨bootloaderAddress, .updateStart⟩] <+: plan true 7 (unwillingBench 6).image :=
    ⟨_, rfl⟩
  obtain rfl := hs.eq_of_sent hplan hsent
  obtain ⟨-, s, hr⟩ := hs.eq_error_of_refused hrefused rfl
  refine ⟨rfl, hrefused, hsent, ?_⟩
  rintro ⟨t, ht⟩
  have hmessage : "Unknown error." = "Firmware update failed." := by
    simpa [blamed, DeviceError.unknown] using hr.symm.trans ht
  exact absurd hmessage (by decide)

end Update

end Shdlc
