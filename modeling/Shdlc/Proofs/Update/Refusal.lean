import Shdlc.Proofs.Update.Run
/-!
An update never goes on after a refusal. Main statement: `run_sends`, what is sent is a beginning of
the plan, in which each request but the last has been acknowledged.
-/
namespace Shdlc

namespace Update

/-- What an update has sent when it ends. -/
structure Sends (emergency : Bool) (b : Bench) (sent : List Ask)
    (result : EStateM.Result Error Bench Unit) : Prop where
  planned : sent <+: plan emergency b.device.address b.image
  requests : (Work.final result).bus.requests = b.bus.requests ++ (sent.map Ask.raw).toArray
  frames : (Work.final result).bus.sent = b.bus.sent ++ sent.map Ask.raw
  /-- A request follows another only if that has been acknowledged. -/
  acknowledged : ∀ before a next after, sent = before ++ a :: next :: after →
    Acknowledged b before a
  /-- A request that is not acknowledged is the last, and the update fails. -/
  unacknowledged : ∀ before a after, sent = before ++ a :: after → ¬ Acknowledged b before a →
    after = [] ∧ ∃ e s, result = .error e s

section Plan

variable {b : Bench} {emergency : Bool} {sent : List Ask}

/-- The memory is not cleared before two other requests. -/
theorem exists_cons_of_updateStart_mem {address : UInt8} {image : Image}
    (hp : sent <+: plan false address image) (hm : ⟨bootloaderAddress, .updateStart⟩ ∈ sent) :
    ∃ next after, sent = ⟨address, .getProductType⟩ :: next :: after := by
  obtain ⟨rest, hr⟩ := hp
  match sent with
  | [] => cases hm
  | [a] =>
    rw [plan, if_neg Bool.false_ne_true] at hr
    obtain rfl : a = ⟨address, .getProductType⟩ := by
      simpa using congrArg List.head? hr
    simp at hm
  | a :: next :: after =>
    rw [plan, if_neg Bool.false_ne_true] at hr
    obtain rfl : a = ⟨address, .getProductType⟩ := by
      simpa using congrArg List.head? hr
    exact ⟨next, after, rfl⟩

/-- The checksum is sent behind everything else. -/
theorem eq_plan_of_updateStop_mem {address : UInt8} {image : Image} {checksum : UInt8}
    (hp : sent <+: plan emergency address image)
    (hm : ⟨bootloaderAddress, .updateStop checksum⟩ ∈ sent) :
    sent = plan emergency address image := by
  rw [plan, ← List.cons_append, ← List.append_assoc] at hp ⊢
  rcases List.prefix_concat_iff.1 hp with h | h
  · exact h
  · have hf := h.subset hm
    cases emergency <;> simp at hf

theorem exists_cons_of_chunk {address : UInt8} {image : Image} {before after : List Ask}
    {chunk : Bytes} (h : plan emergency address image =
      before ++ ⟨bootloaderAddress, .updateData chunk⟩ :: after) :
    ∃ next more, after = next :: more := by
  cases after with
  | cons next more => exact ⟨next, more, rfl⟩
  | nil =>
    have hl := congrArg List.getLast? h
    cases emergency <;> simp [plan, List.getLast?_cons] at hl

end Plan

section Sends

variable {b : Bench} {emergency : Bool} {sent : List Ask} {result : EStateM.Result Error Bench Unit}

/-- When all requests but the last have been acknowledged, so has each that another follows. -/
theorem acknowledged_of_next {fine last before after : List Ask} {a next : Ask}
    (hf : Throughout (Acknowledged b) [] fine) (hl : last.length ≤ 1)
    (hs : fine ++ last = before ++ a :: next :: after) : Acknowledged b before a := by
  have hlen : (fine ++ last).length = (before ++ a :: next :: after).length := congrArg _ hs
  have hpre : before ++ [a] <+: fine := by
    apply List.prefix_of_prefix_length_le _ (List.prefix_append fine last)
    · simp only [List.length_append, List.length_cons, List.length_nil] at hlen ⊢
      omega
    · rw [hs]
      exact ⟨next :: after, by simp⟩
  obtain ⟨more, hmore⟩ := hpre
  exact (throughout_iff [] fine).1 hf before a more (by rw [← hmore]; simp)

/-- What is sent of a plan, when at most the last request has not been acknowledged. -/
theorem sends_of_append {fine last : List Ask} (hf : Throughout (Acknowledged b) [] fine)
    (hl : last.length ≤ 1) (hp : fine ++ last <+: plan emergency b.device.address b.image)
    (hr : (Work.final result).bus.requests =
      b.bus.requests ++ ((fine ++ last).map Ask.raw).toArray)
    (hs : (Work.final result).bus.sent = b.bus.sent ++ (fine ++ last).map Ask.raw)
    (hok : ∀ s, result = .ok () s → last = []) : Sends emergency b (fine ++ last) result where
  planned := hp
  requests := hr
  frames := hs
  acknowledged _ _ _ _ := acknowledged_of_next hf hl
  unacknowledged := by
    intro before a after hsplit ha
    constructor
    · cases after with
      | nil => rfl
      | cons next after => exact absurd (acknowledged_of_next hf hl hsplit) ha
    · cases result with
      | error e s => exact ⟨e, s, rfl⟩
      | ok _ s =>
        rw [hok s rfl, List.append_nil] at hsplit
        exact absurd ((throughout_iff [] fine).1 hf before a after hsplit) ha

theorem Sends.acknowledged_of_updateStart_mem (h : Sends false b sent result)
    (hm : ⟨bootloaderAddress, .updateStart⟩ ∈ sent) :
    Acknowledged b [] ⟨b.device.address, .getProductType⟩ := by
  obtain ⟨next, after, rfl⟩ := exists_cons_of_updateStart_mem h.planned hm
  exact h.acknowledged [] _ next after rfl

theorem Sends.acknowledged_of_updateStop_mem (h : Sends emergency b sent result)
    {checksum : UInt8} (hm : ⟨bootloaderAddress, .updateStop checksum⟩ ∈ sent)
    {before after : List Ask} {chunk : Bytes}
    (hs : plan emergency b.device.address b.image =
      before ++ ⟨bootloaderAddress, .updateData chunk⟩ :: after) :
    Acknowledged b before ⟨bootloaderAddress, .updateData chunk⟩ := by
  obtain ⟨next, more, rfl⟩ := exists_cons_of_chunk hs
  rw [← eq_plan_of_updateStop_mem h.planned hm] at hs
  exact h.acknowledged before _ next more hs

theorem exists_sends (emergency listening : Bool) (b : Bench) :
    ∃ sent, Sends emergency b sent (run emergency listening b) := by
  cases hb : b.bus.port.bitrate? with
  | none =>
    rw [run_of_none emergency listening hb]
    refine ⟨[] ++ [], sends_of_append trivial (Nat.zero_le 1) List.nil_prefix ?_ ?_ fun _ _ => rfl⟩
    · simp [Work.final]
    · simp [Work.final]
  | some rate =>
    have hc := run_concludes emergency listening hb
    cases hr : run emergency listening b with
    | ok _ s =>
      rw [hr] at hc
      cases hc with
      | well succeeds follows =>
        have hs := (throughout_succeeds_iff b [] _).1 succeeds
        have hreq := follows.requests
        have hsent := follows.toTrails.sent_eq
        rw [asks_script] at hs hreq hsent
        rw [← List.append_nil (plan _ _ _)] at hreq hsent
        have hplan : plan emergency b.device.address b.image ++ [] <+:
            plan emergency b.device.address b.image := ⟨[], by simp⟩
        have hlast : ([] : List Ask).length ≤ 1 := Nat.zero_le 1
        exact ⟨_, sends_of_append hs.1 hlast hplan hreq hsent fun _ _ => rfl⟩
    | error e s =>
      rw [hr] at hc
      obtain ⟨made, move, rest, tried, hs, hmade, -, htried, hreq, hsent, -⟩ := hc.exists_failure
      have hfine := (throughout_succeeds_iff b [] _).1 hmade
      have hlast : (asks tried).length ≤ 1 :=
        Nat.le_trans (List.length_filterMap_le _ tried) htried.length_le
      have hplan : asks made ++ asks tried <+: plan emergency b.device.address b.image := by
        rw [← asks_script listening emergency b rate, ← asks_append]
        exact asks_mono (prefix_of_split hs htried)
      rw [asks_append] at hreq hsent
      exact ⟨_, sends_of_append hfine.1 hlast hplan hreq hsent fun _ h => by cases h⟩

/-- An update succeeds exactly if every request of the plan is acknowledged and the port takes every
bitrate. -/
theorem run_eq_ok_iff (emergency listening : Bool) (b : Bench) :
    (∃ s, run emergency listening b = .ok () s) ↔
      Throughout (Acknowledged b) [] (plan emergency b.device.address b.image) ∧
        ∃ rate, b.bus.port.bitrate? = some rate ∧ b.bus.Takes 0 rate ∧
          b.bus.Takes 1 bootloaderBitrate ∧ b.bus.Takes 2 rate := by
  have hiff : ∀ rate, Throughout (Succeeds b) [] (script emergency listening b rate) ↔
      Throughout (Acknowledged b) [] (plan emergency b.device.address b.image) ∧
        b.bus.Takes 0 rate ∧ b.bus.Takes 1 bootloaderBitrate ∧ b.bus.Takes 2 rate := by
    intro rate
    rw [throughout_succeeds_iff, asks_script, tunings_script]
    simp [Throughout]
  constructor
  · rintro ⟨s, hr⟩
    cases hb : b.bus.port.bitrate? with
    | none =>
      rw [run_of_none emergency listening hb] at hr
      cases hr
    | some rate =>
      have hc := run_concludes emergency listening hb
      rw [hr] at hc
      cases hc with
      | well succeeds follows =>
        obtain ⟨ha, ht⟩ := (hiff rate).1 succeeds
        exact ⟨ha, rate, rfl, ht⟩
  · rintro ⟨ha, rate, hb, ht⟩
    have hc := run_concludes emergency listening hb
    cases hr : run emergency listening b with
    | ok _ s => exact ⟨s, rfl⟩
    | error e s =>
      rw [hr] at hc
      obtain ⟨made, move, rest, tried, hs, -, hfails, -⟩ := hc.exists_failure
      exact absurd ((throughout_iff [] _).1 ((hiff rate).2 ⟨ha, ht⟩) made move rest hs) hfails

end Sends

/-- However an update ends, it has sent a beginning of its plan, and gone on only after requests
that were acknowledged. The memory is not cleared of a device for which the image is not made, the
checksum is not sent before every chunk has been acknowledged, and the update succeeds exactly if
every request of the plan is acknowledged and the port takes every bitrate. -/
theorem run_sends (emergency listening : Bool) (b : Bench) :
    ∃ sent, Sends emergency b sent (run emergency listening b) ∧
      (emergency = false →
        ∀ response text type, answer b [] ⟨b.device.address, .getProductType⟩ = .ok response →
          Answer.text response.data = .ok text → Text.productType text = .ok type →
          type ≠ b.image.productType → ⟨bootloaderAddress, .updateStart⟩ ∉ sent) ∧
      (∀ checksum, ⟨bootloaderAddress, .updateStop checksum⟩ ∈ sent →
        ∀ before chunk after, plan emergency b.device.address b.image =
            before ++ ⟨bootloaderAddress, .updateData chunk⟩ :: after →
          Acknowledged b before ⟨bootloaderAddress, .updateData chunk⟩) ∧
      ((∃ s, run emergency listening b = .ok () s) ↔
        (∀ before a after, plan emergency b.device.address b.image = before ++ a :: after →
          Acknowledged b before a) ∧
        ∃ rate, b.bus.port.bitrate? = some rate ∧ b.bus.Takes 0 rate ∧
          b.bus.Takes 1 bootloaderBitrate ∧ b.bus.Takes 2 rate) := by
  obtain ⟨sent, hs⟩ := exists_sends emergency listening b
  refine ⟨sent, hs, ?_, ?_, ?_⟩
  · rintro rfl response text type ha ht hp hne hm
    obtain ⟨-, r, har, -, -, -, text', ht', hp'⟩ := hs.acknowledged_of_updateStart_mem hm
    cases ha.symm.trans har
    cases ht.symm.trans ht'
    cases hp.symm.trans hp'
    exact hne rfl
  · intro checksum hm before chunk after hplan
    exact hs.acknowledged_of_updateStop_mem hm hplan
  · rw [run_eq_ok_iff, throughout_iff]
    simp only [List.nil_append]

/-- A device that is not of the image's type is asked for its type and nothing more. -/
theorem run_sends_to_unlike :
    ∃ (sent : List Ask) (e : Error) (s : Bench), run false false (obligingBench 0x2B) = .error e s ∧
      s.bus.sent = sent.map Ask.raw ∧ sent.length ≤ 1 ∧
      ⟨bootloaderAddress, .updateStart⟩ ∉ sent := by
  have ha : answer (obligingBench 0x2B) [] ⟨7, .getProductType⟩ =
      .ok ⟨7, 0xD0, 0, [0x32, 0x41]⟩ := by
    have hok : (answer (obligingBench 0x2B) [] ⟨7, .getProductType⟩).toOption =
        some ⟨7, 0xD0, 0, [0x32, 0x41]⟩ := by decide +kernel
    cases ha : answer (obligingBench 0x2B) [] ⟨7, .getProductType⟩ with
    | error e =>
      rw [ha] at hok
      cases hok
    | ok r =>
      rw [ha] at hok
      cases hok
      rfl
  have ht : Answer.text [0x32, 0x41] = .ok "2A" := rfl
  have hp : Text.productType "2A" = .ok 0x2A := rfl
  have hn : ¬ Acknowledged (obligingBench 0x2B) [] ⟨7, .getProductType⟩ := by
    rintro ⟨-, r, har, -, -, -, text, ht', hp'⟩
    cases ha.symm.trans har
    cases ht.symm.trans ht'
    exact absurd (Except.ok.inj (hp.symm.trans hp')) (by decide)
  obtain ⟨sent, hs, htype, -, hok⟩ := run_sends false false (obligingBench 0x2B)
  have hstart := htype rfl _ _ _ ha ht hp (by decide)
  have hlen : sent.length ≤ 1 := by
    cases sent with
    | nil => exact Nat.zero_le 1
    | cons a rest =>
      cases rest with
      | nil => exact Nat.le_refl 1
      | cons next after =>
        obtain ⟨rest, hr⟩ := hs.planned
        obtain rfl : a = ⟨7, .getProductType⟩ := (List.cons.inj hr).1
        exact absurd (hs.acknowledged [] _ next after rfl) hn
  cases hr : run false false (obligingBench 0x2B) with
  | ok _ s => exact absurd ((hok.1 ⟨s, hr⟩).1 [] _ _ rfl) hn
  | error e s =>
    have hframes := hs.frames
    rw [hr] at hframes
    exact ⟨sent, e, s, rfl, hframes, hlen, hstart⟩

end Update

end Shdlc
