import Shdlc.Proofs.Update.Steps
/-!
What an update does as a whole. Main statement: `run_concludes`, an update follows its script until
a move fails, and then at most changes the bitrate back.
-/
namespace Shdlc

namespace Update

section Steps

variable {b s : Bench} {done : List Move}

theorem Follows.withImage (h : Follows b done s) {image : Image}
    (hp : image.productType = s.image.productType)
    (ha : image.application = s.image.application) : Follows b done { s with image } :=
  { h with productType := hp.trans h.productType, application := ha.trans h.application }

/-- Work may look at the bench first. -/
theorem Makes.of_get {f : Bench → Work Unit} {moves : List Move}
    (h : ∀ done s, Follows b done s → Makes b (f s) moves) : Makes b (get >>= f) moves :=
  fun done s hs => h done s hs done s hs

/-- Work may change first what does not show. -/
theorem Makes.of_modify {f : Bench → Bench} {work : Work Unit} {moves : List Move}
    (hf : ∀ done s, Follows b done s → Follows b done (f s)) (hw : Makes b work moves) :
    Makes b (modify f >>= fun _ => work) moves :=
  fun done s hs => hw done (f s) (hf done s hs)

theorem makes_checkProductType (listening : Bool) :
    Makes b (checkProductType listening) (checking listening b.device.address) := by
  rw [checkProductType_eq]
  apply Makes.bind (makes_status listening _)
  exact Makes.bind makes_compareProductType (makes_progress listening _)

theorem makes_enterBootloader (listening : Bool) :
    Makes b (enterBootloader listening) (entering listening b.device.address) := by
  apply Makes.bind (makes_status listening _)
  apply Makes.of_get
  intro done s h
  have hs := @makes_execute b ⟨s.device.address, .enterBootloader⟩ rfl (Nat.zero_le _)
  rw [← h.address]
  exact Makes.bind hs (makes_progress listening _)

theorem makes_send (standard : Standard) (hb : standard.isForBootloader)
    (hl : standard.command.payload.length ≤ Frame.maxData) :
    Makes b (send standard) [.ask ⟨bootloaderAddress, standard⟩] :=
  @makes_execute b ⟨bootloaderAddress, standard⟩ hb hl

/-- The pieces of what has not been read are the block that is read next and the pieces of what is
left after it. -/
theorem pieces_rest {i : Image} (h : i.available ≠ 0) :
    Bytes.pieces chunkSize chunkSize_pos i.rest =
      i.block chunkSize :: Bytes.pieces chunkSize chunkSize_pos (i.advance chunkSize).rest := by
  have hne : i.rest ≠ [] := fun hr => h (congrArg List.length hr)
  show _ = i.rest.take chunkSize :: Bytes.pieces chunkSize chunkSize_pos (i.rest.drop chunkSize)
  obtain ⟨c, rest, hr⟩ := List.exists_cons_of_ne_nil hne
  rw [hr, Bytes.pieces]

/-- What has been read after a block is what was read before and the block. -/
theorem size_sub_available_advance (i : Image) (most : Nat) :
    i.size - (i.advance most).available = i.size - i.available + (i.block most).length := by
  have hle : i.rest.length ≤ i.application.length := i.rest_suffix.length_le
  rw [Image.block, Image.advance, Image.available, Image.available, Image.size, List.length_drop,
    List.length_take]
  omega

/-- Block by block, what has not been read of the image is written in its pieces. -/
theorem makes_writeBlocks (listening : Bool) {i : Image}
    (hp : i.productType = b.image.productType) (ha : i.application = b.image.application) :
    Makes b (writeBlocks listening i) (writing listening i.size (i.size - i.available)
      (Bytes.pieces chunkSize chunkSize_pos i.rest)) := by
  fun_induction writeBlocks listening i with
  | case1 i h =>
    intro done s hs
    have hr : i.rest = [] := List.length_eq_zero_iff.1 h
    rw [hr, Bytes.pieces_nil]
    exact .well trivial (by rwa [writing, List.append_nil])
  | case2 i h _ next ih =>
    have hmore := ih hp ha
    have hblock : (Standard.updateData (i.block chunkSize)).command.payload.length ≤
        Frame.maxData :=
      Nat.succ_le_succ (List.length_take_le ..)
    rw [pieces_rest h, writing, ← size_sub_available_advance]
    apply Makes.of_modify
    · intro done s hs
      exact @Follows.withImage b s done hs next (hp.trans hs.productType.symm)
        (ha.trans hs.application.symm)
    apply Makes.bind (makes_send _ rfl hblock)
    apply Makes.bind (makes_status listening _)
    exact Makes.bind (makes_progress listening _) hmore

/-- An image of which nothing has been read is transferred from its start to its end. -/
theorem makes_transfer (listening : Bool) {i : Image}
    (hp : i.productType = b.image.productType) (ha : i.application = b.image.application)
    (hr : i.rest = i.application) :
    Makes b (do
        writeBlocks listening i
        status listening "Verify checksum..."
        send (.updateStop i.checksum)
        progress listening (percent 100))
      (writing listening b.image.size 0 (chunks b.image) ++
        (told listening (.status "Verify checksum...") ++
          .ask ⟨bootloaderAddress, .updateStop b.image.checksum⟩ ::
            told listening (.ofPercent (percent 100)))) := by
  have hz : i.size = b.image.size := congrArg List.length ha
  have hc : i.checksum = b.image.checksum := congrArg (~~~ Bytes.total ·) ha
  have hnone : i.size - i.available = 0 := by
    rw [Image.size, Image.available, hr, Nat.sub_self]
  have hw := makes_writeBlocks listening hp ha
  have hstop := @makes_send b (.updateStop b.image.checksum) rfl (show 2 ≤ 255 by decide)
  rw [hnone, hr, ha, hz] at hw
  rw [hc]
  apply Makes.bind hw
  apply Makes.bind (makes_status listening _)
  exact Makes.bind hstop (makes_progress listening _)

theorem makes_flash (listening : Bool) :
    Makes b (flash listening) (flashing listening b.image) := by
  apply Makes.bind (makes_status listening _)
  apply Makes.bind (makes_send .updateStart rfl (by decide))
  apply Makes.bind (makes_progress listening _)
  apply Makes.bind (makes_status listening _)
  intro done s h
  -- Where reading has stopped before does not matter.
  have hr := @Follows.withImage b s done h s.image.rewind rfl rfl
  exact @makes_transfer b listening s.image.rewind h.productType h.application rfl done _ hr

/-- What an update does before it clears the memory, once the bitrate is known. -/
def prepare (emergency listening : Bool) (rate : UInt32) : Work Unit := do
  onBus (Bus.setBitrate rate)
  if !emergency then
    checkProductType listening
    enterBootloader listening
  onBus (Bus.setBitrate bootloaderBitrate)

def finish (listening : Bool) (rate : UInt32) : Work Unit := do
  let flashed ← attempt (flash listening)
  let restored ← attempt (onBus (Bus.setBitrate rate))
  onBus (Bus.orFail flashed)
  onBus (Bus.orFail restored)
  status listening "Finished!"

theorem makes_prepare (emergency listening : Bool) (rate : UInt32) :
    Makes b (prepare emergency listening rate)
      (opening emergency listening b.device.address rate) := by
  apply Makes.bind (makes_tune rate)
  cases emergency with
  | true => exact makes_tune bootloaderBitrate
  | false =>
    have hm := Makes.bind (@makes_checkProductType b listening)
      (Makes.bind (makes_enterBootloader listening) (makes_tune bootloaderBitrate))
    rw [← List.append_assoc] at hm
    exact hm

theorem run_of_some (emergency listening : Bool) {rate : UInt32}
    (h : b.bus.port.bitrate? = some rate) :
    run emergency listening b =
      (prepare emergency listening rate >>= fun _ => finish listening rate) b := by
  have hb : onBus Bus.bitrate b = .ok rate b := onBus_of_ok (Bus.bitrate_of_some h)
  rw [run, Work.bind_of_ok hb]
  cases emergency with
  | true => simp [prepare, finish]
  | false => simp [prepare, finish]

theorem run_of_none (emergency listening : Bool) (h : b.bus.port.bitrate? = none) :
    run emergency listening b = .error (.bitrateUnsupported b.bus.port.description) b :=
  Work.bind_of_error (onBus_of_error (Bus.bitrate_of_none h))

end Steps

/-- What a bench has become when the bitrate was to be changed back after moves. -/
def Restored (b : Bench) (done : List Move) (rate : UInt32) (s : Bench) : Prop :=
  Succeeds b done (.tune rate) ∧ Follows b (done ++ [.tune rate]) s ∨
    ¬ Succeeds b done (.tune rate) ∧ Trails b done s

/-- How an update ends at a port with a bitrate. -/
inductive Concludes (emergency listening : Bool) (b : Bench) (rate : UInt32) :
    EStateM.Result Error Bench Unit → Prop
  /-- Every move of the script has been made. -/
  | well {s : Bench} (succeeds : Throughout (Succeeds b) [] (script emergency listening b rate))
      (follows : Follows b (script emergency listening b rate) s) :
      Concludes emergency listening b rate (.ok () s)
  /-- A move has failed before the bootloader was reached. -/
  | early {e : Error} {s : Bench} {made rest : List Move} {move : Move}
      (split : opening emergency listening b.device.address rate = made ++ move :: rest)
      (succeeds : Throughout (Succeeds b) [] made) (fails : ¬ Succeeds b made move)
      (stopped : Stopped b made s move) (explains : Explains b made move e) :
      Concludes emergency listening b rate (.error e s)
  /-- The bootloader has failed, and then the bitrate was to be changed back. -/
  | late {e : Error} {s : Bench} {opened made tried rest : List Move} {a : Ask}
      (opened_eq : opened = opening emergency listening b.device.address rate)
      (split : flashing listening b.image = made ++ .ask a :: rest)
      (succeeds : Throughout (Succeeds b) [] (opened ++ made))
      (fails : ¬ Acknowledged b (asks (opened ++ made)) a) (prefix_tried : tried <+: [.ask a])
      (restored : Restored b (opened ++ made ++ tried) rate s)
      (explains : Explains b (opened ++ made) (.ask a) e) :
      Concludes emergency listening b rate (.error e s)
  /-- The bitrate could not be changed back after everything else. -/
  | unrestored {e : Error} {s : Bench} {made : List Move}
      (made_eq : made =
        opening emergency listening b.device.address rate ++ flashing listening b.image)
      (succeeds : Throughout (Succeeds b) [] made) (fails : ¬ Succeeds b made (.tune rate))
      (trails : Trails b made s) (explains : Explains b made (.tune rate) e) :
      Concludes emergency listening b rate (.error e s)

section Run

variable {b s : Bench} {done : List Move}

theorem attempt_of_ok {α : Type} {work : Work α} {a : α} {s' : Bench} (h : work s = .ok a s') :
    attempt work s = .ok (.ok a) s' := by
  simp only [attempt, h]

theorem attempt_of_error {α : Type} {work : Work α} {e : Error} {s' : Bench}
    (h : work s = .error e s') : attempt work s = .ok (.error e) s' := by
  simp only [attempt, h]

theorem Ends.of_singleton {move : Move} {e : Error} (h : Ends b done [move] (.error e s)) :
    ¬ Succeeds b done move ∧ Stopped b done s move ∧ Explains b done move e := by
  cases h with
  | @badly _ _ made rest m split succeeds fails stopped explains =>
    cases made with
    | nil =>
      cases split
      rw [List.append_nil] at fails stopped explains
      exact ⟨fails, stopped, explains⟩
    | cons first made => simp at split

theorem restored_of_attempt (h : Follows b done s) (rate : UInt32) :
    ∃ x s', attempt (onBus (Bus.setBitrate rate)) s = .ok x s' ∧ Restored b done rate s' := by
  have hends := makes_tune rate done s h
  cases hr : onBus (Bus.setBitrate rate) s with
  | ok _ s' =>
    rw [hr] at hends
    cases hends with
    | well succeeds follows => exact ⟨_, s', attempt_of_ok hr, .inl ⟨succeeds.1, follows⟩⟩
  | error e s' =>
    rw [hr] at hends
    obtain ⟨hf, ht, -⟩ := hends.of_singleton
    exact ⟨_, s', attempt_of_error hr, .inr ⟨hf, ht⟩⟩

theorem Stopped.exists_trails {move : Move} (h : Stopped b done s move) :
    ∃ tried, tried <+: [move] ∧ Trails b (done ++ tried) s := by
  cases move with
  | tune rate => exact ⟨[], List.nil_prefix, by rwa [List.append_nil]⟩
  | ask a =>
    rcases h with hf | hf
    · exact ⟨[], List.nil_prefix, by simpa using hf.toTrails⟩
    · exact ⟨[.ask a], List.prefix_rfl, hf.toTrails⟩
  | tell event => exact h.elim

theorem Follows.status_eq (h : Follows b done s) (listening : Bool) (text : String) :
    ∃ s', status listening text s = .ok () s' ∧
      Follows b (done ++ told listening (.status text)) s' := by
  have hends := makes_status listening text done s h
  cases hr : status listening text s with
  | ok _ s' =>
    rw [hr] at hends
    cases hends with
    | well succeeds follows => exact ⟨s', rfl, follows⟩
  | error e s' =>
    rw [hr] at hends
    cases listening with
    | true => exact hends.of_singleton.2.1.elim
    | false =>
      cases hends with
      | badly split => simp [told] at split

/-- The bootloader is asked for nothing but requests; when one fails, so does the update. -/
theorem exists_follows_of_stopped {listening : Bool} {image : Image} {made rest : List Move}
    {move : Move} (hs : flashing listening image = made ++ move :: rest)
    (h : Stopped b done s move) :
    ∃ a tried, move = .ask a ∧ tried <+: [.ask a] ∧ Follows b (done ++ tried) s := by
  cases move with
  | tune rate =>
    have ht := congrArg tunings hs
    simp at ht
  | ask a =>
    rcases h with hf | hf
    · exact ⟨a, [], rfl, List.nil_prefix, by rwa [List.append_nil]⟩
    · exact ⟨a, [.ask a], rfl, List.prefix_rfl, hf⟩
  | tell event => exact h.elim

theorem finish_concludes (emergency listening : Bool) (rate : UInt32)
    (hs : Throughout (Succeeds b) [] (opening emergency listening b.device.address rate))
    (h : Follows b (opening emergency listening b.device.address rate) s) :
    Concludes emergency listening b rate (finish listening rate s) := by
  have hends := makes_flash listening _ s h
  cases hf : flash listening s with
  | error e s' =>
    rw [hf] at hends
    cases hends with
    | badly split succeeds fails stopped explains =>
      obtain ⟨a, tried, rfl, hp, hfollows⟩ := exists_follows_of_stopped split stopped
      obtain ⟨x, s'', ha, hrest⟩ := restored_of_attempt hfollows rate
      have hfin : finish listening rate s = .error e s'' := by
        rw [finish, Work.bind_of_ok (attempt_of_error hf), Work.bind_of_ok ha]
        rfl
      rw [hfin]
      exact .late rfl split ((throughout_append _ _ _).2 ⟨hs, succeeds⟩) fails hp hrest
        explains
  | ok _ s' =>
    rw [hf] at hends
    cases hends with
    | well succeeds follows =>
      have hmade := (throughout_append _ _ _).2 ⟨hs, succeeds⟩
      have htune := makes_tune rate _ s' follows
      cases hr : onBus (Bus.setBitrate rate) s' with
      | error e s'' =>
        rw [hr] at htune
        obtain ⟨hfail, htrails, hexplains⟩ := htune.of_singleton
        have hfin : finish listening rate s = .error e s'' := by
          rw [finish, Work.bind_of_ok (attempt_of_ok hf), Work.bind_of_ok (attempt_of_error hr)]
          rfl
        rw [hfin]
        exact .unrestored rfl hmade hfail htrails hexplains
      | ok _ s'' =>
        have hfin : finish listening rate s = status listening "Finished!" s'' := by
          rw [finish, Work.bind_of_ok (attempt_of_ok hf), Work.bind_of_ok (attempt_of_ok hr)]
          rfl
        rw [hr] at htune
        cases htune with
        | well htuned hfollows =>
          obtain ⟨last, hlast, hfinal⟩ := hfollows.status_eq listening "Finished!"
          rw [hfin, hlast]
          simp only [List.append_assoc, List.cons_append, List.nil_append] at hfinal
          refine .well ?_ hfinal
          rw [script, ← List.append_assoc, throughout_append]
          exact ⟨hmade, htuned.1, throughout_told listening _ _ _⟩

/-- An update at a port with a bitrate follows its script until a move fails. -/
theorem run_concludes (emergency listening : Bool) {rate : UInt32}
    (h : b.bus.port.bitrate? = some rate) :
    Concludes emergency listening b rate (run emergency listening b) := by
  have hends := makes_prepare emergency listening rate [] b (.refl b)
  rw [run_of_some emergency listening h]
  cases hp : prepare emergency listening rate b with
  | error e s =>
    rw [hp] at hends
    rw [Work.bind_of_error hp]
    cases hends with
    | badly split succeeds fails stopped explains =>
      exact .early split succeeds fails stopped explains
  | ok _ s =>
    rw [hp] at hends
    rw [Work.bind_of_ok hp]
    cases hends with
    | well succeeds follows =>
      exact finish_concludes emergency listening rate succeeds follows

/-- When an update fails, it has made the moves up to one that fails, this one perhaps, and at most
the change back to the bitrate from which it came. -/
theorem Concludes.exists_trails {emergency listening : Bool} {rate : UInt32} {e : Error}
    (h : Concludes emergency listening b rate (.error e s)) :
    ∃ made move rest tried restoring,
      script emergency listening b rate = made ++ move :: rest ∧
        Throughout (Succeeds b) [] made ∧ ¬ Succeeds b made move ∧ tried <+: [move] ∧
        restoring <+: [.tune rate] ∧ Trails b (made ++ tried ++ restoring) s ∧
        Explains b made move e := by
  cases h with
  | @early _ _ made rest move split succeeds fails stopped explains =>
    have hs : script emergency listening b rate = made ++ move :: (rest ++
        (flashing listening b.image ++ .tune rate :: told listening (.status "Finished!"))) := by
      rw [script, split, List.append_assoc, List.cons_append]
    obtain ⟨tried, hp, ht⟩ := stopped.exists_trails
    rw [← List.append_nil (made ++ tried)] at ht
    exact ⟨made, move, _, tried, [], hs, succeeds, fails, hp, List.nil_prefix, ht, explains⟩
  | @late _ _ opened made tried rest a opened_eq split succeeds fails prefix_tried restored
      explains =>
    have hs : script emergency listening b rate = (opened ++ made) ++ .ask a :: (rest ++
        .tune rate :: told listening (.status "Finished!")) := by
      rw [script, split, ← opened_eq]
      simp only [List.append_assoc, List.cons_append]
    obtain ⟨-, ht⟩ | ⟨-, ht⟩ := restored
    · exact ⟨_, _, _, tried, _, hs, succeeds, fails, prefix_tried, List.prefix_rfl, ht.toTrails,
        explains⟩
    · rw [← List.append_nil (opened ++ made ++ tried)] at ht
      exact ⟨_, _, _, tried, [], hs, succeeds, fails, prefix_tried, List.nil_prefix, ht, explains⟩
  | @unrestored _ _ made made_eq succeeds fails trails explains =>
    have hs : script emergency listening b rate =
        made ++ .tune rate :: told listening (.status "Finished!") := by
      rw [script, made_eq, List.append_assoc]
    rw [← List.append_nil made, ← List.append_nil (made ++ [])] at trails
    exact ⟨made, _, _, [], [], hs, succeeds, fails, List.nil_prefix, List.nil_prefix, trails,
      explains⟩

/-- What stands before an element of a list, with it or without it, is a beginning of the list. -/
theorem prefix_of_split {α : Type} {a : α} {l made rest tried : List α}
    (hs : l = made ++ a :: rest) (ht : tried <+: [a]) : made ++ tried <+: l := by
  obtain ⟨more, hmore⟩ := ht
  rw [hs, ← List.singleton_append, ← hmore, List.append_assoc, List.prefix_append_right_inj]
  exact List.prefix_append _ _

theorem asks_of_restoring {restoring : List Move} {rate : UInt32}
    (h : restoring <+: [.tune rate]) : asks restoring = [] :=
  List.prefix_nil.1 (asks_mono h)

/-- When an update fails, it has sent the requests up to the move that fails. -/
theorem Concludes.exists_failure {emergency listening : Bool} {rate : UInt32} {e : Error}
    (h : Concludes emergency listening b rate (.error e s)) :
    ∃ made move rest tried, script emergency listening b rate = made ++ move :: rest ∧
      Throughout (Succeeds b) [] made ∧ ¬ Succeeds b made move ∧ tried <+: [move] ∧
      s.bus.requests = b.bus.requests ++ ((asks (made ++ tried)).map Ask.raw).toArray ∧
      s.bus.sent = b.bus.sent ++ (asks (made ++ tried)).map Ask.raw ∧ ¬ e.IsOversize := by
  obtain ⟨made, move, rest, tried, restoring, hs, hmade, hfails, htried, hrestoring, ht, he⟩ :=
    h.exists_trails
  have hr := ht.requests
  have hf := ht.sent_eq
  rw [asks_append, asks_of_restoring hrestoring, List.append_nil] at hr hf
  exact ⟨made, move, rest, tried, hs, hmade, hfails, htried, hr, hf, he.fits⟩

end Run

end Update

end Shdlc
