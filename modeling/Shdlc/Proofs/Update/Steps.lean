import Shdlc.Proofs.Bus.Belief
import Shdlc.Proofs.Bus.Failure
import Shdlc.Proofs.Station
import Shdlc.Proofs.Update.Course
/-!
What the steps of an update do. Main statements: each makes the moves that the script has for it,
and the error with which it ends tells of the move that has failed.
-/
namespace Shdlc

namespace Update

namespace Ask

variable (a : Ask)

def request (h : a.payload.length ≤ Frame.maxData) : Request :=
  ⟨a.address, a.standard.command.id, a.payload, h⟩

theorem make_request (h : a.payload.length ≤ Frame.maxData) :
    Request.make a.address a.standard.command.id a.standard.command.payload = .ok (a.request h) :=
  dif_pos h

theorem judge_iff (h : a.standard.isForBootloader) (image : Image) (r : Response) :
    (∃ x, a.standard.command.judge a.address r = .ok x) ↔
      r.address = a.address ∧ r.command = a.standard.command.id ∧ r.errorCode = 0 ∧
        a.Accepts image r.data := by
  obtain ⟨address, standard⟩ := a
  cases standard with
  | enterBootloader => exact Standard.judge_bootloader_iff _ _ _ _ _
  | updateStart => exact Standard.judge_bootloader_iff _ _ _ _ _
  | updateData chunk => exact Standard.judge_bootloader_iff _ _ _ _ _
  | updateStop checksum => exact Standard.judge_bootloader_iff _ _ _ _ _
  | _ => cases h

end Ask

section Answers

variable {b : Bench} {before : List Ask} {a : Ask}

theorem endsExchange_of_answer_judge {α : Type} {c : Command α} {address : UInt8} {e : Error}
    (hi : Answer.BlamesData c.interpret)
    (h : (answer b before a).bind (c.judge address) = .error e) : e.EndsExchange := by
  cases ha : answer b before a with
  | error e' =>
    rw [ha] at h
    cases h
    exact Reception.endsExchange_of_receive ha
  | ok r =>
    rw [ha] at h
    exact Command.endsExchange_of_judge hi h

/-- What a command makes of an answer with an error. -/
theorem answer_judge_of_refused {code : UInt8} (h : Refused b before a code) :
    (answer b before a).bind (a.standard.command.judge a.address) =
      .error (.device (.unknown code)) := by
  obtain ⟨-, hz, r, ha, haddress, hcommand, rfl⟩ := h
  rw [ha]
  exact (Command.judge_eq_device_iff _ _ _ _).2 ⟨haddress, hcommand, .inl ⟨hz, rfl⟩⟩

/-- A bootloader has acknowledged a request exactly if the command is content with the answer. -/
theorem acknowledged_iff_of_isForBootloader (h : a.standard.isForBootloader)
    (hr : b.bus.port.refusal? = none) :
    Acknowledged b before a ↔
      ∃ x, (answer b before a).bind (a.standard.command.judge a.address) = .ok x := by
  constructor
  · rintro ⟨-, r, ha, hv⟩
    rw [ha]
    exact (a.judge_iff h b.image r).2 hv
  · rintro ⟨x, hx⟩
    cases ha : answer b before a with
    | error e =>
      rw [ha] at hx
      cases hx
    | ok r =>
      rw [ha] at hx
      exact ⟨hr, r, ha, (a.judge_iff h b.image r).1 ⟨x, hx⟩⟩

/-- A device has said of itself what the image must be made for exactly if the command is content
with the answer and the text that it finds there is the type of product. -/
theorem acknowledged_getProductType_iff {address : UInt8} (hr : b.bus.port.refusal? = none) :
    Acknowledged b before ⟨address, .getProductType⟩ ↔
      ∃ text inErrorState, (answer b before ⟨address, .getProductType⟩).bind
          ((Standard.information 0).judge address) = .ok (text, inErrorState) ∧
        Text.productType text = .ok b.image.productType := by
  constructor
  · rintro ⟨-, r, ha, hadd, hc, he, text, ht, hp⟩
    have hl : r.data.length ≤ Frame.maxData := Reception.length_le_of_receive ha
    rw [ha]
    exact ⟨text, r.reportsErrorState,
      (Standard.judge_information_iff 0 address r hl _).2 ⟨hadd, hc, he, ht, rfl⟩, hp⟩
  · rintro ⟨text, flag, hx, hp⟩
    cases ha : answer b before ⟨address, .getProductType⟩ with
    | error e =>
      rw [ha] at hx
      cases hx
    | ok r =>
      rw [ha] at hx
      have hl : r.data.length ≤ Frame.maxData := Reception.length_le_of_receive ha
      obtain ⟨hadd, hc, he, ht, -⟩ := (Standard.judge_information_iff 0 address r hl _).1 hx
      exact ⟨hr, r, ha, hadd, hc, he, text, ht, hp⟩

end Answers

section Steps

variable {b s : Bench} {done : List Move}

theorem Ends.acknowledged (h : Follows b done s) {a : Ask} (ha : Acknowledged b (asks done) a)
    {bus : Bus} (hb : (s.bus.exchanged a.raw a.standard.command.timeout).Annotates bus)
    (inErrorState : Bool) :
    Ends b done [.ask a] (.ok () { s with bus, device := { s.device with inErrorState } }) :=
  .well ⟨ha, trivial⟩ ((h.ask a).annotate hb inErrorState)

theorem Ends.unacknowledged (h : Follows b done s) {a : Ask} (ha : ¬ Acknowledged b (asks done) a)
    {bus : Bus} (hb : (s.bus.exchanged a.raw a.standard.command.timeout).Annotates bus)
    (inErrorState : Bool) {e : Error} (he : Explains b done (.ask a) e) :
    Ends b done [.ask a] (.error e { s with bus, device := { s.device with inErrorState } }) :=
  .first ha (.inr ((h.ask a).annotate hb inErrorState)) he

theorem Ends.unsent (h : Follows b done s) (a : Ask) {e : SystemError}
    (hr : s.bus.port.refusal? = some e) : Ends b done [.ask a] (.error (.system e) s) := by
  have hn : b.bus.port.refusal? ≠ none := by
    rw [← h.line.refusal, hr]
    exact Option.some_ne_none e
  have he : Explains b done (.ask a) (.system e) :=
    ⟨Error.not_isOversize_system e, fun _ _ _ href => absurd href.1 hn⟩
  exact .first (fun ha => hn ha.1) (.inl h) he

/-- What a command makes of the answer to a request is told by the moves before it. -/
theorem Follows.execute_eq (h : Follows b done s) (a : Ask) (hl : a.payload.length ≤ Frame.maxData)
    (hr : s.bus.port.refusal? = none) :
    ∃ bus, (s.bus.exchanged a.raw a.standard.command.timeout).Annotates bus ∧
      Bus.execute a.address a.standard.command true s.bus =
        Work.outcome bus ((answer b (asks done) a).bind (a.standard.command.judge a.address)) := by
  rw [← h.answer_eq a]
  exact Bus.execute_of_make (a.make_request hl) hr true

/-- The error that a command for a bootloader makes of an answer explains why it fails. -/
theorem explains_of_answer_judge {a : Ask} {e : Error} (hb : a.standard.isForBootloader)
    (h : (answer b (asks done) a).bind (a.standard.command.judge a.address) = .error e) :
    Explains b done (.ask a) e := by
  have htype : a.standard ≠ .getProductType := by
    intro ht
    rw [ht] at hb
    cases hb
  refine ⟨(endsExchange_of_answer_judge a.standard.blamesData h).not_isOversize, ?_⟩
  rintro _ code ⟨⟩ hr
  rw [blamed_of_ne htype]
  exact Except.error.inj (h.symm.trans (answer_judge_of_refused hr))

/-- So does that of the question for the type of product, with the description of the device. -/
theorem explains_describe {address : UInt8} {e : Error}
    (h : (answer b (asks done) ⟨address, .getProductType⟩).bind
      ((Standard.information 0).judge address) = .error e) :
    Explains b done (.ask ⟨address, .getProductType⟩) (b.device.describe e) := by
  have hends := endsExchange_of_answer_judge Answer.blamesData_text h
  refine ⟨(hends.describe b.device).not_isOversize, ?_⟩
  rintro _ code ⟨⟩ hr
  obtain rfl := Except.error.inj (h.symm.trans (answer_judge_of_refused hr))
  rfl

/-- When a command has been content with the answer, nothing has been refused. -/
theorem explains_of_content {a : Ask} {x : a.standard.Answer × Bool} {e : Error}
    (h : (answer b (asks done) a).bind (a.standard.command.judge a.address) = .ok x)
    (fits : ¬ e.IsOversize) : Explains b done (.ask a) e := by
  refine ⟨fits, ?_⟩
  rintro _ code ⟨⟩ hr
  cases h.symm.trans (answer_judge_of_refused hr)

/-- Work with a command for a bootloader makes one request. -/
theorem makes_execute {a : Ask} (hb : a.standard.isForBootloader)
    (hl : a.payload.length ≤ Frame.maxData) :
    Makes b (onBus do let _ ← Bus.execute a.address a.standard.command true) [.ask a] := by
  intro done s h
  cases hr : s.bus.port.refusal? with
  | some e =>
    have he := Bus.execute_of_refusal (a.make_request hl) hr true
    rw [onBus_of_error (Work.bind_of_error he)]
    exact .unsent h a hr
  | none =>
    have hr' : b.bus.port.refusal? = none := h.line.refusal.symm.trans hr
    obtain ⟨bus, hbus, he⟩ := h.execute_eq a hl hr
    cases hv : (answer b (asks done) a).bind (a.standard.command.judge a.address) with
    | ok x =>
      rw [hv] at he
      have hw : (do let _ ← Bus.execute a.address a.standard.command true : Action Unit) s.bus =
          .ok () bus := Work.bind_of_ok he
      rw [onBus_of_ok hw]
      exact .acknowledged h ((acknowledged_iff_of_isForBootloader hb hr').2 ⟨x, hv⟩) hbus
        s.device.inErrorState
    | error e =>
      rw [hv] at he
      rw [onBus_of_error (Work.bind_of_error he)]
      have hn : ¬ Acknowledged b (asks done) a := by
        rw [acknowledged_iff_of_isForBootloader hb hr', hv]
        exact nofun
      have hexplains := explains_of_answer_judge hb hv
      exact .unacknowledged h hn hbus s.device.inErrorState hexplains

/-- Makes sure that the image is made for the device, telling nobody. -/
def compareProductType : Work Unit := do
  let type ← atStation Station.productTypeNumber
  let madeFor := (← get).image.productType
  if type ≠ madeFor then throw (.imageIncompatible madeFor type)

theorem checkProductType_eq (listening : Bool) :
    checkProductType listening =
      (status listening "Check compatibility..." >>= fun _ => compareProductType >>= fun _ =>
        progress listening (percent 4)) := by
  simp only [checkProductType, compareProductType, bind_assoc]
  congr
  funext _
  congr
  funext type
  congr
  funext s
  split
  · rfl
  · simp

theorem productTypeNumber_of_ok {s : Station} {text : String} {flag : Bool} {bus : Bus}
    (h : Bus.execute s.device.address Standard.getProductType.command true s.bus =
      .ok (text, flag) bus) :
    ∃ bus', bus.Annotates bus' ∧ Station.productTypeNumber s =
      Work.outcome ⟨{ s.device with inErrorState := flag }, bus'⟩ (Text.productType text) := by
  have ht : Station.ask .getProductType s =
      .ok text ⟨{ s.device with inErrorState := flag }, bus⟩ := Station.execute_of_ok h
  obtain ⟨bus', hb, hu⟩ := Bus.understand_annotates (Text.productType text) bus
  refine ⟨bus', hb, ?_⟩
  refine (@Work.bind_of_ok _ _ String _ _ _ _ _ _ ht).trans ?_
  simp only [Station.onBus, hu]
  cases Text.productType text <;> rfl

theorem atStation_of_ok {α : Type} {w : Station.Work α} {s : Bench} {a : α} {t : Station}
    (h : w s.toStation = .ok a t) : atStation w s = .ok a { s with toStation := t } := by
  simp only [atStation, h]

theorem atStation_of_error {α : Type} {w : Station.Work α} {s : Bench} {e : Error} {t : Station}
    (h : w s.toStation = .error e t) : atStation w s = .error e { s with toStation := t } := by
  simp only [atStation, h]

theorem not_isOversize_of_productType {text : String} {e : Error}
    (h : Text.productType text = .error e) : ¬ e.IsOversize := by
  rintro ⟨length, rfl⟩
  simp only [Text.productType] at h
  split at h <;> cases h

private theorem compareProductType_of_ok {s : Bench} {type : UInt32} {t : Station}
    (h : Station.productTypeNumber s.toStation = .ok type t) :
    compareProductType s = Work.outcome { s with toStation := t }
      (if type = s.image.productType then .ok ()
        else .error (.imageIncompatible s.image.productType type)) := by
  rw [compareProductType, Work.bind_of_ok (atStation_of_ok h)]
  change (if type ≠ s.image.productType then _ else _ : Work Unit) _ = _
  by_cases hp : type = s.image.productType
  · rw [if_neg (not_not_intro hp), if_pos hp]
    rfl
  · rw [if_pos hp, if_neg hp]
    rfl

private theorem compareProductType_of_error {s : Bench} {e : Error} {t : Station}
    (h : Station.productTypeNumber s.toStation = .error e t) :
    compareProductType s = .error e { s with toStation := t } :=
  Work.bind_of_error (atStation_of_error h)

/-- An answer with a text may name no type of product, or one for which the image is not made. -/
private theorem ends_compareProductType_of_text (h : Follows b done s)
    (hr : s.bus.port.refusal? = none) {text : String} {flag : Bool} {bus : Bus}
    (hv : (answer b (asks done) ⟨s.device.address, .getProductType⟩).bind
      ((Standard.information 0).judge s.device.address) = .ok (text, flag))
    (hbus : (s.bus.exchanged (Ask.raw ⟨s.device.address, .getProductType⟩)
      (Standard.information 0).timeout).Annotates bus)
    (hp : Station.productTypeNumber s.toStation =
      Work.outcome ⟨{ s.device with inErrorState := flag }, bus⟩ (Text.productType text)) :
    Ends b done [.ask ⟨s.device.address, .getProductType⟩] (compareProductType s) := by
  have hiff : Acknowledged b (asks done) ⟨s.device.address, .getProductType⟩ ↔
      Text.productType text = .ok s.image.productType := by
    rw [acknowledged_getProductType_iff (h.line.refusal.symm.trans hr), hv, h.productType]
    constructor
    · rintro ⟨_, _, ⟨⟩, ht⟩
      exact ht
    · intro ht
      exact ⟨text, flag, rfl, ht⟩
  cases ht : Text.productType text with
  | error e =>
    rw [ht] at hp hiff
    have hexplains := explains_of_content hv (not_isOversize_of_productType ht)
    rw [compareProductType_of_error hp]
    exact .unacknowledged h (fun ha => nomatch hiff.1 ha) hbus flag hexplains
  | ok type =>
    rw [ht] at hp hiff
    rw [compareProductType_of_ok hp]
    by_cases htype : type = s.image.productType
    · rw [if_pos htype]
      exact .acknowledged h (hiff.2 (congrArg _ htype)) hbus flag
    · have hn : ¬ Acknowledged b (asks done) ⟨s.device.address, .getProductType⟩ := fun ha =>
        htype (Except.ok.inj (hiff.1 ha))
      rw [if_neg htype]
      refine .unacknowledged h hn hbus flag (explains_of_content hv ?_)
      rintro ⟨length, he⟩
      cases he

/-- The comparison makes one request, to the device itself. -/
theorem makes_compareProductType :
    Makes b compareProductType [.ask ⟨b.device.address, .getProductType⟩] := by
  intro done s h
  have hl : (Ask.payload ⟨s.device.address, .getProductType⟩).length ≤ Frame.maxData := by
    show [0].length ≤ Frame.maxData
    decide
  rw [← h.address]
  cases hr : s.bus.port.refusal? with
  | some e =>
    have he := Bus.execute_of_refusal (Ask.make_request _ hl) hr true
    have hp : Station.productTypeNumber s.toStation = .error (.system e) s.toStation :=
      Work.bind_of_error (Station.execute_of_error he)
    rw [compareProductType_of_error hp]
    exact .unsent h _ hr
  | none =>
    obtain ⟨bus, hbus, he⟩ := h.execute_eq _ hl hr
    cases hv : (answer b (asks done) ⟨s.device.address, .getProductType⟩).bind
        ((Standard.information 0).judge s.device.address) with
    | error e =>
      have he' : Bus.execute s.device.address Standard.getProductType.command true s.bus =
          .error e bus := he.trans (congrArg _ hv)
      have hp : Station.productTypeNumber s.toStation =
          .error (s.device.describe e) ⟨s.device, bus⟩ :=
        Work.bind_of_error (Station.execute_of_error he')
      have hn : ¬ Acknowledged b (asks done) ⟨s.device.address, .getProductType⟩ := by
        rw [acknowledged_getProductType_iff (h.line.refusal.symm.trans hr), hv]
        exact nofun
      have hexplains := explains_describe hv
      have hd : b.device.describe e = s.device.describe e := by
        simp only [Device.describe, Device.error?, h.errors]
      rw [compareProductType_of_error hp, ← hd]
      exact .unacknowledged h hn hbus s.device.inErrorState hexplains
    | ok x =>
      obtain ⟨text, flag⟩ := x
      obtain ⟨bus', hbus', hp⟩ := productTypeNumber_of_ok (he.trans (congrArg _ hv))
      exact ends_compareProductType_of_text h hr hv (hbus.trans hbus') hp

end Steps

end Update

end Shdlc
