import Shdlc.Proofs.Session.Errors
import Shdlc.Proofs.Bus.Failure
/-!
Requests with more data than a frame holds. Main statement: `perform_refuses_oversize`, such a
request fails before anything has happened, and no other fails for its length.
-/
namespace Shdlc

open Work

/-- Work that does not fail because a request is too long. -/
abbrev Fits {σ α : Type} (work : EStateM Error σ α) : Prop := Avoids Error.IsOversize work

theorem Request.make_of_oversize {data : Bytes} (h : 255 < data.length)
    (address command : UInt8) : make address command data = .error (.payloadTooLong data.length) :=
  dif_neg (Nat.not_le.2 h)

theorem Request.exists_make {data : Bytes} (h : data.length ≤ 255) (address command : UInt8) :
    ∃ request, make address command data = .ok request := ⟨_, dif_pos h⟩

namespace Bus

variable {α : Type} {data : Bytes} {c : Command α}

section Refused

theorem transceive_of_oversize (h : 255 < data.length) (address command : UInt8) (timeout : Nat)
    (b : Bus) : transceive address command data timeout b =
      .error (.payloadTooLong data.length) b := by
  have hf : orFail (Request.make address command data) b =
      .error (.payloadTooLong data.length) b := by
    rw [Request.make_of_oversize h]
    rfl
  exact bind_of_error hf

theorem exchange_of_oversize (h : 255 < data.length) (address command : UInt8) (timeout : Nat)
    (b : Bus) : exchange address command data timeout b =
      .error (.payloadTooLong data.length) b :=
  bind_of_error (transceive_of_oversize h address command timeout b)

end Refused

section Taken

theorem fits_orFail {x : Except Error α} (h : ∀ e, x = .error e → ¬ e.IsOversize) :
    Fits (orFail x) := by
  intro b e b' he
  cases x with
  | ok a => cases he
  | error e' =>
    cases he
    exact h _ rfl

theorem fits_understand {x : Except Error α} (h : ∀ e, x = .error e → ¬ e.IsOversize) :
    Fits (understand x) := by
  intro b e b' he
  obtain ⟨told, -, hu⟩ := understand_annotates x b
  rw [hu] at he
  exact fits_orFail h told e b' ((orFail_eq x told).trans he)

theorem fits_failIf (e : Option SystemError) : Fits (failIf e) := by
  cases e with
  | none => exact avoids_of_ok fun _ => ⟨_, _, rfl⟩
  | some e =>
    rintro b _ _ ⟨⟩
    exact Error.not_isOversize_system e

theorem fits_bitrate : Fits bitrate := by
  intro b e b' h
  cases hr : b.port.bitrate? with
  | some rate => cases (bitrate_of_some hr).symm.trans h
  | none =>
    cases (bitrate_of_none hr).symm.trans h
    rintro ⟨length, hl⟩
    cases hl

theorem fits_setBitrate (rate : UInt32) : Fits (setBitrate rate) := by
  rintro b e b' h ⟨length, rfl⟩
  obtain ⟨port, hp⟩ | ⟨cause, hc⟩ := cause_of_setBitrate h
  · cases hp
  · cases hc

theorem fits_openPort : Fits openPort := by
  refine (avoids_of_ok fun b => ⟨b, b, rfl⟩).bind fun b => ?_
  dsimp only
  split
  · refine (avoids_of_ok fun b => ⟨_, _, rfl⟩).bind fun _ => ?_
    split
    · refine (avoids_of_ok fun b => ⟨_, _, rfl⟩).bind fun _ => ?_
      refine (avoids_of_ok fun b => ⟨b, b, rfl⟩).bind fun b => ?_
      exact (fits_failIf _).bind fun _ => avoids_of_ok fun _ => ⟨_, _, rfl⟩
    · exact avoids_of_ok fun _ => ⟨_, _, rfl⟩
  · exact avoids_of_ok fun _ => ⟨_, _, rfl⟩

theorem fits_closePort : Fits closePort := by
  refine (avoids_of_ok fun b => ⟨b, b, rfl⟩).bind fun b => ?_
  dsimp only
  split
  · exact (avoids_of_ok fun b => ⟨_, _, rfl⟩).bind fun _ => avoids_of_ok fun _ => ⟨_, _, rfl⟩
  · exact avoids_of_ok fun _ => ⟨_, _, rfl⟩

theorem fits_transceive (h : data.length ≤ 255) (address command : UInt8) (timeout : Nat) :
    Fits (transceive address command data timeout) := by
  obtain ⟨request, hm⟩ := Request.exists_make h address command
  exact fun b e b' he => (endsExchange_of_transceive hm he).not_isOversize

theorem fits_exchange (h : data.length ≤ 255) (address command : UInt8) (timeout : Nat) :
    Fits (exchange address command data timeout) := by
  obtain ⟨request, hm⟩ := Request.exists_make h address command
  exact fun b e b' he => (endsExchange_of_exchange hm he).not_isOversize

theorem fits_execute (hc : c.Given) (h : c.payload.length ≤ 255) (address : UInt8) (wait : Bool) :
    Fits (execute address c wait) := by
  obtain ⟨request, hm⟩ := Request.exists_make h address c.id
  exact fun b e b' he => (endsExchange_of_execute hc.blamesData hm he).not_isOversize

end Taken

end Bus

namespace Station

variable {α : Type}

theorem fits_onBus {action : Action α} (h : Fits action) : Fits (onBus action) := by
  intro s e t ht
  cases hb : action s.bus with
  | ok a b =>
    simp only [onBus, hb] at ht
    cases ht
  | error e' b =>
    simp only [onBus, hb] at ht
    cases ht
    exact h s.bus e b hb

theorem fits_execute {c : Command α} (hc : c.Given) (h : c.payload.length ≤ 255) (wait : Bool) :
    Fits (execute c wait) := by
  intro s e t ht
  obtain ⟨e', rfl, b, he⟩ := (execute_eq_error_iff c wait s e).1 ⟨t, ht⟩
  obtain ⟨request, hm⟩ := Request.exists_make h s.device.address c.id
  exact ((Bus.endsExchange_of_execute hc.blamesData hm he).describe s.device).not_isOversize

theorem fits_ask_bind {β : Type} (s : Standard) (h : s.command.payload.length ≤ 255)
    {f : s.Answer → Work β} (hf : ∀ a, Fits (f a)) : Fits (ask s >>= f) :=
  Avoids.bind (fits_execute (.standard s) h true) hf

end Station

namespace Session

namespace DeviceOperation

/-- What is done at a device fails if the command that it starts with fails. -/
theorem work_of_error {o : DeviceOperation} {inquiry : Inquiry} (h : o.inquiry? = some inquiry)
    {s : Station} {e : Error} {bus : Bus}
    (he : ∀ wait, Bus.execute s.device.address inquiry.command wait s.bus = .error e bus) :
    o.work s = .error (s.device.describe e) { s with bus } := by
  have hs : ∀ wait, Station.execute inquiry.command wait s = _ := fun wait =>
    Station.execute_of_error (he wait)
  cases o with
  | register | lookUp => cases h
  | execute inquiry' wait =>
    cases h
    exact map_eq_error_iff.2 (hs wait)
  | _ =>
    cases h
    exact map_eq_error_iff.2 (bind_of_error (hs true))

theorem fits_work {o : DeviceOperation}
    (h : ∀ inquiry, o.inquiry? = some inquiry →
      inquiry.command.Given ∧ inquiry.command.payload.length ≤ 255) : Fits o.work := by
  cases o with
  | execute inquiry wait =>
    obtain ⟨hc, hl⟩ := h inquiry rfl
    exact (Station.fits_execute hc hl wait).map _
  | productTypeNumber =>
    refine Avoids.map (Station.fits_ask_bind .getProductType (h _ rfl).2 fun text => ?_) _
    exact Station.fits_onBus (Bus.fits_understand fun e => Update.not_isOversize_of_productType)
  | describedErrorState clear =>
    refine Avoids.map (Station.fits_ask_bind (.getErrorState clear) (h _ rfl).2 fun answer => ?_) _
    exact avoids_of_ok fun _ => ⟨_, _, rfl⟩
  | setAddress address follow =>
    refine Avoids.map (Station.fits_ask_bind (.setSlaveAddress address) (h _ rfl).2 fun _ => ?_) _
    cases follow <;> exact avoids_of_ok fun _ => ⟨_, _, rfl⟩
  | setBaudrate baudrate follow =>
    refine Avoids.map (Station.fits_ask_bind (.setBaudrate baudrate) (h _ rfl).2 fun _ => ?_) _
    cases follow with
    | true => exact Station.fits_onBus (Bus.fits_setBitrate baudrate)
    | false => exact avoids_of_ok fun _ => ⟨_, _, rfl⟩
  | reset =>
    refine Avoids.map (Station.fits_ask_bind .deviceReset (h _ rfl).2 fun _ => ?_) _
    exact avoids_of_ok fun _ => ⟨_, _, rfl⟩
  | factoryReset =>
    refine Avoids.map (Station.fits_ask_bind .factoryReset (h _ rfl).2 fun _ => ?_) _
    exact avoids_of_ok fun _ => ⟨_, _, rfl⟩
  | register | lookUp => exact avoids_of_ok fun _ => ⟨_, _, rfl⟩

end DeviceOperation

end Session

namespace Image

theorem fits_throw {α : Type} {e : Error} (h : ¬ e.IsOversize) : Fits (throw e : Loading α) := by
  rintro notes _ _ ⟨⟩
  exact h

theorem fits_orFail {α : Type} {x : Except Error α} (h : ∀ e, x = .error e → ¬ e.IsOversize) :
    Fits (Loading.orFail x) := by
  cases x with
  | ok a => exact avoids_of_ok fun _ => ⟨_, _, rfl⟩
  | error e => exact fits_throw (h e rfl)

theorem fits_note (n : Log.Note) : Fits (Loading.note n) := avoids_of_ok fun _ => ⟨_, _, rfl⟩

theorem not_isOversize (flaw : ImageFlaw) : ¬ (Error.image flaw).IsOversize := by
  rintro ⟨length, h⟩
  cases h

theorem not_isOversize_of_memory {text : String} {e : Error} (h : Memory.ofText text = .error e) :
    ¬ e.IsOversize := by
  unfold Memory.ofText at h
  split at h
  · cases h
  · cases h
    exact not_isOversize _

theorem not_isOversize_of_range {m : Memory} {first last : UInt32} {e : Error}
    (h : m.range first last = .error e) : ¬ e.IsOversize := by
  unfold Memory.range at h
  split at h
  · cases h
  · split at h
    · cases h
      exact not_isOversize _
    · cases h

theorem not_isOversize_of_decodeText {bs : Bytes} {e : Error} (h : decodeText bs = .error e) :
    ¬ e.IsOversize := by
  unfold decodeText at h
  split at h
  · cases h
  · cases h
    exact Error.not_isOversize_system _

theorem fits_ofText (layout : Layout) (text : String) : Fits (ofText layout text) := by
  unfold ofText
  split
  · exact fits_throw (not_isOversize _)
  · refine (fits_orFail fun e => not_isOversize_of_memory).bind fun memory => ?_
    split
    · split
      · refine (fits_note _).bind fun _ => ?_
        refine (fits_orFail fun e => not_isOversize_of_range).bind fun signature => ?_
        split
        · refine fits_throw ?_
          rintro ⟨length, h⟩
          cases h
        · refine (fits_note _).bind fun _ => (fits_note _).bind fun _ => ?_
          refine (fits_note _).bind fun _ => (fits_note _).bind fun _ => ?_
          refine (fits_orFail fun e => not_isOversize_of_range).bind fun application => ?_
          exact (fits_note _).bind fun _ => (fits_note _).bind fun _ =>
            avoids_of_ok fun _ => ⟨_, _, rfl⟩
      · exact fits_throw (not_isOversize _)
    · exact fits_throw (not_isOversize _)

theorem fits_load (layout : Layout) (source : Source) : Fits (load layout source) := by
  cases source with
  | text text => exact fits_ofText layout text
  | bytes bs =>
    exact (fits_orFail fun e => not_isOversize_of_decodeText).bind fun text =>
      fits_ofText layout text
  | file path content =>
    refine (fits_orFail fun e he => ?_).bind fun bs => ?_
    · cases content with
      | ok bs => cases he
      | error cause =>
        cases he
        exact Error.not_isOversize_system cause
    · refine (fits_orFail fun e => not_isOversize_of_decodeText).bind fun text => ?_
      exact (fits_note _).bind fun _ => fits_ofText layout text

end Image

theorem Update.fits_run (emergency listening : Bool) : Fits (run emergency listening) := by
  intro b e b' h
  cases hb : b.bus.port.bitrate? with
  | none =>
    cases (run_of_none emergency listening hb).symm.trans h
    rintro ⟨length, hl⟩
    cases hl
  | some rate =>
    have hc := run_concludes emergency listening hb
    rw [h] at hc
    obtain ⟨-, -, -, -, -, -, -, -, -, -, hfits⟩ := hc.exists_failure
    exact hfits

namespace Session

/-- The command with which an operation starts. -/
def Operation.inquiry? : Operation → Option Inquiry
  | .execute _ inquiry _ => some inquiry
  | .atDevice _ operation => operation.inquiry?
  | _ => none

/-- The data of the request with which an operation starts. -/
def Operation.payload? : Operation → Option Bytes
  | .transceive _ _ data _ | .exchange _ _ data _ => some data
  | .execute _ inquiry _ => some inquiry.command.payload
  | .atDevice _ operation => operation.inquiry?.map (·.command.payload)
  | _ => none

variable {s : Session} {o : Operation} {data : Bytes}

theorem onBus_of_error {α : Type} {action : Action α} {e : Error} {b : Bus}
    (h : action s.bus = .error e b) : onBus action s = .error e { s with bus := b } := by
  simp only [onBus, h]

theorem fits_onBus {α : Type} {action : Action α} (h : Fits action) : Fits (onBus action) := by
  intro s e t ht
  cases hb : action s.bus with
  | ok a b =>
    simp only [onBus, hb] at ht
    cases ht
  | error e' b =>
    cases (onBus_of_error hb).symm.trans ht
    exact h s.bus _ b hb

theorem perform_of_oversize (h : o.payload? = some data) (hlong : 255 < data.length)
    (hdevice : ∀ i, o.index? = some i → i < s.devices.length) :
    perform o s = .error (.payloadTooLong data.length) s := by
  cases o with
  | transceive address command data' timeout =>
    cases h
    exact map_eq_error_iff.2 (onBus_of_error (Bus.transceive_of_oversize hlong ..))
  | exchange address command data' timeout =>
    cases h
    exact bind_of_error (onBus_of_error (Bus.exchange_of_oversize hlong ..))
  | execute address inquiry wait =>
    cases h
    have hm := Request.make_of_oversize hlong address inquiry.command.id
    exact bind_of_error (onBus_of_error (Bus.execute_of_oversize hm wait))
  | atDevice i operation =>
    obtain ⟨inquiry, hi, rfl⟩ := Option.map_eq_some_iff.1 h
    obtain ⟨bus, devices, image⟩ := s
    have hlt : i < devices.length := hdevice i rfl
    have hm := Request.make_of_oversize hlong devices[i].address inquiry.command.id
    have hw : operation.work ⟨devices[i], bus⟩ = _ :=
      DeviceOperation.work_of_error hi fun wait => Bus.execute_of_oversize hm wait
    simp only [perform, atDevice, List.getElem?_eq_getElem hlt, hw, List.set_getElem_self]
    rfl
  | _ => cases h

theorem fits_atDevice (i : Nat) {work : Station.Work Value} (h : Fits work) :
    Fits (atDevice i work) := by
  rintro ⟨bus, devices, image⟩ e t ht
  cases hd : devices[i]? with
  | none =>
    simp only [atDevice, hd] at ht
    cases ht
  | some device =>
    cases hw : work ⟨device, bus⟩ with
    | ok value u =>
      simp only [atDevice, hd, hw] at ht
      cases ht
    | error e' u =>
      simp only [atDevice, hd, hw] at ht
      cases ht
      exact h _ e u hw

theorem fits_update (i : Nat) (emergency listening : Bool) :
    Fits (update i emergency listening) := by
  rintro ⟨bus, devices, image⟩ e t ht
  cases hd : devices[i]? with
  | none =>
    simp only [update, hd] at ht
    cases ht
  | some device =>
    cases image with
    | none =>
      simp only [update, hd] at ht
      cases ht
    | some image =>
      cases hr : Update.run emergency listening ⟨⟨device, bus⟩, image⟩ with
      | ok value u =>
        simp only [update, hd, hr] at ht
        cases ht
      | error e' u =>
        simp only [update, hd, hr] at ht
        cases ht
        exact Update.fits_run emergency listening _ e u hr

theorem fits_load (layout : Image.Layout) (source : Image.Source) :
    Fits (load layout source) := by
  have hnotes : ∀ notes, Fits (onBus (Bus.notes notes)) := fun notes =>
    fits_onBus (avoids_of_ok fun _ => ⟨_, _, rfl⟩)
  unfold load
  split
  · next image notes _ =>
    refine (hnotes _).bind fun _ => ?_
    exact (avoids_of_ok fun _ => ⟨_, _, rfl⟩).bind fun _ => avoids_of_ok fun _ => ⟨_, _, rfl⟩
  · next e notes he =>
    refine (hnotes _).bind fun _ => ?_
    rintro s _ _ ⟨⟩
    exact Image.fits_load layout source _ e notes he

theorem fits_read (reading : Reading) : Fits (read reading) := by
  refine (avoids_of_ok fun s => ⟨s, s, rfl⟩).bind fun s => ?_
  split
  · exact avoids_of_ok fun _ => ⟨_, _, rfl⟩
  · exact avoids_of_ok fun _ => ⟨_, _, rfl⟩

theorem fits_perform (hgiven : ∀ inquiry, o.inquiry? = some inquiry → inquiry.command.Given)
    (hfits : ∀ data, o.payload? = some data → data.length ≤ 255) : Fits (perform o) := by
  have hbus : ∀ {α : Type} {action : Action α} {outcome : α → Outcome}, Fits action →
      Fits (onBus action >>= fun a => pure (outcome a)) := fun h =>
    (fits_onBus h).bind fun _ => avoids_of_ok fun _ => ⟨_, _, rfl⟩
  cases o with
  | description | isOpen | extraTime => exact avoids_of_ok fun _ => ⟨_, _, rfl⟩
  | openPort => exact hbus Bus.fits_openPort
  | closePort => exact hbus Bus.fits_closePort
  | bitrate => exact hbus Bus.fits_bitrate
  | setBitrate rate => exact hbus (Bus.fits_setBitrate rate)
  | setExtraTime | push => exact hbus (avoids_of_ok fun _ => ⟨_, _, rfl⟩)
  | transceive address command data timeout =>
    exact (fits_onBus (Bus.fits_transceive (hfits data rfl) address command timeout)).map _
  | exchange address command data timeout =>
    exact hbus (Bus.fits_exchange (hfits data rfl) address command timeout)
  | execute address inquiry wait =>
    exact hbus (Bus.fits_execute (hgiven inquiry rfl) (hfits _ rfl) address wait)
  | load layout source => exact fits_load layout source
  | read reading => exact fits_read reading
  | atDevice i operation =>
    refine fits_atDevice i (DeviceOperation.fits_work fun inquiry hi => ⟨hgiven inquiry hi, ?_⟩)
    exact hfits _ (Option.map_eq_some_iff.2 ⟨inquiry, hi, rfl⟩)
  | update i emergency listening => exact fits_update i emergency listening

/-- A request with more data than a frame holds fails before anything has happened, whatever the
port is and whether it is open. With no more data than a frame holds nothing that is done fails for
that reason, neither at the bus nor at a device. -/
theorem perform_refuses_oversize (s : Session) (o : Operation) :
    (∀ data, o.payload? = some data → 255 < data.length →
      (∀ i, o.index? = some i → i < s.devices.length) →
        perform o s = .error (.payloadTooLong data.length) s) ∧
    ((∀ inquiry, o.inquiry? = some inquiry → inquiry.command.Given) →
      (∀ data, o.payload? = some data → data.length ≤ 255) →
        ∀ length t, perform o s ≠ .error (.payloadTooLong length) t) := by
  refine ⟨fun data => perform_of_oversize, fun hgiven hfits length t h => ?_⟩
  exact fits_perform hgiven hfits s _ t h ⟨length, rfl⟩

/-- One byte of the request tells what the chunk is for. -/
theorem perform_refuses_oversize_chunk :
    let s : Session := {
      bus := {
        port := .tcp { host := "localhost", number := 9000, isOpen := true, waiting := [1, 2, 3] }
        surroundings := {} }
      devices := [{ address := 7, inErrorState := true }] }
    let write (chunk : Bytes) : Operation :=
      .atDevice 0 (.execute (.standard (.updateData chunk)) true)
    perform (write (List.replicate 255 0)) s = .error (.payloadTooLong 256) s ∧
      ¬ ∃ length t, perform (write (List.replicate 254 0)) s =
        .error (.payloadTooLong length) t := by
  intro s write
  have hlen (n : Nat) :
      (Inquiry.standard (.updateData (List.replicate n 0))).command.payload.length = n + 1 :=
    congrArg (· + 1) List.length_replicate
  constructor
  · have h := (perform_refuses_oversize s (write (List.replicate 255 0))).1 _ rfl
    rw [hlen] at h
    refine h (by decide) ?_
    rintro i ⟨⟩
    decide
  · rintro ⟨length, t, h⟩
    refine (perform_refuses_oversize s (write (List.replicate 254 0))).2 ?_ ?_ length t h
    · rintro inquiry ⟨⟩
      exact Command.Given.standard (.updateData (List.replicate 254 0))
    · rintro data ⟨⟩
      exact Nat.le_of_eq (hlen 254)

end Session

end Shdlc
