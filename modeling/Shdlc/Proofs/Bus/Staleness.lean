import Shdlc.FarSide.Script
import Shdlc.Proofs.Bus.Line
/-!
Bytes that came before a request. Main statement: `transceive_oblivious_of_waiting`, they are thrown
away, so what is sent and what is received is the same as without them.
-/
namespace Shdlc

namespace Port

theorem refusal?_of_isOpen {p : Port} (h : p.isOpen) : p.refusal? = none := by
  cases p with
  | memory p => rfl
  | tcp p => exact if_pos h
  | serial p => exact if_pos h

theorem isOpen_withWaiting (p : Port) (waiting : Bytes) :
    (p.withWaiting waiting).isOpen = p.isOpen := (p.sameLine_withWaiting waiting).isOpen

end Port

namespace Bus

/-- The bus with other bytes waiting at its port. -/
def withWaiting (b : Bus) (waiting : Bytes) : Bus := { b with port := b.port.withWaiting waiting }

variable {b : Bus}

theorem reception_withWaiting (waiting raw : Bytes) (timeout : Nat) :
    (b.withWaiting waiting).reception raw timeout = b.reception raw timeout :=
  @reception_eq b (b.withWaiting waiting) (b.port.sameLine_withWaiting waiting) rfl rfl raw timeout

theorem port_exchanged_withWaiting (waiting raw : Bytes) (timeout : Nat) :
    ((b.withWaiting waiting).exchanged raw timeout).port = (b.exchanged raw timeout).port := by
  simp only [exchanged, reception_withWaiting]
  simp only [withWaiting, Port.withWaiting_withWaiting]

theorem deeds_exchanged_withWaiting (waiting raw : Bytes) (timeout : Nat) :
    ((b.withWaiting waiting).exchanged raw timeout).deeds = (b.exchanged raw timeout).deeds := by
  rw [deeds_exchanged, deeds_exchanged]
  simp only [withWaiting, Port.bitrate?_withWaiting, (b.port.sameLine_withWaiting waiting).allowance]
  rfl

theorem sent_exchanged (b : Bus) (raw : Bytes) (timeout : Nat) :
    (b.exchanged raw timeout).sent = b.sent ++ [raw] := by
  rw [sent_eq, deeds_exchanged, List.filterMap_append, ← sent_eq]
  rfl

/-- An open port sends a request and receives what arrives after it, whatever is waiting when it
does so. In either case the same is done, and the same is left to be read. -/
theorem transceive_oblivious_of_waiting (hopen : b.port.isOpen) (address command : UInt8)
    (data : Bytes) (hdata : data.length ≤ 255) (timeout : Nat) (waiting : Bytes) :
    ∃ (request : Request) (clean stale : Bus) (result : Except Error Response),
      (request.address, request.command, request.data) = (address, command, data) ∧
      result = (receive ((timeout + b.port.allowance) * 1000) (Arrival.reads b.port.hangUp
        (b.surroundings.farSide (b.requests.push request.encode)))).result ∧
      transceive address command data timeout (b.withWaiting []) = Work.outcome clean result ∧
      transceive address command data timeout (b.withWaiting waiting) =
        Work.outcome stale result ∧
      clean.sent = b.sent ++ [request.encode] ∧ stale.sent = clean.sent ∧
      stale.deeds = clean.deeds ∧ stale.requests = clean.requests ∧ stale.port = clean.port := by
  let request : Request := ⟨address, command, data, hdata⟩
  have hm : Request.make address command data = .ok request := dif_pos hdata
  have hr : ∀ bytes, (b.withWaiting bytes).port.refusal? = none := fun bytes =>
    Port.refusal?_of_isOpen ((b.port.isOpen_withWaiting bytes).trans hopen)
  have ht : ∀ bytes, transceive address command data timeout (b.withWaiting bytes) =
      Work.outcome ((b.withWaiting bytes).exchanged request.encode timeout)
        (b.reception request.encode timeout).result := by
    intro bytes
    rw [← reception_withWaiting bytes]
    exact transceive_of_make hm (hr bytes)
  have hsent : ∀ bytes, ((b.withWaiting bytes).exchanged request.encode timeout).sent =
      b.sent ++ [request.encode] := fun bytes => sent_exchanged (b.withWaiting bytes) _ timeout
  have hdeeds := fun bytes => @deeds_exchanged_withWaiting b bytes request.encode timeout
  have hport := fun bytes => @port_exchanged_withWaiting b bytes request.encode timeout
  refine ⟨request, _, _, _, rfl, rfl, ht [], ht waiting, hsent [], ?_, ?_, rfl, ?_⟩
  · rw [hsent, hsent]
  · rw [hdeeds, hdeeds]
  · rw [hport, hport]

/-- An open TCP port behind which a device answers every question with one byte. -/
def answered : Bus where
  port := .tcp { host := "bridge", number := 4001, isOpen := true }
  surroundings := {
    farSide := fun _ => [.wait 5, .bytes [0x7E, 0x07, 0xD0, 0x00, 0x01, 0x32, 0xF5, 0x7E]] }

/-- A complete answer to the same question, noise and the beginning of a frame are waiting, and the
answer that comes afterwards is taken. -/
theorem transceive_oblivious_of_late_answer :
    ∃ clean stale, transceive 7 0xD0 [0] 500 (answered.withWaiting []) =
        .ok ⟨7, 0xD0, 0, [0x32]⟩ clean ∧
      transceive 7 0xD0 [0] 500 (answered.withWaiting
        [0x7E, 0x07, 0xD0, 0x00, 0x01, 0x31, 0xF6, 0x7E, 0x55, 0x7E, 0x07]) =
          .ok ⟨7, 0xD0, 0, [0x32]⟩ stale ∧
      stale.port = clean.port := by
  obtain ⟨request, clean, stale, result, hparts, hresult, hclean, hstale, -, -, -, -, hport⟩ :=
    @transceive_oblivious_of_waiting answered rfl 7 0xD0 [0] (by decide) 500
      [0x7E, 0x07, 0xD0, 0x00, 0x01, 0x31, 0xF6, 0x7E, 0x55, 0x7E, 0x07]
  have hok : result.toOption = some ⟨7, 0xD0, 0, [0x32]⟩ := by
    rw [hresult]
    show (receive 500000 (Arrival.reads .closedByPeer
      [.wait 5, .bytes [0x7E, 0x07, 0xD0, 0x00, 0x01, 0x32, 0xF5, 0x7E]])).result.toOption = _
    decide +kernel
  cases result with
  | error e => cases hok
  | ok r =>
    cases hok
    exact ⟨clean, stale, hclean, hstale, hport⟩

end Bus

end Shdlc
