import Shdlc.FarSide.Script
import Shdlc.Proofs.Bus.Failure
import Shdlc.Proofs.Bus.Staleness
import Shdlc.Proofs.Station
/-!
Giving a device a baudrate through a port that has no bitrate and so cannot follow. Main statement:
`setBaudrate_of_none`, the device is given the baudrate all the same, and that the port cannot
follow is found out when the device has taken it.
-/
namespace Shdlc

namespace Port

@[simp] theorem description_withWaiting (p : Port) (waiting : Bytes) :
    (p.withWaiting waiting).description = p.description := by
  cases p <;> rfl

end Port

namespace Bus

variable {α : Type} {b c : Bus} {raw : Bytes} {timeout : Nat}

theorem sent_of_annotates (h : b.Annotates c) : c.sent = b.sent := by
  rw [sent_eq, deeds_of_annotates h, ← sent_eq]

theorem port_of_annotates (h : b.Annotates c) : c.port = b.port := by
  obtain ⟨more, -, rfl⟩ := h
  rfl

/-- For a command that fits into a frame one request is sent, if the port can send; the port is the
same afterwards, but for what is waiting there. -/
theorem final_execute {address : UInt8} {command : Command α} {request : Request}
    (hm : Request.make address command.id command.payload = .ok request) (wait : Bool) :
    (Work.final (execute address command wait b)).sent =
        b.sent ++ (if b.port.refusal? = none then [request.encode] else []) ∧
      (Work.final (execute address command wait b)).port.bitrate? = b.port.bitrate? ∧
      (Work.final (execute address command wait b)).port.description = b.port.description := by
  cases hr : b.port.refusal? with
  | some e =>
    rw [execute_of_refusal hm hr wait, if_neg (Option.some_ne_none e), List.append_nil]
    exact ⟨rfl, rfl, rfl⟩
  | none =>
    obtain ⟨c, hc, he⟩ := execute_of_make hm hr wait
    have hf : Work.final (execute address command wait b) = c := by
      rw [he]
      cases (b.reception request.encode command.timeout).result.bind (command.judge address) <;> rfl
    rw [hf, if_pos rfl, sent_of_annotates hc, sent_exchanged, port_of_annotates hc]
    simp [exchanged]

/-- A port without a bitrate is not given one. -/
theorem setBitrate_of_none {rate : UInt32} (h : b.port.bitrate? = none) :
    setBitrate rate b = .error (.bitrateUnsupported b.port.description) b :=
  Work.bind_of_error (bitrate_of_none h)

end Bus

theorem Bytes.length_ofUInt32_le (n : UInt32) : (ofUInt32 n).length ≤ Frame.maxData :=
  (by decide : 4 ≤ Frame.maxData)

namespace Station

variable {s t : Station} {baudrate : UInt32}

/-- The request that gives a device a baudrate. -/
def baudrateRequest (d : Device) (baudrate : UInt32) : Request :=
  ⟨d.address, 0x91, Bytes.ofUInt32 baudrate, Bytes.length_ofUInt32_le baudrate⟩

theorem make_baudrateRequest (d : Device) (baudrate : UInt32) :
    Request.make d.address (Standard.setBaudrate baudrate).command.id
      (Standard.setBaudrate baudrate).command.payload = .ok (baudrateRequest d baudrate) :=
  dif_pos (Bytes.length_ofUInt32_le baudrate)

theorem bus_final_execute {α : Type} (c : Command α) (wait : Bool) (s : Station) :
    (Work.final (execute c wait s)).bus =
      Work.final (Bus.execute s.device.address c wait s.bus) := by
  cases h : Bus.execute s.device.address c wait s.bus with
  | ok a bus =>
    rw [execute_of_ok h]
    rfl
  | error e bus =>
    rw [execute_of_error h]
    rfl

/-- The errors of a command that every device understands have to do with the exchange. -/
theorem endsExchange_of_ask {standard : Standard} {request : Request} {e : Error}
    (hm : Request.make s.device.address standard.command.id standard.command.payload = .ok request)
    (h : ask standard s = .error e t) : e.EndsExchange := by
  cases he : Bus.execute s.device.address standard.command true s.bus with
  | ok a bus =>
    rw [ask, execute_of_ok he] at h
    cases h
  | error e' bus =>
    rw [ask, execute_of_error he] at h
    cases h
    exact (Bus.endsExchange_of_execute standard.blamesData hm he).describe s.device

section SetBaudrate

theorem setBaudrate_of_error {e : Error} (follow : Bool)
    (h : ask (.setBaudrate baudrate) s = .error e t) :
    setBaudrate baudrate follow s = .error e t :=
  Work.bind_of_error h

theorem setBaudrate_false_of_ok {a : Unit} (h : ask (.setBaudrate baudrate) s = .ok a t) :
    setBaudrate baudrate false s = .ok () t :=
  Work.bind_of_ok h

theorem setBaudrate_true_of_ok {a : Unit} (h : ask (.setBaudrate baudrate) s = .ok a t)
    (ht : t.bus.port.bitrate? = none) :
    setBaudrate baudrate true s = .error (.bitrateUnsupported t.bus.port.description) t := by
  have hb := @Bus.setBitrate_of_none t.bus baudrate ht
  refine (Work.bind_of_ok h).trans ?_
  show onBus (Bus.setBitrate baudrate) t = _
  simp only [onBus, hb]

end SetBaudrate

/-- A port without a bitrate cannot follow when a device is to be given a baudrate. This always
fails, but it is done as if the port need not follow: the request is sent, if the port can send, and
that the port cannot follow is found out only when the device has taken the baudrate. -/
theorem setBaudrate_of_none (h : s.bus.port.bitrate? = none) (baudrate : UInt32) :
    ∃ e t, setBaudrate baudrate true s = .error e t ∧
      Work.final (setBaudrate baudrate false s) = t ∧
      t.bus.sent = s.bus.sent ++ (if s.bus.port.refusal? = none then
        [(baudrateRequest s.device baudrate).encode] else []) ∧
      (e = .bitrateUnsupported s.bus.port.description ↔
        (s.bus.answer? s.device.address (Standard.setBaudrate baudrate).command).isSome) := by
  have hm := make_baudrateRequest s.device baudrate
  obtain ⟨hsent, hrate, hdescription⟩ := Bus.final_execute hm true (b := s.bus)
  have hbus := bus_final_execute (Standard.setBaudrate baudrate).command true s
  rw [← hbus] at hsent hrate hdescription
  obtain ⟨r, a, t, ha, he, -⟩ | ⟨e, t, ha, he, -⟩ :=
    execute_becomes (Standard.setBaudrate baudrate).command true s
  · rw [he] at hsent hrate hdescription
    refine ⟨_, t, setBaudrate_true_of_ok he (hrate.trans h), ?_, hsent, ?_⟩
    · rw [setBaudrate_false_of_ok he]
      rfl
    · rw [ha]
      exact ⟨fun _ => rfl, fun _ => congrArg _ hdescription⟩
  · rw [he] at hsent
    refine ⟨e, t, setBaudrate_of_error true he, ?_, hsent, ?_⟩
    · rw [setBaudrate_of_error false he]
      rfl
    · rw [ha]
      constructor
      · intro hunsupported
        exact absurd hunsupported ((endsExchange_of_ask hm he).ne_bitrateUnsupported _)
      · exact nofun

/-- A device that takes everything, behind a port without a bitrate. -/
def beyondBitrates : Station where
  device := { address := 5 }
  bus := {
    port := .memory { bitrate := none }
    surroundings := {
      farSide := Script.farSide { rules := [⟨none, none, .frame 0 [] none none⟩] } } }

/-- The device takes the baudrate, and its port cannot follow. -/
theorem setBaudrate_beyondBitrates :
    beyondBitrates.bus.port.bitrate? = none ∧
      ∃ t, setBaudrate 19200 true beyondBitrates = .error (.bitrateUnsupported "mock") t ∧
        t.bus.sent = [(baudrateRequest beyondBitrates.device 19200).encode] := by
  have hnone : beyondBitrates.bus.port.bitrate? = none := rfl
  have hanswer : (beyondBitrates.bus.answer? beyondBitrates.device.address
      (Standard.setBaudrate 19200).command).isSome := by decide +kernel
  obtain ⟨e, t, he, -, hsent, hiff⟩ := setBaudrate_of_none hnone 19200
  rw [hiff.2 hanswer] at he
  exact ⟨hnone, t, he, hsent⟩

/-- The device is not spared the baudrate that its port cannot follow. -/
theorem setBaudrate_beyondBitrates_sends :
    ¬ ∃ e t, setBaudrate 19200 true beyondBitrates = .error e t ∧
      t.bus.sent = beyondBitrates.bus.sent := by
  have hlen : (Work.final (setBaudrate 19200 true beyondBitrates)).bus.sent.length = 1 := by
    decide +kernel
  rintro ⟨e, t, he, hsent⟩
  rw [he, Work.final, hsent] at hlen
  cases hlen

end Station

end Shdlc
