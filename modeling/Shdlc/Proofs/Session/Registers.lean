import Shdlc.Proofs.Bus.Staleness
import Shdlc.Proofs.FarSide.Registers
import Shdlc.Proofs.Session.Occurrences
/-!
The registers of a device as they are read and written through a station. Main statement:
`access_yields`, what is read is what was written last, also after the device has moved to another
address.
-/
namespace Shdlc

namespace Bus

variable {α : Type} {b c : Bus} {g next : Registers} {delivery : Nat → Bytes → List Arrival}

/-- An open port that has a bitrate and takes any other, with a device at its far side that has kept
its registers since the first request. -/
structure Reaches (b : Bus) (g : Registers) (delivery : Nat → Bytes → List Arrival) : Prop where
  farSide : b.surroundings.farSide = g.farSide delivery
  prompt : Prompt delivery
  retuning : ∀ attempts rate, b.surroundings.retuning attempts rate = none
  isOpen : b.port.isOpen
  hasBitrate : b.port.bitrate? ≠ none

theorem Reaches.of_annotates (h : b.Reaches g delivery) (hc : b.Annotates c) :
    c.Reaches g delivery := by
  obtain ⟨more, -, rfl⟩ := hc
  exact ⟨h.farSide, h.prompt, h.retuning, h.isOpen, h.hasBitrate⟩

theorem Reaches.exchanged (h : b.Reaches g delivery) (raw : Bytes) (timeout : Nat) :
    (b.exchanged raw timeout).Reaches g delivery := by
  refine ⟨h.farSide, h.prompt, h.retuning, ?_, ?_⟩
  · simpa only [Bus.exchanged, Port.isOpen_withWaiting] using h.isOpen
  · simpa only [Bus.exchanged, Port.bitrate?_withWaiting] using h.hasBitrate

theorem Reaches.setBitrate (h : b.Reaches g delivery) (rate : UInt32) :
    ∃ c, setBitrate rate b = .ok () c ∧ c.Reaches g delivery ∧ c.requests = b.requests := by
  have ht : b.Takes 0 rate := ⟨h.hasBitrate, fun _ => h.retuning _ rate⟩
  refine ⟨_, setBitrate_of_takes ht, ⟨h.farSide, h.prompt, h.retuning, ?_, ?_⟩, rfl⟩
  · exact (b.port.sameLine_withBitrate rate).isOpen.trans h.isOpen
  · simpa using h.hasBitrate

theorem Reaches.execute (h : b.Reaches g delivery) {command : Command α} {address : UInt8}
    {request : Request} {response : Response} {answer : α × Bool}
    (hm : Request.make address command.id command.payload = .ok request)
    (ha : (g.afterAll b.requests).answer? request = some (response, next))
    (ht : 50 ≤ command.timeout) (hj : command.judge address response = .ok answer) (wait : Bool) :
    ∃ c, execute address command wait b = .ok answer c ∧ c.Reaches g delivery ∧
      g.afterAll c.requests = next := by
  have hs : (g.afterAll b.requests).serve? request.encode = some (response, next) := by
    rw [Registers.serve?, Request.decode_encode]
    exact ha
  obtain ⟨c, hc, he⟩ := execute_of_make hm (Port.refusal?_of_isOpen h.isOpen) wait
  have hr : (b.reception request.encode command.timeout).result = .ok response := by
    rw [reception, h.farSide]
    exact Registers.receive_farSide h.prompt hs (by omega) b.port.hangUp
  rw [hr] at he
  refine ⟨c, he.trans ?_, (h.exchanged _ _).of_annotates hc, ?_⟩
  · simp only [Except.bind, hj, Work.outcome]
  · rw [requests_of_annotates hc, Bus.exchanged, Registers.afterAll_push, Registers.after, hs]
    rfl

end Bus

namespace Session

/-- Reading a register of a device or writing one. Where the device moves, the host follows. -/
inductive Access where
  | get (register : Register)
  | setAddress (address : UInt8)
  | setBaudrate (baudrate : UInt32) (follow : Bool)
  | setReplyDelay (microseconds : UInt16)

namespace Access

def standard : Access → Standard
  | .get .address => .getSlaveAddress
  | .get .baudrate => .getBaudrate
  | .get .replyDelay => .getReplyDelay
  | .setAddress address => .setSlaveAddress address
  | .setBaudrate baudrate _ => .setBaudrate baudrate
  | .setReplyDelay microseconds => .setReplyDelay microseconds

def operation : Access → DeviceOperation
  | .setAddress address => .setAddress address true
  | .setBaudrate baudrate follow => .setBaudrate baudrate follow
  | a => .execute (.standard a.standard) true

/-- What it writes to a register, if it does. -/
def written? (register : Register) (a : Access) : Option Nat :=
  match register, a with
  | .address, .setAddress address => some address.toNat
  | .baudrate, .setBaudrate baudrate _ => some baudrate.toNat
  | .replyDelay, .setReplyDelay microseconds => some microseconds.toNat
  | _, _ => none

/-- What is yielded after other accesses to registers that held `g` at first: for a register that
is read, what was written to it last. -/
def yields (g : Registers) (before : List Access) : Access → Value
  | .get register =>
    .number ((before.filterMap (written? register)).getLast?.getD (g.value register))
  | _ => .nothing

def perform (s : Station) (a : Access) : Station := Work.final (a.operation.work s)

def apply (g : Registers) : Access → Registers
  | .get _ => g
  | .setAddress address => { g with address }
  | .setBaudrate baudrate _ => { g with baudrate }
  | .setReplyDelay microseconds => { g with replyDelay := microseconds }

def reply (g : Registers) : Access → Bytes
  | .get register => g.read register
  | _ => []

theorem value_apply (register : Register) (g : Registers) (a : Access) :
    (apply g a).value register = (written? register a).getD (g.value register) := by
  cases a with
  | get r => cases register <;> rfl
  | setAddress address => cases register <;> rfl
  | setBaudrate baudrate follow => cases register <;> rfl
  | setReplyDelay microseconds => cases register <;> rfl

theorem value_foldl_apply (register : Register) (g : Registers) (l : List Access) :
    (l.foldl apply g).value register =
      (l.filterMap (written? register)).getLast?.getD (g.value register) :=
  @Work.view_foldl_eq_getLast _ _ _ apply (·.value register) (written? register)
    (value_apply register) g l

theorem yields_nil (a : Access) (g : Registers) (before : List Access) :
    a.yields (before.foldl apply g) [] = a.yields g before := by
  cases a with
  | get register => exact congrArg Value.number (value_foldl_apply register g before)
  | _ => rfl

theorem length_payload_le (a : Access) : a.standard.command.payload.length ≤ 255 := by
  cases a with
  | get register => cases register <;> exact Nat.zero_le _
  | setAddress address => exact (by decide : 1 ≤ 255)
  | setBaudrate baudrate follow => exact (by decide : 4 ≤ 255)
  | setReplyDelay microseconds => exact (by decide : 2 ≤ 255)

def request (a : Access) (address : UInt8) : Request :=
  ⟨address, a.standard.command.id, a.standard.command.payload, a.length_payload_le⟩

def response (a : Access) (g : Registers) : Response :=
  ⟨g.address, a.standard.command.id, 0, a.reply g⟩

theorem timeout_eq (a : Access) : a.standard.command.timeout = 50 := by
  cases a with
  | get register => cases register <;> rfl
  | _ => rfl

/-- A device does with the request what the access says. -/
theorem answer?_request (g : Registers) (a : Access) :
    g.answer? (a.request g.address) = some (a.response g, a.apply g) := by
  have haddress : (a.request g.address).address = g.address := rfl
  rw [Registers.answer?, if_neg (not_not_intro haddress)]
  cases a with
  | get register => cases register <;> rfl
  | setAddress address => rfl
  | setBaudrate baudrate follow =>
    have hb := Bytes.toUInt32_bigEndian baudrate
    exact congrArg (fun baudrate => some (_, { g with baudrate })) hb
  | setReplyDelay microseconds =>
    have hb := Bytes.toUInt16_bigEndian microseconds
    exact congrArg (fun replyDelay => some (_, { g with replyDelay })) hb

/-- The host understands the answer. -/
theorem judge_response (g : Registers) (a : Access) :
    ∃ x, a.standard.command.judge g.address (a.response g) = .ok (x, false) ∧
      a.standard.value x = a.yields g [] := by
  have herror : (a.response g).errorCode = 0 := by simp [Response.errorCode, response]
  have hstate : (a.response g).reportsErrorState = false := by
    simp [Response.reportsErrorState, response]
  suffices h : ∃ x, a.standard.command.checkLength (a.reply g) = .ok () ∧
      a.standard.command.interpret (a.reply g) = .ok x ∧ a.standard.value x = a.yields g [] by
    obtain ⟨x, hl, hi, hx⟩ := h
    refine ⟨x, ?_, hx⟩
    rw [Command.judge_eq_ok_iff]
    exact ⟨rfl, rfl, herror, hl, hi, hstate⟩
  cases a with
  | get register =>
    cases register with
    | address => exact ⟨g.address, rfl, rfl, rfl⟩
    | baudrate =>
      have hb := Bytes.toUInt32_bigEndian g.baudrate
      exact ⟨g.baudrate, rfl, congrArg Except.ok hb, rfl⟩
    | replyDelay =>
      have hb := Bytes.toUInt16_bigEndian g.replyDelay
      exact ⟨g.replyDelay, rfl, congrArg Except.ok hb, rfl⟩
  | setAddress address => exact ⟨(), rfl, rfl, rfl⟩
  | setBaudrate baudrate follow => exact ⟨(), rfl, rfl, rfl⟩
  | setReplyDelay microseconds => exact ⟨(), rfl, rfl, rfl⟩

end Access

end Session

/-- The bus of the station reaches the device, and the host knows the address of the device. -/
structure Station.Attends (s : Station) (g : Registers) (delivery : Nat → Bytes → List Arrival) :
    Prop where
  reaches : s.bus.Reaches g delivery
  address : s.device.address = (g.afterAll s.bus.requests).address

namespace Session.Access

variable {s : Station} {g : Registers} {delivery : Nat → Bytes → List Arrival}

theorem execute_standard (h : s.Attends g delivery) (a : Access) :
    ∃ x bus, Station.execute a.standard.command true s =
        .ok x ⟨{ s.device with inErrorState := false }, bus⟩ ∧
      a.standard.value x = a.yields (g.afterAll s.bus.requests) [] ∧
      bus.Reaches g delivery ∧ g.afterAll bus.requests = a.apply (g.afterAll s.bus.requests) := by
  have hm : Request.make s.device.address a.standard.command.id a.standard.command.payload =
      .ok (a.request s.device.address) := dif_pos a.length_payload_le
  have ha := answer?_request (g.afterAll s.bus.requests) a
  obtain ⟨x, hj, hx⟩ := judge_response (g.afterAll s.bus.requests) a
  rw [← h.address] at ha hj
  obtain ⟨bus, he, hb, hg⟩ := h.reaches.execute hm ha (Nat.le_of_eq a.timeout_eq.symm) hj true
  exact ⟨x, bus, Station.execute_of_ok he, hx, hb, hg⟩

/-- An access succeeds and yields what the registers hold, and the host goes on knowing the address
of the device. -/
theorem work_attends (h : s.Attends g delivery) (a : Access) :
    ∃ t, a.operation.work s = .ok (a.yields (g.afterAll s.bus.requests) []) t ∧
      t.Attends g delivery ∧ g.afterAll t.bus.requests = a.apply (g.afterAll s.bus.requests) := by
  obtain ⟨x, bus, he, hx, hb, hg⟩ := execute_standard h a
  cases a with
  | get _ | setReplyDelay _ =>
    refine ⟨⟨{ s.device with inErrorState := false }, bus⟩, ?_, ⟨hb, ?_⟩, hg⟩
    · rw [← hx]
      exact Work.map_of_ok he _
    · rw [hg]
      exact h.address
  | setAddress address =>
    obtain ⟨noted, hn, ⟨⟩⟩ := Bus.note_annotates (.addressChanged s.device.address address) bus
    have hset : Station.setAddress address true s =
        .ok () ⟨{ s.device with inErrorState := false, address }, _⟩ :=
      @Work.bind_of_ok _ _ Unit _ _ _ _ _ _ he
    -- The device has moved before it answers under its old address, and now the host follows.
    refine ⟨_, Work.map_of_ok hset _, ⟨hb.of_annotates hn, ?_⟩, hg⟩
    exact (congrArg Registers.address hg).symm
  | setBaudrate baudrate follow =>
    have haddress : s.device.address = (g.afterAll bus.requests).address := by
      rw [hg]
      exact h.address
    have hset : Station.setBaudrate baudrate follow s =
        (if follow then Station.onBus (Bus.setBitrate baudrate) else pure () : Station.Work Unit)
          ⟨{ s.device with inErrorState := false }, bus⟩ :=
      @Work.bind_of_ok _ _ Unit _ _ _ _ _ _ he
    cases follow with
    | false => exact ⟨_, Work.map_of_ok hset _, ⟨hb, haddress⟩, hg⟩
    | true =>
      obtain ⟨tuned, ht, hb, hr⟩ := hb.setBitrate baudrate
      have hon : Station.onBus (Bus.setBitrate baudrate)
          ⟨{ s.device with inErrorState := false }, bus⟩ =
            .ok () ⟨{ s.device with inErrorState := false }, tuned⟩ := by
        simp only [Station.onBus, ht]
      rw [← hr] at hg haddress
      exact ⟨_, Work.map_of_ok (hset.trans hon) _, ⟨hb, haddress⟩, hg⟩

theorem foldl_attends (h : s.Attends g delivery) (before : List Access) :
    (before.foldl perform s).Attends g delivery ∧
      g.afterAll (before.foldl perform s).bus.requests =
        before.foldl apply (g.afterAll s.bus.requests) := by
  induction before generalizing s with
  | nil => exact ⟨h, rfl⟩
  | cons a rest ih =>
    obtain ⟨t, ht, hattends, hg⟩ := work_attends h a
    have hperform : perform s a = t := by rw [perform, ht, Work.final]
    rw [List.foldl_cons, List.foldl_cons, hperform, ← hg]
    exact ih hattends

/-- Through an open port that has a bitrate and takes any, at whose far side is a device that keeps
its registers and whose address the host knows, every access succeeds, whatever accesses come before
it. What is read is what was written last, or what was in the register at first, and the host knows
the address of the device all the time. -/
theorem access_yields (h : s.Attends g delivery) (before : List Access) (next : Access) :
    let t := before.foldl perform s
    t.device.address = (g.afterAll t.bus.requests).address ∧
      ∃ u, next.operation.work t = .ok (next.yields (g.afterAll s.bus.requests) before) u ∧
        u.device.address = (g.afterAll u.bus.requests).address := by
  obtain ⟨ht, hg⟩ := foldl_attends h before
  obtain ⟨u, hu, hattends, -⟩ := work_attends ht next
  rw [hg, yields_nil] at hu
  exact ⟨ht.address, u, hu, hattends.address⟩

/-- A device whose registers hold reserved bytes, behind an open serial port. -/
def attended : Station where
  device := { address := 0x7E }
  bus := {
    port := .serial { name := "ttyS0", bitrate := 115200, isOpen := true }
    surroundings := {
      farSide := Registers.farSide ⟨0x7E, 0x117D137E, 0x1113⟩ fun _ raw =>
        [.wait 7, .bytes raw] } }

/-- The device moves twice while its baudrate is set and read. -/
theorem access_yields_reserved :
    ∃ u, (get .baudrate).operation.work ([Access.get .baudrate, .setAddress 0x11,
        .setBaudrate 0x7E7D1311 true, .setReplyDelay 0x7D7E, .setAddress 0x7D].foldl perform
          attended) = .ok (.number 0x7E7D1311) u := by
  have hreaches : attended.bus.Reaches ⟨0x7E, 0x117D137E, 0x1113⟩ fun _ raw =>
      [.wait 7, .bytes raw] := ⟨rfl, prompt_of_wait (by decide), fun _ _ => rfl, rfl, nofun⟩
  obtain ⟨-, u, hu, -⟩ := access_yields ⟨hreaches, rfl⟩ [.get .baudrate, .setAddress 0x11,
    .setBaudrate 0x7E7D1311 true, .setReplyDelay 0x7D7E, .setAddress 0x7D] (.get .baudrate)
  exact ⟨u, hu⟩

end Session.Access

end Shdlc
