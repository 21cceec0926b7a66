import Shdlc.FarSide.Script
import Shdlc.Proofs.Bus.Line
import Shdlc.Proofs.Reception.Outcome
import Shdlc.Update
/-!
The script of an update: what it asks of devices, to which bitrates it changes and what it tells its
listener, in order. How far an update has come is told by the moves of its script that have been
made; `Trails` and `Follows` say what then is the state of the bench where it is done.
-/
namespace Shdlc

/-- Whether a property holds of each element of a list, given what stands before it. -/
def Throughout {α : Type} (P : List α → α → Prop) (before : List α) : List α → Prop
  | [] => True
  | a :: rest => P before a ∧ Throughout P (before ++ [a]) rest

section Throughout

variable {α : Type} {P : List α → α → Prop}

theorem throughout_append (before l m : List α) :
    Throughout P before (l ++ m) ↔ Throughout P before l ∧ Throughout P (before ++ l) m := by
  induction l generalizing before with
  | nil => simp [Throughout]
  | cons a rest ih => simp [Throughout, ih, and_assoc]

theorem Throughout.mono {before l m : List α} (h : Throughout P before m) (hp : l <+: m) :
    Throughout P before l := by
  obtain ⟨more, rfl⟩ := hp
  exact ((throughout_append before l more).1 h).1

theorem throughout_iff (before l : List α) :
    Throughout P before l ↔ ∀ front a back, l = front ++ a :: back → P (before ++ front) a := by
  induction l generalizing before with
  | nil => simp [Throughout]
  | cons b rest ih =>
    rw [Throughout, ih]
    constructor
    · rintro ⟨hb, hr⟩ front a back h
      cases front with
      | nil =>
        obtain ⟨rfl, rfl⟩ := by simpa using h
        simpa using hb
      | cons c front =>
        obtain ⟨rfl, rfl⟩ := by simpa using h
        simpa using hr front a back rfl
    · intro h
      refine ⟨by simpa using h [] b rest rfl, ?_⟩
      intro front a back he
      simpa using h (b :: front) a back (by rw [he, List.cons_append])

end Throughout

namespace Update

/-- A command that an update has a device execute, and the address to which it is sent. -/
structure Ask where
  address : UInt8
  standard : Standard
deriving DecidableEq

namespace Ask

def payload (a : Ask) : Bytes := a.standard.command.payload

def raw (a : Ask) : Bytes :=
  Frame.enclose (a.address :: a.standard.command.id :: UInt8.ofNat a.payload.length :: a.payload)

/-- Whether the data of a response are the hoped for answer when an update is made with an image:
a text with the type of product for which the image is made, or nothing for other commands than that
which asks for it. -/
def Accepts (image : Image) (a : Ask) (data : Bytes) : Prop :=
  match a.standard with
  | .getProductType =>
    ∃ text, Answer.text data = .ok text ∧ Text.productType text = .ok image.productType
  | _ => data = []

end Ask

/-- The bus of a bench when requests have been sent. -/
def busAfter (b : Bench) (before : List Ask) : Bus :=
  { b.bus with requests := b.bus.requests ++ (before.map Ask.raw).toArray }

/-- What is received when a request follows others. -/
def answer (b : Bench) (before : List Ask) (a : Ask) : Except Error Response :=
  ((busAfter b before).reception a.raw a.standard.command.timeout).result

/-- Whether a request that follows others can be sent and is answered as hoped for, without an
error, by the device and about the command that were meant. -/
def Acknowledged (b : Bench) (before : List Ask) (a : Ask) : Prop :=
  b.bus.port.refusal? = none ∧ ∃ response, answer b before a = .ok response ∧
    response.address = a.address ∧ response.command = a.standard.command.id ∧
    response.errorCode = 0 ∧ a.Accepts b.image response.data

/-- Whether a request that follows others is answered with an error, by the device and about the
command that were meant. -/
def Refused (b : Bench) (before : List Ask) (a : Ask) (code : UInt8) : Prop :=
  b.bus.port.refusal? = none ∧ code ≠ 0 ∧ ∃ response, answer b before a = .ok response ∧
    response.address = a.address ∧ response.command = a.standard.command.id ∧
    response.errorCode = code

/-- The error with which an update ends when a request has been refused. What the errors of the
device mean is looked up only for the question for its type. -/
def blamed (d : Device) (a : Ask) (code : UInt8) : DeviceError :=
  match a.standard with
  | .getProductType => (d.error? code).getD (.unknown code)
  | _ => .unknown code

theorem blamed_of_ne {a : Ask} (h : a.standard ≠ .getProductType) (d : Device) (code : UInt8) :
    blamed d a code = .unknown code := by
  obtain ⟨address, standard⟩ := a
  cases standard with
  | getProductType => exact absurd rfl h
  | _ => rfl

/-- A device of type `0x2A` that acknowledges everything, and an image for devices of a type, of
which one byte has been read. -/
def obligingBench (productType : UInt32) : Bench where
  device := { address := 7 }
  bus := {
    port := .memory { bitrate := some 9600 }
    surroundings := {
      farSide := Script.farSide {
        rules := [⟨some 0xD0, none, .frame 0 [0x32, 0x41] none none⟩,
          ⟨some 0xF3, none, .frame 0 [] none none⟩] } } }
  image := {
    productType
    bootloaderVersion := ⟨1, 0, false⟩
    applicationVersion := ⟨1, 0, false⟩
    application := [1, 2, 3]
    rest := [2, 3]
    rest_suffix := ⟨[1], rfl⟩ }

/-- A step of an update that shows outside. -/
inductive Move where
  | tune (rate : UInt32)
  | ask (ask : Ask)
  | tell (event : UpdateEvent)
deriving DecidableEq

def asks (moves : List Move) : List Ask :=
  moves.filterMap fun | .ask a => some a | _ => none

def tunings (moves : List Move) : List UInt32 :=
  moves.filterMap fun | .tune rate => some rate | _ => none

def rateAfter (rate : Option UInt32) : List Move → Option UInt32
  | [] => rate
  | .tune new :: rest => rateAfter (rate.map fun _ => new) rest
  | _ :: rest => rateAfter rate rest

/-- What moves leave in the trace of a bus whose port has a bitrate or none, and grants devices some
milliseconds more than they need. -/
def effects (allowance : Nat) (rate : Option UInt32) : List Move → List Effect
  | [] => []
  | .tune new :: rest => .bitrate new :: effects allowance (rate.map fun _ => new) rest
  | .ask a :: rest =>
    .request a.raw rate ((a.standard.command.timeout + allowance) * 1000) ::
      effects allowance rate rest
  | .tell event :: rest => .event event :: effects allowance rate rest

@[simp] theorem asks_nil : asks [] = [] := rfl

@[simp] theorem asks_tune (rate : UInt32) (rest : List Move) :
    asks (.tune rate :: rest) = asks rest := rfl

@[simp] theorem asks_ask (a : Ask) (rest : List Move) :
    asks (.ask a :: rest) = a :: asks rest := rfl

@[simp] theorem asks_tell (event : UpdateEvent) (rest : List Move) :
    asks (.tell event :: rest) = asks rest := rfl

@[simp] theorem tunings_nil : tunings [] = [] := rfl

@[simp] theorem tunings_tune (rate : UInt32) (rest : List Move) :
    tunings (.tune rate :: rest) = rate :: tunings rest := rfl

@[simp] theorem tunings_ask (a : Ask) (rest : List Move) :
    tunings (.ask a :: rest) = tunings rest := rfl

@[simp] theorem tunings_tell (event : UpdateEvent) (rest : List Move) :
    tunings (.tell event :: rest) = tunings rest := rfl

@[simp] theorem asks_append (m n : List Move) : asks (m ++ n) = asks m ++ asks n :=
  List.filterMap_append

@[simp] theorem tunings_append (m n : List Move) : tunings (m ++ n) = tunings m ++ tunings n :=
  List.filterMap_append

theorem asks_mono {m n : List Move} (h : m <+: n) : asks m <+: asks n := h.filterMap _

theorem tunings_mono {m n : List Move} (h : m <+: n) : tunings m <+: tunings n := h.filterMap _

theorem rateAfter_append (rate : Option UInt32) (m n : List Move) :
    rateAfter rate (m ++ n) = rateAfter (rateAfter rate m) n := by
  induction m generalizing rate with
  | nil => rfl
  | cons move rest ih => cases move <;> exact ih _

theorem effects_append (allowance : Nat) (rate : Option UInt32) (m n : List Move) :
    effects allowance rate (m ++ n) =
      effects allowance rate m ++ effects allowance (rateAfter rate m) n := by
  induction m generalizing rate with
  | nil => rfl
  | cons move rest ih => cases move <;> simp [effects, rateAfter, ih]

@[simp] theorem frames_effects (allowance : Nat) (rate : Option UInt32) (moves : List Move) :
    (effects allowance rate moves).filterMap Effect.frame? = (asks moves).map Ask.raw := by
  induction moves generalizing rate with
  | nil => rfl
  | cons move rest ih => cases move <;> simp [effects, Effect.frame?, List.filterMap_cons, ih]

@[simp] theorem rateAfter_eq_none_iff (rate : Option UInt32) (moves : List Move) :
    rateAfter rate moves = none ↔ rate = none := by
  induction moves generalizing rate with
  | nil => rfl
  | cons move rest ih =>
    cases move with
    | tune new => rw [rateAfter, ih, Option.map_eq_none_iff]
    | ask a => exact ih rate
    | tell event => exact ih rate

/-- Whether a move succeeds after others. -/
def Succeeds (b : Bench) (done : List Move) : Move → Prop
  | .tune rate => b.bus.Takes (tunings done).length rate
  | .ask a => Acknowledged b (asks done) a
  | .tell _ => True

/-- Moves succeed exactly if the requests among them are acknowledged and the bitrates are taken. -/
theorem throughout_succeeds_iff (b : Bench) (done moves : List Move) :
    Throughout (Succeeds b) done moves ↔
      Throughout (Acknowledged b) (asks done) (asks moves) ∧
        Throughout (fun earlier rate => b.bus.Takes earlier.length rate) (tunings done)
          (tunings moves) := by
  induction moves generalizing done with
  | nil => simp [Throughout]
  | cons move rest ih =>
    cases move with
    | tune rate => simp [Throughout, Succeeds, ih, and_left_comm]
    | ask a => simp [Throughout, Succeeds, ih, and_assoc]
    | tell event => simp [Throughout, Succeeds, ih]

/-- What a bench has become when moves have been made, as far as it shows. -/
structure Trails (b : Bench) (done : List Move) (s : Bench) : Prop where
  address : s.device.address = b.device.address
  errors : s.device.errors = b.device.errors
  productType : s.image.productType = b.image.productType
  application : s.image.application = b.image.application
  surroundings : s.bus.surroundings = b.bus.surroundings
  line : s.bus.port.SameLine b.bus.port
  bitrate : s.bus.port.bitrate? = rateAfter b.bus.port.bitrate? done
  requests : s.bus.requests = b.bus.requests ++ ((asks done).map Ask.raw).toArray
  deeds : s.bus.deeds = b.bus.deeds ++ effects b.bus.port.allowance b.bus.port.bitrate? done

theorem Trails.sent_eq {b s : Bench} {done : List Move} (h : Trails b done s) :
    s.bus.sent = b.bus.sent ++ (asks done).map Ask.raw := by
  rw [Bus.sent_eq, h.deeds, List.filterMap_append, ← Bus.sent_eq, frames_effects]

/-- What a bench has become when moves have been made and no bitrate has been refused. -/
structure Follows (b : Bench) (done : List Move) (s : Bench) : Prop extends Trails b done s where
  attempts : s.bus.attempts = b.bus.attempts + (tunings done).length

/-- What a bench has become when a move has failed after others: a bitrate is not taken, a request
has not been sent or has not been acknowledged. -/
def Stopped (b : Bench) (done : List Move) (s : Bench) : Move → Prop
  | .tune _ => Trails b done s
  | .ask a => Follows b done s ∨ Follows b (done ++ [.ask a]) s
  | .tell _ => False

/-- What an error tells of the move that has failed after others: that no request is too long for a
frame, and how a device has refused a request, if one has. -/
structure Explains (b : Bench) (done : List Move) (move : Move) (e : Error) : Prop where
  fits : ¬ e.IsOversize
  blames : ∀ a code, move = .ask a → Refused b (asks done) a code →
    e = .device (blamed b.device a code)

theorem explains_tune {b : Bench} {done : List Move} {rate : UInt32} {e : Error}
    (fits : ¬ e.IsOversize) : Explains b done (.tune rate) e := ⟨fits, nofun⟩

/-- A listener, if there is one, is told of an event. -/
def told (listening : Bool) (event : UpdateEvent) : List Move :=
  if listening then [.tell event] else []

/-- The device is asked for what the image must be made. -/
def checking (listening : Bool) (address : UInt8) : List Move :=
  told listening (.status "Check compatibility...") ++ .ask ⟨address, .getProductType⟩ ::
    told listening (.ofPercent (percent 4))

/-- The device enters its bootloader. -/
def entering (listening : Bool) (address : UInt8) : List Move :=
  told listening (.status "Enter bootloader...") ++ .ask ⟨address, .enterBootloader⟩ ::
    told listening (.ofPercent (percent 7))

/-- Chunks of an application of `size` bytes are written after `written` bytes of it. -/
def writing (listening : Bool) (size : Nat) : Nat → List Bytes → List Move
  | _, [] => []
  | written, chunk :: more =>
    .ask ⟨bootloaderAddress, .updateData chunk⟩ ::
      (told listening (.status (writtenText (written + chunk.length) size)) ++
        (told listening (.ofPercent (percentWritten (written + chunk.length) size)) ++
          writing listening size (written + chunk.length) more))

theorem chunkSize_pos : 0 < chunkSize := by decide

/-- The chunks in which an image is written. -/
def chunks (image : Image) : List Bytes := Bytes.pieces chunkSize chunkSize_pos image.application

/-- The memory is cleared, the image is written and the device checks it. -/
def flashing (listening : Bool) (image : Image) : List Move :=
  told listening (.status "Clear flash...") ++ .ask ⟨bootloaderAddress, .updateStart⟩ ::
    (told listening (.ofPercent (percent 10)) ++
      (told listening (.status "Write new firmware...") ++
        (writing listening image.size 0 (chunks image) ++
          (told listening (.status "Verify checksum...") ++
            .ask ⟨bootloaderAddress, .updateStop image.checksum⟩ ::
              told listening (.ofPercent (percent 100))))))

/-- What comes before the memory is cleared, at a port with a bitrate. -/
def opening (emergency listening : Bool) (address : UInt8) (rate : UInt32) : List Move :=
  .tune rate ::
    ((if emergency then [] else checking listening address ++ entering listening address) ++
      [.tune bootloaderBitrate])

/-- The whole update, at a port with a bitrate. Without one nothing is done. -/
def script (emergency listening : Bool) (b : Bench) (rate : UInt32) : List Move :=
  opening emergency listening b.device.address rate ++
    (flashing listening b.image ++ .tune rate :: told listening (.status "Finished!"))

/-- The requests of an update. -/
def plan (emergency : Bool) (address : UInt8) (image : Image) : List Ask :=
  (if emergency then [] else [⟨address, .getProductType⟩, ⟨address, .enterBootloader⟩]) ++
    ⟨bootloaderAddress, .updateStart⟩ :: ((chunks image).map (⟨bootloaderAddress, .updateData ·⟩) ++
      [⟨bootloaderAddress, .updateStop image.checksum⟩])

section Script

variable (listening : Bool)

@[simp] theorem asks_told (event : UpdateEvent) : asks (told listening event) = [] := by
  cases listening <;> rfl

@[simp] theorem tunings_told (event : UpdateEvent) : tunings (told listening event) = [] := by
  cases listening <;> rfl

@[simp] theorem asks_writing (size written : Nat) (chunks : List Bytes) :
    asks (writing listening size written chunks) =
      chunks.map (⟨bootloaderAddress, .updateData ·⟩) := by
  induction chunks generalizing written with
  | nil => rfl
  | cons chunk more ih => simp [writing, ih]

@[simp] theorem tunings_writing (size written : Nat) (chunks : List Bytes) :
    tunings (writing listening size written chunks) = [] := by
  induction chunks generalizing written with
  | nil => rfl
  | cons chunk more ih => simp [writing, ih]

@[simp] theorem tunings_flashing (image : Image) : tunings (flashing listening image) = [] := by
  simp [flashing]

theorem throughout_told (b : Bench) (done : List Move) (event : UpdateEvent) :
    Throughout (Succeeds b) done (told listening event) := by
  cases listening with
  | true => exact ⟨trivial, trivial⟩
  | false => trivial

theorem asks_script (emergency : Bool) (b : Bench) (rate : UInt32) :
    asks (script emergency listening b rate) = plan emergency b.device.address b.image := by
  cases emergency <;> simp [script, opening, flashing, checking, entering, plan]

@[simp] theorem tunings_opening (emergency : Bool) (address : UInt8) (rate : UInt32) :
    tunings (opening emergency listening address rate) = [rate, bootloaderBitrate] := by
  cases emergency <;> simp [opening, checking, entering]

theorem tunings_script (emergency : Bool) (b : Bench) (rate : UInt32) :
    tunings (script emergency listening b rate) = [rate, bootloaderBitrate, rate] := by
  simp [script]

end Script

end Update

end Shdlc
