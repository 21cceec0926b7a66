import Shdlc.FarSide
import Shdlc.Frame.Request
import Shdlc.Proofs.Frame.Transparency
import Shdlc.Proofs.Reception.Cutting
import Shdlc.Proofs.Reception.RoundTrip
/-!
A device that keeps an address, a baudrate and a reply delay, which requests read and write. Main
statement: `receive_farSide`, what the device answers is received by a host that gives it as long as
it may take.
-/
namespace Shdlc

structure Registers where
  address : UInt8
  baudrate : UInt32
  /-- In microseconds. -/
  replyDelay : UInt16
deriving DecidableEq, Repr

inductive Register where
  | address
  | baudrate
  | replyDelay
deriving DecidableEq, Repr

/-- The register that a command reads or writes. -/
def Register.ofCommand? : UInt8 → Option Register
  | 0x90 => some .address
  | 0x91 => some .baudrate
  | 0x95 => some .replyDelay
  | _ => none

namespace Registers

def value (g : Registers) : Register → Nat
  | .address => g.address.toNat
  | .baudrate => g.baudrate.toNat
  | .replyDelay => g.replyDelay.toNat

def read (g : Registers) : Register → Bytes
  | .address => [g.address]
  | .baudrate => Bytes.ofUInt32 g.baudrate
  | .replyDelay => Bytes.ofUInt16 g.replyDelay

/-- The registers when one of them has been written with as many bytes as it has. -/
def write? (g : Registers) : Register → Bytes → Option Registers
  | .address, [a] => some { g with address := a }
  | .baudrate, [a, b, c, d] => some { g with baudrate := (Bytes.bigEndian [a, b, c, d]).toUInt32 }
  | .replyDelay, [a, b] => some { g with replyDelay := (Bytes.bigEndian [a, b]).toUInt16 }
  | _, _ => none

/-- What the device answers to a request, if it does, and its registers afterwards. A request to
another address is ignored. -/
def answer? (g : Registers) (request : Request) : Option (Response × Registers) :=
  let response (data : Bytes) : Response := ⟨request.address, request.command, 0, data⟩
  if request.address ≠ g.address then none
  else
    (Register.ofCommand? request.command).bind fun register =>
      if request.data.isEmpty then some (response (g.read register), g)
      else (g.write? register request.data).map fun written => (response [], written)

def serve? (g : Registers) (raw : Bytes) : Option (Response × Registers) :=
  (Request.decode raw).toOption.bind g.answer?

def after (g : Registers) (raw : Bytes) : Registers := ((g.serve? raw).map Prod.snd).getD g

def afterAll (g : Registers) (requests : Array Bytes) : Registers := requests.foldl after g

/-- The device at the far side of a line. `delivery` tells how its answers arrive, given how many
requests there were before. -/
def farSide (g : Registers) (delivery : Nat → Bytes → List Arrival) : FarSide := fun requests =>
  match requests.back? with
  | none => []
  | some raw =>
    match (g.afterAll requests.pop).serve? raw with
    | none => []
    | some (response, _) =>
      match response.encode with
      | .ok raw => delivery (requests.size - 1) raw
      | .error _ => []

end Registers

/-- Answers arrive as they are, in any pieces, in less than 50 milliseconds. -/
structure Prompt (delivery : Nat → Bytes → List Arrival) : Prop where
  whole : ∀ n raw ending, Read.deliveredBy (Arrival.reads ending (delivery n raw)) = raw
  passing : ∀ n raw ending, ∀ read ∈ Arrival.reads ending (delivery n raw), read.isPassing
  inTime : ∀ n raw ending, Read.duration (Arrival.reads ending (delivery n raw)) < 50000

namespace Arrival

theorem deliveredBy_readsOfBytes (delay : Nat) (bs : Bytes) :
    Read.deliveredBy (readsOfBytes delay bs) = bs := by
  have hf := Bytes.flatten_pieces Read.capacity (by decide) bs
  unfold readsOfBytes
  split
  · next hp =>
    rw [hp] at hf
    exact hf
  · next piece more hp =>
    rw [hp, List.flatten_cons] at hf
    rw [Read.deliveredBy_cons, Read.deliveredBy, List.flatMap_map]
    simpa [Read.delivered, List.flatMap_id'] using hf

theorem isPassing_of_mem_readsOfBytes {delay : Nat} {bs : Bytes} {read : Read}
    (h : read ∈ readsOfBytes delay bs) : read.isPassing := by
  unfold readsOfBytes at h
  split at h
  · rw [List.mem_singleton.1 h]
    rfl
  · rcases List.mem_cons.1 h with rfl | h
    · rfl
    · obtain ⟨piece, -, rfl⟩ := List.mem_map.1 h
      rfl

theorem duration_readsOfBytes (delay : Nat) (bs : Bytes) :
    Read.duration (readsOfBytes delay bs) = delay := by
  unfold readsOfBytes
  split
  · rfl
  · next piece more hp =>
    have hzero : Read.duration (more.map fun piece => ⟨0, .bytes piece⟩) = 0 := by
      clear hp
      induction more with
      | nil => rfl
      | cons piece rest ih => rw [List.map_cons, Read.duration_cons, ih]
    rw [Read.duration_cons, hzero, Nat.add_zero]

end Arrival

theorem prompt_of_wait {delay : Nat} (h : delay < 50000) :
    Prompt fun _ raw => [.wait delay, .bytes raw] := by
  have hr : ∀ raw ending, Arrival.reads ending [.wait delay, .bytes raw] =
      Arrival.readsOfBytes delay raw := by
    intro raw ending
    simp [Arrival.reads, Arrival.readsFrom]
  constructor
  · intro n raw ending
    rw [hr, Arrival.deliveredBy_readsOfBytes]
  · intro n raw ending read hm
    rw [hr] at hm
    exact Arrival.isPassing_of_mem_readsOfBytes hm
  · intro n raw ending
    rw [hr, Arrival.duration_readsOfBytes]
    exact h

namespace Read

theorem offers_pos {left : Nat} {reads : List Read} (h : duration reads < left) :
    ∀ offer ∈ offers left reads, 0 < offer := by
  induction reads generalizing left with
  | nil => exact nofun
  | cons read rest ih =>
    rw [duration_cons] at h
    have hrest : duration rest < left - read.delay := by omega
    intro offer ho
    rcases List.mem_cons.1 ho with rfl | ho
    · omega
    · exact ih hrest offer ho

end Read

namespace Registers

variable {g next : Registers} {response : Response}

theorem length_read_le (g : Registers) (register : Register) : (g.read register).length ≤ 4 := by
  cases register with
  | address => exact (by decide : 1 ≤ 4)
  | baudrate => exact Nat.le_refl 4
  | replyDelay => exact (by decide : 2 ≤ 4)

theorem length_le_of_serve? {raw : Bytes} (h : g.serve? raw = some (response, next)) :
    response.data.length ≤ Frame.maxData := by
  obtain ⟨request, -, ha⟩ := Option.bind_eq_some_iff.1 h
  unfold answer? at ha
  split at ha
  · cases ha
  · obtain ⟨register, -, ha⟩ := Option.bind_eq_some_iff.1 ha
    split at ha
    · cases ha
      have hr := g.length_read_le register
      simp only [Frame.maxData]
      omega
    · obtain ⟨written, -, hw⟩ := Option.map_eq_some_iff.1 ha
      cases hw
      exact Nat.zero_le _

theorem afterAll_push (g : Registers) (requests : Array Bytes) (raw : Bytes) :
    g.afterAll (requests.push raw) = (g.afterAll requests).after raw := by
  simp [afterAll]

theorem receive_farSide {delivery : Nat → Bytes → List Arrival} (hd : Prompt delivery)
    {requests : Array Bytes} {raw : Bytes}
    (hs : (g.afterAll requests).serve? raw = some (response, next)) {timeout : Nat}
    (ht : 50000 ≤ timeout) (ending : SystemError) :
    (receive timeout
      (Arrival.reads ending (g.farSide delivery (requests.push raw)))).result = .ok response := by
  have hl := length_le_of_serve? hs
  have hf : g.farSide delivery (requests.push raw) =
      delivery requests.size (Frame.enclose response.content) := by
    simp [farSide, hs, Response.encode, hl]
  have hw := hd.whole requests.size (Frame.enclose response.content) ending
  have hp := hd.passing requests.size (Frame.enclose response.content) ending
  have hi := hd.inTime requests.size (Frame.enclose response.content) ending
  rw [hf]
  generalize Arrival.reads ending (delivery requests.size (Frame.enclose response.content)) = reads
    at hw hp hi ⊢
  have hread : Response.decode (Read.deliveredBy reads) = .ok response := by
    simpa [hw] using response.decode_enclose hl [] [] (by simp)
  have hcount : 2 ≤ ((Read.deliveredBy reads).take (Frame.maxRaw + 1)).count Frame.delimiter := by
    have hlen := Response.length_enclose_le hl
    have htwo := Frame.two_le_count_delimiter [] response.content []
    rw [List.nil_append, List.append_nil] at htwo
    rwa [hw, List.take_of_length_le (by omega)]
  have hlt : Read.duration reads < timeout := by omega
  have halike := Reception.receive_alike_decode hp (Read.offers_pos hlt) hcount
  rw [hread] at halike
  exact halike.eq_ok

end Registers

end Shdlc
