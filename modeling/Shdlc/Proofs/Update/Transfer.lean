import Shdlc.Proofs.Update.Run
/-!
What an update transfers. Main statement: `run_transfers`, an update that succeeds has sent the
application, cut into chunks, and no update is refused because a request is too long.
-/
namespace Shdlc

namespace Update

/-- Requests that fit into frames are sent as they are. -/
theorem exists_requests {asks : List Ask} (h : ∀ a ∈ asks, a.payload.length ≤ Frame.maxData) :
    ∃ requests : List Request, requests.map Request.encode = asks.map Ask.raw ∧
      requests.map (fun r => (r.address, r.command, r.data)) =
        asks.map fun a => (a.address, a.standard.command.id, a.payload) := by
  induction asks with
  | nil => exact ⟨[], rfl, rfl⟩
  | cons a rest ih =>
    obtain ⟨requests, hraw, hparts⟩ := ih fun a ha => h a (List.mem_cons_of_mem _ ha)
    refine ⟨a.request (h a List.mem_cons_self) :: requests, ?_, ?_⟩
    · rw [List.map_cons, List.map_cons, hraw]
      rfl
    · rw [List.map_cons, List.map_cons, hparts]
      rfl

theorem length_payload_le {emergency : Bool} {address : UInt8} {image : Image} {a : Ask}
    (h : a ∈ plan emergency address image) : a.payload.length ≤ Frame.maxData := by
  have hc : ∀ chunk ∈ chunks image, (2 :: chunk).length ≤ Frame.maxData := by
    intro chunk hm
    exact Nat.succ_le_succ (Bytes.length_le_of_mem_pieces hm)
  simp only [plan, List.mem_append, List.mem_cons, List.mem_map, List.not_mem_nil, or_false] at h
  obtain h | rfl | ⟨chunk, hm, rfl⟩ | rfl := h
  · cases emergency with
    | true => cases h
    | false =>
      obtain rfl | rfl := by simpa using h
      · exact show 1 ≤ 255 by decide
      · exact Nat.zero_le _
  · exact show 1 ≤ 255 by decide
  · exact hc chunk hm
  · exact show 2 ≤ 255 by decide

theorem map_parts_plan (emergency : Bool) (address : UInt8) (image : Image) :
    (plan emergency address image).map (fun a => (a.address, a.standard.command.id, a.payload)) =
      (if emergency then [] else [(address, 0xD0, [0x00]), (address, 0xF3, [])]) ++
        [(0, 0xF3, [0x01])] ++ (chunks image).map (fun chunk => (0, 0xF3, 0x02 :: chunk)) ++
        [(0, 0xF3, [0x03, image.checksum])] := by
  have hchunks :
      ((chunks image).map fun chunk => (⟨bootloaderAddress, .updateData chunk⟩ : Ask)).map
          (fun a => (a.address, a.standard.command.id, a.payload)) =
        (chunks image).map fun chunk => (0, 0xF3, 0x02 :: chunk) := by
    rw [List.map_map]
    rfl
  rw [plan, List.map_append, List.map_cons, List.map_append, hchunks]
  simp only [List.append_assoc, List.cons_append, List.nil_append]
  cases emergency with
  | true => rfl
  | false => rfl

/-- The checksum and the bytes of the image add up to `0xFF`. -/
theorem checksum_add_total (image : Image) :
    image.checksum + Bytes.total image.application = 0xFF :=
  Frame.checksum_add_total image.application

/-- An update that succeeds has sent the requests that it should, and nothing else: the application
in chunks of 254 bytes, the last of which may be shorter, and at the end a byte with which their sum
is `0xFF`. No update fails because a request is too long. -/
theorem run_transfers (emergency listening : Bool) (b : Bench) :
    (∀ b', run emergency listening b = .ok () b' →
      ∃ (chunks : List Bytes) (checksum : UInt8) (requests : List Request),
        chunks.flatten = b.image.application ∧
        chunks.length = (b.image.application.length + 253) / 254 ∧
        (∀ chunk ∈ chunks.dropLast, chunk.length = 254) ∧
        (∀ chunk ∈ chunks, 1 ≤ chunk.length ∧ chunk.length ≤ 254) ∧
        checksum + Bytes.total chunks.flatten = 0xFF ∧
        requests.map (fun r => (r.address, r.command, r.data)) =
          (if emergency then []
            else [(b.device.address, 0xD0, [0x00]), (b.device.address, 0xF3, [])]) ++
          [(0, 0xF3, [0x01])] ++ chunks.map (fun chunk => (0, 0xF3, 0x02 :: chunk)) ++
          [(0, 0xF3, [0x03, checksum])] ∧
        b'.bus.requests = b.bus.requests ++ (requests.map Request.encode).toArray ∧
        b'.bus.sent = b.bus.sent ++ requests.map Request.encode) ∧
    ∀ length b', run emergency listening b ≠ .error (.payloadTooLong length) b' := by
  cases hb : b.bus.port.bitrate? with
  | none =>
    rw [run_of_none emergency listening hb]
    constructor
    · intro b' hr
      cases hr
    · intro length b' hr
      cases hr
  | some rate =>
    have hc := run_concludes emergency listening hb
    constructor
    · intro b' hr
      rw [hr] at hc
      obtain ⟨requests, hraw, hparts⟩ :=
        exists_requests fun a h => @length_payload_le emergency b.device.address b.image a h
      cases hc with
      | well succeeds follows =>
        have hreq := follows.requests
        have hsent := follows.toTrails.sent_eq
        rw [asks_script, ← hraw] at hreq hsent
        refine ⟨chunks b.image, b.image.checksum, requests, ?_, ?_, ?_, ?_, ?_, ?_, hreq, hsent⟩
        · exact Bytes.flatten_pieces _ _ _
        · exact Bytes.length_pieces _ _ _
        · exact fun chunk h => Bytes.length_eq_of_mem_dropLast_pieces h
        · exact fun chunk h => ⟨Bytes.length_pos_of_mem_pieces h, Bytes.length_le_of_mem_pieces h⟩
        · rw [chunks, Bytes.flatten_pieces]
          exact checksum_add_total b.image
        · rw [hparts, map_parts_plan]
    · intro length b' hr
      rw [hr] at hc
      obtain ⟨-, -, -, -, -, -, -, -, -, -, hfits⟩ := hc.exists_failure
      exact hfits ⟨length, rfl⟩

/-- The image is sent from its start, although a byte of it has been read. -/
theorem run_transfers_oblivious_of_reading :
    ∃ (b' : Bench) (requests : List Request), run false false (obligingBench 0x2A) = .ok () b' ∧
      b'.bus.sent = requests.map Request.encode ∧
      requests.map (fun r => (r.address, r.command, r.data)) =
        [(7, 0xD0, [0]), (7, 0xF3, []), (0, 0xF3, [1]), (0, 0xF3, [2, 1, 2, 3]),
          (0, 0xF3, [3, 0xF9])] := by
  have hok : (match run false false (obligingBench 0x2A) with
      | .ok _ _ => true
      | .error _ _ => false) = true := by decide +kernel
  cases hr : run false false (obligingBench 0x2A) with
  | error e b' =>
    rw [hr] at hok
    cases hok
  | ok _ b' =>
    obtain ⟨chunks, checksum, requests, hflat, hlen, -, -, hsum, hparts, -, hsent⟩ :=
      (run_transfers false false (obligingBench 0x2A)).1 b' hr
    obtain ⟨chunk, rfl⟩ := List.length_eq_one_iff.1 hlen
    obtain rfl : chunk = [1, 2, 3] := (List.append_nil chunk).symm.trans hflat
    have hc : checksum = 0xF9 := by
      rw [← UInt8.add_sub_cancel checksum (Bytes.total [[1, 2, 3]].flatten), hsum]
      rfl
    have hnone : (obligingBench 0x2A).bus.sent = [] := rfl
    rw [hc] at hparts
    rw [hnone, List.nil_append] at hsent
    exact ⟨b', requests, rfl, hsent, hparts⟩

end Update

end Shdlc
