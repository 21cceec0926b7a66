import Shdlc.Proofs.Update.Refusal
import Shdlc.Proofs.Update.Transfer
/-!
What an update leaves in the memory of its device, and whom it addresses. Main statements: the
device is remembered by its answer to the question for its type and by nothing else, and only the
requests that a bootloader answers go to another address than that of the device.
-/
namespace Shdlc

theorem Work.keeps_attempt {ε σ α ν : Type} {view : σ → ν} {x : EStateM ε σ α}
    (hx : Keeps view x) : Keeps view (attempt x) := by
  intro s
  have hs := hx s
  cases h : x s with
  | ok a t =>
    rw [h] at hs
    simpa only [attempt, h, final] using hs
  | error e t =>
    rw [h] at hs
    simpa only [attempt, h, final] using hs

/-- Whether a request is meant for a bootloader: one with which a device enters it has no data. -/
def Request.isForBootloader (r : Request) : Bool := r.command == 0xF3 && !r.data.isEmpty

namespace Update

instance (b : Bus) (earlier : Nat) (rate : UInt32) : Decidable (b.Takes earlier rate) :=
  inferInstanceAs (Decidable (_ ∧ _))

/-- Whether the device is asked for its type, if the line allows to send: not in an emergency, and
not unless the port takes its own bitrate. -/
def asksForType (emergency : Bool) (b : Bus) : Bool :=
  !emergency && b.port.bitrate?.any fun rate => b.Takes 0 rate

/-- What happens at the device with an address when an update is made. -/
def occurrences (emergency : Bool) (address : UInt8) (b : Bus) : List Device.Occurrence :=
  if asksForType emergency b then
    Station.occurrencesOf (b.answer? address Standard.getProductType.command) []
  else []

section Device

variable {b s : Bench} {done : List Move}

abbrev KeepsDevice {α : Type} (work : Work α) : Prop := Work.Keeps (fun b : Bench => b.device) work

theorem keepsDevice_onBus {α : Type} (action : Action α) : KeepsDevice (onBus action) := by
  intro s
  cases h : action s.bus with
  | ok a bus =>
    rw [onBus_of_ok h]
    rfl
  | error e bus =>
    rw [onBus_of_error h]
    rfl

theorem keepsDevice_status (listening : Bool) (text : String) :
    KeepsDevice (status listening text) := keepsDevice_onBus _

theorem keepsDevice_modify_image (f : Image → Image) :
    KeepsDevice (modify fun b => { b with image := f b.image }) :=
  Work.keeps_modify fun _ => rfl

theorem keepsDevice_enterBootloader (listening : Bool) : KeepsDevice (enterBootloader listening) :=
  (keepsDevice_onBus _).bind fun _ => Work.keeps_get.bind fun _ =>
    (keepsDevice_onBus _).bind fun _ => keepsDevice_onBus _

theorem keepsDevice_writeBlocks (listening : Bool) (i : Image) :
    KeepsDevice (writeBlocks listening i) := by
  fun_induction writeBlocks listening i with
  | case1 => exact Work.keeps_pure ()
  | case2 i _ _ next ih =>
    refine (keepsDevice_modify_image fun _ => next).bind fun _ => ?_
    refine (keepsDevice_onBus _).bind fun _ => ?_
    refine (keepsDevice_onBus _).bind fun _ => ?_
    exact (keepsDevice_onBus _).bind fun _ => ih

theorem keepsDevice_flash (listening : Bool) : KeepsDevice (flash listening) := by
  refine (keepsDevice_onBus _).bind fun _ => ?_
  refine (keepsDevice_onBus _).bind fun _ => ?_
  refine (keepsDevice_onBus _).bind fun _ => ?_
  refine (keepsDevice_onBus _).bind fun _ => ?_
  refine (keepsDevice_modify_image _).bind fun _ => Work.keeps_get.bind fun _ => ?_
  refine (keepsDevice_writeBlocks _ _).bind fun _ => ?_
  refine (keepsDevice_onBus _).bind fun _ => ?_
  exact (keepsDevice_onBus _).bind fun _ => keepsDevice_onBus _

theorem keepsDevice_finish (listening : Bool) (rate : UInt32) :
    KeepsDevice (finish listening rate) := by
  refine (Work.keeps_attempt (keepsDevice_flash listening)).bind fun _ => ?_
  refine (Work.keeps_attempt (keepsDevice_onBus _)).bind fun _ => ?_
  refine (keepsDevice_onBus _).bind fun _ => ?_
  exact (keepsDevice_onBus _).bind fun _ => keepsDevice_onBus _

/-- When nothing but telling has gone before, the comparison leaves of the device what its answer to
the first bus makes of it. -/
theorem Follows.device_compareProductType (h : Follows b done s) (hd : s.device = b.device)
    (ha : asks done = []) :
    (Work.final (compareProductType s)).device =
      (Station.occurrencesOf
        (b.bus.answer? b.device.address Standard.getProductType.command) []).foldl
          Device.after b.device := by
  have hrequests : s.bus.requests = b.bus.requests := by
    have hr := h.requests
    rwa [ha, List.map_nil, Array.append_empty] at hr
  have hanswer := @Bus.answer?_eq _ b.bus s.bus h.line h.surroundings hrequests
    b.device.address Standard.getProductType.command
  have hrest : ∀ type, KeepsDevice (do
      let madeFor := (← get).image.productType
      if type ≠ madeFor then throw (.imageIncompatible madeFor type)) := by
    intro type
    refine Work.keeps_get.bind fun s => ?_
    dsimp only
    split
    · exact Work.keeps_throw _
    · exact Work.keeps_pure ()
  have hbecomes := (Station.productTypeNumber_becomes s.toStation).device
  rw [hd, hanswer] at hbecomes
  rw [← hbecomes]
  refine (Work.view_final_bind hrest s).trans ?_
  cases hp : Station.productTypeNumber s.toStation with
  | ok type t =>
    rw [atStation_of_ok hp]
    rfl
  | error e t =>
    rw [atStation_of_error hp]
    rfl

theorem Follows.device_checkProductType (h : Follows b done s) (hd : s.device = b.device)
    (ha : asks done = []) (listening : Bool) :
    (Work.final (checkProductType listening s)).device =
      (Station.occurrencesOf
        (b.bus.answer? b.device.address Standard.getProductType.command) []).foldl
          Device.after b.device := by
  obtain ⟨t, ht, hfollows⟩ := h.status_eq listening "Check compatibility..."
  have hdevice : t.device = b.device := by
    have hk := keepsDevice_status listening "Check compatibility..." s
    rw [ht] at hk
    exact hk.trans hd
  rw [checkProductType_eq, Work.bind_of_ok ht]
  refine (Work.view_final_bind (fun _ => keepsDevice_onBus _) t).trans ?_
  refine hfollows.device_compareProductType hdevice ?_
  rw [asks_append, ha, asks_told, List.append_nil]

/-- An update leaves of the device what its answer to the question for its type makes of it. -/
theorem device_run (emergency listening : Bool) (b : Bench) :
    (Work.final (run emergency listening b)).device =
      (occurrences emergency b.device.address b.bus).foldl Device.after b.device := by
  cases hb : b.bus.port.bitrate? with
  | none =>
    have hasks : asksForType emergency b.bus = false := by simp [asksForType, hb]
    rw [run_of_none emergency listening hb, occurrences, hasks]
    rfl
  | some rate =>
    rw [run_of_some emergency listening hb]
    refine (Work.view_final_bind (fun _ => keepsDevice_finish listening rate) b).trans ?_
    cases emergency with
    | true =>
      refine (keepsDevice_onBus _).bind (fun _ => keepsDevice_onBus _) b |>.trans ?_
      rfl
    | false =>
      have htune := makes_tune rate [] b (.refl b)
      have htakes : asksForType false b.bus = decide (b.bus.Takes 0 rate) := by
        simp [asksForType, hb]
      cases hr : onBus (Bus.setBitrate rate) b with
      | error e s =>
        rw [hr] at htune
        have hfails : ¬ b.bus.Takes 0 rate := htune.of_singleton.1
        have hk := keepsDevice_onBus (Bus.setBitrate rate) b
        rw [hr] at hk
        rw [prepare, Work.bind_of_error hr, occurrences, htakes, decide_eq_false hfails]
        exact hk
      | ok _ s =>
        rw [hr] at htune
        cases htune with
        | well succeeds follows =>
          have hsucceeds : b.bus.Takes 0 rate := succeeds.1
          have hk := keepsDevice_onBus (Bus.setBitrate rate) b
          rw [hr] at hk
          have hrest : ∀ _ : Unit, KeepsDevice (do
              enterBootloader listening
              onBus (Bus.setBitrate bootloaderBitrate)) := fun _ =>
            (keepsDevice_enterBootloader listening).bind fun _ => keepsDevice_onBus _
          rw [prepare, Work.bind_of_ok hr, occurrences, htakes, decide_eq_true hsucceeds]
          refine (Work.view_final_bind hrest s).trans ?_
          exact follows.device_checkProductType hk rfl listening

end Device

section Requests

variable {b : Bench} {emergency : Bool}

theorem address_of_mem_plan {address : UInt8} {image : Image} {a : Ask}
    (h : a ∈ plan emergency address image) :
    a.address = if a.standard.command.id == 0xF3 && !a.payload.isEmpty then bootloaderAddress
      else address := by
  simp only [plan, List.mem_append, List.mem_cons, List.mem_map, List.not_mem_nil, or_false] at h
  obtain h | rfl | ⟨chunk, -, rfl⟩ | rfl := h
  · cases emergency with
    | true => cases h
    | false =>
      obtain rfl | rfl := by simpa using h
      · rfl
      · rfl
  · rfl
  · rfl
  · rfl

/-- An update addresses the device, and the bootloader with what it is to answer. -/
theorem run_sendsOnly (emergency listening : Bool) (b : Bench) :
    b.bus.SendsOnly
      (fun r => r.address = if r.isForBootloader then bootloaderAddress else b.device.address)
      (Work.final (run emergency listening b)).bus := by
  obtain ⟨sent, hs⟩ := exists_sends emergency listening b
  have hplan : ∀ a ∈ sent, a ∈ plan emergency b.device.address b.image := fun a ha =>
    hs.planned.subset ha
  obtain ⟨requests, hraw, hparts⟩ := exists_requests fun a ha => length_payload_le (hplan a ha)
  refine ⟨requests, by rw [hraw, hs.requests], ?_⟩
  intro r hr
  have hmem : (r.address, r.command, r.data) ∈
      sent.map fun a => (a.address, a.standard.command.id, a.payload) := by
    rw [← hparts]
    exact List.mem_map_of_mem hr
  obtain ⟨a, ha, he⟩ := List.mem_map.1 hmem
  obtain ⟨haddress, hcommand, hdata⟩ : a.address = r.address ∧
      a.standard.command.id = r.command ∧ a.payload = r.data := by simpa using he
  rw [Request.isForBootloader, ← haddress, ← hcommand, ← hdata]
  exact address_of_mem_plan (hplan a ha)

end Requests

end Update

end Shdlc
