import Shdlc.Progress
import Shdlc.Version.Json
import Shdlc.Proofs.Json.Reading
import Shdlc.Proofs.Json.Rewriting
/-!
Versions, error states and events, written and read. Main statement: `written_faithful`, each is
read from its text and from every other way to write it, and nothing is read from a text that is
spoilt.
-/
namespace Shdlc

namespace Json

section Values

variable {v w : Json}

theorem isPlain_ofNat {n : Nat} (h : n ≤ Text.maxWord) : IsPlain (ofNat n) := ofInt_natCast h

theorem isPlain_ofUInt8 (n : UInt8) : IsPlain (ofUInt8 n) :=
  isPlain_ofNat (Nat.le_trans (Nat.le_of_lt n.toNat_lt) (by decide))

@[simp] theorem uint8?_ofUInt8 (n : UInt8) : (ofUInt8 n).uint8? = some n := by
  have hn : (n.toNat : Int) ≤ (0xFF : Nat) := by
    have := n.toNat_lt
    omega
  simp only [uint8?, ofUInt8, natural?, ofNat]
  rw [if_pos ⟨Int.natCast_nonneg _, hn⟩]
  simp

@[simp] theorem uint32?_ofNat (n : UInt32) : (ofNat n.toNat).uint32? = some n := by
  have hn : (n.toNat : Int) ≤ (0xFFFFFFFF : Nat) := by
    have := n.toNat_lt
    omega
  simp only [uint32?, natural?, ofNat]
  rw [if_pos ⟨Int.natCast_nonneg _, hn⟩]
  simp

/-- There is one way to write what holds no other values. -/
theorem Rewrites.eq_of_ne_object (h : Rewrites v w) (hv : ∀ members, v ≠ .object members) :
    w = v := by
  cases h with
  | same => rfl
  | object => exact absurd rfl (hv _)
  | array => exact absurd rfl (hv _)

theorem not_spoils_other : ¬ Spoils .other v := nofun

theorem not_spoils_natural {most n : Nat} (h : v.natural? most = some n) :
    ¬ Spoils (.natural most) v := by
  rintro ⟨outside⟩
  rw [natural?_ofInt outside] at h
  cases h

theorem not_spoils_uint8 {n : UInt8} (h : v.uint8? = some n) : ¬ Spoils (.natural 0xFF) v := by
  obtain ⟨m, hm, -⟩ := Option.map_eq_some_iff.1 h
  exact not_spoils_natural hm

theorem not_spoils_uint32 {n : UInt32} (h : v.uint32? = some n) :
    ¬ Spoils (.natural 0xFFFFFFFF) v := by
  obtain ⟨m, hm, -⟩ := Option.map_eq_some_iff.1 h
  exact not_spoils_natural hm

/-- A structure is not spoilt if its fields are there and are not. -/
theorem not_spoils_record (fields : List (String × Shape)) (values : List Json)
    (hf : v.fields? (fields.map (·.1)) = some (values.map some))
    (hv : ∀ p ∈ fields.zip values, ¬ Spoils p.1.2 p.2) : ¬ Spoils (.record fields) v := by
  intro h
  obtain ⟨p, hp, hspoilt⟩ := exists_spoils_of_fields? h hf
  rw [List.zip_map_right] at hp
  obtain ⟨q, hq, rfl⟩ := List.mem_map.1 hp
  obtain hnone | ⟨w, hw, hspoils⟩ := hspoilt
  · cases hnone
  · obtain rfl : q.2 = w := Option.some.inj hw
    exact hv q hq hspoils

end Values

end Json

open Json

/-! ### Structures -/

namespace FirmwareVersion

def fields : List (String × Shape) :=
  [("major", .natural 0xFF), ("minor", .natural 0xFF), ("debug", .other)]

variable {x : FirmwareVersion} {v : Json}

theorem isPlain_toJson (x : FirmwareVersion) : x.toJson.IsPlain :=
  ⟨isPlain_ofUInt8 x.major, isPlain_ofUInt8 x.minor, trivial, trivial⟩

theorem ofJson?_of_rewrites (h : Rewrites x.toJson v) : ofJson? v = some x := by
  obtain ⟨written, heach, hf⟩ := exists_fields?_of_rewrites (by simp) h
  simp only [rewritesEach_cons_iff, rewritesEach_nil_iff] at heach
  obtain ⟨_, hmajor, _, ⟨_, hminor, _, ⟨_, hdebug, _, rfl, rfl⟩, rfl⟩, rfl⟩ := heach
  obtain rfl := hmajor.eq_of_ne_object nofun
  obtain rfl := hminor.eq_of_ne_object nofun
  obtain rfl := hdebug.eq_of_ne_object nofun
  simp only [List.map_cons, List.map_nil] at hf
  rw [ofJson?, hf]
  simp [bool?]

theorem not_spoils (h : ofJson? v = some x) : ¬ Spoils (.record fields) v := by
  rw [ofJson?] at h
  split at h
  · next major minor debug hf =>
    simp only [Option.bind_eq_bind, Option.bind_eq_some_iff] at h
    obtain ⟨_, hmajor, _, hminor, -⟩ := h
    refine not_spoils_record fields [major, minor, debug] hf ?_
    simp only [fields, List.zip_cons_cons, List.zip_nil_right, List.forall_mem_cons]
    exact ⟨not_spoils_uint8 hmajor, not_spoils_uint8 hminor, not_spoils_other, nofun⟩
  · cases h

end FirmwareVersion

namespace HardwareVersion

def fields : List (String × Shape) := [("major", .natural 0xFF), ("minor", .natural 0xFF)]

variable {x : HardwareVersion} {v : Json}

theorem isPlain_toJson (x : HardwareVersion) : x.toJson.IsPlain :=
  ⟨isPlain_ofUInt8 x.major, isPlain_ofUInt8 x.minor, trivial⟩

theorem ofJson?_of_rewrites (h : Rewrites x.toJson v) : ofJson? v = some x := by
  obtain ⟨written, heach, hf⟩ := exists_fields?_of_rewrites (by simp) h
  simp only [rewritesEach_cons_iff, rewritesEach_nil_iff] at heach
  obtain ⟨_, hmajor, _, ⟨_, hminor, _, rfl, rfl⟩, rfl⟩ := heach
  obtain rfl := hmajor.eq_of_ne_object nofun
  obtain rfl := hminor.eq_of_ne_object nofun
  simp only [List.map_cons, List.map_nil] at hf
  rw [ofJson?, hf]
  simp

theorem not_spoils (h : ofJson? v = some x) : ¬ Spoils (.record fields) v := by
  rw [ofJson?] at h
  split at h
  · next major minor hf =>
    simp only [Option.bind_eq_bind, Option.bind_eq_some_iff] at h
    obtain ⟨_, hmajor, _, hminor, -⟩ := h
    refine not_spoils_record fields [major, minor] hf ?_
    simp only [fields, List.zip_cons_cons, List.zip_nil_right, List.forall_mem_cons]
    exact ⟨not_spoils_uint8 hmajor, not_spoils_uint8 hminor, nofun⟩
  · cases h

end HardwareVersion

namespace ProtocolVersion

variable {x : ProtocolVersion} {v : Json}

/-- The version of a protocol is written and read as that of a circuit board. -/
theorem ofJson?_eq (v : Json) :
    ofJson? v = (HardwareVersion.ofJson? v).map fun h => ⟨h.major, h.minor⟩ := by
  rw [ofJson?, HardwareVersion.ofJson?]
  split
  · simp only [Option.map_bind, Option.bind_eq_bind, Function.comp_def, Option.map_some,
      Option.pure_def]
  · rfl

theorem toJson_eq (x : ProtocolVersion) :
    x.toJson = HardwareVersion.toJson ⟨x.major, x.minor⟩ := rfl

theorem isPlain_toJson (x : ProtocolVersion) : x.toJson.IsPlain :=
  HardwareVersion.isPlain_toJson ⟨x.major, x.minor⟩

theorem ofJson?_of_rewrites (h : Rewrites x.toJson v) : ofJson? v = some x := by
  rw [toJson_eq] at h
  rw [ofJson?_eq, HardwareVersion.ofJson?_of_rewrites h]
  rfl

theorem not_spoils (h : ofJson? v = some x) : ¬ Spoils (.record HardwareVersion.fields) v := by
  rw [ofJson?_eq, Option.map_eq_some_iff] at h
  obtain ⟨y, hy, -⟩ := h
  exact HardwareVersion.not_spoils hy

end ProtocolVersion

namespace Version

def fields : List (String × Shape) :=
  [("firmware", .record FirmwareVersion.fields), ("hardware", .record HardwareVersion.fields),
    ("protocol", .record HardwareVersion.fields)]

variable {x : Version} {v : Json}

theorem isPlain_toJson (x : Version) : x.toJson.IsPlain := by
  simp only [toJson, IsPlain, HavePlain]
  exact ⟨x.firmware.isPlain_toJson, x.hardware.isPlain_toJson, x.protocol.isPlain_toJson, trivial⟩

theorem ofJson?_of_rewrites (h : Rewrites x.toJson v) : ofJson? v = some x := by
  obtain ⟨written, heach, hf⟩ := exists_fields?_of_rewrites (by simp) h
  simp only [rewritesEach_cons_iff, rewritesEach_nil_iff] at heach
  obtain ⟨_, hfirmware, _, ⟨_, hhardware, _, ⟨_, hprotocol, _, rfl, rfl⟩, rfl⟩, rfl⟩ := heach
  simp only [List.map_cons, List.map_nil] at hf
  rw [ofJson?, hf]
  simp [FirmwareVersion.ofJson?_of_rewrites hfirmware,
    HardwareVersion.ofJson?_of_rewrites hhardware, ProtocolVersion.ofJson?_of_rewrites hprotocol]

theorem not_spoils (h : ofJson? v = some x) : ¬ Spoils (.record fields) v := by
  rw [ofJson?] at h
  split at h
  · next firmware hardware protocol hf =>
    simp only [Option.bind_eq_bind, Option.bind_eq_some_iff] at h
    obtain ⟨_, hfirmware, _, hhardware, _, hprotocol, -⟩ := h
    refine not_spoils_record fields [firmware, hardware, protocol] hf ?_
    simp only [fields, List.zip_cons_cons, List.zip_nil_right, List.forall_mem_cons]
    exact ⟨FirmwareVersion.not_spoils hfirmware, HardwareVersion.not_spoils hhardware,
      ProtocolVersion.not_spoils hprotocol, nofun⟩
  · cases h

end Version

namespace ErrorState

def fields : List (String × Shape) :=
  [("state", .natural 0xFFFFFFFF), ("last_error", .natural 0xFF)]

variable {x : ErrorState} {v : Json}

theorem isPlain_toJson (x : ErrorState) : x.toJson.IsPlain :=
  ⟨isPlain_ofNat (Nat.le_trans (Nat.le_of_lt x.state.toNat_lt) (by decide)),
    isPlain_ofUInt8 x.lastError, trivial⟩

theorem ofJson?_of_rewrites (h : Rewrites x.toJson v) : ofJson? v = some x := by
  obtain ⟨written, heach, hf⟩ := exists_fields?_of_rewrites (by simp) h
  simp only [rewritesEach_cons_iff, rewritesEach_nil_iff] at heach
  obtain ⟨_, hstate, _, ⟨_, herror, _, rfl, rfl⟩, rfl⟩ := heach
  obtain rfl := hstate.eq_of_ne_object nofun
  obtain rfl := herror.eq_of_ne_object nofun
  simp only [List.map_cons, List.map_nil] at hf
  rw [ofJson?, hf]
  simp

theorem not_spoils (h : ofJson? v = some x) : ¬ Spoils (.record fields) v := by
  rw [ofJson?] at h
  split at h
  · next state error hf =>
    simp only [Option.bind_eq_bind, Option.bind_eq_some_iff] at h
    obtain ⟨_, hstate, _, herror, -⟩ := h
    refine not_spoils_record fields [state, error] hf ?_
    simp only [fields, List.zip_cons_cons, List.zip_nil_right, List.forall_mem_cons]
    exact ⟨not_spoils_uint32 hstate, not_spoils_uint8 herror, nofun⟩
  · cases h

end ErrorState

/-! ### Events -/

namespace UpdateEvent

def fields : List (String × Shape) := [("kind", .other), ("value", .other)]

variable {v kind value : Json} {text : String}

theorem isPlain_toJson_status (text : String) : (status text).toJson.IsPlain :=
  ⟨trivial, trivial, trivial⟩

theorem fields?_object_eq_some_iff {members : List (String × Json)} :
    (Json.object members).fields? ["kind", "value"] = some [some kind, some value] ↔
      member? members "kind" = some (some kind) ∧ member? members "value" = some (some value) := by
  simp [fields?, List.mapM_cons, Option.bind_eq_some_iff]

theorem ofJson?_of_rewrites (h : Rewrites (status text).toJson v) :
    ofJson? v = some (status text) := by
  obtain ⟨written, heach, hf⟩ := exists_fields?_of_rewrites (by simp) h
  simp only [rewritesEach_cons_iff, rewritesEach_nil_iff] at heach
  obtain ⟨_, hkind, _, ⟨_, hvalue, _, rfl, rfl⟩, rfl⟩ := heach
  obtain rfl := hkind.eq_of_ne_object nofun
  obtain rfl := hvalue.eq_of_ne_object nofun
  cases v with
  | object members =>
    obtain ⟨hkind, hvalue⟩ := fields?_object_eq_some_iff.1 hf
    simp [ofJson?, hkind, hvalue, kind?, ofKind?, text?]
  | array elements =>
    rw [fields?] at hf
    split at hf
    · have helements : elements.map some = [Json.text "status", .text text].map some :=
        Option.some.inj hf
      obtain rfl := (List.map_inj_right fun _ _ => Option.some.inj).1 helements
      rfl
    · cases hf
  | _ => cases hf

/-- An event is read from its kind and its value. -/
theorem exists_fields?_of_ofJson? {event : UpdateEvent} (h : ofJson? v = some event) :
    ∃ kind value, v.fields? ["kind", "value"] = some [some kind, some value] := by
  rw [ofJson?.eq_def] at h
  split at h
  · exact ⟨_, _, rfl⟩
  · next members =>
    simp only [Option.bind_eq_bind, Option.bind_eq_some_iff] at h
    obtain ⟨_, hkind, kind, rfl, _, hvalue, value, rfl, -⟩ := h
    exact ⟨kind, value, fields?_object_eq_some_iff.2 ⟨hkind, hvalue⟩⟩
  · cases h

theorem not_spoils {event : UpdateEvent} (h : ofJson? v = some event) :
    ¬ Spoils (.record fields) v := by
  obtain ⟨kind, value, hf⟩ := exists_fields?_of_ofJson? h
  refine not_spoils_record fields [kind, value] hf ?_
  simp only [fields, List.zip_cons_cons, List.zip_nil_right, List.forall_mem_cons]
  exact ⟨not_spoils_other, not_spoils_other, nofun⟩

end UpdateEvent

/-! ### Texts -/

namespace Json

/-- What is read of the texts of a value, and not of texts that are spoilt. -/
structure Faithful {α : Type} (toJson : α → Json) (ofJson? : Json → Option α)
    (fields : List (String × Shape)) (x : α) : Prop where
  named : ∃ members, toJson x = .object members ∧ members.map (·.1) = fields.map (·.1)
  back : (ofText? (toJson x).render).bind ofJson? = some x
  /-- It is read from every spelling of every other way to write it. -/
  rewritten : ∀ v text, Rewrites (toJson x) v → Spells v text →
    (ofText? text).bind ofJson? = some x
  spoilt : ∀ v text, Spoils (.record fields) v → Spells v text →
    (ofText? text).bind ofJson? = none

theorem faithful_of_rewrites {α : Type} {toJson : α → Json} {ofJson? : Json → Option α}
    {fields : List (String × Shape)} {x : α}
    (hn : ∃ members, toJson x = .object members ∧ members.map (·.1) = fields.map (·.1))
    (hp : (toJson x).IsPlain) (hr : ∀ v, Rewrites (toJson x) v → ofJson? v = some x)
    (hs : ∀ v y, ofJson? v = some y → ¬ Spoils (.record fields) v) :
    Faithful toJson ofJson? fields x where
  named := hn
  back := by
    rw [ofText?_of_spells (spells_render hp)]
    exact hr _ (.same _)
  rewritten := by
    intro v text hv ht
    rw [ofText?_of_spells ht]
    exact hr v hv
  spoilt := by
    intro v text hv ht
    rw [ofText?_of_spells ht, Option.bind_some, Option.eq_none_iff_forall_ne_some]
    exact fun y hy => hs v y hy hv

/-- What is written is read back: also with blanks between the tokens, with the characters of texts
escaped in any way, with members in another order and others among them, and as arrays. Nothing is
read where a field is missing or there twice, or holds a number out of its range. -/
theorem written_faithful :
    (∀ x, Faithful FirmwareVersion.toJson FirmwareVersion.ofJson? FirmwareVersion.fields x) ∧
    (∀ x, Faithful HardwareVersion.toJson HardwareVersion.ofJson? HardwareVersion.fields x) ∧
    (∀ x, Faithful ProtocolVersion.toJson ProtocolVersion.ofJson? HardwareVersion.fields x) ∧
    (∀ x, Faithful Version.toJson Version.ofJson? Version.fields x) ∧
    (∀ x, Faithful ErrorState.toJson ErrorState.ofJson? ErrorState.fields x) ∧
    ∀ text, Faithful UpdateEvent.toJson UpdateEvent.ofJson? UpdateEvent.fields (.status text) := by
  refine ⟨fun x => ?_, fun x => ?_, fun x => ?_, fun x => ?_, fun x => ?_, fun text => ?_⟩
  · exact faithful_of_rewrites ⟨_, rfl, rfl⟩ x.isPlain_toJson
      (fun _ => FirmwareVersion.ofJson?_of_rewrites) fun _ _ => FirmwareVersion.not_spoils
  · exact faithful_of_rewrites ⟨_, rfl, rfl⟩ x.isPlain_toJson
      (fun _ => HardwareVersion.ofJson?_of_rewrites) fun _ _ => HardwareVersion.not_spoils
  · exact faithful_of_rewrites ⟨_, rfl, rfl⟩ x.isPlain_toJson
      (fun _ => ProtocolVersion.ofJson?_of_rewrites) fun _ _ => ProtocolVersion.not_spoils
  · exact faithful_of_rewrites ⟨_, rfl, rfl⟩ x.isPlain_toJson
      (fun _ => Version.ofJson?_of_rewrites) fun _ _ => Version.not_spoils
  · exact faithful_of_rewrites ⟨_, rfl, rfl⟩ x.isPlain_toJson
      (fun _ => ErrorState.ofJson?_of_rewrites) fun _ _ => ErrorState.not_spoils
  · exact faithful_of_rewrites ⟨_, rfl, rfl⟩ (UpdateEvent.isPlain_toJson_status text)
      (fun _ => UpdateEvent.ofJson?_of_rewrites) fun _ _ => UpdateEvent.not_spoils

example : (ofText? "\x7b \"last_error\" :7, \"other\":null,\"state\":4294967295\x7d").bind
    ErrorState.ofJson? = some ⟨0xFFFFFFFF, 7⟩ := by
  decide +kernel

end Json

end Shdlc
