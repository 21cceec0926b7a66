import Shdlc.Proofs.Image.Contents
import Shdlc.Proofs.Update.Run
import Shdlc.Proofs.Update.Percentages
/-!
What the listener of an update is told, and when. Main statement: `run_tells`, the events are a
beginning of those that an update announces, and each comes when what it speaks of has been
acknowledged.
-/
namespace Shdlc

/-- What others notice of an update. -/
inductive Notice where
  /-- A frame is sent. -/
  | frame (raw : Bytes)
  /-- The listener is told. -/
  | event (event : UpdateEvent)
deriving DecidableEq

namespace Effect

def notice? : Effect → Option Notice
  | .request raw _ _ => some (.frame raw)
  | .event e => some (.event e)
  | _ => none

def event? : Effect → Option UpdateEvent
  | .event e => some e
  | _ => none

end Effect

namespace Bus

/-- The frames that were sent through a bus and the events that were told meanwhile, in order. -/
def notices (b : Bus) : List Notice := b.trace.toList.filterMap Effect.notice?

def events (b : Bus) : List UpdateEvent := b.trace.toList.filterMap Effect.event?

theorem notices_eq (b : Bus) : b.notices = b.deeds.filterMap Effect.notice? := by
  rw [filterMap_deeds b]
  · rfl
  · intro e he
    cases e <;> first | rfl | cases he

theorem events_eq (b : Bus) : b.events = b.deeds.filterMap Effect.event? := by
  rw [filterMap_deeds b]
  · rfl
  · intro e he
    cases e <;> first | rfl | cases he

end Bus

namespace Update

def Move.notice? : Move → Option Notice
  | .tune _ => none
  | .ask a => some (.frame a.raw)
  | .tell event => some (.event event)

def tells (moves : List Move) : List UpdateEvent :=
  moves.filterMap fun | .tell event => some event | _ => none

section Tells

@[simp] theorem tells_nil : tells [] = [] := rfl

@[simp] theorem tells_tune (rate : UInt32) (rest : List Move) :
    tells (.tune rate :: rest) = tells rest := rfl

@[simp] theorem tells_ask (a : Ask) (rest : List Move) : tells (.ask a :: rest) = tells rest := rfl

@[simp] theorem tells_tell (event : UpdateEvent) (rest : List Move) :
    tells (.tell event :: rest) = event :: tells rest := rfl

@[simp] theorem tells_append (m n : List Move) : tells (m ++ n) = tells m ++ tells n :=
  List.filterMap_append

@[simp] theorem tells_told (event : UpdateEvent) : tells (told true event) = [event] := rfl

theorem tells_mono {m n : List Move} (h : m <+: n) : tells m <+: tells n := h.filterMap _

theorem notices_effects (allowance : Nat) (rate : Option UInt32) (moves : List Move) :
    (effects allowance rate moves).filterMap Effect.notice? = moves.filterMap Move.notice? := by
  induction moves generalizing rate with
  | nil => rfl
  | cons move rest ih =>
    cases move <;> simp [effects, Effect.notice?, Move.notice?, List.filterMap_cons, ih]

theorem events_effects (allowance : Nat) (rate : Option UInt32) (moves : List Move) :
    (effects allowance rate moves).filterMap Effect.event? = tells moves := by
  induction moves generalizing rate with
  | nil => rfl
  | cons move rest ih =>
    cases move <;> simp [effects, Effect.event?, List.filterMap_cons, ih]

end Tells

/-- What is announced before the application is written. -/
def announcedFirst (emergency : Bool) : List UpdateEvent :=
  (if emergency then [] else
    [.status "Check compatibility...", .ofPercent (percent 4),
      .status "Enter bootloader...", .ofPercent (percent 7)]) ++
  [.status "Clear flash...", .ofPercent (percent 10), .status "Write new firmware..."]

/-- What is announced for the chunk with the given index of an application of `size` bytes. -/
def announcedChunk (size index : Nat) : List UpdateEvent :=
  let written := min (254 * (index + 1)) size
  [.status (writtenText written size), .ofPercent (percentWritten written size)]

/-- What is announced after the application has been written. -/
def announcedLast : List UpdateEvent :=
  [.status "Verify checksum...", .ofPercent (percent 100), .status "Finished!"]

/-- All that an update of an application of `size` bytes has to tell. -/
def announcements (emergency : Bool) (size : Nat) : List UpdateEvent :=
  announcedFirst emergency ++ (List.range ((size + 253) / 254)).flatMap (announcedChunk size) ++
    announcedLast

section Announcements

theorem tells_writing (size written : Nat) (bs : Bytes) :
    tells (writing true size written (Bytes.pieces chunkSize chunkSize_pos bs)) =
      (List.range (Bytes.pieces chunkSize chunkSize_pos bs).length).flatMap fun index =>
        let sum := written + min (254 * (index + 1)) bs.length
        [.status (writtenText sum size), .ofPercent (percentWritten sum size)] := by
  fun_induction Bytes.pieces chunkSize chunkSize_pos bs generalizing written with
  | case1 => rfl
  | case2 b rest ih =>
    have hlen : ((b :: rest).take chunkSize).length = min 254 (b :: rest).length := List.length_take
    have hnext : ∀ index, written + min 254 (b :: rest).length +
        min (254 * (index + 1)) ((b :: rest).drop chunkSize).length =
          written + min (254 * (index + 1 + 1)) (b :: rest).length := by
      intro index
      rw [List.length_drop, chunkSize]
      omega
    rw [writing, tells_ask, tells_append, tells_append, tells_told, tells_told, ih, hlen]
    simp only [hnext]
    rw [@List.length_cons Bytes, List.range_succ_eq_map, List.flatMap_cons, List.flatMap_map]
    rfl

/-- The moves of an update before the checksum is sent. -/
def unverified (emergency : Bool) (b : Bench) (rate : UInt32) : List Move :=
  opening emergency true b.device.address rate ++
    (told true (.status "Clear flash...") ++ .ask ⟨bootloaderAddress, .updateStart⟩ ::
      (told true (.ofPercent (percent 10)) ++ (told true (.status "Write new firmware...") ++
        (writing true b.image.size 0 (chunks b.image) ++
          told true (.status "Verify checksum...")))))

variable (emergency : Bool) (b : Bench) (rate : UInt32)

theorem script_eq :
    script emergency true b rate = unverified emergency b rate ++
      [.ask ⟨bootloaderAddress, .updateStop b.image.checksum⟩, .tell (.ofPercent (percent 100)),
        .tune rate, .tell (.status "Finished!")] := by
  simp [script, flashing, unverified, told]

theorem tells_unverified :
    tells (unverified emergency b rate) = announcedFirst emergency ++
      (List.range ((b.image.size + 253) / 254)).flatMap (announcedChunk b.image.size) ++
        [.status "Verify checksum..."] := by
  have hchunks : tells (writing true b.image.size 0 (chunks b.image)) =
      (List.range ((b.image.size + 253) / 254)).flatMap (announcedChunk b.image.size) := by
    have hlen : (chunks b.image).length = (b.image.size + 253) / 254 := Bytes.length_pieces _ _ _
    rw [chunks, tells_writing, ← chunks, hlen]
    simp only [Nat.zero_add]
    rfl
  cases emergency <;>
    simp [unverified, opening, checking, entering, announcedFirst, hchunks]

theorem announcements_eq :
    announcements emergency b.image.size = tells (unverified emergency b rate) ++
      [.ofPercent (percent 100), .status "Finished!"] := by
  rw [tells_unverified, announcements, announcedLast]
  simp only [List.append_assoc, List.cons_append, List.nil_append]

theorem tells_script :
    tells (script emergency true b rate) = announcements emergency b.image.size := by
  rw [script_eq, announcements_eq emergency b rate]
  simp

theorem updateStop_notMem_asks_unverified (checksum : UInt8) :
    ⟨bootloaderAddress, .updateStop checksum⟩ ∉ asks (unverified emergency b rate) := by
  cases emergency <;> simp [unverified, opening, checking, entering]

theorem writtenText_ne (written size : Nat) : writtenText written size ≠ "Finished!" := by
  have hne : ∀ a c, "Write new firmware: " ++ a ++ " kB of " ++ c ++ " kB" ≠ "Finished!" := by
    intro a c h
    have hl := congrArg String.toList h
    simp only [String.toList_append, List.append_assoc] at hl
    exact absurd hl nofun
  exact hne _ _

theorem finished_notMem_tells_unverified :
    .status "Finished!" ∉ tells (unverified emergency b rate) := by
  have hchunk : ∀ index, .status "Finished!" ∉ announcedChunk b.image.size index := by
    intro index
    simp [announcedChunk, UpdateEvent.ofPercent, (writtenText_ne _ _).symm]
  have hfirst : .status "Finished!" ∉ announcedFirst emergency := by
    cases emergency <;> simp [announcedFirst, UpdateEvent.ofPercent]
  rw [tells_unverified]
  simp [hfirst, hchunk]

theorem hundred_notMem_announcedChunk {size index : Nat} (hindex : index < (size + 253) / 254)
    (hsize : size < 2 ^ 53) : .ofPercent (percent 100) ∉ announcedChunk size index := by
  have hpos : 0 < min (254 * (index + 1)) size := by omega
  have hne := ofPercent_percentWritten_ne hpos (Nat.min_le_right _ _) hsize
  intro h
  rcases List.mem_cons.1 h with h | h
  · cases h
  · exact hne (List.mem_singleton.1 h).symm

theorem hundred_notMem_tells_unverified (hsize : b.image.size < 2 ^ 53) :
    .ofPercent (percent 100) ∉ tells (unverified emergency b rate) := by
  have hfirst : ∀ emergency, .ofPercent (percent 100) ∉ announcedFirst emergency := by
    decide +kernel
  rw [tells_unverified]
  intro h
  rcases List.mem_append.1 h with h | h
  · rcases List.mem_append.1 h with h | h
    · exact hfirst emergency h
    · obtain ⟨index, hindex, h⟩ := List.mem_flatMap.1 h
      exact hundred_notMem_announcedChunk (List.mem_range.1 hindex) hsize h
  · cases List.mem_singleton.1 h

end Announcements

/-- How far an update has come in its script: moves have succeeded, and the one behind them has not,
whether it was tried or not. -/
structure Reaches (b : Bench) (script fine tried : List Move) : Prop where
  scripted : fine ++ tried <+: script
  succeeded : Throughout (Succeeds b) [] fine
  tried_le : tried.length ≤ 1
  fails : ∀ move rest, script = fine ++ move :: rest → ¬ Succeeds b fine move

section Reaches

variable {emergency : Bool} {b : Bench} {rate : UInt32} {script fine tried : List Move}

theorem Reaches.tried_cases (h : Reaches b script fine tried) :
    tried = [] ∨ ∃ move, tried = [move] ∧ ¬ Succeeds b fine move := by
  obtain ⟨rest, hr⟩ := h.scripted
  match tried, h.tried_le with
  | [], _ => exact .inl rfl
  | [move], _ => exact .inr ⟨move, rfl, h.fails move rest (by simp [← hr])⟩

/-- Telling does not fail. -/
theorem Reaches.tells_tried (h : Reaches b script fine tried) : tells tried = [] := by
  obtain rfl | ⟨move, rfl, hfails⟩ := h.tried_cases
  · rfl
  · cases move with
    | tune rate => rfl
    | ask a => rfl
    | tell event => exact absurd trivial hfails

theorem Reaches.acknowledged (h : Reaches b script fine tried) {front back : List Move}
    {move : Move} (hs : fine ++ tried = front ++ move :: back) :
    Throughout (Acknowledged b) [] (asks front) := by
  have hlen := congrArg List.length hs
  simp only [List.length_append, List.length_cons] at hlen
  have hle := h.tried_le
  have hfront : front <+: fine := by
    apply List.prefix_of_prefix_length_le _ (List.prefix_append fine tried) (by omega)
    rw [hs]
    exact List.prefix_append _ _
  exact ((throughout_succeeds_iff b [] front).1 (h.succeeded.mono hfront)).1

/-- A request that has been sent last and was acknowledged has not been tried in vain. -/
theorem Reaches.mem_of_acknowledged (h : Reaches b script fine tried) {before : List Ask}
    {a : Ask} (hs : asks (fine ++ tried) = before ++ [a]) (ha : Acknowledged b before a) :
    a ∈ asks fine := by
  have hmem : a ∈ before ++ [a] := List.mem_append_right before (List.mem_singleton_self a)
  rw [← hs, asks_append] at hmem
  obtain rfl | ⟨move, rfl, hfails⟩ := h.tried_cases
  · rwa [asks_nil, List.append_nil] at hmem
  · cases move with
    | tune rate => rwa [asks_tune, asks_nil, List.append_nil] at hmem
    | tell event => rwa [asks_tell, asks_nil, List.append_nil] at hmem
    | ask c =>
      rw [asks_append, asks_ask, asks_nil] at hs
      obtain ⟨rfl, hc⟩ := List.append_inj' hs rfl
      obtain rfl : c = a := by simpa using hc
      exact absurd ha hfails

/-- An event is told when everything before it has succeeded. -/
theorem Reaches.tell_prefix (h : Reaches b script fine tried) {front back : List Move}
    {event : UpdateEvent} (hs : script = front ++ .tell event :: back) (hf : front <+: fine) :
    front ++ [.tell event] <+: fine := by
  obtain ⟨more, rfl⟩ := hf
  rw [List.prefix_append_right_inj]
  obtain ⟨rest, hr⟩ := h.scripted
  cases more with
  | nil => exact absurd trivial (h.fails (.tell event) back (by rw [hs, List.append_nil]))
  | cons move more =>
    rw [hs, List.append_assoc, List.append_assoc, List.append_cancel_left_eq, List.cons_append,
      List.cons.injEq] at hr
    rw [hr.1]
    exact ⟨more, rfl⟩

section Verified

variable (emergency b rate)

/-- The moves of an update up to the request of the checksum. -/
def verifying : List Move :=
  unverified emergency b rate ++ [.ask ⟨bootloaderAddress, .updateStop b.image.checksum⟩]

theorem script_eq_verifying : Update.script emergency true b rate = verifying emergency b rate ++
    [.tell (.ofPercent (percent 100)), .tune rate, .tell (.status "Finished!")] := by
  rw [script_eq, verifying, List.append_assoc, List.singleton_append]

theorem dropLast_announcements : (announcements emergency b.image.size).dropLast =
    tells (verifying emergency b rate) ++ [.ofPercent (percent 100)] := by
  rw [announcements_eq emergency b rate, List.append_cons, List.dropLast_concat]
  simp [verifying]

end Verified

theorem Reaches.fine_prefix (h : Reaches b script fine tried) : fine <+: script :=
  (List.prefix_append fine tried).trans h.scripted

/-- That everything is done is told exactly behind the request of the checksum. -/
theorem Reaches.told_iff (h : Reaches b (Update.script emergency true b rate) fine tried) :
    (announcements emergency b.image.size).dropLast <+: tells fine ↔
      verifying emergency b rate <+: fine := by
  have hscript := script_eq_verifying emergency b rate
  rw [dropLast_announcements emergency b rate]
  constructor
  · intro hp
    rcases List.prefix_or_prefix_of_prefix h.fine_prefix ⟨_, hscript.symm⟩ with hf | hv
    · have hle := (hp.trans (tells_mono hf)).length_le
      rw [List.length_append, List.length_singleton] at hle
      omega
    · exact hv
  · intro hv
    simpa using tells_mono (h.tell_prefix hscript hv)

/-- 100 percent are told behind the request of the checksum and nowhere before. -/
theorem Reaches.hundred_iff (h : Reaches b (Update.script emergency true b rate) fine tried)
    (hsize : b.image.size < 2 ^ 53) :
    .ofPercent (percent 100) ∈ tells fine ↔ verifying emergency b rate <+: fine := by
  have hscript := script_eq_verifying emergency b rate
  have hnot : .ofPercent (percent 100) ∉ tells (verifying emergency b rate) := by
    simpa [verifying] using hundred_notMem_tells_unverified emergency b rate hsize
  constructor
  · intro hm
    rcases List.prefix_or_prefix_of_prefix h.fine_prefix ⟨_, hscript.symm⟩ with hf | hv
    · exact absurd ((tells_mono hf).subset hm) hnot
    · exact hv
  · intro hv
    exact (tells_mono (h.tell_prefix hscript hv)).subset (by simp)

/-- The request of the checksum has succeeded exactly if it is the last and was acknowledged. -/
theorem Reaches.verifying_prefix_iff
    (h : Reaches b (Update.script emergency true b rate) fine tried) :
    verifying emergency b rate <+: fine ↔
      ∃ before, asks (fine ++ tried) =
          before ++ [⟨bootloaderAddress, .updateStop b.image.checksum⟩] ∧
        Acknowledged b before ⟨bootloaderAddress, .updateStop b.image.checksum⟩ := by
  have hscript := script_eq_verifying emergency b rate
  have hnot := updateStop_notMem_asks_unverified emergency b rate b.image.checksum
  constructor
  · intro hv
    have hall : asks (Update.script emergency true b rate) = asks (verifying emergency b rate) := by
      rw [hscript]
      simp
    have hmade : asks (fine ++ tried) = asks (verifying emergency b rate) := by
      have hle := asks_mono (hv.trans (List.prefix_append fine tried))
      have hge := asks_mono h.scripted
      rw [hall] at hge
      exact hge.eq_of_length_le hle.length_le
    have hlast := (throughout_append _ _ _).1 (h.succeeded.mono hv)
    exact ⟨asks (unverified emergency b rate), by rw [hmade]; simp [verifying], hlast.2.1⟩
  · rintro ⟨before, hb, hacknowledged⟩
    rcases List.prefix_or_prefix_of_prefix h.fine_prefix ⟨_, hscript.symm⟩ with hf | hv
    · rcases List.prefix_concat_iff.1 hf with rfl | hu
      · exact List.prefix_rfl
      -- If it is not among the moves that succeeded, it was tried behind them, and refused.
      · have hfine : ⟨bootloaderAddress, .updateStop b.image.checksum⟩ ∉ asks fine :=
          fun hm => hnot ((asks_mono hu).subset hm)
        exact absurd (h.mem_of_acknowledged hb hacknowledged) hfine
    · exact hv

/-- That the update has finished is told exactly when all else has succeeded. -/
theorem Reaches.finished_iff (h : Reaches b (Update.script emergency true b rate) fine tried) :
    .status "Finished!" ∈ tells fine ↔ fine = Update.script emergency true b rate := by
  have hscript : Update.script emergency true b rate = (verifying emergency b rate ++
      [.tell (.ofPercent (percent 100)), .tune rate]) ++ [.tell (.status "Finished!")] := by
    rw [script_eq_verifying, List.append_assoc]
    rfl
  have hnot : .status "Finished!" ∉ tells (verifying emergency b rate ++
      [.tell (.ofPercent (percent 100)), .tune rate]) := by
    have hu := finished_notMem_tells_unverified emergency b rate
    simpa [verifying, UpdateEvent.ofPercent] using hu
  constructor
  · intro hm
    have hp := h.fine_prefix
    rw [hscript] at hp ⊢
    rcases List.prefix_concat_iff.1 hp with heq | hf
    · exact heq
    · exact absurd ((tells_mono hf).subset hm) hnot
  · intro heq
    rw [heq, hscript]
    simp

end Reaches

section Run

variable {b s : Bench} {moves : List Move}

theorem Trails.notices_eq (h : Trails b moves s) :
    s.bus.notices = b.bus.notices ++ moves.filterMap Move.notice? := by
  rw [Bus.notices_eq, h.deeds, List.filterMap_append, ← Bus.notices_eq, notices_effects]

theorem Trails.events_eq (h : Trails b moves s) : s.bus.events = b.bus.events ++ tells moves := by
  rw [Bus.events_eq, h.deeds, List.filterMap_append, ← Bus.events_eq, events_effects]

/-- An update at a port without a bitrate fails with the first move. -/
theorem reaches_of_none (emergency : Bool) (hb : b.bus.port.bitrate? = none) :
    Reaches b (script emergency true b 0) [] [] where
  scripted := List.nil_prefix
  succeeded := trivial
  tried_le := Nat.zero_le 1
  fails := by
    intro move rest h
    obtain rfl : .tune 0 = move := (List.cons.inj h).1
    exact fun htakes => htakes.1 hb

/-- However an update ends, it has come somewhere in its script, and this is what others have
noticed of it. -/
theorem exists_reaches (emergency : Bool) (b : Bench) :
    ∃ rate fine tried, Reaches b (script emergency true b rate) fine tried ∧
      (Work.final (run emergency true b)).bus.notices =
        b.bus.notices ++ (fine ++ tried).filterMap Move.notice? ∧
      (Work.final (run emergency true b)).bus.events = b.bus.events ++ tells (fine ++ tried) ∧
      (fine = script emergency true b rate ↔ ∃ s, run emergency true b = .ok () s) := by
  cases hb : b.bus.port.bitrate? with
  | none =>
    rw [run_of_none emergency true hb]
    refine ⟨0, [], [], reaches_of_none emergency hb, ?_, ?_, ?_⟩
    · exact (List.append_nil _).symm
    · exact (List.append_nil _).symm
    · constructor
      · intro h
        cases h
      · rintro ⟨s, h⟩
        cases h
  | some rate =>
    have hc := run_concludes emergency true hb
    cases hr : run emergency true b with
    | ok _ s =>
      rw [hr] at hc
      cases hc with
      | well succeeds follows =>
        have hn := follows.toTrails.notices_eq
        have he := follows.toTrails.events_eq
        rw [← List.append_nil (script _ _ _ _)] at hn he
        refine ⟨rate, script emergency true b rate, [], ⟨by simp, succeeds, Nat.zero_le 1, ?_⟩,
          hn, he, fun _ => ⟨s, rfl⟩, fun _ => rfl⟩
        intro move rest h
        simp at h
    | error e s =>
      rw [hr] at hc
      obtain ⟨made, move, rest, tried, restoring, hs, hmade, hfails, htried, hrestoring, ht, -⟩ :=
        hc.exists_trails
      have hquiet : restoring.filterMap Move.notice? = [] :=
        List.prefix_nil.1 (hrestoring.filterMap _)
      have hsilent : tells restoring = [] := List.prefix_nil.1 (tells_mono hrestoring)
      have hn := ht.notices_eq
      have he := ht.events_eq
      rw [List.filterMap_append, hquiet, List.append_nil] at hn
      rw [tells_append, hsilent, List.append_nil] at he
      refine ⟨rate, made, tried, ⟨prefix_of_split hs htried, hmade, htried.length_le, ?_⟩, hn, he,
        ?_, ?_⟩
      · intro next others hnext
        rw [hs] at hnext
        obtain ⟨rfl, -⟩ := by simpa using hnext
        exact hfails
      · intro h
        simp [h] at hs
      · rintro ⟨s, h⟩
        cases h

end Run

/-- An update that succeeds has told all that it has to tell. -/
theorem events_of_ok {emergency : Bool} {b s : Bench} (h : run emergency true b = .ok () s) :
    s.bus.events = b.bus.events ++ announcements emergency b.image.size := by
  obtain ⟨rate, fine, tried, hreaches, -, hevents, hended⟩ := exists_reaches emergency b
  rw [h] at hevents
  rw [← tells_script emergency b rate, ← hended.2 ⟨s, h⟩]
  rw [tells_append, hreaches.tells_tried, List.append_nil] at hevents
  exact hevents

/-- Nothing but success is told last. -/
theorem exists_ok_of_getLast? {emergency : Bool} {b : Bench} (hb : b.bus.events = [])
    (h : (Work.final (run emergency true b)).bus.events.getLast? = some (.status "Finished!")) :
    ∃ s, run emergency true b = .ok () s := by
  obtain ⟨rate, fine, tried, hreaches, -, hevents, hended⟩ := exists_reaches emergency b
  rw [tells_append, hreaches.tells_tried, List.append_nil, hb, List.nil_append] at hevents
  rw [← hended, ← hreaches.finished_iff, ← hevents]
  exact List.mem_of_getLast? h

/-- What a listener has been told when an update ends. -/
structure Tells (emergency : Bool) (b : Bench) (made : List Move)
    (result : EStateM.Result Error Bench Unit) : Prop where
  /-- Moves of the script have been made, in which the status that opens a step stands before its
  request, and the others events behind the request of which they tell. -/
  scripted : ∃ rate, made <+: script emergency true b rate
  notices : (Work.final result).bus.notices = b.bus.notices ++ made.filterMap Move.notice?
  events : (Work.final result).bus.events = b.bus.events ++ tells made
  announced : tells made <+: announcements emergency b.image.size
  /-- A move is made only when all requests before it have been acknowledged. -/
  acknowledged : ∀ front move back, made = front ++ move :: back →
    Throughout (Acknowledged b) [] (asks front)
  /-- All but the last event, and thus 100 percent, is told exactly if the checksum has been
  acknowledged. -/
  verified : (announcements emergency b.image.size).dropLast <+: tells made ↔
    ∃ before, asks made = before ++ [⟨bootloaderAddress, .updateStop b.image.checksum⟩] ∧
      Acknowledged b before ⟨bootloaderAddress, .updateStop b.image.checksum⟩
  /-- Nor are 100 percent told of a chunk, if sizes are exact in double precision, as they are when
  an image has been loaded. -/
  hundred : b.image.size < 2 ^ 53 ∨ b.image.IsLoaded → (.ofPercent (percent 100) ∈ tells made ↔
    ∃ before, asks made = before ++ [⟨bootloaderAddress, .updateStop b.image.checksum⟩] ∧
      Acknowledged b before ⟨bootloaderAddress, .updateStop b.image.checksum⟩)
  finished : .status "Finished!" ∈ tells made ↔ ∃ s, result = .ok () s
  complete : .status "Finished!" ∈ tells made →
    tells made = announcements emergency b.image.size
  /-- Nothing is divided by the size of an application that is empty. -/
  empty : b.image.size = 0 → tells made <+: announcedFirst emergency ++ announcedLast

/-- However an update ends, its listener has been told a beginning of what there is to tell. -/
theorem run_tells (emergency : Bool) (b : Bench) :
    ∃ made, Tells emergency b made (run emergency true b) := by
  obtain ⟨rate, fine, tried, hreaches, hnotices, hevents, hended⟩ := exists_reaches emergency b
  have htells : tells (fine ++ tried) = tells fine := by
    rw [tells_append, hreaches.tells_tried, List.append_nil]
  have hannounced : tells (fine ++ tried) <+: announcements emergency b.image.size := by
    rw [← tells_script emergency b rate]
    exact tells_mono hreaches.scripted
  refine ⟨fine ++ tried, ⟨rate, hreaches.scripted⟩, hnotices, hevents, hannounced, ?_, ?_, ?_, ?_,
    ?_, ?_⟩
  · intro front move back h
    exact hreaches.acknowledged h
  · rw [htells, hreaches.told_iff, hreaches.verifying_prefix_iff]
  · intro h
    have hsize : b.image.size < 2 ^ 53 :=
      h.elim id fun hloaded => Nat.lt_of_le_of_lt hloaded.size_le (by decide)
    rw [htells, hreaches.hundred_iff hsize, hreaches.verifying_prefix_iff]
  · rw [htells, hreaches.finished_iff, hended]
  · rw [htells, hreaches.finished_iff]
    rintro rfl
    exact tells_script emergency b rate
  · intro h
    have hempty : announcements emergency b.image.size =
        announcedFirst emergency ++ announcedLast := by
      simp [announcements, h]
    rwa [← hempty]

end Update

end Shdlc
