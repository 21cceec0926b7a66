import Shdlc.Reception
/-!
The far side of a line: whatever answers the requests that a host sends. It may be a device, several
of them, or something that sends rubbish, so it is any function of the requests so far.
-/
namespace Shdlc

/-- Something that happens on a line while a host waits for a response. -/
inductive Arrival where
  /-- So many microseconds go by. -/
  | wait (microseconds : Nat)
  | bytes (bytes : Bytes)
  /-- Reading fails. -/
  | failure (error : SystemError)
  /-- The far side ends the connection. -/
  | closed
deriving DecidableEq, Repr

namespace Arrival

/-- The reads in which bytes arrive, the first after a delay. -/
def readsOfBytes (delay : Nat) (bs : Bytes) : List Read :=
  match Bytes.pieces Read.capacity (by decide) bs with
  | [] => [⟨delay, .bytes []⟩]
  | piece :: more => ⟨delay, .bytes piece⟩ :: more.map fun piece => ⟨0, .bytes piece⟩

/-- The reads in which the arrivals reach a host to whom the end of a connection shows as `ending`,
when `delay` microseconds have gone by already. -/
def readsFrom (ending : SystemError) (delay : Nat) : List Arrival → List Read
  | [] => []
  | .wait microseconds :: rest => readsFrom ending (delay + microseconds) rest
  | .bytes bs :: rest => readsOfBytes delay bs ++ readsFrom ending 0 rest
  | .failure e :: rest => ⟨delay, .failure e⟩ :: readsFrom ending 0 rest
  | .closed :: rest => ⟨delay, .failure ending⟩ :: readsFrom ending 0 rest

def reads (ending : SystemError) (arrivals : List Arrival) : List Read :=
  readsFrom ending 0 arrivals

theorem length_delivered_le {ending : SystemError} {arrivals : List Arrival} {r : Read}
    (h : r ∈ reads ending arrivals) : r.delivered.length ≤ Read.capacity := by
  suffices ∀ delay, r ∈ readsFrom ending delay arrivals → r.delivered.length ≤ Read.capacity from
    this 0 h
  clear h
  induction arrivals with
  | nil => simp [readsFrom]
  | cons a rest ih =>
    intro delay h
    cases a with
    | wait n => exact ih _ h
    | failure e =>
      rcases List.mem_cons.1 h with rfl | h
      · simp [Read.delivered]
      · exact ih _ h
    | closed =>
      rcases List.mem_cons.1 h with rfl | h
      · simp [Read.delivered]
      · exact ih _ h
    | bytes bs =>
      rcases List.mem_append.1 h with h | h
      · unfold readsOfBytes at h
        split at h
        · rw [List.mem_singleton.1 h]
          simp [Read.delivered]
        · rename_i piece more hp
          rcases List.mem_cons.1 h with rfl | h
          · exact Bytes.length_le_of_mem_pieces (hp ▸ List.mem_cons_self)
          · obtain ⟨p, hm, rfl⟩ := List.mem_map.1 h
            exact Bytes.length_le_of_mem_pieces (hp ▸ List.mem_cons_of_mem _ hm)
      · exact ih _ h

end Arrival

/-- What arrives after a request, given all requests so far; the one to be answered is the last. -/
abbrev FarSide := Array Bytes → List Arrival

/-- A far side that never answers. -/
def FarSide.silent : FarSide := fun _ => []

end Shdlc
