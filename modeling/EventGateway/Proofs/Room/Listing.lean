import EventGateway.Proofs.Json.RoundTrip
import EventGateway.Proofs.Room.Payloads
import EventGateway.Room.Listing

/-!
# Rooms read back from a listing

The listing of a set of rooms names the kinds in another order than the rooms have, and no kind without
rooms. As the data of a command it gives the rooms of the set again, in order. Main statement:
`ofValue_listing`.
-/

namespace EventGateway

open Json

/-! ### Rooms by kind -/

lemma map_idsOfKind (kind : RoomKind) (rooms : List Room) :
    (idsOfKind kind rooms).map (Room.mk kind) = rooms.filter (·.kind = kind) := by
  rw [idsOfKind, List.map_map]
  refine (List.map_congr_left fun room hroom => ?_).trans (List.map_id _)
  obtain ⟨-, hkind⟩ := List.mem_filter.1 hroom
  rw [Function.comp_apply, ← of_decide_eq_true hkind]
  rfl

/-- Rooms in order are in the order of their kinds. -/
lemma flatMap_filter_kind {rooms : List Room} (h : rooms.Pairwise Room.Before) :
    (RoomKind.all.flatMap fun kind => rooms.filter (·.kind = kind)) = rooms := by
  induction rooms with
  | nil => rfl
  | cons room rooms ih =>
    obtain ⟨hfirst, hrest⟩ := List.pairwise_cons.1 h
    -- no room behind the first is of an earlier kind
    have hnone (kind : RoomKind) (hlt : kind.rank < room.kind.rank) :
        rooms.filter (·.kind = kind) = [] := by
      refine List.filter_eq_nil_iff.2 fun r hr hkind => ?_
      rw [← of_decide_eq_true hkind] at hlt
      rcases hfirst r hr with h | h <;> omega
    have hrooms := ih hrest
    simp only [RoomKind.all, List.flatMap_cons, List.flatMap_nil, List.filter_cons] at hrooms ⊢
    cases hkind : room.kind with
    | timeline => simpa using hrooms
    | post =>
      rw [hnone .timeline (by rw [hkind]; decide)] at hrooms ⊢
      simpa using hrooms
    | user =>
      rw [hnone .timeline (by rw [hkind]; decide), hnone .post (by rw [hkind]; decide)] at hrooms ⊢
      simpa using hrooms
    | global =>
      rw [hnone .timeline (by rw [hkind]; decide), hnone .post (by rw [hkind]; decide),
        hnone .user (by rw [hkind]; decide)] at hrooms ⊢
      simpa using hrooms

/-- The lists of ids of the rooms. -/
def RoomLists.ofRooms (rooms : List Room) : RoomLists where
  timeline := idsOfKind .timeline rooms
  post := idsOfKind .post rooms
  user := idsOfKind .user rooms
  global := idsOfKind .global rooms

lemma RoomLists.ids_ofRooms (rooms : List Room) (kind : RoomKind) :
    (ofRooms rooms).ids kind = idsOfKind kind rooms := by
  cases kind <;> rfl

lemma RoomLists.rooms_ofRooms {rooms : List Room} (h : rooms.Pairwise Room.Before) :
    (ofRooms rooms).rooms = rooms := by
  simp only [RoomLists.rooms, ids_ofRooms, map_idsOfKind]
  exact flatMap_filter_kind h

/-! ### Listings -/

namespace RoomSet

/-- What is listed for a kind: its ids, if there are any. -/
def listed? (s : RoomSet) (kind : RoomKind) : Option Value :=
  match idsOfKind kind s.toList with
  | [] => none
  | ids => some (.ofStrings ids)

lemma listing_eq (s : RoomSet) : s.listing =
    .object (RoomKind.byName.filterMap fun kind => (s.listed? kind).map (kind.text, ·)) := by
  refine congrArg (fun f => Value.object (RoomKind.byName.filterMap f)) (funext fun kind => ?_)
  simp only [listed?]
  cases idsOfKind kind s.toList <;> rfl

lemma lookup_filterMap (f : RoomKind → Option Value) (kind : RoomKind) (kinds : List RoomKind) :
    (kinds.filterMap fun k => (f k).map (k.text, ·)).lookup kind.text =
      if kind ∈ kinds then f kind else none := by
  induction kinds with
  | nil => rfl
  | cons k kinds ih =>
    rw [List.filterMap_cons]
    cases hk : f k with
    | none =>
      rw [Option.map_none, ih]
      by_cases heq : kind = k
      · rw [heq, hk, ite_self, ite_self]
      · simp only [List.mem_cons, heq, false_or]
    | some v =>
      rw [Option.map_some, lookup_member, ih]
      by_cases heq : kind = k
      · rw [if_pos (congrArg RoomKind.text heq), heq, hk, if_pos (List.mem_cons_self ..)]
      · rw [if_neg fun h => heq (RoomKind.text_injective h)]
        simp only [List.mem_cons, heq, false_or]

lemma given?_listing (s : RoomSet) (kind : RoomKind) :
    Room.given? kind s.listing = s.listed? kind := by
  have hmem : kind ∈ RoomKind.byName := by cases kind <;> decide
  rw [listing_eq, Room.given?, lookup_filterMap, if_pos hmem]

/-- What is listed is the ids of a kind. -/
lemma exists_ids_of_mem {s : RoomSet} {m : String × Value}
    (h : m ∈ RoomKind.byName.filterMap fun kind => (s.listed? kind).map (kind.text, ·)) :
    ∃ (kind : RoomKind) (ids : List String), m = (kind.text, .ofStrings ids) := by
  obtain ⟨kind, -, hkind⟩ := List.mem_filterMap.1 h
  obtain ⟨v, hv, rfl⟩ := Option.map_eq_some_iff.1 hkind
  unfold listed? at hv
  split at hv
  · cases hv
  · cases hv
    exact ⟨kind, _, rfl⟩

/-- The names of the kinds are in order in a listing. -/
lemma sorted_listed (s : RoomSet) :
    SortedMembers (RoomKind.byName.filterMap fun kind => (s.listed? kind).map (kind.text, ·)) := by
  refine List.Pairwise.filterMap _ (R := fun k k' => k.text < k'.text) ?_ (by decide)
  intro k k' hlt m hm m' hm'
  obtain ⟨v, -, rfl⟩ := Option.map_eq_some_iff.1 hm
  obtain ⟨v', -, rfl⟩ := Option.map_eq_some_iff.1 hm'
  exact hlt

lemma plain_listing (s : RoomSet) (depth : Nat) : s.listing.Plain (depth + 2) := by
  rw [listing_eq]
  refine .object s.sorted_listed fun m hm => ?_
  obtain ⟨kind, ids, rfl⟩ := exists_ids_of_mem hm
  exact plain_ofStrings depth ids

lemma shaped_listing (s : RoomSet) : Room.Shaped s.listing (.ofRooms s.toList) where
  fits := by
    rw [listing_eq]
    intro m hm
    obtain ⟨kind, ids, rfl⟩ := exists_ids_of_mem hm
    exact ⟨kind, rfl⟩
  given := by
    intro kind v hv
    rw [given?_listing, listed?] at hv
    rw [RoomLists.ids_ofRooms]
    split at hv
    · cases hv
    · cases hv
      rfl
  absent := by
    intro kind hkind
    rw [given?_listing, listed?] at hkind
    rw [RoomLists.ids_ofRooms]
    split at hkind
    · next hids => exact hids
    · cases hkind

/-- The listing of rooms that a command may name gives these rooms, in order. -/
theorem ofValue_listing {s : RoomSet} (h : ∀ room ∈ s, room.IsValid) :
    Room.ofValue s.listing = .ok s.toList := by
  have hrooms := RoomLists.rooms_ofRooms s.sorted
  refine (Room.ofValue_eq_ok_iff (s.plain_listing 0).ordered).2 ⟨_, s.shaped_listing, ?_, hrooms.symm⟩
  rw [hrooms]
  exact h

end RoomSet

end EventGateway
