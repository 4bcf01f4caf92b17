import EventGateway.Json.Value

/-!
# Rooms

A room is what a connection subscribes to: the timeline of a feed, a post, a user's private room or
the one global room. Rooms are ordered by kind and then by id, and a set of rooms is kept in that
order.
-/

namespace EventGateway

/-- The kinds of rooms, in their order. -/
inductive RoomKind where
  | timeline
  | post
  | user
  | global
  deriving DecidableEq, Repr, Inhabited

namespace RoomKind

def text : RoomKind → String
  | .timeline => "timeline"
  | .post => "post"
  | .user => "user"
  | .global => "global"

/-- The place of the kind in the order. -/
def rank : RoomKind → Nat
  | .timeline => 0
  | .post => 1
  | .user => 2
  | .global => 3

/-- All kinds, in their order. -/
def all : List RoomKind := [.timeline, .post, .user, .global]

/-- The kind of a written name. -/
def ofText? (s : String) : Option RoomKind :=
  all.find? (·.text == s)

theorem rank_injective {a b : RoomKind} (h : a.rank = b.rank) : a = b := by
  cases a <;> cases b <;> simp_all [rank]

end RoomKind

/-- A room. -/
structure Room where
  kind : RoomKind
  id : String
  deriving DecidableEq, Repr, Inhabited

namespace Room

def globalUsersId : String := "users"

def globalUsers : Room := ⟨.global, globalUsersId⟩

def text (room : Room) : String := room.kind.text ++ ":" ++ room.id

/-- The order of rooms: by kind, then by id. -/
def Before (a b : Room) : Prop :=
  a.kind.rank < b.kind.rank ∨ (a.kind.rank = b.kind.rank ∧ a.id < b.id)

instance (a b : Room) : Decidable (a.Before b) := by
  unfold Before; infer_instance

theorem Before.trans {a b c : Room} (hab : a.Before b) (hbc : b.Before c) : a.Before c := by
  unfold Before at *
  rcases hab with h | ⟨h, hid⟩ <;> rcases hbc with h' | ⟨h', hid'⟩
  · exact .inl (by omega)
  · exact .inl (by omega)
  · exact .inl (by omega)
  · exact .inr ⟨by omega, String.lt_trans hid hid'⟩

theorem Before.irrefl (a : Room) : ¬ a.Before a := by
  rintro (h | ⟨_, h⟩)
  · omega
  · exact String.lt_irrefl _ h

/-- Of two different rooms one comes before the other. -/
theorem before_or_before_of_ne {a b : Room} (h : a ≠ b) : a.Before b ∨ b.Before a := by
  unfold Before
  by_cases hk : a.kind.rank = b.kind.rank
  · by_cases hid : a.id < b.id
    · exact .inl (.inr ⟨hk, hid⟩)
    · by_cases hid' : b.id < a.id
      · exact .inr (.inr ⟨hk.symm, hid'⟩)
      · have hkind := RoomKind.rank_injective hk
        have hids := String.le_antisymm (String.not_lt.1 hid') (String.not_lt.1 hid)
        cases a
        cases b
        exact absurd (by simp_all) h
  · rcases Nat.lt_or_gt_of_ne hk with h | h
    · exact .inl (.inl h)
    · exact .inr (.inl h)

end Room

/-! ### Sets of rooms -/

/-- Puts a room into its place among rooms in order. -/
def insertRoom (room : Room) : List Room → List Room
  | [] => [room]
  | r :: rest =>
    if room.Before r then room :: r :: rest
    else if room = r then r :: rest
    else r :: insertRoom room rest

theorem mem_insertRoom {room r : Room} {rooms : List Room} :
    r ∈ insertRoom room rooms ↔ r = room ∨ r ∈ rooms := by
  induction rooms with
  | nil => simp [insertRoom]
  | cons s rest ih =>
    simp only [insertRoom]
    split
    · simp
    · split
      · next h => subst h; simp
      · simp [ih]; grind

theorem pairwise_insertRoom {room : Room} {rooms : List Room}
    (h : rooms.Pairwise Room.Before) : (insertRoom room rooms).Pairwise Room.Before := by
  induction rooms with
  | nil => simp [insertRoom]
  | cons s rest ih =>
    have hs := List.pairwise_cons.1 h |>.1
    have hrest := ih h.of_cons
    simp only [insertRoom]
    split
    · next hb =>
      refine List.Pairwise.cons ?_ h
      intro r hr
      rcases List.mem_cons.1 hr with rfl | hr
      · exact hb
      · exact hb.trans (hs _ hr)
    · next hb =>
      split
      · exact h
      · next hne =>
        refine List.Pairwise.cons ?_ hrest
        intro r hr
        rcases mem_insertRoom.1 hr with rfl | hr
        · exact (Room.before_or_before_of_ne hne).resolve_left hb
        · exact hs _ hr

/-- A set of rooms, listed in order. -/
structure RoomSet where
  toList : List Room
  sorted : toList.Pairwise Room.Before
  deriving DecidableEq

namespace RoomSet

instance : EmptyCollection RoomSet := ⟨⟨[], .nil⟩⟩

instance : Inhabited RoomSet := ⟨∅⟩

instance : Membership Room RoomSet := ⟨fun s r => r ∈ s.toList⟩

instance (r : Room) (s : RoomSet) : Decidable (r ∈ s) :=
  inferInstanceAs (Decidable (r ∈ s.toList))

def insert (room : Room) (s : RoomSet) : RoomSet :=
  ⟨insertRoom room s.toList, pairwise_insertRoom s.sorted⟩

def erase (room : Room) (s : RoomSet) : RoomSet :=
  ⟨s.toList.filter (· ≠ room), s.sorted.filter _⟩

def ofList (rooms : List Room) : RoomSet :=
  rooms.foldl (fun s r => s.insert r) ∅

@[simp] theorem mem_toList {r : Room} {s : RoomSet} : r ∈ s.toList ↔ r ∈ s := Iff.rfl

@[simp] theorem not_mem_empty (r : Room) : r ∉ (∅ : RoomSet) := List.not_mem_nil

@[simp] theorem mem_insert {r room : Room} {s : RoomSet} :
    r ∈ s.insert room ↔ r = room ∨ r ∈ s := mem_insertRoom

@[simp] theorem mem_erase {r room : Room} {s : RoomSet} :
    r ∈ s.erase room ↔ r ∈ s ∧ r ≠ room := by
  simp [← mem_toList, erase]

end RoomSet

end EventGateway
