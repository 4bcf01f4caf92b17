import EventGateway.Data.Dictionary
import EventGateway.Room.Basic

/-!
# Who is in which room

The members of every room that has any. A room without members has no entry, so the number of entries is
the number of rooms that somebody is in. Main statements: who is in a room after a connection has
joined or left one.
-/

namespace EventGateway

/-- The members of rooms, each once and in the order in which they joined. -/
structure RoomTable where
  members : Dictionary Room (List String) := ∅
  wellFormed : ∀ room ids, members.get? room = some ids → ids ≠ [] ∧ ids.Nodup := by
    intro _ _ h
    cases h

namespace RoomTable

instance : Inhabited RoomTable := ⟨{}⟩

def membersOf (t : RoomTable) (room : Room) : List String := (t.members.get? room).getD []

def contains (t : RoomTable) (room : Room) (id : String) : Bool := (t.membersOf room).contains id

/-- Gives a room its members; without members it has no entry. -/
def setMembers (t : RoomTable) (room : Room) (ids : List String) (h : ids.Nodup) : RoomTable :=
  if hn : ids = [] then
    { members := t.members.erase room
      wellFormed := fun r rs hr => by
        rw [Dictionary.get?_erase] at hr
        split at hr
        · cases hr
        · exact t.wellFormed r rs hr }
  else
    { members := t.members.insert room ids
      wellFormed := fun r rs hr => by
        rw [Dictionary.get?_insert] at hr
        split at hr
        · cases hr
          exact ⟨hn, h⟩
        · exact t.wellFormed r rs hr }

theorem nodup_membersOf (t : RoomTable) (room : Room) : (t.membersOf room).Nodup := by
  unfold membersOf
  cases h : t.members.get? room with
  | none => simp
  | some ids => exact (t.wellFormed room ids h).2

/-- Puts a connection into a room. -/
def insert (t : RoomTable) (room : Room) (id : String) : RoomTable :=
  if h : id ∈ t.membersOf room then t
  else
    t.setMembers room (t.membersOf room ++ [id]) <| by
      rw [List.nodup_append]
      refine ⟨t.nodup_membersOf room, by simp, ?_⟩
      intro a ha b hb hab
      rw [List.mem_singleton] at hb
      exact h (hb ▸ hab ▸ ha)

/-- Takes a connection out of a room, and the room out of the table if it was the last. -/
def remove (t : RoomTable) (room : Room) (id : String) : RoomTable :=
  t.setMembers room ((t.membersOf room).filter (· ≠ id))
    (List.Nodup.sublist List.filter_sublist (t.nodup_membersOf room))

/-- Takes a connection out of several rooms. -/
def removeAll (t : RoomTable) (rooms : List Room) (id : String) : RoomTable :=
  rooms.foldl (fun t room => t.remove room id) t

/-- Puts a connection into a room, and tells whether it was not there before. -/
def tryInsert (t : RoomTable) (room : Room) (id : String) : RoomTable × Bool :=
  (t.insert room id, !t.contains room id)

/-- Takes a connection out of a room, and tells whether it was there before. -/
def tryRemove (t : RoomTable) (room : Room) (id : String) : RoomTable × Bool :=
  (t.remove room id, t.contains room id)

/-- The number of rooms that somebody is in. -/
def size (t : RoomTable) : Nat := t.members.size

def isEmpty (t : RoomTable) : Bool := t.members.entries.isEmpty

/-! ### Members afterwards -/

@[simp] theorem membersOf_default (room : Room) : (default : RoomTable).membersOf room = [] := rfl

theorem membersOf_setMembers (t : RoomTable) (room r : Room) (ids : List String) (h : ids.Nodup) :
    (t.setMembers room ids h).membersOf r = if r = room then ids else t.membersOf r := by
  unfold setMembers membersOf
  split
  · next hn =>
    rw [Dictionary.get?_erase]
    split <;> simp [hn]
  · rw [Dictionary.get?_insert]
    split <;> rfl

theorem mem_membersOf_insert {t : RoomTable} {room r : Room} {id i : String} :
    i ∈ (t.insert room id).membersOf r ↔ (r = room ∧ i = id) ∨ i ∈ t.membersOf r := by
  unfold insert
  split
  · next h =>
    constructor
    · exact .inr
    · rintro (⟨rfl, rfl⟩ | hi)
      · exact h
      · exact hi
  · rw [membersOf_setMembers]
    split
    · next hr =>
      subst hr
      simp [or_comm]
    · next hr => simp [hr]

theorem mem_membersOf_remove {t : RoomTable} {room r : Room} {id i : String} :
    i ∈ (t.remove room id).membersOf r ↔ i ∈ t.membersOf r ∧ ¬ (r = room ∧ i = id) := by
  rw [remove, membersOf_setMembers]
  split
  · next hr =>
    subst hr
    simp
  · next hr => simp [hr]

theorem mem_membersOf_removeAll {t : RoomTable} {rooms : List Room} {r : Room} {id i : String} :
    i ∈ (t.removeAll rooms id).membersOf r ↔ i ∈ t.membersOf r ∧ ¬ (r ∈ rooms ∧ i = id) := by
  simp only [removeAll]
  induction rooms generalizing t with
  | nil => simp
  | cons room rest ih =>
    rw [List.foldl_cons, ih, mem_membersOf_remove, List.mem_cons]
    grind

/-- A room has an entry as long as it has a member. -/
theorem mem_keys_members_iff {t : RoomTable} {room : Room} :
    room ∈ t.members.keys ↔ ∃ id, id ∈ t.membersOf room := by
  rw [Dictionary.mem_keys_iff]
  unfold membersOf
  constructor
  · rintro ⟨ids, h⟩
    obtain ⟨id, hid⟩ := List.exists_mem_of_ne_nil ids (t.wellFormed room ids h).1
    exact ⟨id, by simpa [h] using hid⟩
  · rintro ⟨id, hid⟩
    cases h : t.members.get? room with
    | none => simp [h] at hid
    | some ids => exact ⟨ids, rfl⟩

end RoomTable

end EventGateway
