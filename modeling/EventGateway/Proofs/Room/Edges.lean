import EventGateway.Room.Table
import Mathlib.Data.Finset.Card
import Mathlib.Tactic.Lemma

/-!
# The table of rooms as a set of edges

A table of rooms stands for a set of edges, each between a room and a connection that is in it: who is in
a room, which rooms there are and what each change tells can be read off the set. Main statement:
`table_refines_edges`.
-/

namespace EventGateway

/-- A room and a connection that is in it. -/
abbrev Edge := Room × String

/-- What may be done to a table of rooms. -/
inductive TableChange where
  | insert (room : Room) (id : String)
  | remove (room : Room) (id : String)
  | removeAll (rooms : List Room) (id : String)
  deriving DecidableEq, Repr, Inhabited

/-- What the change does to a set of edges. -/
def TableChange.onEdges (edges : Finset Edge) : TableChange → Finset Edge
  | .insert room id => Insert.insert (room, id) edges
  | .remove room id => edges.erase (room, id)
  | .removeAll rooms id => edges \ (rooms.map fun room => (room, id)).toFinset

/-- The edges that there are after changes, when there were none before. -/
def edgesAfter (changes : List TableChange) : Finset Edge := changes.foldl TableChange.onEdges ∅

namespace RoomTable

variable {t : RoomTable} {edges : Finset Edge}

def change (t : RoomTable) : TableChange → RoomTable
  | .insert room id => (t.tryInsert room id).1
  | .remove room id => (t.tryRemove room id).1
  | .removeAll rooms id => t.removeAll rooms id

/-- The table after changes, when it was empty before. -/
def changeAll (changes : List TableChange) : RoomTable := changes.foldl change default

/-- The table stands for the set of edges. -/
def Refines (t : RoomTable) (edges : Finset Edge) : Prop :=
  ∀ room id, id ∈ t.membersOf room ↔ (room, id) ∈ edges

/-! ### Changes -/

lemma refines_empty : (default : RoomTable).Refines ∅ := by
  intro room id
  simp

lemma Refines.change (h : t.Refines edges) (c : TableChange) :
    (t.change c).Refines (c.onEdges edges) := by
  intro room id
  cases c with
  | insert r i =>
    simp only [RoomTable.change, tryInsert, TableChange.onEdges]
    rw [mem_membersOf_insert, h room id, Finset.mem_insert, Prod.mk.injEq]
  | remove r i =>
    simp only [RoomTable.change, tryRemove, TableChange.onEdges]
    rw [mem_membersOf_remove, h room id, Finset.mem_erase, ne_eq, Prod.mk.injEq, and_comm]
  | removeAll rooms i =>
    simp only [RoomTable.change, TableChange.onEdges]
    rw [mem_membersOf_removeAll, h room id, Finset.mem_sdiff, List.mem_toFinset, List.mem_map]
    simp [eq_comm]

lemma refines_changeAll (changes : List TableChange) :
    (changeAll changes).Refines (edgesAfter changes) := by
  have hrun (t : RoomTable) (edges : Finset Edge) (h : t.Refines edges) :
      (changes.foldl RoomTable.change t).Refines (changes.foldl TableChange.onEdges edges) := by
    induction changes generalizing t edges with
    | nil => exact h
    | cons c rest ih => exact ih _ _ (h.change c)
  exact hrun default ∅ refines_empty

/-! ### Questions -/

lemma Refines.contains_iff (h : t.Refines edges) (room : Room) (id : String) :
    t.contains room id = true ↔ (room, id) ∈ edges := by
  rw [contains, List.contains_iff_mem, h room id]

/-- The rooms that have an entry are those that occur in an edge, since no entry is empty. -/
lemma Refines.toFinset_keys (h : t.Refines edges) :
    t.members.keys.toFinset = edges.image Prod.fst := by
  ext room
  simp [mem_keys_members_iff, h room]

lemma Refines.size_eq_card (h : t.Refines edges) : t.size = (edges.image Prod.fst).card := by
  rw [← h.toFinset_keys, List.toFinset_card_of_nodup t.members.nodup_keys, size, Dictionary.size,
    Dictionary.keys, List.length_map]

lemma Refines.isEmpty_iff (h : t.Refines edges) : t.isEmpty = true ↔ edges = ∅ := by
  rw [isEmpty, List.isEmpty_iff_length_eq_zero]
  change t.size = 0 ↔ _
  rw [h.size_eq_card, Finset.card_eq_zero, Finset.image_eq_empty]

/-! ### Entries -/

/-- Drops the entry of the room if nobody is left in it. -/
def prune (members : Dictionary Room (List String)) (room : Room) : Dictionary Room (List String) :=
  if members.get? room = some [] then members.erase room else members

lemma get?_members_setMembers (t : RoomTable) (room r : Room) (ids : List String) (h : ids.Nodup) :
    (t.setMembers room ids h).members.get? r =
      if r = room then (if ids = [] then none else some ids) else t.members.get? r := by
  unfold setMembers
  split <;> simp_all

lemma get?_prune (members : Dictionary Room (List String)) (room r : Room) :
    (prune members room).get? r =
      if r = room ∧ members.get? room = some [] then none else members.get? r := by
  unfold prune
  split <;> simp_all

/-- Removal comes to two operations on the entries: the connection is taken out of the entry of the room,
if there is one, and then the entry is dropped if nobody is left in it. -/
lemma get?_members_remove (t : RoomTable) (room r : Room) (id : String) :
    (t.remove room id).members.get? r =
      (prune (t.members.modify room (·.filter (· ≠ id))) room).get? r := by
  rw [remove, get?_members_setMembers, get?_prune, Dictionary.get?_modify, Dictionary.get?_modify,
    if_pos rfl, membersOf]
  by_cases hr : r = room
  · subst hr
    cases t.members.get? r <;> simp
  · simp [hr]

/-! ### The main statement -/

/-- After any changes a table has in each room those that an edge connects with it, each once. Putting
somebody into a room tells whether the edge is new, and taking somebody out whether it was there. The rooms
of the table are those that occur in an edge, although removal first empties an entry and then drops it. -/
theorem table_refines_edges (changes : List TableChange) :
    let t := changeAll changes
    let edges := edgesAfter changes
    (∀ room, (t.membersOf room).Nodup ∧ ∀ id, id ∈ t.membersOf room ↔ (room, id) ∈ edges) ∧
    (∀ room id, ((t.tryInsert room id).2 = true ↔ (room, id) ∉ edges) ∧
      ((t.tryRemove room id).2 = true ↔ (room, id) ∈ edges)) ∧
    t.size = (edges.image Prod.fst).card ∧
    (t.isEmpty = true ↔ edges = ∅) ∧
    ∀ room id r, (t.remove room id).members.get? r =
      (prune (t.members.modify room (·.filter (· ≠ id))) room).get? r := by
  intro t edges
  have h : t.Refines edges := refines_changeAll changes
  refine ⟨fun room => ⟨t.nodup_membersOf room, h room⟩, fun room id => ⟨?_, h.contains_iff room id⟩,
    h.size_eq_card, h.isEmpty_iff, fun room id r => t.get?_members_remove room r id⟩
  rw [tryInsert, Bool.not_eq_true', ← Bool.not_eq_true, h.contains_iff]

end RoomTable

end EventGateway
