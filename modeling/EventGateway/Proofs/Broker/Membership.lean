import EventGateway.Broker.Dispatch
import EventGateway.Proofs.Session.LineTasks
import Mathlib.Logic.Relation
import Mathlib.Tactic.Lemma
import Mathlib.Tactic.Tauto

/-!
# Who is in a room, kept twice

The table of rooms says the same as the connections, and the registry lists the connections that are
open, each once. This holds of a broker without connections and is preserved by everything that the
service does to a broker.
-/

namespace EventGateway

namespace Broker

/-- Is the connection in the room, as it says itself? -/
def Holds (b : Broker) (id : ConnectionId) (room : Room) : Prop :=
  ∃ c, b.connection? id = some c ∧ room ∈ c.rooms

/-- Is there a connection of the name that is open? -/
def HasOpen (b : Broker) (id : ConnectionId) : Prop :=
  ∃ c, b.connection? id = some c ∧ c.closed = false

/-! ### One connection changes -/

/-- The connections of the one broker are those of the other, but for a change of one of them. -/
def Alters (b b' : Broker) (id : ConnectionId) (f : Connection → Connection) : Prop :=
  ∀ i, b'.connection? i = if i = id then (b.connection? i).map f else b.connection? i

section

variable {b b' : Broker} {id : ConnectionId} {f : Connection → Connection}

lemma Alters.holds_iff (h : b.Alters b' id f) (i : ConnectionId) (room : Room) :
    b'.Holds i room ↔
      if i = id then ∃ c, b.connection? i = some c ∧ room ∈ (f c).rooms else b.Holds i room := by
  simp only [Holds]
  rw [h i]
  split <;> simp

lemma Alters.hasOpen_iff (h : b.Alters b' id f) (i : ConnectionId) :
    b'.HasOpen i ↔
      if i = id then ∃ c, b.connection? i = some c ∧ (f c).closed = false else b.HasOpen i := by
  simp only [HasOpen]
  rw [h i]
  split <;> simp

/-- What holds of all connections holds afterwards if it holds of the one that changed. -/
lemma Alters.forall_connection (h : b.Alters b' id f) {P : Connection → Prop}
    (hb : ∀ i c, b.connection? i = some c → P c)
    (hf : ∀ c, b.connection? id = some c → P (f c)) (i : ConnectionId) (c : Connection)
    (hc : b'.connection? i = some c) : P c := by
  rw [h i] at hc
  split at hc
  · next hi =>
    obtain ⟨c', hc', rfl⟩ := Option.map_eq_some_iff.1 hc
    exact hf c' (hi ▸ hc')
  · exact hb i c hc

lemma alters_modify (b : Broker) (id : ConnectionId) (f : Connection → Connection) :
    b.Alters (b.modify id f) id f :=
  fun i => Dictionary.get?_modify b.connections id i f

/-- A change that comes to nothing on the connection that there is comes to nothing. -/
lemma alters_self (h : ∀ c, b.connection? id = some c → f c = c) : b.Alters b id f := by
  intro i
  split
  · next hi =>
    subst hi
    cases hc : b.connection? i with
    | none => rfl
    | some c => rw [Option.map_some, h c hc]
  · rfl

/-- Only what becomes of the connection that there is matters. -/
lemma Alters.congr (h : b.Alters b' id f) {g : Connection → Connection}
    (hg : ∀ c, b.connection? id = some c → g c = f c) : b.Alters b' id g := by
  intro i
  rw [h i]
  split
  · next hi =>
    subst hi
    cases hc : b.connection? i with
    | none => rfl
    | some c => rw [Option.map_some, Option.map_some, hg c hc]
  · rfl

lemma alters_join (b : Broker) (id : ConnectionId) (room : Room) :
    b.Alters (b.join id room) id fun c => c.join room := by
  simp only [join]
  split
  · next h => exact alters_self (by simp [h])
  · next c h =>
    split
    · next hr => exact alters_self (by simp [h, Connection.join, hr])
    · next hr => exact (alters_modify b id _).congr (by simp [h, Connection.join, hr])

lemma alters_leave (b : Broker) (id : ConnectionId) (room : Room) :
    b.Alters (b.leave id room) id fun c => c.leave room := by
  simp only [leave]
  split
  · next h => exact alters_self (by simp [h])
  · next c h =>
    split
    · next hr => exact (alters_modify b id _).congr (by simp [h, Connection.leave, hr])
    · next hr => exact alters_self (by simp [h, Connection.leave, hr])

lemma alters_disconnect (b : Broker) (id : ConnectionId) :
    b.Alters (b.disconnect id) id Connection.close := by
  simp only [disconnect]
  split
  · next h => exact alters_self (by simp [h])
  · exact alters_modify b id _

end

/-! ### What is done to a broker -/

/-- One of the things that the service does to a broker. -/
inductive Step : Broker → Broker → Prop
  /-- A connection that has just been made is added and registered. -/
  | connect {b : Broker} {c : Connection} : b.connection? c.id = none → c.closed = false →
    c.rooms = ∅ → Step b ((b.add c).register c.id)
  /-- A connection changes in something that does not concern the rooms. -/
  | modify {b : Broker} (id : ConnectionId) {f : Connection → Connection} :
    (∀ c, b.connection? id = some c → (f c).rooms = c.rooms ∧ (f c).closed = c.closed) →
    Step b (b.modify id f)
  /-- A connection that is open joins a room. -/
  | join {b : Broker} {id : ConnectionId} {c : Connection} (room : Room) :
    b.connection? id = some c → c.closed = false → Step b (b.join id room)
  | leave (b : Broker) (id : ConnectionId) (room : Room) : Step b (b.leave id room)
  | disconnect (b : Broker) (id : ConnectionId) : Step b (b.disconnect id)
  | reorder (b : Broker) (order : List ConnectionId) : Step b (b.reorder order)

/-- What the service does to a broker in several steps. -/
abbrev Leads : Broker → Broker → Prop := Relation.ReflTransGen Step

/-! ### The index of rooms -/

/-- The table says the same as the connections, nobody is registered twice and who is closed is in no
room. -/
structure Indexed (b : Broker) : Prop where
  members : ∀ room id, id ∈ b.table.membersOf room ↔ b.Holds id room
  nodup : b.registry.Nodup
  closed : ∀ id c, b.connection? id = some c → c.closed = true → c.rooms = ∅

lemma indexed_empty : ({} : Broker).Indexed where
  members := by simp [Holds, connection?]
  nodup := .nil
  closed := by simp [connection?]

lemma connection?_add (b : Broker) (c : Connection) (i : ConnectionId) :
    (b.add c).connection? i = if i = c.id then some c else b.connection? i :=
  Dictionary.get?_insert b.connections c.id i c

lemma mem_registry_register {b : Broker} {id i : ConnectionId} :
    i ∈ (b.register id).registry ↔ i ∈ b.registry ∨ i = id := by
  simp only [register, List.contains_iff_mem]
  split
  · next h =>
    refine ⟨.inl, ?_⟩
    rintro (hi | rfl)
    · exact hi
    · exact h
  · simp

@[simp] lemma connection?_reorder (b : Broker) (order : List ConnectionId) (i : ConnectionId) :
    (b.reorder order).connection? i = b.connection? i := by
  simp only [reorder]
  split <;> rfl

@[simp] lemma table_reorder (b : Broker) (order : List ConnectionId) :
    (b.reorder order).table = b.table := by
  simp only [reorder]
  split <;> rfl

lemma perm_registry_reorder (b : Broker) (order : List ConnectionId) :
    (b.reorder order).registry.Perm b.registry := by
  simp only [reorder]
  split
  · next hperm => exact List.isPerm_iff.1 hperm
  · exact .refl _

lemma registry_join (b : Broker) (id : ConnectionId) (room : Room) :
    (b.join id room).registry = b.registry := by
  simp only [join]
  split
  · rfl
  · split <;> rfl

lemma registry_leave (b : Broker) (id : ConnectionId) (room : Room) :
    (b.leave id room).registry = b.registry := by
  simp only [leave]
  split
  · rfl
  · split <;> rfl

lemma mem_registry_disconnect {b : Broker} {id i : ConnectionId}
    (h : id ∈ b.registry → ∃ c, b.connection? id = some c) :
    i ∈ (b.disconnect id).registry ↔ i ∈ b.registry ∧ i ≠ id := by
  simp only [disconnect]
  split
  · next hc =>
    refine ⟨fun hi => ⟨hi, ?_⟩, And.left⟩
    rintro rfl
    obtain ⟨c, hc'⟩ := h hi
    simp [hc] at hc'
  · simp

namespace Indexed

variable {b : Broker}

lemma add (hb : b.Indexed) {c : Connection} (hnew : b.connection? c.id = none)
    (hrooms : c.rooms = ∅) : (b.add c).Indexed where
  members room id := by
    apply (hb.members room id).trans
    simp only [Holds]
    rw [connection?_add]
    split
    · next h => simp [h, hnew, hrooms]
    · rfl
  nodup := hb.nodup
  closed id c' := by
    rw [connection?_add]
    split
    · rintro h -
      cases h
      exact hrooms
    · exact hb.closed id c'

lemma register (hb : b.Indexed) (id : ConnectionId) : (b.register id).Indexed where
  members := hb.members
  nodup := by
    simp only [Broker.register, List.contains_iff_mem]
    split
    · exact hb.nodup
    · next h =>
      rw [List.nodup_append]
      refine ⟨hb.nodup, by simp, ?_⟩
      rintro a ha d hd rfl
      exact h (List.mem_singleton.1 hd ▸ ha)
  closed := hb.closed

/-- A change that does not concern the rooms. -/
lemma modify (hb : b.Indexed) (id : ConnectionId) {f : Connection → Connection}
    (hf : ∀ c, b.connection? id = some c → (f c).rooms = c.rooms ∧ (f c).closed = c.closed) :
    (b.modify id f).Indexed := by
  have h := alters_modify b id f
  refine ⟨?_, hb.nodup, ?_⟩
  · intro room i
    rw [h.holds_iff]
    apply (hb.members room i).trans
    split
    · next hi =>
      subst hi
      exact exists_congr fun c => and_congr_right fun hc => by rw [(hf c hc).1]
    · rfl
  · refine h.forall_connection hb.closed fun c hc => ?_
    rw [(hf c hc).1, (hf c hc).2]
    exact hb.closed id c hc

lemma join (hb : b.Indexed) {id : ConnectionId} {c : Connection} (room : Room)
    (hc : b.connection? id = some c) (hopen : c.closed = false) : (b.join id room).Indexed := by
  have h := alters_join b id room
  have htable (r : Room) (i : ConnectionId) : i ∈ (b.join id room).table.membersOf r ↔
      (r = room ∧ i = id) ∨ i ∈ b.table.membersOf r := by
    simp only [Broker.join]
    simp only [hc]
    split
    · next hr =>
      refine ⟨.inr, fun hi => hi.elim ?_ fun hi => hi⟩
      rintro ⟨rfl, rfl⟩
      exact (hb.members _ _).2 ⟨c, hc, hr⟩
    · exact RoomTable.mem_membersOf_insert
  refine ⟨?_, registry_join b id room ▸ hb.nodup, ?_⟩
  · intro r i
    rw [htable, h.holds_iff, hb.members]
    split
    · next hi =>
      subst hi
      simp only [Holds, Connection.join]
      by_cases hr : room ∈ c.rooms <;> simp [hc, hr]
      rintro rfl
      exact hr
    · next hi => simp [hi]
  · refine h.forall_connection hb.closed fun c' hc' hcl => ?_
    rw [hc, Option.some.injEq] at hc'
    subst hc'
    simp [Connection.closed_join, hopen] at hcl

lemma leave (hb : b.Indexed) (id : ConnectionId) (room : Room) : (b.leave id room).Indexed := by
  have h := alters_leave b id room
  have hrooms (c : Connection) (r : Room) : r ∈ (c.leave room).rooms ↔ r ∈ c.rooms ∧ r ≠ room := by
    simp only [Connection.leave]
    split
    · exact RoomSet.mem_erase
    · next hr =>
      refine ⟨fun hc => ⟨hc, ?_⟩, And.left⟩
      rintro rfl
      exact hr hc
  have htable (r : Room) (i : ConnectionId) : i ∈ (b.leave id room).table.membersOf r ↔
      i ∈ b.table.membersOf r ∧ ¬ (r = room ∧ i = id) := by
    have hnot (hn : ¬ b.Holds id room) : i ∈ b.table.membersOf r ↔
        i ∈ b.table.membersOf r ∧ ¬ (r = room ∧ i = id) := by
      refine ⟨fun hi => ⟨hi, ?_⟩, And.left⟩
      rintro ⟨rfl, rfl⟩
      exact hn ((hb.members _ _).1 hi)
    simp only [Broker.leave]
    split
    · next hc => exact hnot (by simp [Holds, hc])
    · next c hc =>
      split
      · exact RoomTable.mem_membersOf_remove
      · next hr => exact hnot (by simp [Holds, hc, hr])
  refine ⟨?_, registry_leave b id room ▸ hb.nodup, ?_⟩
  · intro r i
    rw [htable, h.holds_iff, hb.members]
    simp only [hrooms]
    split
    · next hi =>
      subst hi
      simp only [Holds]
      tauto
    · next hi => simp [hi]
  · refine h.forall_connection hb.closed fun c hc hcl => ?_
    have hempty := hb.closed id c hc (Connection.closed_leave c room ▸ hcl)
    simp only [Connection.leave]
    rw [if_neg (by rw [hempty]; exact RoomSet.not_mem_empty room)]
    exact hempty

lemma reorder (hb : b.Indexed) (order : List ConnectionId) : (b.reorder order).Indexed where
  members room i := by
    simp only [table_reorder, Holds, connection?_reorder]
    exact hb.members room i
  nodup := (perm_registry_reorder b order).nodup_iff.2 hb.nodup
  closed i c := by
    rw [connection?_reorder]
    exact hb.closed i c

lemma disconnect (hb : b.Indexed) (id : ConnectionId) : (b.disconnect id).Indexed := by
  have h := alters_disconnect b id
  cases hc : b.connection? id with
  | none =>
    have : b.disconnect id = b := by simp [Broker.disconnect, hc]
    rw [this]
    exact hb
  | some c =>
    have hd : b.disconnect id =
        { connections := b.connections.modify id Connection.close
          registry := b.registry.filter (· ≠ id)
          table := b.table.removeAll c.rooms.toList id } := by simp [Broker.disconnect, hc]
    refine ⟨?_, ?_, ?_⟩
    · intro r i
      rw [h.holds_iff, hd, RoomTable.mem_membersOf_removeAll, hb.members]
      split
      · next hi => simp [hi, Holds, hc, Connection.close]
      · next hi => simp [hi]
    · rw [hd]
      exact hb.nodup.filter _
    · exact h.forall_connection hb.closed fun _ _ _ => rfl

lemma step (hb : b.Indexed) {b' : Broker} (h : Step b b') : b'.Indexed := by
  cases h with
  | connect hnew _ hrooms => exact (hb.add hnew hrooms).register _
  | modify id hf => exact hb.modify id hf
  | join room hc hopen => exact hb.join room hc hopen
  | leave id room => exact hb.leave id room
  | disconnect id => exact hb.disconnect id
  | reorder order => exact hb.reorder order

lemma leads (hb : b.Indexed) {b' : Broker} (h : b.Leads b') : b'.Indexed := by
  induction h with
  | refl => exact hb
  | tail _ h ih => exact ih.step h

end Indexed

/-! ### The invariant -/

/-- The table and the registry say the same as the connections, and who is closed is in no room. -/
structure Consistent (b : Broker) : Prop where
  members : ∀ room id, id ∈ b.table.membersOf room ↔ b.Holds id room
  registered : ∀ id, id ∈ b.registry ↔ b.HasOpen id
  nodup : b.registry.Nodup
  closed : ∀ id c, b.connection? id = some c → c.closed = true → c.rooms = ∅

lemma Consistent.indexed {b : Broker} (h : b.Consistent) : b.Indexed :=
  ⟨h.members, h.nodup, h.closed⟩

lemma Indexed.consistent {b : Broker} (h : b.Indexed)
    (hr : ∀ id, id ∈ b.registry ↔ b.HasOpen id) : b.Consistent :=
  ⟨h.members, hr, h.nodup, h.closed⟩

lemma consistent_empty : ({} : Broker).Consistent :=
  indexed_empty.consistent (by simp [HasOpen, connection?])

namespace Consistent

variable {b : Broker}

lemma connect (hb : b.Consistent) {c : Connection} (hnew : b.connection? c.id = none)
    (hopen : c.closed = false) (hrooms : c.rooms = ∅) : ((b.add c).register c.id).Consistent := by
  apply ((hb.indexed.add hnew hrooms).register c.id).consistent
  intro id
  have hget : ((b.add c).register c.id).connection? id =
      if id = c.id then some c else b.connection? id := connection?_add b c id
  simp only [HasOpen]
  rw [mem_registry_register, hget, show (b.add c).registry = b.registry from rfl, hb.registered]
  simp only [HasOpen]
  split
  · next h => simp [h, hopen]
  · next h => simp [h]

/-- A change that does not concern the rooms. -/
lemma modify (hb : b.Consistent) (id : ConnectionId) {f : Connection → Connection}
    (hf : ∀ c, b.connection? id = some c → (f c).rooms = c.rooms ∧ (f c).closed = c.closed) :
    (b.modify id f).Consistent := by
  apply (hb.indexed.modify id hf).consistent
  intro i
  rw [(alters_modify b id f).hasOpen_iff]
  apply (hb.registered i).trans
  split
  · next hi =>
    subst hi
    exact exists_congr fun c => and_congr_right fun hc => by rw [(hf c hc).2]
  · rfl

lemma join (hb : b.Consistent) {id : ConnectionId} {c : Connection} (room : Room)
    (hc : b.connection? id = some c) (hopen : c.closed = false) : (b.join id room).Consistent := by
  apply (hb.indexed.join room hc hopen).consistent
  intro i
  rw [registry_join, (alters_join b id room).hasOpen_iff, hb.registered]
  simp only [Connection.closed_join]
  exact (ite_self (b.HasOpen i)).symm.to_iff

lemma leave (hb : b.Consistent) (id : ConnectionId) (room : Room) :
    (b.leave id room).Consistent := by
  apply (hb.indexed.leave id room).consistent
  intro i
  rw [registry_leave, (alters_leave b id room).hasOpen_iff, hb.registered]
  simp only [Connection.closed_leave]
  exact (ite_self (b.HasOpen i)).symm.to_iff

lemma disconnect (hb : b.Consistent) (id : ConnectionId) : (b.disconnect id).Consistent := by
  apply (hb.indexed.disconnect id).consistent
  intro i
  have hknown (h : id ∈ b.registry) : ∃ c, b.connection? id = some c := by
    obtain ⟨c, hc, -⟩ := (hb.registered id).1 h
    exact ⟨c, hc⟩
  rw [mem_registry_disconnect hknown, (alters_disconnect b id).hasOpen_iff, hb.registered]
  split
  · next hi => simp [hi, Connection.close]
  · next hi => simp [hi]

lemma reorder (hb : b.Consistent) (order : List ConnectionId) : (b.reorder order).Consistent := by
  apply (hb.indexed.reorder order).consistent
  intro i
  rw [(perm_registry_reorder b order).mem_iff, hb.registered]
  simp only [HasOpen, connection?_reorder]

/-- The invariant is preserved by whatever the service does to a broker. -/
lemma step (hb : b.Consistent) {b' : Broker} (h : Step b b') : b'.Consistent := by
  cases h with
  | connect hnew hopen hrooms => exact hb.connect hnew hopen hrooms
  | modify id hf => exact hb.modify id hf
  | join room hc hopen => exact hb.join room hc hopen
  | leave id room => exact hb.leave id room
  | disconnect id => exact hb.disconnect id
  | reorder order => exact hb.reorder order

lemma leads (hb : b.Consistent) {b' : Broker} (h : b.Leads b') : b'.Consistent := by
  induction h with
  | refl => exact hb
  | tail _ h ih => exact ih.step h

lemma mem_candidates_iff (hb : b.Consistent) {rooms : List Room} {id : ConnectionId} :
    id ∈ b.candidates rooms ↔ b.HasOpen id ∧ ∃ room ∈ rooms, b.Holds id room := by
  simp only [candidates, List.mem_filter, List.mem_eraseDups, List.mem_flatMap, hb.members,
    isRegistered, List.contains_iff_mem, hb.registered]
  exact and_comm

end Consistent

lemma nodup_eraseDups (ids : List ConnectionId) : ids.eraseDups.Nodup := by
  match ids with
  | [] => simp
  | id :: rest =>
    rw [List.eraseDups_cons, List.nodup_cons]
    exact ⟨by simp, nodup_eraseDups _⟩
termination_by ids.length
decreasing_by exact Nat.lt_succ_of_le (List.length_filter_le _ rest)

/-- An event is routed to a connection at most once. -/
lemma nodup_candidates (b : Broker) (rooms : List Room) : (b.candidates rooms).Nodup :=
  (nodup_eraseDups _).filter _

end Broker

end EventGateway
