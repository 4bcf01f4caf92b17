import EventGateway.Proofs.Service.Steps
import Mathlib.Data.List.Induction
import Mathlib.Data.Set.Card
import Mathlib.Tactic.IntervalCases

/-!
# Calls of the broker

The broker in the hands of somebody who is not the service: connections are made and registered, they
join and leave rooms, act for principals and are disconnected, while events are dispatched and passes
check credentials, all of it in any order. The rooms are kept with the connections and in the table, and
after every sequence of calls both say the same; the registry tells who has been registered and not yet
disconnected, and nothing more can be done with a connection that has been disconnected.
-/

namespace EventGateway

/-- One use of the broker, or something that happens meanwhile. -/
inductive Call where
  /-- A connection is made. Names are not used twice. -/
  | create (id : ConnectionId) (caller : Caller)
  /-- A connection that has been made is registered. -/
  | register (id : ConnectionId)
  | subscribe (id : ConnectionId) (rooms : List Room)
  | unsubscribe (id : ConnectionId) (rooms : List Room)
  | disconnect (id : ConnectionId)
  | setPrincipal (id : ConnectionId) (principal : Principal)
  | send (id : ConnectionId) (frame : String)
  | dispatch (message : Message)
  /-- A pass begins. -/
  | reauthorize (affected : Option String)
  /-- A pass goes on. -/
  | goOn (index : Nat)
  /-- A delivery goes on. -/
  | deliver (ticket : Ticket)
  /-- A writer goes on. -/
  | write (id : ConnectionId)
  | updateStore (update : StoreUpdate)
  /-- Whoever goes through the registry next does so in this order. -/
  | reorder (order : List ConnectionId)
  | wait (time : Nat)
  deriving Inhabited

namespace World

/-- Makes a connection that is not registered. -/
def create (w : World) (id : ConnectionId) (caller : Caller) : World :=
  match w.broker.connection? id with
  | some _ => w
  | none => { w with
      broker := w.broker.add { id, caller }
      sessions := w.sessions.insert id { heartbeatDue := w.now + w.config.heartbeatGrace.toNat } }

def call (w : World) : Call → World
  | .create id caller => w.create id caller
  | .register id =>
    if (w.broker.connection? id).isSome then { w with broker := w.broker.register id } else w
  | .subscribe id rooms =>
    match w.broker.subscribe id rooms with
    | .ok broker => { w with broker }
    | .error _ => w
  | .unsubscribe id rooms => { w with broker := w.broker.unsubscribe id rooms }
  | .disconnect id => { w with broker := w.broker.disconnect id }
  | .setPrincipal id p => w.modifyConnection id fun c => c.setPrincipal p
  | .send id frame => w.modifyConnection id fun c => c.send frame
  | .dispatch m => w.dispatch m
  | .reauthorize affected => w.startPass affected
  | .goOn index => w.runPass index
  | .deliver t => w.deliver t
  | .write id => w.write id
  | .updateStore u => { w with store := w.store.update u }
  | .reorder order => { w with broker := w.broker.reorder order }
  | .wait time => { w with now := w.now + time }

def callAll (w : World) (calls : List Call) : World := calls.foldl call w

end World

namespace Broker

variable {b b' : Broker} {id : ConnectionId} {c : Connection}

/-! ### Connections that are disconnected -/

/-- A connection stays, and one that is closed stays closed. -/
lemma Step.connection? (h : Step b b') (hc : b.connection? id = some c) :
    ∃ c', b'.connection? id = some c' ∧ (c.closed = true → c'.closed = true) := by
  have hsome {i : ConnectionId} {f : Connection → Connection} (ha : b.Alters b' i f)
      (hf : i = id → c.closed = true → (f c).closed = true) :
      ∃ c', b'.connection? id = some c' ∧ (c.closed = true → c'.closed = true) := by
    rw [ha id]
    split
    · next hi => exact ⟨f c, by rw [hc]; rfl, hf hi.symm⟩
    · exact ⟨c, hc, fun h => h⟩
  cases h with
  | @connect d hnew _ _ =>
    refine ⟨c, ?_, fun h => h⟩
    show (b.add d).connection? id = some c
    rw [connection?_add, if_neg, hc]
    rintro rfl
    simp [hnew] at hc
  | modify i hf =>
    refine hsome (alters_modify b i _) ?_
    rintro rfl hclosed
    exact (hf c hc).2.trans hclosed
  | join room _ _ => exact hsome (alters_join b _ room) fun _ hclosed => by simpa using hclosed
  | leave i room => exact hsome (alters_leave b i room) fun _ hclosed => by simpa using hclosed
  | disconnect i => exact hsome (alters_disconnect b i) fun _ _ => rfl
  | reorder order => exact ⟨c, (connection?_reorder b order id).trans hc, fun h => h⟩

lemma Leads.connection? (h : b.Leads b') (hc : b.connection? id = some c) :
    ∃ c', b'.connection? id = some c' ∧ (c.closed = true → c'.closed = true) := by
  induction h with
  | refl => exact ⟨c, hc, fun h => h⟩
  | tail _ hstep ih =>
    obtain ⟨d, hd, hclosed⟩ := ih
    obtain ⟨e, he, hclosed'⟩ := hstep.connection? hd
    exact ⟨e, he, hclosed' ∘ hclosed⟩

/-- Nothing is left of the connection in the broker, and nothing more can be done with it. -/
structure Released (b : Broker) (id : ConnectionId) : Prop where
  roomless : ∀ room, ¬ b.Holds id room
  absent : ∀ room, id ∉ b.table.membersOf room
  unregistered : id ∉ b.registry
  /-- No frame is accepted. -/
  send : ∃ c, b.connection? id = some c ∧ c.accepts = false ∧ ∀ frame, c.send frame = c
  /-- No slot is accepted. -/
  reserve : b.reserve id = (b, none)
  subscribe : ∀ rooms, b.subscribe id rooms = .ok b
  disconnect : b.disconnect id = b

/-- A change that comes to nothing. -/
lemma modify_eq_self {f : Connection → Connection}
    (h : ∀ c, b.connection? id = some c → f c = c) : b.connections.modify id f = b.connections := by
  apply Dictionary.ext
  simp only [Dictionary.modify]
  conv_rhs => rw [← List.map_id b.connections.entries]
  refine List.map_congr_left fun e he => ?_
  split
  · next hid =>
    have hget : b.connection? id = some e.2 := Dictionary.get?_eq_some_iff.2 (hid ▸ he)
    rw [h e.2 hget]
    rfl
  · rfl

lemma Indexed.released (h : b.Indexed) (hc : b.connection? id = some c) (hclosed : c.closed = true)
    (hr : id ∉ b.registry) : b.Released id := by
  have hrooms := h.closed id c hc hclosed
  have hroomless (room : Room) : ¬ b.Holds id room := by
    rintro ⟨d, hd, hroom⟩
    rw [hc, Option.some.injEq] at hd
    rw [← hd, hrooms] at hroom
    exact RoomSet.not_mem_empty room hroom
  have haccepts : c.accepts = false := by simp [Connection.accepts, hclosed]
  refine ⟨hroomless, fun room => ?_, hr, ⟨c, hc, haccepts, ?_⟩, ?_, ?_, ?_⟩
  · rw [h.members]
    exact hroomless room
  · intro frame
    simp [Connection.send, haccepts]
  · simp [Broker.reserve, hc, Connection.openSlot?, haccepts]
  · intro rooms
    simp [Broker.subscribe, hc, hclosed]
  · have hsame : b.connections.modify id Connection.close = b.connections := by
      apply modify_eq_self
      intro d hd
      rw [hc, Option.some.injEq] at hd
      rw [← hd, Connection.close, ← hclosed, ← hrooms]
    have hregistry : b.registry.filter (· ≠ id) = b.registry := by
      rw [List.filter_eq_self]
      intro i hi
      have hne : i ≠ id := fun heq => hr (heq ▸ hi)
      simpa using hne
    have hnone : (∅ : RoomSet).toList = [] := rfl
    simp only [Broker.disconnect, hc, hrooms]
    rw [hsame, hregistry, hnone]
    rfl

/-! ### Rooms that are held -/

/-- The table has as many entries as there are rooms that somebody is in. -/
lemma Indexed.roomCount_eq (h : b.Indexed) :
    b.roomCount = {room | ∃ id, b.Holds id room}.ncard := by
  have hkeys : {room | ∃ id, b.Holds id room} = (b.table.members.keys.toFinset : Set Room) := by
    ext room
    simp only [Set.mem_ofPred_eq, List.coe_toFinset, RoomTable.mem_keys_members_iff, h.members]
  rw [hkeys, Set.ncard_coe_finset, List.toFinset_card_of_nodup b.table.members.nodup_keys]
  simp [roomCount, RoomTable.size, Dictionary.size, Dictionary.keys]

end Broker

namespace World

/-! ### The registry -/

lemma registry_reserveAll (b : Broker) (ids : List ConnectionId) :
    (b.reserveAll ids).1.registry = b.registry := by
  induction ids generalizing b with
  | nil => rfl
  | cons id rest ih =>
    apply (ih (b.reserve id).1).trans
    simp only [Broker.reserve]
    split <;> rfl

lemma registry_dispatch (w : World) (m : Message) :
    (w.dispatch m).broker.registry = w.broker.registry := by
  simp only [dispatch]
  split
  · split <;> rfl
  · split
    · next e _ =>
      apply List.foldlRecOn (motive := fun v : World => v.broker.registry = w.broker.registry)
      · exact registry_reserveAll w.broker _
      · intro v hv t _
        exact hv
    · rfl

lemma registry_deliver (w : World) (t : Ticket) :
    (w.deliver t).broker.registry = w.broker.registry := by
  have hsettle (e : Event) (p : Principal) (progress : Limited Decision) :
      (w.settleDelivery t e p progress).broker.registry = w.broker.registry := by
    cases progress <;> rfl
  simp only [deliver]
  split
  · split
    · exact hsettle _ _ _
    · split
      · exact hsettle _ _ _
      · rfl
    · rfl
  · rfl

lemma registry_settleCheck (w : World) (p : Pass) (id : ConnectionId) (q : Principal)
    (progress : Limited Bool) :
    (w.settleCheck p id q progress).1.broker.registry = w.broker.registry := by
  have hconclude (valid : Bool) :
      (w.concludeCheck p id q valid).1.broker.registry = w.broker.registry := by
    cases valid <;> rfl
  cases progress with
  | finished r =>
    cases r with
    | ok valid => exact hconclude valid
    | error e => exact hconclude false
  | timedOut => exact hconclude false
  | waiting lookup => rfl

lemma registry_checkRemaining (w : World) (p : Pass) (ids : List ConnectionId) :
    (w.checkRemaining p ids).1.broker.registry = w.broker.registry := by
  induction ids generalizing w p with
  | nil => rfl
  | cons id rest ih =>
    unfold checkRemaining
    split
    · exact ih w p
    · split
      · dsimp only
        split
        · exact registry_settleCheck w p id _ _
        · exact (ih _ _).trans (registry_settleCheck w p id _ _)
      · exact ih w p

lemma registry_runPass (w : World) (index : Nat) :
    (w.runPass index).broker.registry = w.broker.registry := by
  simp only [runPass]
  split
  · next p _ =>
    show (w.advancePass p).1.broker.registry = _
    unfold advancePass
    split
    · exact registry_checkRemaining w p _
    · split
      · dsimp only
        split
        · exact registry_settleCheck w _ _ _ _
        · exact (registry_checkRemaining _ _ _).trans (registry_settleCheck w _ _ _ _)
      · rfl
  · rfl

lemma registry_write (w : World) (id : ConnectionId) :
    (w.write id).broker.registry = w.broker.registry := by
  simp only [write, modifyLine]
  split <;> rfl

lemma registry_subscribe {b b' : Broker} {id : ConnectionId} {rooms : List Room}
    (h : b.subscribe id rooms = .ok b') : b'.registry = b.registry := by
  simp only [Broker.subscribe] at h
  split at h
  · cases h
    rfl
  · split at h
    · cases h
      rfl
    · split at h
      · cases h
      · cases h
        apply List.foldlRecOn (motive := fun d : Broker => d.registry = b.registry) rooms _ rfl
        intro d hd room _
        exact (Broker.registry_join d id room).trans hd

lemma registry_unsubscribe (b : Broker) (id : ConnectionId) (rooms : List Room) :
    (b.unsubscribe id rooms).registry = b.registry := by
  apply List.foldlRecOn (motive := fun d : Broker => d.registry = b.registry) rooms _ rfl
  intro d hd room _
  exact (Broker.registry_leave d id room).trans hd

/-! ### One call -/

lemma leads_subscribe (w : World) {b : Broker} {id : ConnectionId} {rooms : List Room}
    (h : w.broker.subscribe id rooms = .ok b) : w.broker.Leads b := by
  simp only [Broker.subscribe] at h
  split at h
  · cases h
    exact .refl
  · next c hc =>
    split at h
    · cases h
      exact .refl
    · next hclosed =>
      split at h
      · cases h
      · cases h
        exact (modifies_joins w hc (by simpa using hclosed) rooms).broker

/-- A call makes a connection, registers one, or does what a service does to its broker. -/
lemma leads_call (w : World) (call : Call) :
    (∃ id caller, call = .create id caller) ∨ (∃ id, call = .register id) ∨
      w.broker.Leads (w.call call).broker := by
  cases call with
  | create id caller => exact .inl ⟨id, caller, rfl⟩
  | register id => exact .inr (.inl ⟨id, rfl⟩)
  | subscribe id rooms =>
    refine .inr (.inr ?_)
    simp only [World.call]
    split
    · next h => exact leads_subscribe w h
    · exact .refl
  | unsubscribe id rooms => exact .inr (.inr (modifies_leaves w id rooms).broker)
  | disconnect id => exact .inr (.inr (.single (.disconnect w.broker id)))
  | setPrincipal id p =>
    exact .inr (.inr (modifies_modifyConnection (f := fun c => c.setPrincipal p) w id
      fun _ _ => ⟨rfl, rfl⟩).broker)
  | send id frame =>
    exact .inr (.inr (modifies_modifyConnection w id fun c _ => send_keeps frame c).broker)
  | dispatch m =>
    refine .inr (.inr ?_)
    obtain h | ⟨affected, h⟩ := dispatch_keeps w m
    · exact h.broker
    · show w.broker.Leads (w.dispatch m).broker
      rw [h]
      exact .refl
  | reauthorize affected => exact .inr (.inr .refl)
  | goOn index =>
    obtain ⟨w', hd, passes, heq⟩ := demotes_runPass w index
    refine .inr (.inr ?_)
    simp only [World.call]
    rw [heq]
    exact hd.broker
  | deliver t => exact .inr (.inr (modifies_deliver w t).broker)
  | write id => exact .inr (.inr (modifies_write w id).broker)
  | updateStore u => exact .inr (.inr .refl)
  | reorder order => exact .inr (.inr (.single (.reorder w.broker order)))
  | wait time => exact .inr (.inr .refl)

lemma indexed_call {w : World} (h : w.broker.Indexed) (call : Call) :
    (w.call call).broker.Indexed := by
  obtain ⟨id, caller, rfl⟩ | ⟨id, rfl⟩ | hleads := leads_call w call
  · simp only [World.call, create]
    split
    · exact h
    · next hnew => exact h.add hnew rfl
  · simp only [World.call]
    split
    · exact h.register id
    · exact h
  · exact h.leads hleads

/-- A connection stays, and one that is closed stays closed. -/
lemma connection?_call {w : World} {id : ConnectionId} {c : Connection}
    (hc : w.broker.connection? id = some c) (call : Call) :
    ∃ c', (w.call call).broker.connection? id = some c' ∧ (c.closed = true → c'.closed = true) := by
  obtain ⟨i, caller, rfl⟩ | ⟨i, rfl⟩ | hleads := leads_call w call
  · refine ⟨c, ?_, fun h => h⟩
    simp only [World.call, create]
    split
    · exact hc
    · next hnew =>
      rw [Broker.connection?_add, if_neg, hc]
      rintro rfl
      simp [hnew] at hc
  · refine ⟨c, ?_, fun h => h⟩
    simp only [World.call]
    split <;> exact hc
  · exact hleads.connection? hc

/-- Registering and disconnecting are what concerns the registry. -/
lemma mem_registry_call {w : World} {id : ConnectionId} {call : Call}
    (hknown : call = .register id ∨ id ∈ w.broker.registry →
      ∃ c, w.broker.connection? id = some c) :
    id ∈ (w.call call).broker.registry ↔
      (id ∈ w.broker.registry ∨ call = .register id) ∧ call ≠ .disconnect id := by
  have hperm (hr : (w.call call).broker.registry.Perm w.broker.registry)
      (h : call ≠ .register id) (h' : call ≠ .disconnect id) :
      id ∈ (w.call call).broker.registry ↔
        (id ∈ w.broker.registry ∨ call = .register id) ∧ call ≠ .disconnect id := by
    simp [hr.mem_iff, h, h']
  have hsame (hr : (w.call call).broker.registry = w.broker.registry) := hperm (.of_eq hr)
  cases call with
  | create i caller =>
    refine hsame ?_ (by simp) (by simp)
    simp only [World.call, create]
    split <;> rfl
  | register i =>
    simp only [World.call, ne_eq, reduceCtorEq, not_false_eq_true, and_true, Call.register.injEq]
    split
    · exact Broker.mem_registry_register.trans (or_congr_right eq_comm)
    · next hnone =>
      refine ⟨.inl, ?_⟩
      rintro (hid | rfl)
      · exact hid
      · obtain ⟨c, hc⟩ := hknown (.inl rfl)
        simp [hc] at hnone
  | disconnect i =>
    simp only [World.call, reduceCtorEq, or_false, ne_eq, Call.disconnect.injEq]
    by_cases hi : i = id
    · subst hi
      rw [Broker.mem_registry_disconnect fun h => hknown (.inr h)]
    · have halters : (w.broker.disconnect i).registry = w.broker.registry ∨
          (w.broker.disconnect i).registry = w.broker.registry.filter (· ≠ i) := by
        simp only [Broker.disconnect]
        split
        · exact .inl rfl
        · exact .inr rfl
      rcases halters with hr | hr
      · simp [hr, hi]
      · simp [hr, hi, eq_comm]
  | subscribe i rooms =>
    refine hsame ?_ (by simp) (by simp)
    simp only [World.call]
    split
    · next h => exact registry_subscribe h
    · rfl
  | unsubscribe i rooms => exact hsame (registry_unsubscribe _ i rooms) (by simp) (by simp)
  | setPrincipal i p => exact hsame rfl (by simp) (by simp)
  | send i frame => exact hsame rfl (by simp) (by simp)
  | dispatch m => exact hsame (registry_dispatch w m) (by simp) (by simp)
  | reauthorize affected => exact hsame rfl (by simp) (by simp)
  | goOn index => exact hsame (registry_runPass w index) (by simp) (by simp)
  | deliver t => exact hsame (registry_deliver w t) (by simp) (by simp)
  | write i => exact hsame (registry_write w i) (by simp) (by simp)
  | updateStore u => exact hsame rfl (by simp) (by simp)
  | reorder order => exact hperm (Broker.perm_registry_reorder _ order) (by simp) (by simp)
  | wait time => exact hsame rfl (by simp) (by simp)

/-! ### Sequences of calls -/

/-- Every connection has been made before it is registered, and has not been disconnected by then. -/
def Proper (calls : List Call) : Prop :=
  ∀ before id after, calls = before ++ .register id :: after →
    (∃ caller, .create id caller ∈ before) ∧ .disconnect id ∉ before

/-- Has the connection been disconnected, having been made? -/
def IsDisconnected (calls : List Call) (id : ConnectionId) : Prop :=
  ∃ before after caller, calls = before ++ .disconnect id :: after ∧ .create id caller ∈ before

lemma callAll_concat (w : World) (calls : List Call) (call : Call) :
    w.callAll (calls ++ [call]) = (w.callAll calls).call call := by
  simp [callAll]

lemma Proper.of_concat {calls : List Call} {call : Call} (h : Proper (calls ++ [call])) :
    Proper calls := by
  rintro before id after rfl
  exact h before id (after ++ [call]) (by simp)

lemma indexed_callAll (config : Config) (store : Store) (calls : List Call) :
    ((start config store).callAll calls).broker.Indexed := by
  induction calls using List.reverseRecOn with
  | nil => exact Broker.indexed_empty
  | append_singleton calls call ih =>
    rw [callAll_concat]
    exact indexed_call ih call

lemma connection?_callAll {w : World} {id : ConnectionId} {c : Connection}
    (hc : w.broker.connection? id = some c) (calls : List Call) :
    ∃ c', (w.callAll calls).broker.connection? id = some c' ∧
      (c.closed = true → c'.closed = true) := by
  induction calls generalizing w c with
  | nil => exact ⟨c, hc, fun h => h⟩
  | cons call rest ih =>
    obtain ⟨d, hd, hclosed⟩ := connection?_call hc call
    obtain ⟨e, he, hclosed'⟩ := ih hd
    exact ⟨e, he, hclosed' ∘ hclosed⟩

/-- A connection that has been made is there. -/
lemma connection?_of_create {w : World} {calls : List Call} {id : ConnectionId} {caller : Caller}
    (h : .create id caller ∈ calls) : ∃ c, (w.callAll calls).broker.connection? id = some c := by
  obtain ⟨before, after, rfl⟩ := List.append_of_mem h
  have hmade : ∃ c, ((w.callAll before).call (.create id caller)).broker.connection? id = some c := by
    simp only [call, create]
    split
    · next c hc => exact ⟨c, hc⟩
    · exact ⟨_, by rw [Broker.connection?_add, if_pos rfl]⟩
  obtain ⟨c, hc⟩ := hmade
  obtain ⟨c', hc', -⟩ := connection?_callAll hc after
  refine ⟨c', ?_⟩
  simpa [callAll] using hc'

/-- A connection that has been disconnected is closed. -/
lemma IsDisconnected.closed {w : World} {calls : List Call} {id : ConnectionId}
    (h : IsDisconnected calls id) :
    ∃ c, (w.callAll calls).broker.connection? id = some c ∧ c.closed = true := by
  obtain ⟨before, after, caller, rfl, hmade⟩ := h
  obtain ⟨c, hc⟩ := connection?_of_create (w := w) hmade
  have hdisconnect : ((w.callAll before).call (.disconnect id)).broker.connection? id =
      some c.close := by
    refine (Broker.alters_disconnect _ id id).trans ?_
    rw [if_pos rfl, hc]
    rfl
  obtain ⟨c', hc', hclosed⟩ := connection?_callAll hdisconnect after
  refine ⟨c', ?_, hclosed rfl⟩
  simpa [callAll] using hc'

/-- The registry tells who has been registered and has not been disconnected. -/
lemma mem_registry_callAll (config : Config) (store : Store) {calls : List Call} (h : Proper calls)
    (id : ConnectionId) :
    id ∈ ((start config store).callAll calls).broker.registry ↔
      .register id ∈ calls ∧ .disconnect id ∉ calls := by
  induction calls using List.reverseRecOn with
  | nil => simp [callAll, start]
  | append_singleton calls call ih =>
    have ih := ih h.of_concat
    have hmade {i : ConnectionId} (hi : call = .register i ∨ .register i ∈ calls) :
        ∃ caller, .create i caller ∈ calls := by
      rcases hi with rfl | hi
      · exact (h calls i [] rfl).1
      · obtain ⟨before, after, rfl⟩ := List.append_of_mem hi
        obtain ⟨caller, hcaller⟩ := (h.of_concat before i after rfl).1
        exact ⟨caller, List.mem_append_left _ hcaller⟩
    rw [callAll_concat, mem_registry_call, ih]
    · constructor
      · rintro ⟨⟨hr, hd⟩ | rfl, hnot⟩
        · refine ⟨List.mem_append_left _ hr, ?_⟩
          simpa using ⟨hd, Ne.symm hnot⟩
        · exact ⟨by simp, by simpa using (h calls id [] rfl).2⟩
      · simp only [List.mem_append, List.mem_singleton, not_or]
        rintro ⟨hr | rfl, hd, hnot⟩
        · exact ⟨.inl ⟨hr, hd⟩, Ne.symm hnot⟩
        · exact ⟨.inr rfl, nofun⟩
    · intro hi
      obtain ⟨caller, hcaller⟩ := hmade (hi.imp_right fun hi => (ih.1 hi).1)
      exact connection?_of_create hcaller

/-- After every sequence of calls the table of rooms and the connections say the same, the table has
an entry for every room that somebody is in and for no other, the registry tells who has been
registered and not yet disconnected, and a connection that has been disconnected is gone for good. -/
theorem rooms_and_registry_agree (config : Config) (store : Store) {calls : List Call}
    (h : Proper calls) :
    let b := ((start config store).callAll calls).broker
    (∀ room id, id ∈ b.table.membersOf room ↔ b.Holds id room) ∧
    (∀ room ids, b.table.members.get? room = some ids → ids ≠ []) ∧
    b.roomCount = {room | ∃ id, b.Holds id room}.ncard ∧
    b.registry.Nodup ∧
    (∀ id, id ∈ b.registry ↔ .register id ∈ calls ∧ .disconnect id ∉ calls) ∧
    ∀ id, IsDisconnected calls id → b.Released id := by
  intro b
  have hindexed : b.Indexed := indexed_callAll config store calls
  have hregistry := mem_registry_callAll config store h
  refine ⟨hindexed.members, ?_, hindexed.roomCount_eq, hindexed.nodup, hregistry, ?_⟩
  · intro room ids hget
    exact (b.table.wellFormed room ids hget).1
  · intro id hid
    obtain ⟨c, hc, hclosed⟩ := hid.closed (w := start config store)
    refine hindexed.released hc hclosed ?_
    rw [hregistry]
    rintro ⟨-, hnot⟩
    obtain ⟨before, after, caller, rfl, -⟩ := hid
    simp at hnot

/-- Two connections join a room, and one of them leaves for good while an event is on its way. -/
def twoInOneRoom : List Call := [
  .create "c" {},
  .create "d" {},
  .register "c",
  .subscribe "d" [.globalUsers],
  .subscribe "c" [.globalUsers, ⟨.post, "p"⟩],
  .dispatch (.ofEvent ⟨.globalUserUpdate, {}, ['7']⟩),
  .disconnect "c",
  .deliver ⟨"c", 0⟩,
  .subscribe "c" [⟨.post, "q"⟩],
  .disconnect "c"]

/-- The room that is left is the one that the other connection is in. -/
theorem agree_for_two :
    Proper twoInOneRoom ∧
    (let b := ((start { jwtSecret := "s" } {}).callAll twoInOneRoom).broker
     b.roomCount = 1 ∧ b.Released "c" ∧ b.Holds "d" .globalUsers ∧ b.registry = []) := by
  have hproper : Proper twoInOneRoom := by
    intro before id after hsplit
    have htake : twoInOneRoom.take before.length = before := by rw [hsplit]; simp
    have hget : twoInOneRoom[before.length]? = some (.register id) := by rw [hsplit]; simp
    have hlt : before.length < 10 := (List.getElem?_eq_some_iff.1 hget).1
    rw [← htake]
    clear hsplit htake
    generalize before.length = n at hget hlt ⊢
    interval_cases n <;> simp [twoInOneRoom] at hget ⊢
    exact ⟨{}, .inl ⟨hget.symm, rfl⟩⟩
  have hagree := rooms_and_registry_agree { jwtSecret := "s" } {} hproper
  have hgone : IsDisconnected twoInOneRoom "c" :=
    ⟨twoInOneRoom.take 6, twoInOneRoom.drop 7, {}, rfl, by simp [twoInOneRoom]⟩
  have hrun : (((start { jwtSecret := "s" } {}).callAll twoInOneRoom).broker.roomCount = 1 ∧
      "d" ∈ ((start { jwtSecret := "s" } {}).callAll twoInOneRoom).broker.table.membersOf
        .globalUsers) ∧
      ((start { jwtSecret := "s" } {}).callAll twoInOneRoom).broker.registry = [] := by
    decide +kernel
  exact ⟨hproper, hrun.1.1, hagree.2.2.2.2.2 "c" hgone, (hagree.1 _ _).1 hrun.1.2, hrun.2⟩

end World

end EventGateway
