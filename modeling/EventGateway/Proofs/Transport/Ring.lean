import EventGateway.Transport.Broadcast
import Mathlib.Data.Nat.ModEq
import Mathlib.Logic.Function.Basic
import Mathlib.Tactic.Lemma

/-!
# Channels that retain the latest messages

A channel of bounded capacity gives every message to each of its receivers. If the message of its place
has been overwritten, a receiver is told once by how many messages it lags, and goes on with the oldest
message that there is. A ring of slots is such a channel: `MessageRing.isRing_channel`.
-/

namespace EventGateway

/-- What a receiver at a place is told, and its place from then on, if only the latest messages of all
that were sent are retained. -/
def poll (capacity : Nat) (sent : List Message) (place : Nat) : Received × Nat :=
  if place + capacity < sent.length then
    (.lagged (sent.length - capacity - place), sent.length - capacity)
  else
    match sent[place]? with
    | some m => (.message m, place + 1)
    | none => (.nothing, place)

section

variable {capacity place : Nat} {sent : List Message}

lemma poll_lagged (h : place + capacity < sent.length) : poll capacity sent place =
    (.lagged (sent.length - capacity - place), sent.length - capacity) :=
  if_pos h

lemma poll_message {m : Message} (hm : sent[place]? = some m) (h : sent.length ≤ place + capacity) :
    poll capacity sent place = (.message m, place + 1) := by
  rw [poll, if_neg (by omega), hm]

lemma poll_nothing (h : sent.length ≤ place) : poll capacity sent place = (.nothing, place) := by
  rw [poll, if_neg (by omega), List.getElem?_eq_none h]

end

/-- The channel behaves as a ring: the latest messages are retained, as many as its capacity. -/
structure Broadcast.IsRing (b : Broadcast) (capacity : Nat) : Prop where
  empty : b.Sent b.empty [] ∧ b.receivers b.empty = 0
  /-- Without a receiver nothing is sent. -/
  send_unheard {c : b.Channel} (m : Message) : b.receivers c = 0 → b.send c m = none
  send_heard {c : b.Channel} {sent : List Message} (m : Message) : b.Sent c sent →
    b.receivers c ≠ 0 → ∃ c', b.send c m = some c' ∧ b.Sent c' (sent ++ [m]) ∧
      b.receivers c' = b.receivers c
  /-- A new receiver begins behind everything that has been sent. -/
  subscribe {c : b.Channel} {sent : List Message} : b.Sent c sent →
    b.Sent (b.subscribe c).1 sent ∧ b.receivers (b.subscribe c).1 = b.receivers c + 1 ∧
      b.place (b.subscribe c).2 = sent.length
  receive {c : b.Channel} {sent : List Message} (r : b.Receiver) : b.Sent c sent →
    b.place r ≤ sent.length →
      ((b.receive c r).1, b.place (b.receive c r).2.2) = poll capacity sent (b.place r)
  receive_keeps {c : b.Channel} {sent : List Message} (r : b.Receiver) : b.Sent c sent →
    b.Sent (b.receive c r).2.1 sent ∧ b.receivers (b.receive c r).2.1 = b.receivers c
  drop {c : b.Channel} {sent : List Message} (r : b.Receiver) : b.Sent c sent →
    b.Sent (b.drop c r) sent ∧ b.receivers (b.drop c r) = b.receivers c - 1

/-! ### A ring of slots -/

/-- A slot is empty or has a message and its place; what is sent next overwrites the oldest message. -/
structure MessageRing (capacity : Nat) where
  slots : Fin capacity → Option (Nat × Message)
  /-- The place of what is sent next. -/
  tail : Nat
  receivers : Nat

namespace MessageRing

variable {capacity : Nat} [NeZero capacity]

def empty : MessageRing capacity := ⟨fun _ => none, 0, 0⟩

/-- The message takes the slot of its place. -/
def put (ring : MessageRing capacity) (m : Message) : MessageRing capacity :=
  { ring with
    slots := Function.update ring.slots (Fin.ofNat capacity ring.tail) (some (ring.tail, m))
    tail := ring.tail + 1 }

def send (ring : MessageRing capacity) (m : Message) : Option (MessageRing capacity) :=
  if ring.receivers = 0 then none else some (ring.put m)

/-- The message of the place, if its slot still holds it. -/
def holds? (ring : MessageRing capacity) (place : Nat) : Option Message :=
  (ring.slots (Fin.ofNat capacity place)).bind fun held =>
    if held.1 = place then some held.2 else none

def receive (ring : MessageRing capacity) (place : Nat) : Received × Nat :=
  match ring.holds? place with
  | some m => (.message m, place + 1)
  | none =>
    if place = ring.tail then (.nothing, place)
    else (.lagged (ring.tail - capacity - place), ring.tail - capacity)

/-- The slots hold the latest of the messages, each in the slot of its place, and nothing else. -/
structure Holds (ring : MessageRing capacity) (sent : List Message) : Prop where
  tail : ring.tail = sent.length
  latest {place : Nat} {m : Message} : sent[place]? = some m → sent.length ≤ place + capacity →
    ring.slots (Fin.ofNat capacity place) = some (place, m)
  only {slot : Fin capacity} {place : Nat} {m : Message} : ring.slots slot = some (place, m) →
    slot = Fin.ofNat capacity place ∧ place < sent.length ∧ sent.length ≤ place + capacity

/-- The channel of such a ring. A receiver is a place. -/
def channel (capacity : Nat) [NeZero capacity] : Broadcast where
  Channel := MessageRing capacity
  Receiver := Nat
  empty := empty
  send := send
  subscribe ring := ({ ring with receivers := ring.receivers + 1 }, ring.tail)
  receive ring place := ((ring.receive place).1, ring, (ring.receive place).2)
  drop ring _ := { ring with receivers := ring.receivers - 1 }
  receivers := receivers
  Sent := Holds
  place := id

lemma holds_empty : (empty : MessageRing capacity).Holds [] where
  tail := rfl
  latest h := by cases h
  only h := by cases h

/-- Two places of one slot are a whole round apart. -/
lemma ne_of_slot_ne {p q : Nat} (hlt : p < q) (hround : q < p + capacity) :
    Fin.ofNat capacity p ≠ Fin.ofNat capacity q := by
  intro h
  have hmod : p ≡ q [MOD capacity] := congrArg Fin.val h
  have hdvd : capacity ∣ q - p := (Nat.modEq_iff_dvd' hlt.le).1 hmod
  have hle := Nat.le_of_dvd (by omega) hdvd
  omega

lemma put_slots_tail (ring : MessageRing capacity) (m : Message) :
    (ring.put m).slots (Fin.ofNat capacity ring.tail) = some (ring.tail, m) :=
  Function.update_self ..

lemma put_slots_of_ne (ring : MessageRing capacity) (m : Message) {slot : Fin capacity}
    (h : slot ≠ Fin.ofNat capacity ring.tail) : (ring.put m).slots slot = ring.slots slot :=
  Function.update_of_ne h ..

lemma Holds.put {ring : MessageRing capacity} {sent : List Message} (h : ring.Holds sent) (m : Message) :
    (ring.put m).Holds (sent ++ [m]) where
  tail := by simp [MessageRing.put, h.tail]
  latest {place n} hplace hlatest := by
    rw [List.length_append, List.length_singleton] at hlatest
    rcases Nat.lt_or_ge place sent.length with hlt | hge
    · rw [List.getElem?_append_left hlt] at hplace
      have hne : Fin.ofNat capacity place ≠ Fin.ofNat capacity ring.tail :=
        h.tail ▸ ne_of_slot_ne hlt (by omega)
      rw [put_slots_of_ne ring m hne]
      exact h.latest hplace (by omega)
    · rw [List.getElem?_append_right hge, List.getElem?_singleton] at hplace
      obtain ⟨hzero, hm⟩ := Option.ite_none_right_eq_some.1 hplace
      cases hm
      obtain rfl : place = ring.tail := by rw [h.tail]; omega
      exact put_slots_tail ring m
  only {slot place n} hslot := by
    have hcapacity := Nat.pos_of_neZero capacity
    rw [List.length_append, List.length_singleton]
    by_cases hlast : slot = Fin.ofNat capacity ring.tail
    · rw [hlast, put_slots_tail] at hslot
      cases hslot
      exact ⟨hlast, by rw [h.tail]; omega, by rw [h.tail]; omega⟩
    · rw [put_slots_of_ne ring m hlast] at hslot
      obtain ⟨hplace, hlt, hle⟩ := h.only hslot
      -- a message that is a whole round behind had the slot of the new one
      have hround : ring.tail ≠ place + capacity := by
        intro htail
        refine hlast (hplace.trans (Fin.ext ?_))
        rw [htail, Fin.val_ofNat, Fin.val_ofNat, Nat.add_mod_right]
      rw [h.tail] at hround
      exact ⟨hplace, by omega, by omega⟩

lemma Holds.holds?_eq_some {ring : MessageRing capacity} {sent : List Message} (h : ring.Holds sent)
    {place : Nat} {m : Message} (hplace : sent[place]? = some m)
    (hlatest : sent.length ≤ place + capacity) : ring.holds? place = some m := by
  rw [holds?, h.latest hplace hlatest]
  exact if_pos rfl

lemma Holds.holds?_eq_none {ring : MessageRing capacity} {sent : List Message} (h : ring.Holds sent)
    {place : Nat} (hplace : sent.length ≤ place ∨ place + capacity < sent.length) :
    ring.holds? place = none := by
  simp only [holds?]
  cases hslot : ring.slots (Fin.ofNat capacity place) with
  | none => rfl
  | some held =>
    obtain ⟨other, m⟩ := held
    obtain ⟨-, hlt, hle⟩ := h.only hslot
    exact if_neg (by omega)

lemma Holds.receive_eq {ring : MessageRing capacity} {sent : List Message} (h : ring.Holds sent) {place : Nat}
    (hplace : place ≤ sent.length) : ring.receive place = poll capacity sent place := by
  rw [receive]
  by_cases hlags : place + capacity < sent.length
  · rw [h.holds?_eq_none (.inr hlags), poll_lagged hlags, h.tail]
    exact if_neg (by omega)
  · cases hm : sent[place]? with
    | some m => rw [h.holds?_eq_some hm (by omega), poll_message hm (by omega)]
    | none =>
      have hend : sent.length ≤ place := List.getElem?_eq_none_iff.1 hm
      rw [h.holds?_eq_none (.inl hend), poll_nothing hend]
      exact if_pos (by rw [h.tail]; omega)

theorem isRing_channel (capacity : Nat) [NeZero capacity] : (channel capacity).IsRing capacity where
  empty := ⟨holds_empty, rfl⟩
  send_unheard _ hnone := if_pos hnone
  send_heard m h hsome := ⟨_, if_neg hsome, h.put m, rfl⟩
  subscribe h := ⟨⟨h.tail, h.latest, h.only⟩, rfl, h.tail⟩
  receive _ h hplace := h.receive_eq hplace
  receive_keeps _ h := ⟨h, rfl⟩
  drop _ h := ⟨⟨h.tail, h.latest, h.only⟩, rfl⟩

end MessageRing

end EventGateway
