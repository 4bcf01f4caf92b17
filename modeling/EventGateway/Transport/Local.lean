import EventGateway.Transport.Broadcast
import EventGateway.Transport.Remote

/-!
# The local transport

Within one process messages go by way of a broadcast channel. Every subscriber has a stream, which goes on
when the channel tells it that it lags. That nobody receives a message is no failure.
-/

namespace EventGateway

/-- What is done with a transport, or a clone of it, and with the streams of its subscribers. A stream that
is polled asks the channel until it is not told of a lag: each time that it asks is an act of its own, so
that messages may be published in between. -/
inductive LocalTransport.Act where
  | publish (m : Message)
  | subscribe
  | ask (stream : Nat)
  | drop (stream : Nat)
  deriving DecidableEq, Repr

/-- The channel, and the receivers of all streams that have been given, as far as they are not dropped. -/
structure LocalTransport (b : Broadcast) where
  channel : b.Channel := b.empty
  streams : List (Option b.Receiver) := []

namespace LocalTransport

variable {b : Broadcast}

/-- Publishes a message. That nobody receives it is no failure. -/
def publish (t : LocalTransport b) (m : Message) : LocalTransport b × Except TransportFault Unit :=
  ({ t with channel := (b.send t.channel m).getD t.channel }, .ok ())

def subscribe (t : LocalTransport b) : LocalTransport b :=
  ⟨(b.subscribe t.channel).1, t.streams ++ [some (b.subscribe t.channel).2]⟩

/-- What the channel tells a stream that asks it, unless there is no such stream. -/
def ask (t : LocalTransport b) (stream : Nat) : LocalTransport b × Option Received :=
  match t.streams[stream]?.join with
  | some r =>
    let (answer, channel, r) := b.receive t.channel r
    (⟨channel, t.streams.set stream (some r)⟩, some answer)
  | none => (t, none)

def drop (t : LocalTransport b) (stream : Nat) : LocalTransport b :=
  match t.streams[stream]?.join with
  | some r => ⟨b.drop t.channel r, t.streams.set stream none⟩
  | none => t

def step (t : LocalTransport b) : Act → LocalTransport b
  | .publish m => (t.publish m).1
  | .subscribe => t.subscribe
  | .ask stream => (t.ask stream).1
  | .drop stream => t.drop stream

/-- The transport after the acts. -/
def run (t : LocalTransport b) (acts : List Act) : LocalTransport b := acts.foldl step t

end LocalTransport

end EventGateway
