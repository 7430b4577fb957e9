import Switchboard.Gpio.Board

/-!
# Subscriptions

A subscription brings the edges of one pin to a receiver. A poller takes the waiting edges of the pin
one by one and puts them on a channel with room for sixteen; with a full channel it holds one more in
its hand. It stops at the first error other than a wait without an edge, and when it is cancelled.
What is on the channel by then can still be received.
-/

namespace Switchboard.Gpio

/-- How many edges wait on a channel. -/
def channelSize : Nat := 16

/-- A stream of the edges of one pin. -/
structure Subscription where
  pin : Pin
  channel : List Edge
  /-- An edge that the poller has taken and that does not fit on the channel. -/
  inHand : Option Edge
  polling : Bool
  cancelled : Bool
  deriving DecidableEq, Repr

namespace Subscription

def start (pin : Pin) : Subscription := ⟨pin, [], none, true, false⟩

/-- One step of the poller: put down what it holds, or take the next edge. -/
def poll (s : Subscription) (b : Board) : Subscription × Board :=
  if !s.polling then (s, b)
  else
    match s.inHand with
    | some e =>
      if s.channel.length < channelSize then
        ({ s with channel := s.channel ++ [e], inHand := none }, b)
      else (s, b)
    | none =>
      match b.takeEdge s.pin with
      | .ok (e, b) => ({ s with inHand := some e }, b)
      | .error .timeout => (s, b)
      | .error _ => ({ s with polling := false }, b)

/-- Steps of the poller, at most so many. -/
def pollFor : Nat → Subscription → Board → Subscription × Board
  | 0, s, b => (s, b)
  | fuel + 1, s, b =>
    let (s, b) := s.poll b
    pollFor fuel s b

/-- Lets the poller do all that it can: for each waiting edge it takes two steps, one more for what it
holds and one to find that there is no more. -/
def pump (s : Subscription) (b : Board) : Subscription × Board :=
  let waiting := ((b.bench.lines.get? s.pin).map fun l => l.pending.length).getD 0
  pollFor (2 * waiting + 2) s b

def receive (s : Subscription) : Option Edge × Subscription :=
  match s.channel with
  | e :: rest => (some e, { s with channel := rest })
  | [] => (none, s)

/-- Stops the poller. What it holds is lost; what is on the channel is not. -/
def cancel (s : Subscription) : Subscription :=
  { s with polling := false, cancelled := true, inHand := none }

end Subscription

end Switchboard.Gpio
