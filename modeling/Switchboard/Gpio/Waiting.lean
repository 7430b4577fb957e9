import Switchboard.Gpio.Basic

/-!
# Waiting for an edge

A waiter looks at a line in turns. Each turn it first sees whether the line has been given up, then
whether its time is over; only then it polls, for no longer than a slice, so that it never sleeps
through the end of the line. A poll that ends early costs nothing but a turn: what counts is the
deadline.
-/

namespace Switchboard.Gpio

inductive Poll where
  /-- There is an edge to take. -/
  | ready
  /-- Nothing came, or the poll was interrupted. -/
  | silent
  | failed (error : Error)
  deriving DecidableEq, Repr

/-- One turn of a waiter. The poll is what would be told if it came to a poll. -/
structure Turn where
  /-- The line has been given up. -/
  retired : Bool
  now : Nat
  poll : Poll
  deriving DecidableEq, Repr

structure Wait where
  /-- How it ended; none while it goes on. -/
  result : Option (Except Error Unit)
  /-- How long each poll was allowed to take, in nanoseconds, first poll first. -/
  slices : List Nat

/-- The longest time that a poll is allowed to take: twenty milliseconds. -/
def longestSlice : Nat := 20 * 1000 * 1000

/-- The wait until a deadline over the turns that it meets. -/
def waitReady (deadline : Nat) : List Turn → Wait
  | [] => ⟨none, []⟩
  | t :: rest =>
    if t.retired then ⟨some (.error (.device .reconfigured)), []⟩
    else if deadline ≤ t.now then ⟨some (.error .timeout), []⟩
    else
      let slice := min (deadline - t.now) longestSlice
      match t.poll with
      | .ready => ⟨some (.ok ()), [slice]⟩
      | .failed e => ⟨some (.error e), [slice]⟩
      | .silent =>
        let w := waitReady deadline rest
        { w with slices := slice :: w.slices }

/-- The wait over some turns after which the line is found given up. -/
def giveUp (deadline : Nat) (turns : List Turn) (now : Nat) : Wait :=
  waitReady deadline (turns ++ [⟨true, now, .silent⟩])

/-- What the other end of a stream did. -/
inductive Peer where
  | wrote
  | closed
  | silent
  deriving DecidableEq, Repr

/-- Reading would not block: there are bytes, or the end of the stream. -/
def Peer.isReadable : Peer → Bool
  | .wrote | .closed => true
  | .silent => false

end Switchboard.Gpio
