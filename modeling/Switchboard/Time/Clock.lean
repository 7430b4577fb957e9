import Switchboard.Time.Timestamp

/-!
# Clocks

The wall clock can be set and can go back; the steady clock measures how long things last and only
goes forward. Setting the wall clock leaves the steady clock alone.
-/

namespace Switchboard

structure Clock where
  /-- The time of day that statuses are stamped with. -/
  wall : Timestamp
  /-- Nanoseconds on the steady clock. -/
  now : Nat
  deriving DecidableEq, Repr

namespace Clock

def perMilli : Nat := 1000000

/-- The clocks at the start, which is zero on the steady clock. -/
def start (wall : Timestamp) : Clock := ⟨wall, 0⟩

/-- Time passes. Only the wall clock goes back. -/
def advance (c : Clock) (nanos : Int) : Clock :=
  ⟨.ofNanos (c.wall.toNanos + nanos), c.now + nanos.toNat⟩

def setWall (c : Clock) (wall : Timestamp) : Clock :=
  { c with wall }

end Clock

/-- Whole milliseconds from one reading of the steady clock to another, none if it is earlier, and at
most what sixty-four bits hold. -/
def millisBetween (since now : Nat) : Nat :=
  min ((now - since) / Clock.perMilli) (2 ^ 64 - 1)

end Switchboard
