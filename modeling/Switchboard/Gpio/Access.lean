import Switchboard.Gpio.Board

/-!
# Accesses

What can be asked of the lines of a chip, as data, so that the same question can be put to the table of
the pins, to the bench alone, or to any other backend.
-/

namespace Switchboard.Gpio

/-- What can be asked of the lines of a chip. -/
inductive Access where
  | init
  | shutdown
  | configure (pin : Pin) (mode : Mode) (pull : Pull)
  | release (pin : Pin)
  | read (pin : Pin)
  | write (pin : Pin) (level : Bool)
  | setEdge (pin : Pin) (edge : EdgeMode)
  | waitEdge (pin : Pin)
  deriving DecidableEq, Repr

inductive Response where
  | done
  | level (high : Bool)
  | edge (e : Edge)
  deriving DecidableEq, Repr

abbrev Answer := Except Error Response

/-- The answer of an access that tells nothing more. -/
def Answer.ofUnit : Except Error Unit → Answer
  | .ok () => .ok .done
  | .error e => .error e

/-- The answer of an access, with what it leaves: what it made, or else what was there before. -/
def Answer.ofStep {α : Type} (before : α) : Except Error α → Answer × α
  | .ok after => (.ok .done, after)
  | .error e => (.error e, before)

/-- The answer of a wait for an edge, with what it leaves. -/
def Answer.ofWait {α : Type} (before : α) : Except Error (Edge × α) → Answer × α
  | .ok (e, after) => (.ok (.edge e), after)
  | .error e => (.error e, before)

def Bench.access (b : Bench) : Access → Answer × Bench
  | .init => (.ok .done, b.init)
  | .shutdown => (.ok .done, b.shutdown)
  | .configure pin mode pull => Answer.ofStep b (b.configure pin mode pull)
  | .release pin => Answer.ofStep b (b.release pin)
  | .read pin => ((b.read pin).map .level, b)
  | .write pin level => Answer.ofStep b (b.write pin level)
  | .setEdge pin edge => Answer.ofStep b (b.setEdge pin edge)
  | .waitEdge pin => Answer.ofWait b (b.takeEdge pin)

def Board.access (b : Board) : Access → Answer × Board
  | .init => (.ok .done, b.init)
  | .shutdown => (.ok .done, b.shutdown)
  | .configure pin mode pull => (b.configure pin mode pull).map Answer.ofUnit id
  | .release pin => (b.release pin).map Answer.ofUnit id
  | .read pin => ((b.read pin).map .level, b)
  | .write pin level => (b.write pin level).map Answer.ofUnit id
  | .setEdge pin edge => (b.setEdge pin edge).map Answer.ofUnit id
  | .waitEdge pin => Answer.ofWait b (b.takeEdge pin)

end Switchboard.Gpio
