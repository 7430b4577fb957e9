import Switchboard.Gpio.Bench

/-!
# The board

The table of the configured pins of one chip, over the bench that has their lines. The table decides
whether a pin may be read, written or watched; it is bounded by a capacity if one is given.
-/

namespace Switchboard.Gpio

/-- What the table knows of a pin. -/
structure PinState where
  mode : Mode
  pull : Pull
  edge : EdgeMode
  /-- A listener is kept for the pin. Waiting for edges does not call it. -/
  listener : Bool
  deriving DecidableEq, Repr

def PinState.text (s : PinState) : String :=
  "PinState \x7b mode: " ++ s.mode.text ++ ", pull: " ++ s.pull.text ++ ", edge: " ++ s.edge.text
    ++ ", callback: " ++ (if s.listener then "true" else "false") ++ " \x7d"

structure Board where
  chip : String
  /-- How many pins may be configured, if there is a bound. -/
  capacity : Option Nat
  pins : Table Pin PinState
  bench : Bench

namespace Board

/-- A board without pins over a bench that has not been started. -/
def new (chip : String) (capacity : Option Nat) : Board := ⟨chip, capacity, .empty, .new⟩

def init (b : Board) : Board :=
  { b with bench := b.bench.init }

/-- The pins of the table that the bench does not have. -/
def strays (b : Board) : List Pin :=
  b.pins.keys.filter fun pin => !b.bench.lines.contains pin

def shutdown (b : Board) : Board :=
  { b with pins := .empty, bench := b.bench.shutdown }

/-- A pin that is not in the table yet fits into it. -/
def hasRoom (b : Board) (pin : Pin) : Bool :=
  b.pins.contains pin || b.capacity.all (b.pins.size < ·)

/-- Takes a pin, over an earlier configuration of it. Nothing is watched and no listener kept. -/
def configure (b : Board) (pin : Pin) (mode : Mode) (pull : Pull) : Except Error Unit × Board :=
  if !b.bench.initialised then (.error .notInitialized, b)
  else if !b.hasRoom pin then (.error (.full (b.capacity.getD 0)), b)
  else
    match b.bench.configure pin mode pull with
    | .ok bench => (.ok (), { b with bench, pins := b.pins.insert pin ⟨mode, pull, .none, false⟩ })
    | .error e => (.error e, { b with pins := b.pins.erase pin })

/-- Gives a pin up. It leaves the table even if the bench does not have it any more. -/
def release (b : Board) (pin : Pin) : Except Error Unit × Board :=
  if !b.pins.contains pin then (.error (.notFound pin), b)
  else
    let b := { b with pins := b.pins.erase pin }
    match b.bench.release pin with
    | .ok bench => (.ok (), { b with bench })
    | .error e => (.error e, b)

def read (b : Board) (pin : Pin) : Except Error Bool :=
  if b.pins.contains pin then b.bench.read pin else .error (.notFound pin)

def write (b : Board) (pin : Pin) (level : Bool) : Except Error Unit × Board :=
  match b.pins.get? pin with
  | none => (.error (.notFound pin), b)
  | some s =>
    if !s.mode.isOutput then (.error (.notOutput pin), b)
    else
      match b.bench.write pin level with
      | .ok bench => (.ok (), { b with bench })
      | .error e => (.error e, b)

/-- Watches edges of an input. If that fails none are watched. -/
def setEdge (b : Board) (pin : Pin) (edge : EdgeMode) : Except Error Unit × Board :=
  match b.pins.get? pin with
  | none => (.error (.notFound pin), b)
  | some s =>
    if s.mode.isOutput then (.error (.notInput pin), b)
    else
      match b.bench.setEdge pin edge with
      | .ok bench => (.ok (), { b with bench, pins := b.pins.insert pin { s with edge } })
      | .error e => (.error e, { b with pins := b.pins.insert pin { s with edge := .none } })

/-- Takes the oldest edge that waits on a watched pin. -/
def takeEdge (b : Board) (pin : Pin) : Except Error (Edge × Board) :=
  match b.pins.get? pin with
  | none => .error (.notFound pin)
  | some s =>
    if s.edge = .none then .error (.notArmed pin)
    else
      match b.bench.takeEdge pin with
      | .ok (e, bench) => .ok (e, { b with bench })
      | .error e => .error e

def setListener (b : Board) (pin : Pin) (listener : Bool) : Except Error Unit × Board :=
  if b.pins.contains pin then
    (.ok (), { b with pins := b.pins.modify pin fun s => { s with listener } })
  else (.error (.notFound pin), b)

end Board

end Switchboard.Gpio
