import Switchboard.Gpio.Basic

/-!
# The bench

A backend in memory, where input levels and write faults can be put in by hand. An operation that
fails leaves the bench as it was, so each is a function to the next bench or an error.
-/

namespace Switchboard.Gpio

structure Line where
  mode : Mode
  pull : Pull
  level : Bool
  edge : EdgeMode
  /-- Watched edges that no one has taken yet, oldest first. -/
  pending : List Edge
  deriving DecidableEq, Repr

/-- A line that has just been configured: an output at its first level, an input at its bias. -/
def Line.fresh (mode : Mode) (pull : Pull) : Line where
  mode
  pull
  level := match mode with
    | .output initial => initial
    | .input => pull == .up
  edge := .none
  pending := []

/-- The line after a level was put on it from outside. -/
def Line.inject (l : Line) (level : Bool) : Line :=
  match Edge.between l.level level with
  | some e => if l.edge.accepts e then { l with level, pending := l.pending ++ [e] } else { l with level }
  | none => { l with level }

/-- The backend in memory. -/
structure Bench where
  /-- It has been started and not shut down. -/
  initialised : Bool
  lines : Table Pin Line
  /-- The pins whose writes fail. -/
  failing : Table Pin Unit
  /-- The levels that were written to each pin, oldest first. -/
  written : Table Pin (List Bool)

namespace Bench

def new : Bench := ⟨false, .empty, .empty, .empty⟩

instance : Inhabited Bench := ⟨new⟩

def init (b : Bench) : Bench :=
  { b with initialised := true }

/-- Gives up every line. Faults and the history of writes stay. -/
def shutdown (b : Bench) : Bench :=
  { b with initialised := false, lines := .empty }

def level? (b : Bench) (pin : Pin) : Option Bool :=
  (b.lines.get? pin).map Line.level

/-- The levels written to a pin so far, oldest first. -/
def writes (b : Bench) (pin : Pin) : List Bool :=
  (b.written.get? pin).getD []

def isFailing (b : Bench) (pin : Pin) : Bool :=
  b.failing.contains pin

/-- Takes a line, over an earlier configuration of it. -/
def configure (b : Bench) (pin : Pin) (mode : Mode) (pull : Pull) : Except Error Bench :=
  if b.initialised then .ok { b with lines := b.lines.insert pin (.fresh mode pull) }
  else .error .notInitialized

def release (b : Bench) (pin : Pin) : Except Error Bench :=
  if b.lines.contains pin then .ok { b with lines := b.lines.erase pin } else .error (.notFound pin)

def read (b : Bench) (pin : Pin) : Except Error Bool :=
  match b.level? pin with
  | some level => .ok level
  | none => .error (.notFound pin)

def write (b : Bench) (pin : Pin) (level : Bool) : Except Error Bench :=
  if b.isFailing pin then .error (.device (.injected pin))
  else if b.lines.contains pin then
    .ok { b with
      lines := b.lines.modify pin fun l => { l with level }
      written := b.written.insert pin (b.writes pin ++ [level]) }
  else .error (.notFound pin)

/-- Watches edges of a line, and forgets those that were waiting. -/
def setEdge (b : Bench) (pin : Pin) (edge : EdgeMode) : Except Error Bench :=
  if b.lines.contains pin then
    .ok { b with lines := b.lines.modify pin fun l => { l with edge, pending := [] } }
  else .error (.notFound pin)

/-- Takes the oldest edge that waits on a line. -/
def takeEdge (b : Bench) (pin : Pin) : Except Error (Edge × Bench) :=
  match b.lines.get? pin with
  | none => .error (.notFound pin)
  | some l =>
    match l.pending with
    | [] => .error .timeout
    | e :: rest => .ok (e, { b with lines := b.lines.modify pin fun l => { l with pending := rest } })

/-- A level from outside on a line; a watched edge waits to be taken. -/
def inject (b : Bench) (pin : Pin) (level : Bool) : Bench :=
  { b with lines := b.lines.modify pin (·.inject level) }

/-- Lets the writes to a pin fail, or succeed again. -/
def setFailing (b : Bench) (pin : Pin) (failing : Bool) : Bench :=
  { b with failing := if failing then b.failing.insert pin () else b.failing.erase pin }

end Bench

end Switchboard.Gpio
