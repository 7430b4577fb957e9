import Switchboard.Data.Table

/-!
# Pins

The words of pin access: directions, biases and edges of a line, and what can go wrong. An error is a
cause; its wording and its class are functions of the cause.
-/

namespace Switchboard

/-- The class of an error, coarser than its cause. -/
inductive ErrorKind where
  | notInitialized
  | notFound
  | ioError
  | busy
  | timeout
  | noMemory
  | invalidParam
  deriving DecidableEq, Repr

namespace Gpio

/-- The number of a line on its chip. -/
abbrev Pin := UInt32

inductive Mode where
  | input
  /-- Driven, at first to a given level. -/
  | output (initial : Bool)
  deriving DecidableEq, Repr

def Mode.isOutput : Mode → Bool
  | .input => false
  | .output _ => true

def Mode.text : Mode → String
  | .input => "Input"
  | .output initial => "Output \x7b initial: " ++ (if initial then "true" else "false") ++ " \x7d"

inductive Pull where
  | disabled
  | up
  | down
  deriving DecidableEq, Repr

def Pull.text : Pull → String
  | .disabled => "Disabled"
  | .up => "Up"
  | .down => "Down"

inductive Edge where
  | rising
  | falling
  deriving DecidableEq, Repr

def Edge.text : Edge → String
  | .rising => "Rising"
  | .falling => "Falling"

/-- The level that a line settles at after an edge. -/
def Edge.level : Edge → Bool
  | .rising => true
  | .falling => false

/-- The edge from one level to another, if they differ. -/
def Edge.between : Bool → Bool → Option Edge
  | false, true => some .rising
  | true, false => some .falling
  | _, _ => none

inductive EdgeMode where
  | none
  | rising
  | falling
  | both
  deriving DecidableEq, Repr

def EdgeMode.text : EdgeMode → String
  | .none => "None"
  | .rising => "Rising"
  | .falling => "Falling"
  | .both => "Both"

def EdgeMode.accepts : EdgeMode → Edge → Bool
  | .none, _ => false
  | .rising, e => e == .rising
  | .falling, e => e == .falling
  | .both, _ => true

inductive DeviceFault where
  /-- A write that was made to fail. -/
  | injected (pin : Pin)
  /-- The line was given up while an edge was waited for. -/
  | reconfigured
  | reported (text : String)
  deriving DecidableEq, Repr

def DeviceFault.message : DeviceFault → String
  | .injected pin => "injected write fault on pin " ++ toString pin
  | .reconfigured => "line was reconfigured while waiting for an edge"
  | .reported text => text

/-- Why an operation on a pin failed. -/
inductive Error where
  | notInitialized
  | notFound (pin : Pin)
  /-- The pin is an input and should be an output. -/
  | notOutput (pin : Pin)
  /-- The pin is an output and should be an input. -/
  | notInput (pin : Pin)
  | device (fault : DeviceFault)
  | timeout
  | full (capacity : Nat)
  /-- An edge is waited for where none is watched. -/
  | notArmed (pin : Pin)
  /-- A subscription without an edge to watch. -/
  | noEdge
  | badPath (text : String)
  | unsupported (text : String)
  deriving DecidableEq, Repr

/-- What an access to a line that the system does not have fails with. -/
def Error.noLine : Error := .device (.reported "")

def Error.message : Error → String
  | .notInitialized => "GPIO backend has not been initialised"
  | .notFound pin => "pin " ++ toString pin ++ " has not been configured"
  | .notOutput pin => "pin " ++ toString pin ++ " is not configured as an output"
  | .notInput pin => "pin " ++ toString pin ++ " is not configured as an input"
  | .device fault => "GPIO I/O failure: " ++ fault.message
  | .timeout => "timed out waiting for an edge"
  | .full capacity => "pin table is full (" ++ toString capacity ++ " pins)"
  | .notArmed pin => "invalid parameter: edge detection is not armed on pin " ++ toString pin
  | .noEdge => "invalid parameter: cannot subscribe without an edge"
  | .badPath text => "invalid parameter: " ++ text
  | .unsupported text => "unsupported: " ++ text

def Error.kind : Error → ErrorKind
  | .notInitialized => .notInitialized
  | .notFound _ => .notFound
  | .device _ => .ioError
  | .timeout => .timeout
  | .full _ => .noMemory
  | .notOutput _ | .notInput _ | .notArmed _ | .noEdge | .badPath _ | .unsupported _ => .invalidParam

theorem Edge.between_eq_some_iff {a b : Bool} {e : Edge} :
    Edge.between a b = some e ↔ a ≠ b ∧ e.level = b := by
  cases a <;> cases b <;> cases e <;> simp [Edge.between, Edge.level]

end Gpio

end Switchboard
