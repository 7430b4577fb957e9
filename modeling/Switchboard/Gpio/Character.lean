import Switchboard.Gpio.Access

/-!
# Character devices

How directions, biases and edges are put into a request for a line of a character device, and what
becomes of a line whose edges cannot be watched. Such a line is taken back as a plain input, so that
it stays readable; only if that fails too it is lost.
-/

namespace Switchboard.Gpio.Character

inductive Bias where
  | disabled
  | pullUp
  | pullDown
  deriving DecidableEq, Repr

def Bias.name : Bias → String
  | .disabled => "Disabled"
  | .pullUp => "PullUp"
  | .pullDown => "PullDown"

def bias : Pull → Bias
  | .disabled => .disabled
  | .up => .pullUp
  | .down => .pullDown

inductive Level where
  | active
  | inactive
  deriving DecidableEq, Repr

def Level.name : Level → String
  | .active => "Active"
  | .inactive => "Inactive"

def level (high : Bool) : Level :=
  if high then .active else .inactive

inductive Detection where
  | risingEdge
  | fallingEdge
  | bothEdges
  deriving DecidableEq, Repr

def Detection.name : Detection → String
  | .risingEdge => "RisingEdge"
  | .fallingEdge => "FallingEdge"
  | .bothEdges => "BothEdges"

/-- The edges of a request, if any are watched. -/
def detection : EdgeMode → Option Detection
  | .none => none
  | .rising => some .risingEdge
  | .falling => some .fallingEdge
  | .both => some .bothEdges

/-- A line that was taken anew to watch edges. -/
structure Armed (α : Type) where
  line : α
  edge : EdgeMode
  /-- Whether those are the edges that were wanted. -/
  result : Except Error Unit

/-- Takes a line to watch edges; failing that, as a plain input, with the first failure as the result.
`arm` and `plain` are what the two requests answer. -/
def armOrFallBack {α : Type} (edge : EdgeMode) (arm plain : Except Error α) :
    Except Error (Armed α) :=
  match arm, plain with
  | .ok line, _ => .ok ⟨line, edge, .ok ()⟩
  | .error e, .ok line => .ok ⟨line, .none, .error e⟩
  | .error _, .error e => .error e

/-- An access to the lines of a device that has none: it is not started, and no line is taken. -/
def access : Access → Answer
  | .init => .error .noLine
  | .shutdown => .ok .done
  | .configure .. => .error .notInitialized
  | .release pin | .read pin | .write pin _ | .setEdge pin _ | .waitEdge pin => .error (.notFound pin)

end Switchboard.Gpio.Character
