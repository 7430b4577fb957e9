import Switchboard.Store.Record

/-!
# Pin conflicts

A pin belongs to one output or one sensor. A conflict names who has a pin already; what an output has
itself is no conflict, so the output that asks may be left out.
-/

namespace Switchboard.Store

inductive Owner where
  | actuator
  | sensor
  deriving DecidableEq, Repr

def Owner.text : Owner → String
  | .actuator => "actuator"
  | .sensor => "sensor"

structure Conflict where
  owner : Owner
  id : Int
  name : String
  deriving DecidableEq, Repr

inductive Error where
  | database
  | notFound (id : Int)
  /-- What is stored in a column is no value of the field. -/
  | badValue (column value : String)
  | pinInUse (pin : Gpio.Pin) (chip : String) (conflict : Conflict)
  deriving DecidableEq, Repr

/-- The wording of an error. What the database says is not part of it. -/
def Error.message : Error → String
  | .database => "database error"
  | .notFound id => "actuator " ++ toString id ++ " not found"
  | .badValue column value => "bad stored value in " ++ column ++ ": " ++ value
  | .pinInUse pin chip c =>
    "pin " ++ toString pin ++ " on " ++ chip ++ " already used by " ++ c.owner.text ++ " "
      ++ toString c.id ++ " ('" ++ c.name ++ "')"

def noConflict (pin : Gpio.Pin) (chip : String) : Option Conflict → Except Error Unit
  | none => .ok ()
  | some c => .error (.pinInUse pin chip c)

/-- The first of some configured outputs that has a pin, one number left out. -/
def conflictAmong (outputs : List Output.Config) (pin : Gpio.Pin) (chip : String)
    (except : Option Int) : Option Conflict :=
  (outputs.find? fun o => some o.id != except && o.pin == pin && o.chip == chip).map fun o =>
    ⟨.actuator, o.id, o.name⟩

end Switchboard.Store
