import Switchboard.Store.Cell

/-!
# The store

Three tables: outputs, their state rows, and sensors. Ids are assigned in ascending order and never a
second time. Reading turns the columns of an entry into a record, and fails at the first column that
holds no value of its field; nothing is cut to size.
-/

namespace Switchboard

namespace Store

structure ActuatorEntry where
  slot : Cell
  subslot : Cell
  name : String
  kind : String
  pin : Cell
  chip : String
  activeLow : Cell
  safeState : String
  minOn : Cell
  maxOn : Cell
  frequency : Cell
  enabled : Cell
  deriving DecidableEq, Repr

def ActuatorEntry.ofRecord (r : Record) : ActuatorEntry where
  slot := .ofNat r.slot.toNat
  subslot := .ofNat r.subslot.toNat
  name := r.name
  kind := r.kind.label
  pin := .ofNat r.pin.toNat
  chip := r.chip
  activeLow := .ofBool r.activeLow
  safeState := r.safeState.label
  minOn := .ofNat r.minOn.toNat
  maxOn := .ofNat r.maxOn.toNat
  frequency := .ofNat r.frequency.toNat
  enabled := .ofBool r.enabled

/-- A value that a name must denote, in a column with a name. -/
def named {α : Type} (column : String) (ofName? : String → Option α) (s : String) : Except Error α :=
  match ofName? s with
  | some a => .ok a
  | none => .error (.badValue column s)

/-- The record of an output, read column by column. -/
def ActuatorEntry.record (id : Int) (e : ActuatorEntry) : Except Error Record := do
  let slot ← e.slot.natBelow (2 ^ 16) "slot"
  let subslot ← e.subslot.natBelow (2 ^ 16) "subslot"
  let kind ← named "type" Output.Kind.ofLabel? e.kind
  let pin ← e.pin.natBelow (2 ^ 32) "gpio_pin"
  let activeLow ← e.activeLow.bool
  let safeState ← named "safe_state" SafeState.ofLabel? e.safeState
  let minOn ← e.minOn.natBelow (2 ^ 32) "min_on_time_ms"
  let maxOn ← e.maxOn.natBelow (2 ^ 32) "max_on_time_ms"
  let frequency ← e.frequency.natBelow (2 ^ 32) "pwm_frequency_hz"
  let enabled ← e.enabled.bool
  .ok {
    id, name := e.name, kind, chip := e.chip, activeLow, safeState, enabled
    slot := .ofNat slot
    subslot := .ofNat subslot
    pin := .ofNat pin
    minOn := .ofNat minOn
    maxOn := .ofNat maxOn
    frequency := .ofNat frequency }

/-- The names of the columns of an output, its id apart. -/
def ActuatorEntry.columns : List String :=
  ["slot", "subslot", "name", "type", "gpio_pin", "gpio_chip", "active_low", "safe_state",
    "min_on_time_ms", "max_on_time_ms", "pwm_frequency_hz", "enabled"]

def ActuatorEntry.set? (e : ActuatorEntry) (column : String) (c : Cell) : Option ActuatorEntry :=
  match column with
  | "slot" => some { e with slot := c.asNumber }
  | "subslot" => some { e with subslot := c.asNumber }
  | "name" => some { e with name := c.asText }
  | "type" => some { e with kind := c.asText }
  | "gpio_pin" => some { e with pin := c.asNumber }
  | "gpio_chip" => some { e with chip := c.asText }
  | "active_low" => some { e with activeLow := c.asNumber }
  | "safe_state" => some { e with safeState := c.asText }
  | "min_on_time_ms" => some { e with minOn := c.asNumber }
  | "max_on_time_ms" => some { e with maxOn := c.asNumber }
  | "pwm_frequency_hz" => some { e with frequency := c.asNumber }
  | "enabled" => some { e with enabled := c.asNumber }
  | _ => none

structure StateEntry where
  isOn : Cell
  duty : Cell
  total : Cell
  cycles : Cell
  updated : Cell
  deriving DecidableEq, Repr

/-- The greatest number that a column holds. -/
def greatest : Nat := 2 ^ 63 - 1

/-- The columns of a row. A total beyond what a column holds is kept as the greatest number. -/
def StateEntry.ofRow (r : Row) : StateEntry where
  isOn := .ofBool r.isOn
  duty := .ofNat r.duty.toNat
  total := .ofNat (min r.total.toNat greatest)
  cycles := .ofNat r.cycles.toNat
  updated := .int r.updated.toMillis

/-- The row of an output, read column by column. -/
def StateEntry.row (id : Int) (e : StateEntry) : Except Error Row := do
  let millis ← e.updated.read
  let isOn ← e.isOn.bool
  let duty ← e.duty.natBelow (2 ^ 8) "pwm_duty"
  let total ← e.total.natBelow (2 ^ 64) "total_on_time_ms"
  let cycles ← e.cycles.natBelow (2 ^ 32) "cycle_count"
  let updated := Timestamp.ofMillis millis
  if updated.inRange then
    .ok ⟨id, isOn, .ofNat duty, .ofNat total, .ofNat cycles, updated⟩
  else .error (.badValue "updated_at" (toString millis))

/-- The names of the columns of a state row, its id apart. -/
def StateEntry.columns : List String :=
  ["is_on", "pwm_duty", "total_on_time_ms", "cycle_count", "updated_at"]

def StateEntry.set? (e : StateEntry) (column : String) (c : Cell) : Option StateEntry :=
  match column with
  | "is_on" => some { e with isOn := c.asNumber }
  | "pwm_duty" => some { e with duty := c.asNumber }
  | "total_on_time_ms" => some { e with total := c.asNumber }
  | "cycle_count" => some { e with cycles := c.asNumber }
  | "updated_at" => some { e with updated := c.asNumber }
  | _ => none

structure SensorEntry where
  name : String
  interface : String
  pin : Cell
  chip : String
  deriving DecidableEq, Repr

/-- The names of the columns of a sensor, its id apart. -/
def SensorEntry.columns : List String :=
  ["name", "interface", "gpio_pin", "gpio_chip"]

def SensorEntry.set? (e : SensorEntry) (column : String) (c : Cell) : Option SensorEntry :=
  match column with
  | "name" => some { e with name := c.asText }
  | "interface" => some { e with interface := c.asText }
  | "gpio_pin" => some { e with pin := c.asNumber }
  | "gpio_chip" => some { e with chip := c.asText }
  | _ => none

inductive TableName where
  | actuators
  | states
  | sensors
  deriving DecidableEq, Repr

def TableName.ofName? : String → Option TableName
  | "actuators" => some actuators
  | "actuator_state" => some states
  | "sensors" => some sensors
  | _ => none

/-- The column that entries of a table are found by. -/
def TableName.key : TableName → String
  | states => "actuator_id"
  | _ => "id"

/-- A table whose ids are assigned. -/
structure Numbered (α : Type) where
  entries : Table Int α
  /-- The greatest id that was assigned. -/
  last : Int

namespace Numbered

variable {α : Type}

def empty : Numbered α := ⟨.empty, 0⟩

/-- The id that the next entry gets: one more than any id so far. -/
def next (t : Numbered α) : Int :=
  (t.entries.keys.foldl max t.last) + 1

/-- Adds an entry, unless the ids are used up. -/
def add (t : Numbered α) (a : α) : Except Error (Int × Numbered α) :=
  if t.next ≤ greatest then .ok (t.next, ⟨t.entries.insert t.next a, t.next⟩) else .error .database

end Numbered

end Store

open Store (Record Row ActuatorEntry StateEntry SensorEntry Numbered TableName Cell Conflict)

/-- The store of the outputs. -/
structure Store where
  migrated : Bool
  actuators : Numbered ActuatorEntry
  /-- The state rows, by the number of the output. -/
  states : Table Int StateEntry
  sensors : Numbered SensorEntry

namespace Store

def new : Store := ⟨false, .empty, .empty, .empty⟩

def migrate (s : Store) : Store :=
  { s with migrated := true }

/-- A store with tables and nothing in them. -/
def empty : Store := new.migrate

/-- What the database does only if the tables exist. -/
def guarded {α : Type} (s : Store) (x : Except Error α) : Except Error α :=
  if s.migrated then x else .error .database

def add (s : Store) (r : Record) : Except Error (Int × Store) :=
  s.guarded do
    let (id, actuators) ← s.actuators.add (.ofRecord r)
    .ok (id, { s with actuators })

def setActuators (s : Store) (entries : Table Int ActuatorEntry) : Store :=
  { s with actuators := { s.actuators with entries } }

/-- Writes a record over the one with its id. -/
def update (s : Store) (r : Record) : Except Error Store :=
  s.guarded
    (if s.actuators.entries.contains r.id then
      .ok (s.setActuators (s.actuators.entries.insert r.id (.ofRecord r)))
    else .error (.notFound r.id))

def delete (s : Store) (id : Int) : Except Error Store :=
  s.guarded
    (if s.actuators.entries.contains id then
      .ok { s.setActuators (s.actuators.entries.erase id) with states := s.states.erase id }
    else .error (.notFound id))

def get (s : Store) (id : Int) : Except Error Record :=
  s.guarded
    (match s.actuators.entries.get? id with
    | some e => e.record id
    | none => .error (.notFound id))

/-- The records of all outputs, or of those in use, in the order of their ids. -/
def list (s : Store) (enabledOnly : Bool) : Except Error (List Record) :=
  s.guarded
    ((s.actuators.entries.entries.filter fun e => !enabledOnly || e.2.enabled == .int 1).mapM
      fun e => e.2.record e.1)

/-- Writes a state row, over the one of its output. -/
def save (s : Store) (r : Row) : Except Error Store :=
  s.guarded (.ok { s with states := s.states.insert r.id (.ofRow r) })

/-- The state row of an output, if there is one. -/
def load (s : Store) (id : Int) : Except Error (Option Row) :=
  s.guarded
    (match s.states.get? id with
    | some e => (e.row id).map some
    | none => .ok none)

/-- Adds a sensor on a pin and assigns its id. -/
def addSensor (s : Store) (name : String) (pin : Gpio.Pin) (chip : String) :
    Except Error (Int × Store) :=
  s.guarded do
    let (id, sensors) ← s.sensors.add ⟨name, "gpio", .ofNat pin.toNat, chip⟩
    .ok (id, { s with sensors })

/-- Who has a pin: the output with the least id, one left out, or else the sensor with the least. -/
def conflict? (s : Store) (pin : Gpio.Pin) (chip : String) (except : Option Int) :
    Except Error (Option Conflict) :=
  let cell := Cell.ofNat pin.toNat
  let actuator := s.actuators.entries.entries.find? fun e =>
    e.2.pin == cell && e.2.chip == chip && some e.1 != except
  let sensor := s.sensors.entries.entries.find? fun e =>
    e.2.interface == "gpio" && e.2.pin == cell && e.2.chip == chip
  s.guarded (.ok
    (match actuator with
    | some e => some ⟨.actuator, e.1, e.2.name⟩
    | none => sensor.map fun e => ⟨.sensor, e.1, e.2.name⟩))

def ensureFree (s : Store) (pin : Gpio.Pin) (chip : String) (except : Option Int) :
    Except Error Unit :=
  (s.conflict? pin chip except).bind (noConflict pin chip)

/-! ## Writing past the records -/

/-- Sets a column of one entry, and how many entries that were. The column of the ids moves the
entry. -/
def pokeEntry {α : Type} (t : Table Int α) (key : String) (columns : List String)
    (set? : α → String → Cell → Option α) (id : Int) (column : String) (c : Cell) :
    Except Error (Nat × Table Int α) :=
  match t.get? id with
  | none => if column = key ∨ column ∈ columns then .ok (0, t) else .error .database
  | some e =>
    if column = key then
      match c.asNumber with
      | .text _ => .error .database
      | .int i =>
        if i = id then .ok (1, t)
        else if t.contains i then .error .database
        else .ok (1, (t.erase id).insert i e)
    else
      match set? e column c with
      | some e => .ok (1, t.insert id e)
      | none => .error .database

/-- Sets one column of one entry to anything. The case of letters in the column's name does not count. -/
def poke (s : Store) (table : TableName) (id : Int) (column : String) (c : Cell) :
    Except Error (Nat × Store) :=
  let column := column.map Char.toLower
  s.guarded
    (match table with
    | .actuators => do
      let (n, entries) ← pokeEntry s.actuators.entries table.key ActuatorEntry.columns
        ActuatorEntry.set? id column c
      .ok (n, s.setActuators entries)
    | .states => do
      let (n, states) ← pokeEntry s.states table.key StateEntry.columns StateEntry.set? id column c
      .ok (n, { s with states })
    | .sensors => do
      let (n, entries) ← pokeEntry s.sensors.entries table.key SensorEntry.columns
        SensorEntry.set? id column c
      .ok (n, { s with sensors := { s.sensors with entries } }))

end Store

end Switchboard
