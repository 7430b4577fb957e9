import Switchboard.Toml.Document
import Switchboard.Tuning

/-!
# Settings

What the program is told at its start: the chip and its backend, the interlock table, the store, how
often it works, its outputs, and tunings for the outputs of the store. Every part has defaults; what
is not known is passed over.
-/

namespace Switchboard

/-- How the pins are accessed. -/
inductive BackendKind where
  | auto
  | cdev
  | sysfs
  | dummy
  deriving DecidableEq, Repr

namespace BackendKind

def all : List BackendKind := [auto, cdev, sysfs, dummy]

def name : BackendKind → String
  | auto => "auto"
  | cdev => "cdev"
  | sysfs => "sysfs"
  | dummy => "dummy"

def ofName? (s : String) : Option BackendKind :=
  all.find? fun k => k.name == s

end BackendKind

def Interlock.Overflow.ofName? : String → Option Interlock.Overflow
  | "fail_open" => some failOpen
  | "fail_closed" => some failClosed
  | _ => none

structure GpioSettings where
  chip : String
  backend : BackendKind
  /-- The name that lines are taken under. -/
  consumer : String
  /-- How many pins may be configured; any number if zero. -/
  maxPins : Nat
  /-- The number of the chip's first line, if it is not to be looked up. -/
  sysfsBase : Option UInt32
  deriving DecidableEq, Repr

structure InterlockSettings where
  maxGroups : Nat
  overflow : Interlock.Overflow
  deriving DecidableEq, Repr

structure ControlSettings where
  /-- How often the drivers are processed, in milliseconds. -/
  interval : Nat
  /-- The file of the status report, if there is to be one. -/
  statusFile : Option String
  deriving DecidableEq, Repr

structure Settings where
  gpio : GpioSettings
  interlock : InterlockSettings
  /-- The path of the store, if there is one. -/
  database : Option String
  control : ControlSettings
  outputs : List Output.Config
  tunings : List Tuning
  deriving DecidableEq, Repr

namespace GpioSettings

def default : GpioSettings := ⟨Output.defaultChip, .auto, "rtu-outputs", 0, none⟩

def ofValue? (v : Value) : Option GpioSettings := do
  let fs ← v.fields? ["chip", "backend", "consumer", "max_pins", "sysfs_base"] 0
  some {
    chip := ← fs.withDefault "chip" Value.text? default.chip
    backend := ← fs.withDefault "backend" (fun v => v.choice?.bind BackendKind.ofName?) default.backend
    consumer := ← fs.withDefault "consumer" Value.text? default.consumer
    maxPins := ← fs.withDefault "max_pins" (Value.natBelow? (2 ^ 64)) default.maxPins
    sysfsBase := ← fs.optional "sysfs_base" Value.word? }

/-- How many pins may be configured, if there is a bound. -/
def capacity (g : GpioSettings) : Option Nat :=
  if g.maxPins = 0 then none else some g.maxPins

end GpioSettings

namespace InterlockSettings

def default : InterlockSettings := ⟨16, .failOpen⟩

def ofValue? (v : Value) : Option InterlockSettings := do
  let fs ← v.fields? ["max_groups", "overflow"] 0
  some {
    maxGroups := ← fs.withDefault "max_groups" (Value.natBelow? (2 ^ 64)) default.maxGroups
    overflow := ← fs.withDefault "overflow" (fun v => v.choice?.bind Interlock.Overflow.ofName?)
      default.overflow }

end InterlockSettings

namespace ControlSettings

def default : ControlSettings := ⟨100, none⟩

def ofValue? (v : Value) : Option ControlSettings := do
  let fs ← v.fields? ["process_interval_ms", "status_file"] 0
  some {
    interval := ← fs.withDefault "process_interval_ms" (Value.natBelow? (2 ^ 64)) default.interval
    statusFile := ← fs.optional "status_file" Value.text? }

end ControlSettings

namespace Settings

def databasePath? (v : Value) : Option String := do
  let fs ← v.fields? ["path"] 1
  fs.required "path" Value.text?

def ofValue? (v : Value) : Option Settings := do
  let fs ← v.fields? ["gpio", "interlock", "database", "control", "outputs", "tuning"] 0
  some {
    gpio := ← fs.withDefault "gpio" GpioSettings.ofValue? .default
    interlock := ← fs.withDefault "interlock" InterlockSettings.ofValue? .default
    database := ← fs.optional "database" databasePath?
    control := ← fs.withDefault "control" ControlSettings.ofValue? .default
    outputs := ← fs.withDefault "outputs" (Value.list? Output.Config.ofValue?) []
    tunings := ← fs.withDefault "tuning" (Value.list? Tuning.ofValue?) [] }

def parse? (s : String) : Option Settings :=
  (Toml.read? s).bind ofValue?

/-- The tuning of an output: the first with its number. -/
def tuning? (s : Settings) (id : Int) : Option Tuning :=
  s.tunings.find? fun t => t.id == id

/-- An output of the store under its tuning, if it has one. -/
def tuned (s : Settings) (c : Output.Config) : Output.Config :=
  match s.tuning? c.id with
  | some t => t.apply c
  | none => c

end Settings

end Switchboard
