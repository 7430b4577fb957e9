import Switchboard.Duty
import Switchboard.Text.Ascii
import Switchboard.Text.Blank
import Switchboard.Value.Decode
import Switchboard.Gpio.Basic
import Switchboard.Interlock

/-!
# Output configuration

What an output is: its kind, its pin, its wiring and the limits that it is driven under. A
configuration is valid if it has a name and its duties are in order.
-/

namespace Switchboard.Output

inductive Kind where
  | relay
  | pwm
  /-- Kept in its state by the device. -/
  | latching
  | momentary
  deriving DecidableEq, Repr

namespace Kind

def all : List Kind := [relay, pwm, latching, momentary]

def name : Kind → String
  | relay => "relay"
  | pwm => "pwm"
  | latching => "latching"
  | momentary => "momentary"

/-- The name of a kind in the store and in the log. -/
def label : Kind → String
  | relay => "RELAY"
  | pwm => "PWM"
  | latching => "LATCHING"
  | momentary => "MOMENTARY"

def ofName? (s : String) : Option Kind :=
  all.find? fun k => k.name == s

/-- The kind that a label in any case names. -/
def ofLabel? (s : String) : Option Kind :=
  all.find? fun k => Text.sameLetters k.label s

end Kind

structure Config where
  id : Int
  name : String
  kind : Kind
  pin : Gpio.Pin
  chip : String
  /-- It is energised by the low level. -/
  activeLow : Bool
  /-- The frequency of its modulation, in hertz. -/
  frequency : UInt32
  minDuty : Single
  maxDuty : Single
  /-- How long it stays on at least, in milliseconds. -/
  minOn : UInt32
  /-- How long it stays off at least, in milliseconds. -/
  minOff : UInt32
  /-- How long it may stay on, in seconds; without a limit if zero. -/
  maxOn : UInt32
  /-- The length of its pulses in milliseconds; the common length if zero. -/
  pulse : UInt32
  /-- The group of outputs that it excludes. -/
  group : Option Interlock.Group
  deriving DecidableEq, Repr

/-- The chip of an output for which none is given. -/
def defaultChip : String := "gpiochip0"

/-- The length of a pulse for which none is given, in milliseconds. -/
def defaultPulse : UInt32 := 100

inductive Invalid where
  | unnamed (id : Int)
  /-- The duties are not shares in order. -/
  | duties (name : String) (least most : Single)
  deriving DecidableEq, Repr

def Invalid.message : Invalid → String
  | .unnamed id => "output " ++ toString id ++ " has no name"
  | .duties name least most =>
    name ++ ": PWM duty bounds [" ++ least.text ++ ", " ++ most.text
      ++ "] must satisfy 0 <= min <= max <= 1"

namespace Config

/-- An output with nothing set beyond what it must have. -/
def plain (id : Int) (name : String) (kind : Kind) (pin : Gpio.Pin) : Config where
  id
  name
  kind
  pin
  chip := defaultChip
  activeLow := false
  frequency := 0
  minDuty := Duty.zero
  maxDuty := Duty.full
  minOn := 0
  minOff := 0
  maxOn := 0
  pulse := 0
  group := none

def validate (c : Config) : Except Invalid Unit :=
  if Text.allBlank c.name then .error (.unnamed c.id)
  else if Duty.isShare c.minDuty && Duty.isShare c.maxDuty && !c.maxDuty.lt c.minDuty then .ok ()
  else .error (.duties c.name c.minDuty c.maxDuty)

/-- The level that stands for on or off with this wiring. -/
def level (c : Config) (on : Bool) : Bool :=
  on != c.activeLow

/-- The duty of a command that names none. -/
def fullDuty (c : Config) (on : Bool) : Single :=
  if on then (if c.kind = .pwm then c.maxDuty else Duty.full) else Duty.zero

/-- The names of the fields in settings, in their order. -/
def fieldNames : List String :=
  ["id", "name", "type", "pin", "chip", "active_low", "pwm_frequency_hz", "pwm_min_duty",
    "pwm_max_duty", "min_on_ms", "min_off_ms", "max_on_secs", "pulse_ms", "interlock_group"]

/-- Reads a configuration. The first four fields must be given. -/
def ofValue? (v : Value) : Option Config := do
  let fs ← v.fields? fieldNames 4
  some {
    id := ← fs.required "id" Value.int64?
    name := ← fs.required "name" Value.text?
    kind := ← fs.required "type" fun v => v.choice?.bind Kind.ofName?
    pin := ← fs.required "pin" Value.word?
    chip := ← fs.withDefault "chip" Value.text? defaultChip
    activeLow := ← fs.withDefault "active_low" Value.bool? false
    frequency := ← fs.withDefault "pwm_frequency_hz" Value.word? 0
    minDuty := ← fs.withDefault "pwm_min_duty" Value.single? Duty.zero
    maxDuty := ← fs.withDefault "pwm_max_duty" Value.single? Duty.full
    minOn := ← fs.withDefault "min_on_ms" Value.word? 0
    minOff := ← fs.withDefault "min_off_ms" Value.word? 0
    maxOn := ← fs.withDefault "max_on_secs" Value.word? 0
    pulse := ← fs.withDefault "pulse_ms" Value.word? 0
    group := ← fs.optional "interlock_group" Value.word? }

theorem level_ne (c : Config) : c.level true ≠ c.level false := by
  simp [level]

end Config

end Switchboard.Output
