import Switchboard.Output.Status

/-!
# Records

What the store keeps of an output: its description, which lasts, and a row with its state and
counters, which follows the output while the program runs.
-/

namespace Switchboard.Store

/-- What an output is to do when its commands stop coming. -/
inductive SafeState where
  | off
  | on
  | hold
  deriving DecidableEq, Repr

namespace SafeState

def all : List SafeState := [off, on, hold]

def label : SafeState → String
  | off => "OFF"
  | on => "ON"
  | hold => "HOLD"

/-- The safe state that a label in any case names. -/
def ofLabel? (s : String) : Option SafeState :=
  all.find? fun x => Text.sameLetters x.label s

end SafeState

/-- The description of an output in the store. -/
structure Record where
  id : Int
  /-- Its slot on the field bus. -/
  slot : UInt16
  /-- Its place in the slot. -/
  subslot : UInt16
  name : String
  kind : Output.Kind
  pin : Gpio.Pin
  chip : String
  /-- It is energised by the low level. -/
  activeLow : Bool
  /-- What it does without commands. -/
  safeState : SafeState
  /-- How long it stays on at least, in milliseconds. -/
  minOn : UInt32
  /-- How long it may stay on, in milliseconds. -/
  maxOn : UInt32
  /-- The frequency of its modulation, in hertz. -/
  frequency : UInt32
  enabled : Bool
  deriving DecidableEq, Repr

/-- Whole seconds that are at least so many milliseconds. -/
def secondsUp (millis : UInt32) : UInt32 :=
  .ofNat ((millis.toNat + 999) / 1000)

/-- The configuration of a recorded output. What the record does not carry keeps its default. -/
def Record.config (r : Record) : Output.Config :=
  { Output.Config.plain r.id r.name r.kind r.pin with
    chip := r.chip
    activeLow := r.activeLow
    frequency := r.frequency
    minOn := r.minOn
    maxOn := secondsUp r.maxOn }

/-- The state and the counters of an output. -/
structure Row where
  id : Int
  isOn : Bool
  duty : UInt8
  /-- How long it was on in all, in milliseconds. -/
  total : UInt64
  cycles : UInt32
  updated : Timestamp
  deriving DecidableEq, Repr

def Row.ofStatus (id : Int) (s : Output.Status) (updated : Timestamp) : Row :=
  ⟨id, s.isOn, Duty.toByte s.duty, s.total, s.cycles, updated⟩

end Switchboard.Store
