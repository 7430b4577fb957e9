import Switchboard.Output.Config

/-!
# Tuning

Settings for one output that are laid over its configuration: what a tuning gives replaces what the
configuration has.
-/

namespace Switchboard

/-- Settings over the configuration of one output. -/
structure Tuning where
  id : Int
  group : Option Interlock.Group
  /-- How long it stays off at least, in milliseconds. -/
  minOff : Option UInt32
  minDuty : Option Single
  maxDuty : Option Single
  /-- The length of its pulses in milliseconds. -/
  pulse : Option UInt32
  deriving DecidableEq, Repr

namespace Tuning

/-- The names of the fields in settings, in their order. -/
def fieldNames : List String :=
  ["id", "interlock_group", "min_off_ms", "pwm_min_duty", "pwm_max_duty", "pulse_ms"]

/-- Reads a tuning. Only the number must be given. -/
def ofValue? (v : Value) : Option Tuning := do
  let fs ← v.fields? fieldNames 1
  some {
    id := ← fs.required "id" Value.int64?
    group := ← fs.optional "interlock_group" Value.word?
    minOff := ← fs.optional "min_off_ms" Value.word?
    minDuty := ← fs.optional "pwm_min_duty" Value.single?
    maxDuty := ← fs.optional "pwm_max_duty" Value.single?
    pulse := ← fs.optional "pulse_ms" Value.word? }

def apply (t : Tuning) (c : Output.Config) : Output.Config :=
  { c with
    group := t.group.or c.group
    minOff := t.minOff.getD c.minOff
    minDuty := t.minDuty.getD c.minDuty
    maxDuty := t.maxDuty.getD c.maxDuty
    pulse := t.pulse.getD c.pulse }

end Tuning

end Switchboard
