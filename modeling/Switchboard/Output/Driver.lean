import Switchboard.Output.Status
import Switchboard.Plant

/-!
# Drivers

A driver owns the pin of one output. A command to switch passes the gates in order (a latched lockout,
the least times off and on, the interlock group) before the pin is written, and changes the status
only as far as the write succeeded. A forced switch-off passes no gate.
-/

namespace Switchboard.Output

/-- The switch-off that a pulse has scheduled. -/
structure Pulse where
  /-- What tells this pulse from all others. -/
  serial : Nat
  /-- Its number among the pulses of its output. -/
  number : Nat
  /-- When it is due, in milliseconds of the timer. -/
  due : Nat
  /-- It was cancelled, and its output stays on. -/
  cancelled : Bool
  deriving DecidableEq, Repr

/-- A driver of one output. -/
structure Driver where
  /-- What tells this driver from all others. -/
  serial : Nat
  config : Config
  status : Status
  /-- When it was last switched on, on the steady clock. -/
  onSince : Option Nat
  /-- When it was last switched off, on the steady clock. -/
  offSince : Option Nat
  /-- The pulse that no later command has replaced. -/
  pulse : Option Pulse
  pulses : Nat
  deriving DecidableEq, Repr

/-- What an operation that panics in the middle leaves of a driver and its plant. -/
structure Wreck where
  driver : Driver
  plant : Plant

/-- What an operation of a driver leaves. -/
structure Outcome where
  result : Except Error Unit
  driver : Driver
  plant : Plant
  /-- What it leaves instead where additions are checked, if it makes one that overflows. -/
  wreck : Option Wreck := none

def onOff (on : Bool) : String :=
  if on then "On" else "Off"

namespace Driver

def name (d : Driver) : String := d.config.name

/-- The identity that the driver shows to the interlock groups. -/
def token (d : Driver) : Interlock.Token := ⟨d.serial, d.config.id, d.config.name⟩

def note (d : Driver) (p : Plant) (level : Log.Level) (text : String) : Plant :=
  p.note level .driver (d.name ++ ": " ++ text)

/-! ## Creating -/

/-- The driver of an output that has not been switched. -/
def idle (serial : Nat) (config : Config) : Driver :=
  ⟨serial, config, .initial, none, none, none, 0⟩

/-- Takes the pin of an output, de-energised, and a place for its group. -/
def create (serial : Nat) (c : Config) (p : Plant) : Except Error Driver × Plant :=
  match c.validate with
  | .error e => (.error (.invalid e), p)
  | .ok () =>
    if c.chip ≠ p.board.chip then (.error (.wrongChip c.name c.chip p.board.chip), p)
    else
      match p.configure c.pin (.output (c.level false)) .disabled with
      | (.error e, p) => (.error (.gpio e), p)
      | (.ok (), p) =>
        let p := match c.group with
          | some g => (p.register g).2
          | none => p
        (.ok (idle serial c), p.note .info .driver
          ("Created " ++ c.kind.label ++ " output '" ++ c.name ++ "' on " ++ c.chip ++ " pin "
            ++ toString c.pin ++ if c.activeLow then " (active low)" else ""))

/-- Carries counters over from an earlier run. -/
def restore (d : Driver) (total : UInt64) (cycles : UInt32) : Driver :=
  { d with status := { d.status with total, cycles } }

/-! ## Groups -/

def checkInterlock (d : Driver) (p : Plant) : Bool :=
  d.config.group.all fun g => p.groups.isAvailable g d.token

def reserve? (d : Driver) (p : Plant) : Option Plant :=
  match d.config.group with
  | none => some p
  | some g => (p.groups.reserve? g d.token).map fun groups => { p with groups }

def abandon (d : Driver) (p : Plant) : Plant :=
  match d.config.group with
  | none => p
  | some g => { p with groups := p.groups.abandon g d.token }

/-- The output is on: its claim is held. -/
def confirm (d : Driver) (p : Plant) : Plant :=
  match d.config.group with
  | none => p
  | some g => p.confirm g d.token

/-- The output is off: its claim is free. -/
def free (d : Driver) (p : Plant) : Plant :=
  match d.config.group with
  | none => p
  | some g => { p with groups := p.groups.release g d.token }

/-! ## Switching -/

/-- A least time since a reading of the steady clock has not passed. -/
def isEarly (since : Option Nat) (least : UInt32) (now : Nat) : Bool :=
  since.any fun t => millisBetween t now < least.toNat

/-- The gate of the driver's own that refuses a command. -/
def refusal? (d : Driver) (now : Nat) (on : Bool) : Option Lockout :=
  match on, d.status.latched? with
  | true, some r => some r
  | true, none =>
    if !d.status.isOn && isEarly d.offSince d.config.minOff now then some .minOffTime else none
  | false, _ =>
    if d.status.isOn && isEarly d.onSince d.config.minOn now then some .minOnTime else none

def refuse (d : Driver) (p : Plant) (r : Lockout) : Outcome where
  result := .error (.refused r)
  driver := { d with status := d.status.refuse r }
  plant := d.note p .info ("refused, " ++ r.text)

/-- The driver after its output went on or off, with its times and counters. -/
def transit (d : Driver) (clock : Clock) (on : Bool) : Driver :=
  let s := d.status
  let s := match on, d.onSince with
    | false, some t => s.addOnTime (millisBetween t clock.now)
    | _, _ => s
  let s := { s.countCycle with lastChange := some clock.wall }
  if on then { d with status := { s with lastOn := some clock.wall }, onSince := some clock.now }
  else { d with status := { s with lastOff := some clock.wall }, offSince := some clock.now }

/-- What is left if the total has no room for the time on that `transit` adds: nothing is counted or dated,
and the status says on still. -/
def wreck? (d : Driver) (p : Plant) (on : Bool) : Option Wreck :=
  match on, d.onSince with
  | false, some t =>
    if d.status.overflows (millisBetween t p.clock.now) then some ⟨d, p⟩ else none
  | _, _ => none

/-- The driver and the log after a write that succeeded, to on or off with a duty. -/
def settle (d : Driver) (p : Plant) (on : Bool) (duty : Single) : Outcome :=
  let changed := on != d.status.isOn
  let d := { d with status := { d.status with duty } }
  let wreck := if changed then d.wreck? p on else none
  let d := if changed then d.transit p.clock on else d
  let p :=
    if changed then d.note p .debug (onOff on ++ " (cycle " ++ toString d.status.cycles ++ ")") else p
  ⟨.ok (), { d with status := { d.status with state := if on then .on else .off } }, p, wreck⟩

/-- The driver and the log after a write that failed. -/
def fault (d : Driver) (p : Plant) (failure : String) (e : Gpio.Error) : Outcome where
  result := .error (.gpio e)
  driver := { d with status := { d.status with state := .error } }
  plant := d.note p .error (failure ++ ": " ++ e.message)

/-- Switches on or off past the gates. -/
def apply (d : Driver) (p : Plant) (on : Bool) (duty : Single) : Outcome :=
  match d.refusal? p.clock.now on with
  | some r => d.refuse p r
  | none =>
    match if on then d.reserve? p else some p with
    | none => d.refuse p .interlockActive
    | some p =>
      match p.write d.config.pin (d.config.level on) with
      | (.error e, p) => d.fault (if on then d.abandon p else p) ("failed to switch " ++ onOff on) e
      | (.ok (), p) =>
        { d with status := d.status.relent }.settle (if on then d.confirm p else d.free p) on duty

def dropPulse (d : Driver) : Driver :=
  { d with pulse := none }

/-- A command: if it is carried out it replaces a pulse. -/
def command (d : Driver) (p : Plant) (on : Bool) (duty : Single) : Outcome :=
  let o := d.apply p on duty
  match o.result with
  | .ok () => { o with driver := o.driver.dropPulse }
  | .error _ => o

def set (d : Driver) (p : Plant) (on : Bool) : Outcome :=
  d.command p on (d.config.fullDuty on)

/-- Switches to the other position. -/
def toggle (d : Driver) (p : Plant) : Outcome :=
  d.set p !d.status.isOn

/-- Switches to a duty: within its bounds, or on above a half if the output knows no duty. -/
def setDuty (d : Driver) (p : Plant) (duty : Single) : Outcome :=
  if !duty.isFinite then ⟨.error (.notFinite d.name duty), d, p, none⟩
  else if d.config.kind = .pwm then
    let duty := duty.clamp d.config.minDuty d.config.maxDuty
    d.command p (Duty.threshold.lt duty) duty
  else d.set p (Duty.half.lt duty)

/-! ## Forced switch-off -/

/-- Switches off past no gate, and locks the output for a reason if there is one. If the write fails
the group stays claimed, since the output may still be energised. -/
def forceOff (d : Driver) (p : Plant) (reason : Option Lockout) : Outcome :=
  let d := d.dropPulse
  let d := match reason with
    | some r => { d with status := d.status.lock r }
    | none => d
  match p.write d.config.pin (d.config.level false) with
  | (.error e, p) => d.fault p "failed to de-energise" e
  | (.ok (), p) =>
    let p := d.free p
    if d.status.isOn then d.settle p false Duty.zero
    else ⟨.ok (), { d with status := { d.status with duty := Duty.zero, state := .off } }, p, none⟩

/-- The greatest time on has passed: how long the output is on, in milliseconds. -/
def overdue? (d : Driver) (now : Nat) : Option Nat :=
  if d.config.maxOn = 0 ∨ !d.status.isOn then none
  else (d.onSince.map fun t => millisBetween t now).filter (d.config.maxOn.toNat * 1000 < ·)

def process (d : Driver) (p : Plant) : Outcome :=
  match d.overdue? p.clock.now with
  | none => ⟨.ok (), d, p, none⟩
  | some millis =>
    d.forceOff
      (d.note p .warn ("on for " ++ toString millis ++ "ms (limit "
        ++ toString (d.config.maxOn.toNat * 1000) ++ "ms), shutting off"))
      (some .autoShutoff)

/-- Switches off at once and latches the lockout. -/
def emergencyStop (d : Driver) (p : Plant) : Outcome :=
  d.forceOff (d.note p .warn "emergency stop") (some .emergencyStop)

/-- Switches off in order, without a lockout. -/
def shutdown (d : Driver) (p : Plant) : Outcome :=
  d.forceOff p none

/-- Clears the lockout and leaves the output alone. -/
def resetLockout (d : Driver) (p : Plant) : Outcome where
  result := .ok ()
  driver := { d with status := d.status.unlock }
  plant := match d.status.reason with
    | some r => d.note p .info ("lockout '" ++ r.text ++ "' cleared")
    | none => p

/-- Gives the output up: it is switched off, and its group and its pin are free. -/
def close (d : Driver) (p : Plant) : Plant :=
  let p := match p.write d.config.pin (d.config.level false) with
    | (.ok (), p) => p
    | (.error e, p) => d.note p .error ("failed to switch off on release: " ++ e.message)
  let p := d.free p
  let p := match p.release d.config.pin with
    | (.ok (), p) => p
    | (.error e, p) =>
      d.note p .warn ("failed to release pin " ++ toString d.config.pin ++ ": " ++ e.message)
  let p := d.note p .debug "released"
  { p with groups := p.groups.forget d.token }

/-! ## Pulses -/

/-- The length of a pulse in milliseconds: what is asked for, or the output's own, or the common one;
zero is no length. -/
def pulseLength (d : Driver) (millis : Option UInt32) : Nat :=
  ((millis.filter (· ≠ 0)).getD (if d.config.pulse ≠ 0 then d.config.pulse else defaultPulse)).toNat

/-- Switches on, and off when the pulse is over. It replaces a pulse that is not over. -/
def startPulse (d : Driver) (p : Plant) (serial timer : Nat) (millis : Option UInt32) : Outcome :=
  let o := d.set p true
  match o.result with
  | .error _ => o
  | .ok () =>
    let length := d.pulseLength millis
    let number := o.driver.pulses + 1
    { o with
      driver := { o.driver with pulse := some ⟨serial, number, timer + length, false⟩, pulses := number }
      plant := o.plant.note .debug .pulse (d.name ++ ": pulsing for " ++ toString length ++ "ms") }

/-- The switch-off of a pulse that is over. It does nothing for a pulse that was replaced. -/
def finishPulse (d : Driver) (p : Plant) (number : Nat) : Outcome :=
  if d.pulse.any (·.number == number) then
    let o := d.dropPulse.apply p false Duty.zero
    match o.result with
    | .ok () => o
    | .error e =>
      { o with plant := o.plant.note .warn .pulse (d.name ++ ": pulse failed to switch off: " ++ e.message) }
  else ⟨.ok (), d, d.note p .debug ("pulse " ++ toString number ++ " superseded"), none⟩

/-- Switches on and off again, with nothing in between but time that no clock shows. -/
def pulseNow (d : Driver) (p : Plant) : Outcome :=
  let o := d.set p true
  match o.result with
  | .error _ => o
  | .ok () => o.driver.set o.plant false

/-- Keeps the output on at the end of a pulse. -/
def cancelPulse (d : Driver) (serial : Nat) : Driver :=
  { d with
    pulse := d.pulse.map fun q => if q.serial = serial then { q with cancelled := true } else q }

/-- The pulse waits to switch the output off. -/
def awaits (d : Driver) (serial : Nat) : Bool :=
  d.pulse.any fun q => q.serial == serial && !q.cancelled

end Driver

end Switchboard.Output
