import Switchboard.Output.Config
import Switchboard.Time.Timestamp

/-!
# Output status

What an output reports of itself, and what it refuses with. A lockout is a reason to be off; two of
the reasons are latched, and stay until they are cleared by hand.
-/

namespace Switchboard.Output

/-- What is known of an output. -/
inductive State where
  | off
  | on
  | error
  | unknown
  deriving DecidableEq, Repr

def State.label : State → String
  | .off => "OFF"
  | .on => "ON"
  | .error => "ERROR"
  | .unknown => "UNKNOWN"

/-- Why an output refused a change of its state, or was forced out of one. -/
inductive Lockout where
  /-- It has not been off for long enough. -/
  | minOffTime
  /-- It has not been on for long enough. -/
  | minOnTime
  /-- Another output of its group is on. -/
  | interlockActive
  | autoShutoff
  | emergencyStop
  deriving DecidableEq, Repr

namespace Lockout

def all : List Lockout := [minOffTime, minOnTime, interlockActive, autoShutoff, emergencyStop]

def name : Lockout → String
  | minOffTime => "MinOffTime"
  | minOnTime => "MinOnTime"
  | interlockActive => "InterlockActive"
  | autoShutoff => "AutoShutoff"
  | emergencyStop => "EmergencyStop"

def text : Lockout → String
  | minOffTime => "Min off time"
  | minOnTime => "Min on time"
  | interlockActive => "Interlock active"
  | autoShutoff => "Auto shutoff"
  | emergencyStop => "Emergency stop"

/-- The reason stays until it is cleared by hand. -/
def isLatched : Lockout → Bool
  | autoShutoff | emergencyStop => true
  | _ => false

end Lockout

/-- What an output reports of itself. -/
structure Status where
  state : State
  /-- The duty it was last switched to. -/
  duty : Single
  lastChange : Option Timestamp
  lastOn : Option Timestamp
  lastOff : Option Timestamp
  /-- How long it was on in all, in milliseconds. -/
  total : UInt64
  cycles : UInt32
  lockout : Bool
  reason : Option Lockout
  deriving DecidableEq, Repr

namespace Status

/-- The status of an output that has not been switched. -/
def initial : Status := ⟨.unknown, Duty.zero, none, none, none, 0, 0, false, none⟩

def isOn (s : Status) : Bool :=
  s.state == .on

/-- The latched reason that keeps it off. -/
def latched? (s : Status) : Option Lockout :=
  s.reason.filter fun r => s.lockout && r.isLatched

/-- A reason keeps it off. -/
def lock (s : Status) (r : Lockout) : Status :=
  { s with lockout := true, reason := some r }

/-- A command was refused: its reason is shown unless a latched one is. -/
def refuse (s : Status) (r : Lockout) : Status :=
  if s.latched?.isNone then s.lock r else s

/-- Nothing keeps it off. -/
def unlock (s : Status) : Status :=
  { s with lockout := false, reason := none }

/-- A command was carried out: only a latched reason stays. -/
def relent (s : Status) : Status :=
  if s.latched?.isNone then s.unlock else s

/-- One switching more, as far as the count goes. -/
def countCycle (s : Status) : Status :=
  { s with cycles := if s.cycles = 0xFFFFFFFF then s.cycles else s.cycles + 1 }

/-- The total has no room for time on. -/
def overflows (s : Status) (millis : Nat) : Bool :=
  2 ^ 64 ≤ s.total.toNat + millis

/-- Time on, added to the total. Where it has no room the total is a count modulo its size, unless additions
are checked. -/
def addOnTime (s : Status) (millis : Nat) : Status :=
  { s with total := s.total + .ofNat millis }

end Status

/-- Why an operation on an output failed. -/
inductive Error where
  | gpio (cause : Gpio.Error)
  | refused (reason : Lockout)
  | invalid (cause : Invalid)
  /-- The output is on another chip than the board. -/
  | wrongChip (name chip board : String)
  /-- A duty that is not a finite number. -/
  | notFinite (name : String) (duty : Single)
  /-- Nothing runs that could end a pulse. -/
  | noTimer
  deriving DecidableEq, Repr

def Error.message : Error → String
  | .gpio cause => cause.message
  | .refused reason => "refused: " ++ reason.text
  | .invalid cause => "invalid parameter: " ++ cause.message
  | .wrongChip name chip board =>
    "invalid parameter: " ++ name ++ " is on " ++ chip ++ " but the GPIO registry drives " ++ board
  | .notFinite name duty =>
    "invalid parameter: " ++ name ++ ": duty " ++ duty.text ++ " is not a number"
  | .noTimer => "not initialised: pulse needs a running tokio runtime"

def Error.kind : Error → ErrorKind
  | .gpio cause => cause.kind
  | .refused _ => .busy
  | .invalid _ | .wrongChip .. | .notFinite .. => .invalidParam
  | .noTimer => .notInitialized

end Switchboard.Output
