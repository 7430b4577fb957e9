/-!
# Log entries

What the program reports while it works: a line of text of a level, on the channel of the part that
reports it. Filters name channels by their paths.
-/

namespace Switchboard.Log

inductive Level where
  | error
  /-- Something is wrong and was dealt with. -/
  | warn
  /-- A step of the program. -/
  | info
  /-- A detail of a step. -/
  | debug
  | trace
  deriving DecidableEq, Repr

/-- Greater for levels that show more. -/
def Level.verbosity : Level → Nat
  | .error => 1
  | .warn => 2
  | .info => 3
  | .debug => 4
  | .trace => 5

def Level.label : Level → String
  | .error => "ERROR"
  | .warn => "WARN"
  | .info => "INFO"
  | .debug => "DEBUG"
  | .trace => "TRACE"

def Level.name : Level → String
  | .error => "error"
  | .warn => "warn"
  | .info => "info"
  | .debug => "debug"
  | .trace => "trace"

def Level.all : List Level := [.error, .warn, .info, .debug, .trace]

/-- The part of the program that an entry comes from. -/
inductive Channel where
  | program
  | gpio
  | board
  | bench
  | driver
  | interlock
  | pulse
  | store
  deriving DecidableEq, Repr

/-- The path that filters name a channel by. -/
def Channel.path : Channel → String
  | .program => "rtu_cli"
  | .gpio => "rtu_outputs::io::gpio"
  | .board => "rtu_outputs::io::gpio::registry"
  | .bench => "rtu_outputs::io::gpio::dummy"
  | .driver => "rtu_outputs::output::driver"
  | .interlock => "rtu_outputs::output::interlock"
  | .pulse => "rtu_outputs::output::pulse"
  | .store => "rtu_outputs::persistence::database"

structure Entry where
  level : Level
  channel : Channel
  text : String
  deriving DecidableEq, Repr

/-- The line that an entry is printed as. -/
def Entry.line (e : Entry) : String :=
  e.level.label ++ " " ++ e.text

end Switchboard.Log
