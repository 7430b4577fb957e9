import Switchboard.Gpio.Character
import Switchboard.Gpio.PseudoFiles
import Switchboard.Log.Entry
import Switchboard.Settings

/-!
# Backends

The ways to reach the lines of a chip, and the choice of one. Where the settings leave the choice to the
system, a device of the chip's name comes first and pseudo-files second. A device that is there may
still be none of a chip: character devices have no lines here, so that starting them fails.
-/

namespace Switchboard.Gpio

/-- A way to reach the lines of a chip. -/
inductive Backend where
  | bench (bench : Bench)
  /-- Over a character device, which has no lines. -/
  | character
  | pseudo (files : PseudoFiles)

namespace Backend

def name : Backend → String
  | .bench _ => "dummy"
  | .character => "cdev"
  | .pseudo _ => "sysfs"

/-- The backend has been started and not shut down. -/
def isInitialised : Backend → Bool
  | .bench b => b.initialised
  | .character => false
  | .pseudo p => p.initialised

/-- A system without chips: there is one device, of no chip. -/
def bareSystem : Files := ⟨[["dev"]], [(["dev", "null"], "")]⟩

/-- The kind of backend that a system offers for a chip. -/
def probe (system : Files) (chip : String) : Option BackendKind :=
  if system.holds (Files.below ["dev"] chip) then some .cdev
  else if system.holds (PseudoFiles.root ++ ["export"]) then some .sysfs
  else none

/-- The kind of backend that settings ask for on a system. -/
def resolve (system : Files) (g : GpioSettings) : Except Error BackendKind :=
  match g.backend with
  | .auto =>
    match probe system g.chip with
    | some kind => .ok kind
    | none => .error (.unsupported ("neither /dev/" ++ g.chip ++ " nor " ++ PseudoFiles.rootText
        ++ "/export exist"))
  | kind => .ok kind

/-- A backend of a kind, not started. A kind that is still open is none. -/
def ofKind (g : GpioSettings) : BackendKind → Except Error Backend
  | .dummy => .ok (.bench .new)
  | .cdev => .ok .character
  | .sysfs => .ok (.pseudo (.new g.chip g.sysfsBase))
  | .auto => .error (.badPath "backend must be resolved before construction")

/-- The backend that settings ask for on a system, and what is reported about the choice. -/
def select (system : Files) (g : GpioSettings) : Except Error Backend × List Log.Entry :=
  match resolve system g with
  | .error e => (.error e, [])
  | .ok kind =>
    (ofKind g kind, [⟨.info, .gpio, "Using " ++ kind.name ++ " GPIO backend for " ++ g.chip⟩])

/-- An access to the lines of a backend on a system. -/
def access (system : Files) (a : Access) : Backend → Answer × Backend
  | .bench b => (b.access a).map id .bench
  | .character => (Character.access a, .character)
  | .pseudo p => (p.access system a).map id .pseudo

end Backend

end Switchboard.Gpio
