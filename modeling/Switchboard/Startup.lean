import Switchboard.Rig
import Switchboard.Settings
import Switchboard.Store.Tables

/-!
# Startup

The outputs that settings and store name become drivers of a rig. An output that cannot be driven, since
its pin is taken or a driver refuses it, is skipped, and the log says why; the others go on. Counters of
an earlier run are taken over from the store.
-/

namespace Switchboard.Startup

/-- The outputs that are to be driven: those in use in the store, under their tunings, or those of the
settings where there is no store. -/
def outputs (s : Settings) : Option Store → Except Store.Error (List Output.Config)
  | some store => (store.list true).map (·.map fun r => s.tuned r.config)
  | none => .ok s.outputs

/-- Nothing but the output itself has its pin. -/
def ensureFree (outputs : List Output.Config) (store : Option Store) (c : Output.Config) :
    Except Store.Error Unit :=
  match store with
  | some store => store.ensureFree c.pin c.chip (some c.id)
  | none => Store.noConflict c.pin c.chip (Store.conflictAmong outputs c.pin c.chip (some c.id))

/-- The rig with an entry of the program in its log. -/
def note (r : Rig) (level : Log.Level) (text : String) : Rig :=
  { r with plant := r.plant.note level .program text }

/-- The rig with the entry about an output that is skipped. -/
def skip (c : Output.Config) (why : String) (r : Rig) : Rig :=
  note r .error ("Skipping output '" ++ c.name ++ "': " ++ why)

/-- Takes the counters of an output over from the store. -/
def restore (store : Option Store) (c : Output.Config) (serial : Nat) (r : Rig) : Rig :=
  match store with
  | none => r
  | some store =>
    match store.load c.id with
    | .ok none => r
    | .ok (some row) => (r.tell serial (.restore row.total row.cycles)).1
    | .error e => note r .warn ("Failed to load state for '" ++ c.name ++ "': " ++ e.message)

/-- Makes the driver of one output, or skips it. -/
def createDriver (outputs : List Output.Config) (store : Option Store) (c : Output.Config) (r : Rig) :
    Option Nat × Rig :=
  match ensureFree outputs store c with
  | .error e => (none, skip c e.message r)
  | .ok () =>
    match r.create c with
    | (r, .serial n) => (some n, restore store c n r)
    | (r, .outputFailed e) => (none, skip c e.message r)
    | (r, _) => (none, r)

/-- Makes the drivers of some of the outputs, in order. -/
def createSome (outputs : List Output.Config) (store : Option Store) :
    List Output.Config → Rig → List Nat × Rig
  | [], r => ([], r)
  | c :: rest, r =>
    let (made, r) := createDriver outputs store c r
    let (others, r) := createSome outputs store rest r
    (made.toList ++ others, r)

/-- Makes the drivers of all outputs: their serials in order, and the rig with them. -/
def createDrivers (s : Settings) (store : Option Store) (r : Rig) :
    Except Store.Error (List Nat × Rig) :=
  (outputs s store).map fun outputs => createSome outputs store outputs r

/-- The rig that settings describe, with its board started and no drivers. -/
def rig (s : Settings) (wall : Timestamp) : Rig :=
  .new (.new (Gpio.Board.new s.gpio.chip s.gpio.capacity).init
    (.new s.interlock.maxGroups s.interlock.overflow) wall)

end Switchboard.Startup
