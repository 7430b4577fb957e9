import Switchboard.Report
import Switchboard.Startup

/-!
# Control

What the running program does with its drivers again and again, and how it stops: every driver is
processed in order, the states are saved, and at the end every output is switched off, saved once
more and given up, whatever failed before.
-/

namespace Switchboard.Control

def drivers (r : Rig) (serials : List Nat) : List Output.Driver :=
  serials.filterMap r.drivers.get?

/-- Tells every driver the same, in order. What fails is an error in the log, after the driver's name. -/
def tellAll (c : Command) (failure : String) (serials : List Nat) (r : Rig) : Rig :=
  serials.foldl (fun r n =>
    match r.drivers.get? n with
    | none => r
    | some d =>
      match r.tell n c with
      | (r, .outputFailed e) => Startup.note r .error (d.name ++ ": " ++ failure ++ ": " ++ e.message)
      | (r, _) => r) r

def process (serials : List Nat) (r : Rig) : Rig :=
  tellAll .process "process failed" serials r

def shutdown (serials : List Nat) (r : Rig) : Rig :=
  tellAll .shutdown "failed to switch off" serials r

/-- Saves the states of some drivers. What fails is a warning in the log. -/
def saveAll : List Output.Driver → Store × Rig → Store × Rig
  | [], x => x
  | d :: rest, (store, r) =>
    match store.save (.ofStatus d.config.id d.status r.plant.clock.wall) with
    | .ok store => saveAll rest (store, r)
    | .error e =>
      saveAll rest (store, Startup.note r .warn (d.name ++ ": failed to save state: " ++ e.message))

def persist (serials : List Nat) (store : Store) (r : Rig) : Store × Rig :=
  let (store, r) := saveAll (drivers r serials) (store, r)
  (store, Startup.note r .debug ("Persisted state of " ++ toString serials.length ++ " outputs"))

/-- Saves the state of every driver if there is a store. -/
def persist? (serials : List Nat) (store : Option Store) (r : Rig) : Option Store × Rig :=
  match store with
  | none => (none, r)
  | some store =>
    let (store, r) := persist serials store r
    (some store, r)

def close (serials : List Nat) (r : Rig) : Rig :=
  serials.foldl (fun r n => (r.close n).1) r

def report (serials : List Nat) (r : Rig) : Report :=
  .collect r.plant.clock.wall (drivers r serials)

/-- Stops: every output is switched off and saved, and everything is given up. -/
def stop (serials : List Nat) (store : Option Store) (r : Rig) : Option Store × Rig :=
  let r := Startup.note r .info "Stopping safely..."
  let (store, r) := persist? serials store (shutdown serials r)
  let r := close serials r
  (store, Startup.note { r with plant := r.plant.shutdown } .info "Stopped safely.")

end Switchboard.Control
