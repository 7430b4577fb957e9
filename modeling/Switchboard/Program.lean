import Switchboard.Control
import Switchboard.Gpio.Backend
import Switchboard.Log.Filter
import Switchboard.Report.File

/-!
# The program

The program as a whole: it reads its settings and its log filter, reaches its pins, opens its store,
makes its drivers, works in rounds until a signal ends it, and stops in order. What it leaves are lines:
some told directly, and those entries of the log that the filter shows at the time.
-/

namespace Switchboard

/-- A line that the program leaves. -/
inductive Line where
  | told (text : String)
  /-- A complaint, before there is a log. -/
  | complaint (text : String)
  | logged (entry : Log.Entry)

def Line.told? : Line → Option String
  | .told s => some s
  | _ => none

def Line.complaint? : Line → Option String
  | .complaint s => some s
  | _ => none

def Line.logged? : Line → Option String
  | .logged e => some e.line
  | _ => none

/-- Where a program runs: files, and stores with their paths. -/
structure Place where
  files : Files
  stores : List (List String × Store)

namespace Place

/-- Opens the store at a path, with its tables. Where there is none a new one is made, if its folder is
there and its place is free. -/
def open? (p : Place) (path : List String) : Option Store :=
  match p.stores.lookup path with
  | some store => some store.migrate
  | none => if p.files.holds path || !p.files.isFolder path.dropLast then none else some .empty

def keep (p : Place) (path : List String) (store : Store) : Place :=
  { p with stores := (path, store) :: p.stores.filter fun e => e.1 != path }

end Place

/-- What ends the program or changes its filter from outside. -/
inductive Signal where
  | terminate
  /-- It is to read its filter again, and to stop. -/
  | hangup
  deriving DecidableEq, Repr

/-- A program that runs. -/
structure Program where
  settings : Settings
  filter : Log.Filter
  place : Place
  store : Option Store
  rig : Rig
  serials : List Nat
  lines : List Line

namespace Program

/-! ## Starting -/

inductive Failure where
  /-- There are no settings to read. -/
  | noSettings (file : String)
  /-- The settings make no sense. -/
  | badSettings (file : String)
  | noBackend (error : Gpio.Error)
  /-- The backend does not start. -/
  | noLines (backend : String) (error : Gpio.Error)
  /-- The store does not open. -/
  | noStore (path : String)
  /-- The outputs of the store are not known. -/
  | noOutputs (error : Store.Error)
  deriving DecidableEq, Repr

/-- The wording of a failure, without what the system says. -/
def Failure.message : Failure → String
  | .noSettings file => "Unable to read config file " ++ file
  | .badSettings file => "Error reading config file " ++ file
  | .noBackend e => "No GPIO backend: " ++ e.message
  | .noLines backend e => "Failed to initialise " ++ backend ++ " GPIO: " ++ e.message
  | .noStore path => "Failed to open database " ++ path ++ ": " ++ Store.Error.database.message
  | .noOutputs e => "Failed to load actuators: " ++ e.message

/-- The file of the settings, if it is not named. -/
def settingsFile : String := "rtu_outputs.toml"

def settings? (place : Place) (file : String) : Except Failure Settings :=
  match place.files.read? (Files.path file) with
  | none => .error (.noSettings file)
  | some s =>
    match Settings.parse? s with
    | none => .error (.badSettings file)
    | some settings => .ok settings

/-- The filter in the file of filters. -/
def readFilter (place : Place) : Except Log.Filter.ReadError Log.Filter :=
  Log.Filter.ofFile (place.files.read? [Log.Filter.fileName])

/-- The lines that a filter shows of some entries. -/
def shown (filter : Log.Filter) (entries : List Log.Entry) : List Line :=
  (entries.filter filter.shows).map .logged

def firstFilter (place : Place) : Log.Filter × List Line :=
  match readFilter place with
  | .ok filter => (filter, [.told ("Env Filter: " ++ filter.text)])
  | .error e =>
    (.default, [
      .complaint ("Failed to read env filter, using environment variable or default: " ++ e.message),
      .told ("Env Filter: " ++ Log.Filter.default.text)])

/-- Opens the store that settings name, if they do. -/
def openStore (s : Settings) (place : Place) : Except Failure (Option Store × List Log.Entry) :=
  match s.database with
  | none => .ok (none, [])
  | some path =>
    match place.open? (Files.path path) with
    | none => .error (.noStore path)
    | some store => .ok (some store, [⟨.info, .store, "Opened actuator database " ++ path⟩])

/-- Starts the backend that settings ask for. Drivers work on the bench; the lines of any other backend
are not there. -/
def startBackend (s : Settings) : Except Failure Unit × List Log.Entry :=
  let (backend, entries) := Gpio.Backend.select Gpio.Backend.bareSystem s.gpio
  let started := match backend with
    | .error e => .error (.noBackend e)
    | .ok b =>
      match b.access Gpio.Backend.bareSystem .init with
      | (.error e, b) => .error (.noLines b.name e)
      | (.ok _, .bench _) => .ok ()
      | (.ok _, b) => .error (.noLines b.name .noLine)
  (started, entries)

/-- What drivers need: the store, the drivers' serials and the rig. -/
structure Launched where
  store : Option Store
  serials : List Nat
  rig : Rig

/-- The rig without its log, and the log. -/
def takeLog (r : Rig) : Rig × List Log.Entry :=
  ({ r with plant := { r.plant with log := [] } }, r.plant.log)

/-- Reaches the pins, opens the store and makes the drivers. -/
def launch (s : Settings) (place : Place) (wall : Timestamp) : Except Failure Launched × List Log.Entry :=
  match startBackend s with
  | (.error e, entries) => (.error e, entries)
  | (.ok (), entries) =>
    match openStore s place with
    | .error e => (.error e, entries)
    | .ok (store, opened) =>
      match Startup.createDrivers s store (Startup.rig s wall) with
      | .error e => (.error (.noOutputs e), entries ++ opened)
      | .ok (serials, r) =>
        let (r, made) := takeLog r
        (.ok ⟨store, serials, r⟩, entries ++ opened ++ made)

/-- The program with the shown part of its rig's log in its lines. -/
def flush (p : Program) : Program :=
  let (rig, entries) := takeLog p.rig
  { p with rig, lines := p.lines ++ shown p.filter entries }

def note (p : Program) (level : Log.Level) (text : String) : Program :=
  flush { p with rig := Startup.note p.rig level text }

/-- Starts the program, with the name of its settings if it was given one. If it fails, what is left are
lines. -/
def start (place : Place) (file : Option String) (wall : Timestamp) : Except (List Line) Program :=
  let opening : List Line := [.told "Preparing..."]
  match settings? place (file.getD settingsFile) with
  | .error e => .error (opening ++ [.complaint e.message])
  | .ok settings =>
    let (filter, about) := firstFilter place
    let opening := opening ++ about
    match launch settings place wall with
    | (.error e, entries) =>
      .error (opening ++ shown filter (entries ++ [⟨.error, .program, e.message⟩]))
    | (.ok l, entries) =>
      let p : Program :=
        { settings, filter, place, store := l.store, rig := l.rig, serials := l.serials
          lines := opening ++ shown filter entries }
      let p := if l.serials.isEmpty then p.note .warn "No outputs configured" else p
      .ok (p.note .info ("Beginning control loop with " ++ toString l.serials.length ++ " outputs"))

/-! ## Running -/

/-- One round: every driver is processed, and the report written if there is to be one. -/
def round (p : Program) : Program :=
  let p := flush { p with rig := Control.process p.serials p.rig }
  match p.settings.control.statusFile with
  | none => p
  | some path =>
    let (result, files) := (Control.report p.serials p.rig).writeTo p.place.files (Files.path path)
    let p := { p with place := { p.place with files } }
    match result with
    | .ok () => p
    | .error e => p.note .warn e.message

def save (p : Program) : Program :=
  let (store, rig) := Control.persist? p.serials p.store p.rig
  flush { p with store, rig }

/-- Reads the filter again. One that cannot be read changes nothing. -/
def reload (p : Program) : Program :=
  match readFilter p.place with
  | .ok filter => { p with filter }.note .info ("Reloaded log level: " ++ filter.text)
  | .error e => p.note .warn ("Keeping log level: " ++ e.message)

/-- Takes a signal. Either one ends the program. -/
def receive (p : Program) (s : Signal) : Program :=
  let p := { p with lines := p.lines ++ [.told "Received termination signal."] }
  match s with
  | .terminate => p
  | .hangup => p.reload

/-- Stops: every output is switched off, saved and given up, and the store is put back. -/
def stop (p : Program) : Program :=
  let (store, rig) := Control.stop p.serials p.store p.rig
  let place := match store, p.settings.database with
    | some store, some path => p.place.keep (Files.path path) store
    | _, _ => p.place
  flush { p with store, rig, place }

/-- What a program leaves in the end. -/
structure Left where
  succeeded : Bool
  lines : List Line
  place : Place

/-- A short run: the states are saved and a round is done; then, where there is a new text for the file of
the filter, the program is told to read it, and it ends either way. -/
def run (place : Place) (file : Option String) (wall : Timestamp) (filter : Option String) : Left :=
  match start place file wall with
  | .error lines => ⟨false, lines, place⟩
  | .ok p =>
    let p := p.save.round
    let p := match filter with
      | none => p.receive .terminate
      | some s =>
        let files := (p.place.files.write? [Log.Filter.fileName] s).getD p.place.files
        { p with place := { p.place with files } }.receive .hangup
    let p := p.stop
    ⟨true, p.lines, p.place⟩

end Program

end Switchboard
