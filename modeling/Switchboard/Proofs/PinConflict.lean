import Mathlib.Data.List.Forall2
import Switchboard.Proofs.Stored

/-!
# Who has a pin

`Store.HasPin` says who has a pin in a store, in terms of what the tables hold and not of how they are
searched: of the outputs on the pin, one left out, the one with the least id; a sensor only where there is no
such output. The tables are in the order of the ids, so the first entry that a search finds is the least one
(`Table.entries_find?_eq_some_iff`), and the store answers with whoever has the pin
(`conflict?_eq_ok_iff`).

Outputs that are configured without a store are searched in the order of their list. If that is the order of
their ids, the search agrees with the one in a store that holds the same outputs and no sensor
(`Mirrors.conflict?_eq`). For each such list there is such a store (`mirrors_holding`).
-/

namespace Switchboard

namespace Store

variable {s : Store} {pin : Gpio.Pin} {chip : String} {except : Option Int} {c : Option Conflict}
  {outputs : List Output.Config}

/-! ## Whoever has a pin -/

/-- An output of the store is on a pin, and is not the one that is left out. -/
structure Wires (s : Store) (pin : Gpio.Pin) (chip : String) (except : Option Int) (id : Int)
    (e : ActuatorEntry) : Prop where
  entry : s.actuators.entries.get? id = some e
  pin_eq : e.pin = .int pin.toNat
  chip_eq : e.chip = chip
  apart : except ≠ some id

/-- A sensor of the store is on a pin. -/
structure Senses (s : Store) (pin : Gpio.Pin) (chip : String) (id : Int) (e : SensorEntry) : Prop where
  entry : s.sensors.entries.get? id = some e
  interface_eq : e.interface = "gpio"
  pin_eq : e.pin = .int pin.toNat
  chip_eq : e.chip = chip

/-- Who has a pin. The output that is left out is no sensor, whatever its id. -/
inductive HasPin (s : Store) (pin : Gpio.Pin) (chip : String) (except : Option Int) :
    Option Conflict → Prop
  | output {id : Int} {e : ActuatorEntry} (wires : s.Wires pin chip except id e)
      (least : ∀ {id' e'}, s.Wires pin chip except id' e' → id ≤ id') :
      HasPin s pin chip except (some ⟨.actuator, id, e.name⟩)
  | sensor {id : Int} {e : SensorEntry} (unwired : ∀ {id' e'}, ¬s.Wires pin chip except id' e')
      (senses : s.Senses pin chip id e) (least : ∀ {id' e'}, s.Senses pin chip id' e' → id ≤ id') :
      HasPin s pin chip except (some ⟨.sensor, id, e.name⟩)
  | nobody (unwired : ∀ {id e}, ¬s.Wires pin chip except id e)
      (unsensed : ∀ {id e}, ¬s.Senses pin chip id e) :
      HasPin s pin chip except none

theorem wires_iff {id : Int} {e : ActuatorEntry} : s.Wires pin chip except id e ↔
    s.actuators.entries.get? id = some e ∧
      (e.pin == Cell.ofNat pin.toNat && e.chip == chip && some id != except) = true := by
  simp only [Bool.and_eq_true, beq_iff_eq, bne_iff_ne]
  constructor
  · intro h
    exact ⟨h.entry, ⟨h.pin_eq, h.chip_eq⟩, h.apart.symm⟩
  · rintro ⟨hentry, ⟨hpin, hchip⟩, hapart⟩
    exact ⟨hentry, hpin, hchip, hapart.symm⟩

theorem senses_iff {id : Int} {e : SensorEntry} : s.Senses pin chip id e ↔
    s.sensors.entries.get? id = some e ∧
      (e.interface == "gpio" && e.pin == Cell.ofNat pin.toNat && e.chip == chip) = true := by
  simp only [Bool.and_eq_true, beq_iff_eq]
  constructor
  · intro h
    exact ⟨h.entry, ⟨h.interface_eq, h.pin_eq⟩, h.chip_eq⟩
  · rintro ⟨hentry, ⟨hinterface, hpin⟩, hchip⟩
    exact ⟨hentry, hinterface, hpin, hchip⟩

/-- Whoever has a pin, there is no other. -/
theorem HasPin.unique {c' : Option Conflict} (h : s.HasPin pin chip except c)
    (h' : s.HasPin pin chip except c') : c = c' := by
  cases h with
  | @output id e wires least =>
    cases h' with
    | @output id' e' wires' least' =>
      obtain rfl : id = id' := Int.le_antisymm (least wires') (least' wires)
      cases wires.entry.symm.trans wires'.entry
      rfl
    | sensor unwired => exact absurd wires unwired
    | nobody unwired => exact absurd wires unwired
  | @sensor id e unwired senses least =>
    cases h' with
    | output wires' => exact absurd wires' unwired
    | @sensor id' e' unwired' senses' least' =>
      obtain rfl : id = id' := Int.le_antisymm (least senses') (least' senses)
      cases senses.entry.symm.trans senses'.entry
      rfl
    | nobody unwired' unsensed => exact absurd senses unsensed
  | nobody unwired unsensed =>
    cases h' with
    | output wires => exact absurd wires unwired
    | sensor unwired' senses => exact absurd senses unsensed
    | nobody => rfl

/-- A store with tables answers, and with whoever has the pin. -/
theorem conflict?_hasPin (hm : s.migrated = true) (pin : Gpio.Pin) (chip : String) (except : Option Int) :
    ∃ c, s.conflict? pin chip except = .ok c ∧ s.HasPin pin chip except c := by
  unfold conflict? guarded
  rw [if_pos hm]
  refine ⟨_, rfl, ?_⟩
  cases ha : s.actuators.entries.entries.find? fun e =>
      e.2.pin == Cell.ofNat pin.toNat && e.2.chip == chip && some e.1 != except with
  | some x =>
    obtain ⟨id, e⟩ := x
    obtain ⟨hentry, hp, hleast⟩ := Table.entries_find?_eq_some_iff.1 ha
    refine .output (wires_iff.2 ⟨hentry, hp⟩) fun hw => ?_
    obtain ⟨hentry', hp'⟩ := wires_iff.1 hw
    exact hleast _ _ hentry' hp'
  | none =>
    have hunwired {id e} : ¬s.Wires pin chip except id e := by
      intro hw
      obtain ⟨hentry, hp⟩ := wires_iff.1 hw
      cases hp.symm.trans (Table.entries_find?_eq_none_iff.1 ha id e hentry)
    cases hb : s.sensors.entries.entries.find? fun e =>
        e.2.interface == "gpio" && e.2.pin == Cell.ofNat pin.toNat && e.2.chip == chip with
    | some x =>
      obtain ⟨id, e⟩ := x
      obtain ⟨hentry, hp, hleast⟩ := Table.entries_find?_eq_some_iff.1 hb
      refine .sensor hunwired (senses_iff.2 ⟨hentry, hp⟩) fun hs => ?_
      obtain ⟨hentry', hp'⟩ := senses_iff.1 hs
      exact hleast _ _ hentry' hp'
    | none =>
      refine .nobody hunwired fun hs => ?_
      obtain ⟨hentry, hp⟩ := senses_iff.1 hs
      cases hp.symm.trans (Table.entries_find?_eq_none_iff.1 hb _ _ hentry)

theorem conflict?_eq_ok_iff (hm : s.migrated = true) :
    s.conflict? pin chip except = .ok c ↔ s.HasPin pin chip except c := by
  obtain ⟨c', hc', hp⟩ := conflict?_hasPin hm pin chip except
  constructor
  · intro hc
    cases hc.symm.trans hc'
    exact hp
  · intro hc
    rw [hc.unique hp]
    exact hc'

/-! ## A pin that is free -/

/-- A conflict is an error that names it, and there is no other error. -/
theorem noConflict_eq_error_iff {e : Error} :
    noConflict pin chip c = .error e ↔ ∃ c', c = some c' ∧ e = .pinInUse pin chip c' := by
  cases c with
  | none => simp [noConflict]
  | some c' => simp [noConflict, eq_comm]

theorem ensureFree_eq_error_iff (hm : s.migrated = true) {e : Error} :
    s.ensureFree pin chip except = .error e ↔
      ∃ c, s.conflict? pin chip except = .ok (some c) ∧ e = .pinInUse pin chip c := by
  obtain ⟨c', hc', -⟩ := conflict?_hasPin hm pin chip except
  rw [ensureFree, hc', Except.bind, noConflict_eq_error_iff]
  simp only [Except.ok.injEq]

/-! ## The same outputs without a store -/

/-- An entry is that of an output, as far as its pin is concerned. -/
structure Depicts (o : Output.Config) (x : Int × ActuatorEntry) : Prop where
  id_eq : x.1 = o.id
  name_eq : x.2.name = o.name
  pin_eq : x.2.pin = .ofNat o.pin.toNat
  chip_eq : x.2.chip = o.chip

/-- A store holds some outputs, and no others and no sensor. -/
structure Mirrors (s : Store) (outputs : List Output.Config) : Prop where
  migrated : s.migrated = true
  entries : List.Forall₂ Depicts outputs s.actuators.entries.entries
  sensors : s.sensors.entries.entries = []

theorem Depicts.on_pin {o : Output.Config} {x : Int × ActuatorEntry} (h : Depicts o x) :
    (x.2.pin == Cell.ofNat pin.toNat && x.2.chip == chip && some x.1 != except) =
      (some o.id != except && o.pin == pin && o.chip == chip) := by
  rw [h.id_eq, h.pin_eq, h.chip_eq, Bool.and_comm, Bool.and_assoc, Bool.eq_iff_iff]
  simp only [Bool.and_eq_true, beq_iff_eq, bne_iff_ne, ofNat_eq_iff]

theorem find?_of_depicts {l : List (Int × ActuatorEntry)} (h : List.Forall₂ Depicts outputs l) :
    (l.find? fun x => x.2.pin == Cell.ofNat pin.toNat && x.2.chip == chip && some x.1 != except).map
        (fun x => Conflict.mk .actuator x.1 x.2.name) =
      conflictAmong outputs pin chip except := by
  unfold conflictAmong
  induction h with
  | nil => rfl
  | @cons o x outputs l ho _ ih =>
    rw [List.find?_cons, List.find?_cons, ho.on_pin]
    split
    · rw [Option.map_some, Option.map_some, ho.id_eq, ho.name_eq]
    · exact ih

/-- The search among outputs agrees with the one in a store that holds them. -/
theorem Mirrors.conflict?_eq (h : s.Mirrors outputs) :
    s.conflict? pin chip except = .ok (conflictAmong outputs pin chip except) := by
  unfold conflict? guarded
  rw [if_pos h.migrated, ← find?_of_depicts h.entries, h.sensors]
  cases s.actuators.entries.entries.find? fun e =>
    e.2.pin == Cell.ofNat pin.toNat && e.2.chip == chip && some e.1 != except <;> rfl

/-- The entry of a configured output. It has no slot, and no limit of its own. -/
def entryOf (o : Output.Config) : ActuatorEntry :=
  .ofRecord
    { id := o.id, slot := 0, subslot := 0, name := o.name, kind := o.kind, pin := o.pin, chip := o.chip,
      activeLow := o.activeLow, safeState := .off, minOn := o.minOn, maxOn := 0, frequency := o.frequency,
      enabled := true }

/-- The store that holds some outputs in the order of their ids. -/
def holding (outputs : List Output.Config) (h : outputs.Pairwise fun o o' => o.id < o'.id) : Store :=
  empty.setActuators
    { entries := outputs.map fun o => (o.id, entryOf o)
      ascending := by
        rw [List.pairwise_map]
        exact h }

theorem mirrors_holding (h : outputs.Pairwise fun o o' => o.id < o'.id) :
    (holding outputs h).Mirrors outputs := by
  refine ⟨rfl, ?_, rfl⟩
  refine List.forall₂_map_right_iff.2 (List.forall₂_same.2 fun o _ => ?_)
  exact ⟨rfl, rfl, rfl, rfl⟩

/-- A store with tables answers with whoever has a pin, and a pin that someone has is refused with who it is.
The search among outputs in the order of their ids gives the answers of every store that holds them and no
sensor, and there is one. -/
theorem conflicts_exact :
    (∀ s : Store, s.migrated = true → ∀ pin chip except,
      (∃ c, s.conflict? pin chip except = .ok c) ∧
      (∀ c, s.conflict? pin chip except = .ok c ↔ s.HasPin pin chip except c) ∧
      ∀ e, s.ensureFree pin chip except = .error e ↔
        ∃ c, s.conflict? pin chip except = .ok (some c) ∧ e = .pinInUse pin chip c) ∧
    ∀ outputs : List Output.Config, (outputs.Pairwise fun o o' => o.id < o'.id) →
      (∃ s : Store, s.Mirrors outputs) ∧
      (∀ s : Store, s.Mirrors outputs → ∀ pin chip except,
        s.conflict? pin chip except = .ok (conflictAmong outputs pin chip except)) ∧
      ∀ pin chip except e, noConflict pin chip (conflictAmong outputs pin chip except) = .error e ↔
        ∃ c, conflictAmong outputs pin chip except = some c ∧ e = .pinInUse pin chip c := by
  refine ⟨fun s hm pin chip except => ⟨?_, fun c => conflict?_eq_ok_iff hm, fun e =>
    ensureFree_eq_error_iff hm⟩, fun outputs h => ⟨⟨_, mirrors_holding h⟩, fun s hs pin chip except =>
    hs.conflict?_eq, fun pin chip except e => noConflict_eq_error_iff⟩⟩
  obtain ⟨c, hc, -⟩ := conflict?_hasPin hm pin chip except
  exact ⟨c, hc⟩

/-- An inlet valve and a float switch that share a line and have the same id. -/
def shared : Store :=
  (holding [.plain 1 "inlet valve" .relay 17] (by decide)).after [.addSensor "float switch" 17 Output.defaultChip]

/-- Two valves on one line. -/
def rivals : List Output.Config :=
  [.plain 1 "inlet valve" .relay 17, .plain 4 "drain valve" .relay 17]

/-- Where the valve is left out the switch still has the line, and where the first of the two valves is left
out the second has it, with a store and without. -/
theorem shared_conflicts :
    shared.HasPin 17 Output.defaultChip (some 1) (some ⟨.sensor, 1, "float switch"⟩) ∧
      shared.ensureFree 17 Output.defaultChip (some 1) =
        .error (.pinInUse 17 Output.defaultChip ⟨.sensor, 1, "float switch"⟩) ∧
      ∃ s : Store, s.Mirrors rivals ∧ s.conflict? 17 Output.defaultChip (some 1) =
        .ok (some ⟨.actuator, 4, "drain valve"⟩) := by
  obtain ⟨-, hanswer, hfree⟩ := conflicts_exact.1 shared rfl 17 Output.defaultChip (some 1)
  have hsensor : shared.conflict? 17 Output.defaultChip (some 1) =
      .ok (some ⟨.sensor, 1, "float switch"⟩) := by rfl
  obtain ⟨⟨s, hs⟩, hagree, -⟩ := conflicts_exact.2 rivals (by decide)
  exact ⟨(hanswer _).1 hsensor, (hfree _).2 ⟨_, hsensor, rfl⟩, s, hs,
    (hagree s hs 17 Output.defaultChip (some 1)).trans rfl⟩

end Store

end Switchboard
