import Switchboard.Control
import Switchboard.Proofs.Parts
import Switchboard.Proofs.StartupStore

/-!
# Restarts

The states of the drivers are saved as rows, one for each driver (`persist_eq`), and the outputs of the
drivers have different ids, so that no row is written over another. A start reads the rows back. Which
outputs get a driver does not depend on the rows. So a second start makes the same drivers as the first, and
each goes on with the counters that it was saved with (`createDrivers_persisted`).
-/

namespace Switchboard

open Output (Config Driver)
open Store (Record Row)

namespace Control

/-- The rows that the states of drivers are saved as. -/
def rows (ds : List Driver) (wall : Timestamp) : List Row :=
  ds.map fun d => .ofStatus d.config.id d.status wall

theorem saveAll_eq {store : Store} (h : store.migrated = true) (ds : List Driver) (r : Rig) :
    saveAll ds (store, r) = (store.after ((rows ds r.plant.clock.wall).map .save), r) := by
  induction ds generalizing store with
  | nil => rfl
  | cons d rest ih =>
    have hs : store.save (.ofStatus d.config.id d.status r.plant.clock.wall) =
        .ok { store with
          states := store.states.insert d.config.id
            (.ofRow (.ofStatus d.config.id d.status r.plant.clock.wall)) } := if_pos h
    rw [rows, List.map_cons, List.map_cons, Store.after_cons (c := .save _) hs]
    simp only [saveAll, hs]
    exact ih h

/-- All states are saved. -/
theorem persist_eq {store : Store} (h : store.migrated = true) (serials : List Nat) (r : Rig) :
    persist serials store r =
      (store.after ((rows (drivers r serials) r.plant.clock.wall).map .save),
        Startup.note r .debug ("Persisted state of " ++ toString serials.length ++ " outputs")) := by
  unfold persist
  rw [saveAll_eq h]

end Control

namespace Startup

variable {outputs : List Config} {store : Option Store} {c : Config} {r : Rig}

/-! ## Serials -/

theorem note_wellFormed (hw : r.WellFormed) (level : Log.Level) (text : String) :
    (note r level text).WellFormed :=
  hw.of_claims rfl rfl (Nat.le_refl _) hw.owner

theorem restore_wellFormed (hw : r.WellFormed) (serial : Nat) :
    (restore store c serial r).WellFormed := by
  unfold restore
  split
  · exact hw
  · split
    · exact hw
    · rename_i row _
      exact hw.step (.command serial (.restore row.total row.cycles))
    · exact note_wellFormed hw ..

theorem createDriver_wellFormed (hw : r.WellFormed) : (createDriver outputs store c r).2.WellFormed := by
  have hcreate : (r.create c).1.WellFormed := hw.step (.create c)
  unfold createDriver
  split
  · exact note_wellFormed hw ..
  · generalize r.create c = x at hcreate ⊢
    obtain ⟨r', reply⟩ := x
    cases reply with
    | serial n => exact restore_wellFormed hcreate n
    | outputFailed e => exact note_wellFormed hcreate ..
    | _ => exact hcreate

theorem createSome_wellFormed (hw : r.WellFormed) (cs : List Config) :
    (createSome outputs store cs r).2.WellFormed := by
  induction cs generalizing r with
  | nil => exact hw
  | cons c rest ih => exact ih (createDriver_wellFormed hw)

/-- Drivers that a start makes are made one after another. -/
theorem createSome_of_createDrivers {s : Settings} {r₀ : Rig} {serials : List Nat}
    (h : createDrivers s store r₀ = .ok (serials, r)) :
    ∃ outputs, createSome outputs store outputs r₀ = (serials, r) := by
  unfold createDrivers at h
  cases ho : Startup.outputs s store with
  | error e =>
    rw [ho] at h
    cases h
  | ok outputs =>
    rw [ho] at h
    exact ⟨outputs, Except.ok.inj h⟩

theorem createDrivers_wellFormed {s : Settings} {wall : Timestamp} {serials : List Nat}
    (h : createDrivers s store (rig s wall) = .ok (serials, r)) : r.WellFormed := by
  have hw : (rig s wall).WellFormed := ⟨nofun, nofun, fun _ => rfl, nofun⟩
  obtain ⟨outputs, hmade⟩ := createSome_of_createDrivers h
  obtain rfl : (createSome outputs store outputs (rig s wall)).2 = r := congrArg Prod.snd hmade
  exact createSome_wellFormed hw outputs

/-! ## Drivers of a run -/

section Run

variable {s : Settings} {store : Store} {made : List Config} {serials : List Nat} {r : Rig}
  {wall : Timestamp}

/-- The drivers that a start made are there after a run in which none of them is given up. -/
theorem Driven.run (h : Driven s store made serials r) (hw : r.WellFormed) {es : List Event}
    (hopen : ∀ n ∈ serials, Event.close n ∉ es) :
    List.Forall₂ (fun n c => ∃ d, (r.run es).drivers.get? n = some d ∧ d.config = c) serials made := by
  refine ((List.forall₂_and_left ..).2 ⟨hopen, h.drivers⟩).imp fun n c hn => ?_
  obtain ⟨hn, row?, -, hd⟩ := hn
  obtain ⟨d, hd'⟩ := Rig.run_kept hw hd hn
  exact ⟨d, hd', Rig.run_config hw hd hd'⟩

theorem drivers_config
    (h : List.Forall₂ (fun n c => ∃ d, r.drivers.get? n = some d ∧ d.config = c) serials made) :
    (Control.drivers r serials).map (·.config) = made := by
  induction h with
  | nil => rfl
  | cons hd _ ih =>
    obtain ⟨d, hd, hconfig⟩ := hd
    rw [Control.drivers, List.filterMap_cons_some hd, List.map_cons, hconfig]
    exact congrArg _ ih

/-- Drivers of different outputs have different rows. -/
theorem rows_apart
    (h : List.Forall₂ (fun n c => ∃ d, r.drivers.get? n = some d ∧ d.config = c) serials made)
    (hids : made.Pairwise fun c c' => c.id < c'.id) :
    (Control.rows (Control.drivers r serials) wall).Pairwise fun row row' => row.id ≠ row'.id := by
  rw [← drivers_config h, List.pairwise_map] at hids
  exact List.pairwise_map.2 (hids.imp Int.ne_of_lt)

/-- The state of every driver is read back. -/
theorem load_persisted (hs : store.Sound)
    (h : List.Forall₂ (fun n c => ∃ d, r.drivers.get? n = some d ∧ d.config = c) serials made)
    (hids : made.Pairwise fun c c' => c.id < c'.id) (hmoment : r.plant.clock.wall.IsMoment) {n : Nat}
    {d : Driver} (hn : n ∈ serials) (hd : r.drivers.get? n = some d) :
    (Control.persist serials store r).1.load d.config.id =
      .ok (some (Row.ofStatus d.config.id d.status r.plant.clock.wall).cut) := by
  have hmem : d ∈ Control.drivers r serials := List.mem_filterMap.2 ⟨n, hn, hd⟩
  rw [Control.persist_eq hs.migrated]
  exact hs.load_saves (rows_apart h hids) (List.mem_map_of_mem hmem) hmoment

theorem persist_sound (serials : List Nat) (hs : store.Sound) (hmoment : r.plant.clock.wall.IsMoment) :
    (Control.persist serials store r).1.Sound := by
  rw [Control.persist_eq hs.migrated]
  refine hs.after fun c hc => ?_
  obtain ⟨row, hrow, rfl⟩ := List.mem_map.1 hc
  obtain ⟨d, -, rfl⟩ := List.mem_map.1 hrow
  exact hmoment

theorem persist_lists (serials : List Nat) (r : Rig) {records : List Record} (hl : store.Lists records) :
    (Control.persist serials store r).1.Lists records := by
  rw [Control.persist_eq hl.migrated]
  exact hl.saves _

/-- Which outputs get a driver does not depend on the state rows. -/
theorem persist_chosen (serials : List Nat) (r : Rig) (h : store.migrated = true) (s : Settings)
    (records : List Record) :
    chosen s (Control.persist serials store r).1 records = chosen s store records := by
  rw [Control.persist_eq h, Store.after_saves h]
  rfl

/-- Saving leaves the outputs and the sensors, and the rows of outputs without a driver. -/
theorem persist_frame (serials : List Nat) (r : Rig) (h : store.migrated = true) :
    (Control.persist serials store r).1.actuators = store.actuators ∧
      (Control.persist serials store r).1.sensors = store.sensors ∧
      ∀ id, (∀ n ∈ serials, ∀ d, r.drivers.get? n = some d → d.config.id ≠ id) →
        (Control.persist serials store r).1.states.get? id = store.states.get? id := by
  rw [Control.persist_eq h, Store.after_saves h]
  refine ⟨rfl, rfl, fun id hid => Table.get?_insertAll_of_not_mem fun row hrow => ?_⟩
  obtain ⟨d, hd, rfl⟩ := List.mem_map.1 hrow
  obtain ⟨n, hn, hget⟩ := List.mem_filterMap.1 hd
  exact hid n hn d hget

theorem forall₂_join {α β γ : Type} {R : α → β → Prop} {S : γ → β → Prop} {as : List α} {bs : List β}
    {cs : List γ} (h : List.Forall₂ R as bs) (h' : List.Forall₂ S cs bs) :
    List.Forall₂ (fun a c => ∃ b, R a b ∧ S c b) as cs := by
  induction h generalizing cs with
  | nil =>
    cases h'
    exact .nil
  | cons hab _ ih =>
    cases h' with
    | cons hcb h' => exact .cons ⟨_, hab, hcb⟩ (ih h')

/-- The drivers of a start go on after another start from the store that their states were saved to: the
same outputs get drivers, in the same order, with the counters of the drivers before. Saving changes the
rows of these outputs and nothing else. -/
theorem createDrivers_persisted (s : Settings) (wall wall' : Timestamp) {changes : List Store.Change}
    {serials : List Nat} {r : Rig} {es : List Event} (hproper : ∀ c ∈ changes, c.IsProper)
    (hfirst : createDrivers s (some (Store.empty.after changes)) (rig s wall) = .ok (serials, r))
    (hopen : ∀ n ∈ serials, Event.close n ∉ es) (hmoment : (r.run es).plant.clock.wall.IsMoment) :
    ∃ store serials' r',
      (Control.persist serials (Store.empty.after changes) (r.run es)).1 = store ∧
      createDrivers s (some store) (rig s wall') = .ok (serials', r') ∧
      List.Forall₂ (fun n n' => ∃ d d', (r.run es).drivers.get? n = some d ∧
        r'.drivers.get? n' = some d' ∧ d'.config = d.config ∧ d'.status.cycles = d.status.cycles ∧
        d'.status.total.toNat = min d.status.total.toNat (2 ^ 63 - 1)) serials serials' ∧
      store.actuators = (Store.empty.after changes).actuators ∧
      store.sensors = (Store.empty.after changes).sensors ∧
      ∀ id, (∀ n ∈ serials, ∀ d, (r.run es).drivers.get? n = some d → d.config.id ≠ id) →
        store.states.get? id = (Store.empty.after changes).states.get? id := by
  have hs : (Store.empty.after changes).Sound := Store.empty_sound.after hproper
  generalize Store.empty.after changes = before at hs hfirst ⊢
  obtain ⟨records, hl⟩ := hs.records
  obtain ⟨serials₁, r₁, hrun, hdriven⟩ := createDrivers_driven s wall hs hl
  obtain ⟨rfl, rfl⟩ : serials₁ = serials ∧ r₁ = r := by
    have heq := Except.ok.inj (hrun.symm.trans hfirst)
    exact Prod.mk.inj heq
  have hdrivers := hdriven.run (createDrivers_wellFormed hfirst) hopen
  have hsound := persist_sound serials₁ hs hmoment
  have hlists := persist_lists serials₁ (r₁.run es) hl
  obtain ⟨hactuators, hsensors, hstates⟩ := persist_frame serials₁ (r₁.run es) hs.migrated
  obtain ⟨serials', r', hrun', hdriven'⟩ := createDrivers_driven s wall' hsound hlists
  rw [persist_chosen serials₁ (r₁.run es) hs.migrated] at hdriven'
  refine ⟨_, serials', r', rfl, hrun', ?_, hactuators, hsensors, hstates⟩
  have hboth := (List.forall₂_and_left ..).2 ⟨fun n hn => hn, forall₂_join hdrivers hdriven'.drivers⟩
  refine hboth.imp fun n n' h => ?_
  obtain ⟨hn, c, ⟨d, hd, rfl⟩, row?, hload, hd'⟩ := h
  have hsaved := load_persisted hs hdrivers hdriven.ascending hmoment hn hd
  obtain rfl : some _ = row? := Except.ok.inj (hsaved.symm.trans hload)
  exact ⟨d, _, hd, hd', rfl, rfl, Row.cut_total _⟩

end Run

/-- The saw is on for two seconds. -/
def shift : List Event := [.command 0 (.set true), .drift 2000000000, .command 0 (.set false)]

/-- It was on for five seconds before, in three switchings, and goes on counting from there. -/
theorem workshop_persisted :
    ∃ serials r store n' others' r' d',
      createDrivers workshopSettings (some (Store.empty.after workshop)) (rig workshopSettings ⟨0, 0⟩) =
        .ok (serials, r) ∧
      (∀ n ∈ serials, Event.close n ∉ shift) ∧ (r.run shift).plant.clock.wall.IsMoment ∧
      (Control.persist serials (Store.empty.after workshop) (r.run shift)).1 = store ∧
      createDrivers workshopSettings (some store) (rig workshopSettings ⟨90, 0⟩) = .ok (n' :: others', r') ∧
      r'.drivers.get? n' = some d' ∧ d'.config.name = "saw" ∧ d'.status.cycles = 5 ∧
      d'.status.total.toNat = 7000 := by
  generalize hmade : createSome (offered workshopSettings workshopRecords)
    (some (Store.empty.after workshop)) (offered workshopSettings workshopRecords)
    (rig workshopSettings ⟨0, 0⟩) = made
  have hfirst : createDrivers workshopSettings (some (Store.empty.after workshop))
      (rig workshopSettings ⟨0, 0⟩) = .ok (made.1, made.2) := by
    simp only [createDrivers, outputs_eq workshopSettings workshop_lists, Except.map, hmade]
  have hserials : made.1 = [0, 1] := by
    rw [← hmade]
    decide +kernel
  have hsaw : ((made.2.run shift).drivers.get? 0).map
      (fun d => (d.config.name, d.status.cycles, d.status.total)) = some ("saw", 5, 7000) := by
    rw [← hmade]
    decide +kernel
  have hwall : (made.2.run shift).plant.clock.wall = ⟨2, 0⟩ := by
    rw [← hmade]
    decide +kernel
  have hmoment : (made.2.run shift).plant.clock.wall.IsMoment := by
    rw [hwall]
    exact ⟨by decide, by decide, by decide⟩
  have hopen : ∀ n ∈ made.1, Event.close n ∉ shift := by
    intro n _
    simp [shift]
  obtain ⟨store, serials', r', hstore, hsecond, hcounters, -⟩ :=
    createDrivers_persisted workshopSettings ⟨0, 0⟩ ⟨90, 0⟩ workshop_isProper hfirst hopen hmoment
  rw [hserials] at hcounters
  cases hcounters with
  | @cons _ n' _ others' hcounter _ =>
    obtain ⟨d, d', hd, hd', hconfig, hcycles, htotal⟩ := hcounter
    rw [hd] at hsaw
    obtain ⟨hname, hsaw⟩ := Prod.mk.inj (Option.some.inj hsaw)
    obtain ⟨hcycles', htotal'⟩ := Prod.mk.inj hsaw
    refine ⟨_, _, store, n', others', r', d', hfirst, hopen, hmoment, hstore, hsecond, hd', ?_, ?_, ?_⟩
    · rw [hconfig, hname]
    · rw [hcycles, hcycles']
    · rw [htotal, htotal']
      rfl

end Startup

end Switchboard
