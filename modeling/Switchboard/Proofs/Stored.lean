import Mathlib.Data.List.Basic
import Switchboard.Store.Tables

/-!
# What the store holds

A store that came about through its own operations (`Store.after`) is `Sound`: every entry was written from
a record or a row. So nothing that it is asked for is a bad value. What was written is read back as it was
(`ofRecord_record`), except that a total is cut to the greatest number of a column, and a time to its
milliseconds (`ofRow_row`).

A sound store comes down to a list of records in the order of their ids (`Sound.records`), and the question
whether a pin is free to a question about the records and the sensors (`Lists.ensureFree_iff`).
-/

namespace Switchboard

/-! ## Moments -/

/-- A time that the calendar has: in range, also where it is within a leap second. -/
structure Timestamp.IsMoment (t : Timestamp) : Prop where
  inRange : t.inRange = true
  past : (ofNanos t.toNanos).inRange = true
  nano_lt : t.nano < 2 * perSecond

/-- A time of the calendar is one when it is cut to its milliseconds. -/
theorem Timestamp.IsMoment.ofMillis_toMillis {t : Timestamp} (h : t.IsMoment) :
    (ofMillis t.toMillis).inRange = true := by
  have hsecond : (ofMillis t.toMillis).second = (ofNanos t.toNanos).second := by
    simp only [ofMillis, toMillis, ofNanos, toNanos, perSecond]
    omega
  have hpast := h.past
  unfold Timestamp.inRange at hpast ⊢
  rw [hsecond]
  exact hpast

namespace Store

/-! ## Entries -/

theorem ofLabel?_kind (k : Output.Kind) : Output.Kind.ofLabel? k.label = some k := by
  cases k <;> decide +kernel

theorem ofLabel?_safeState (s : SafeState) : SafeState.ofLabel? s.label = some s := by
  cases s <;> decide +kernel

theorem ok_bind {ε α β : Type} (a : α) (f : α → Except ε β) : (Except.ok a >>= f) = f a := rfl

/-- A record is read back as it was written. -/
theorem ofRecord_record (r : Record) : (ActuatorEntry.ofRecord r).record r.id = .ok r := by
  have hkind : named "type" Output.Kind.ofLabel? r.kind.label = .ok r.kind := by
    unfold named
    rw [ofLabel?_kind]
  have hsafe : named "safe_state" SafeState.ofLabel? r.safeState.label = .ok r.safeState := by
    unfold named
    rw [ofLabel?_safeState]
  unfold ActuatorEntry.record ActuatorEntry.ofRecord
  rw [Cell.natBelow_ofNat _ r.slot.toNat_lt, ok_bind, Cell.natBelow_ofNat _ r.subslot.toNat_lt, ok_bind,
    hkind, ok_bind, Cell.natBelow_ofNat _ r.pin.toNat_lt, ok_bind, Cell.bool_ofBool, ok_bind, hsafe,
    ok_bind, Cell.natBelow_ofNat _ r.minOn.toNat_lt, ok_bind, Cell.natBelow_ofNat _ r.maxOn.toNat_lt,
    ok_bind, Cell.natBelow_ofNat _ r.frequency.toNat_lt, ok_bind, Cell.bool_ofBool, ok_bind]
  simp only [UInt16.ofNat_toNat, UInt32.ofNat_toNat]

/-- What is read back of a row: its total is cut to the greatest number of a column, and its time to
milliseconds. -/
def Row.cut (r : Row) : Row :=
  { r with
    total := .ofNat (min r.total.toNat greatest)
    updated := .ofMillis r.updated.toMillis }

/-- A total is cut to what a column holds. -/
theorem Row.cut_total (r : Row) : r.cut.total.toNat = min r.total.toNat (2 ^ 63 - 1) := by
  have hlt : min r.total.toNat greatest < 2 ^ 64 :=
    Nat.lt_of_le_of_lt (Nat.min_le_left ..) r.total.toNat_lt
  exact UInt64.toNat_ofNat_of_lt hlt

theorem ofRow_row {r : Row} (h : r.updated.IsMoment) : (StateEntry.ofRow r).row r.id = .ok r.cut := by
  have htotal : min r.total.toNat greatest < 2 ^ 64 :=
    Nat.lt_of_le_of_lt (Nat.min_le_left ..) r.total.toNat_lt
  have hread : (Cell.int r.updated.toMillis).read = .ok r.updated.toMillis := rfl
  unfold StateEntry.row StateEntry.ofRow
  rw [hread, ok_bind, Cell.bool_ofBool, ok_bind, Cell.natBelow_ofNat _ r.duty.toNat_lt, ok_bind,
    Cell.natBelow_ofNat _ htotal, ok_bind, Cell.natBelow_ofNat _ r.cycles.toNat_lt, ok_bind]
  dsimp only
  rw [if_pos h.ofMillis_toMillis]
  simp only [UInt8.ofNat_toNat, UInt32.ofNat_toNat, Row.cut]

theorem ofNat_eq_iff {p q : Gpio.Pin} : Cell.ofNat p.toNat = Cell.ofNat q.toNat ↔ p = q := by
  unfold Cell.ofNat
  rw [Cell.int.injEq, Int.natCast_inj, UInt32.toNat_inj]

/-! ## Sound stores -/

/-- Something that is done to a store through its operations. -/
inductive Change where
  | add (r : Record)
  | update (r : Record)
  | delete (id : Int)
  | save (r : Row)
  | addSensor (name : String) (pin : Gpio.Pin) (chip : String)

namespace Change

/-- The store after a change, if the change succeeds. -/
def apply (s : Store) : Change → Except Error Store
  | add r => (s.add r).map Prod.snd
  | update r => s.update r
  | delete id => s.delete id
  | save r => s.save r
  | addSensor name pin chip => (s.addSensor name pin chip).map Prod.snd

/-- A row that is saved has a time of the calendar. -/
def IsProper : Change → Prop
  | save r => r.updated.IsMoment
  | _ => True

end Change

/-- The store after some changes. A change that fails leaves it as it is. -/
def after (s : Store) (cs : List Change) : Store :=
  cs.foldl (fun s c => (c.apply s).toOption.getD s) s

theorem after_cons {s s' : Store} {c : Change} (h : c.apply s = .ok s') (cs : List Change) :
    s.after (c :: cs) = s'.after cs := by
  rw [after, List.foldl_cons, h]
  rfl

/-- Every entry was written from a record or a row. -/
structure Sound (s : Store) : Prop where
  migrated : s.migrated = true
  actuator : ∀ {id e}, s.actuators.entries.get? id = some e →
    ∃ r : Record, r.id = id ∧ e = .ofRecord r
  state : ∀ {id e}, s.states.get? id = some e →
    ∃ r : Row, r.id = id ∧ r.updated.IsMoment ∧ e = .ofRow r

variable {s s' : Store} {c : Change}

theorem empty_sound : empty.Sound :=
  ⟨rfl, nofun, nofun⟩

/-- A record that is written over an entry, or a new one, is an entry from a record. -/
theorem Sound.insert_actuator (h : s.Sound) {id : Int} (r : Record) {id' : Int} {e : ActuatorEntry}
    (he : (s.actuators.entries.insert id (.ofRecord r)).get? id' = some e) :
    ∃ r : Record, r.id = id' ∧ e = .ofRecord r := by
  rcases Table.get?_insert_eq_some_iff.1 he with ⟨rfl, rfl⟩ | ⟨-, he⟩
  · -- The entry does not hold the id.
    exact ⟨{ r with id := id' }, rfl, rfl⟩
  · exact h.actuator he

theorem Sound.apply (h : s.Sound) (hc : c.IsProper) (hs : c.apply s = .ok s') : s'.Sound := by
  cases c with
  | add r =>
    simp only [Change.apply, Store.add, guarded, h.migrated, if_true, Numbered.add] at hs
    split at hs
    · cases hs
      exact ⟨rfl, h.insert_actuator r, h.state⟩
    · cases hs
  | update r =>
    simp only [Change.apply, Store.update, guarded, h.migrated, if_true] at hs
    split at hs
    · cases hs
      exact ⟨h.migrated, h.insert_actuator r, h.state⟩
    · cases hs
  | delete id =>
    simp only [Change.apply, delete, guarded, h.migrated, if_true] at hs
    split at hs
    · cases hs
      exact ⟨h.migrated, fun he => h.actuator (Table.get?_erase_eq_some_iff.1 he).2,
        fun he => h.state (Table.get?_erase_eq_some_iff.1 he).2⟩
    · cases hs
  | save r =>
    simp only [Change.apply, Store.save, guarded, h.migrated, if_true] at hs
    cases hs
    refine ⟨rfl, h.actuator, fun he => ?_⟩
    rcases Table.get?_insert_eq_some_iff.1 he with ⟨rfl, rfl⟩ | ⟨-, he⟩
    · exact ⟨r, rfl, hc, rfl⟩
    · exact h.state he
  | addSensor name pin chip =>
    simp only [Change.apply, addSensor, guarded, h.migrated, if_true, Numbered.add] at hs
    split at hs
    · cases hs
      exact ⟨rfl, h.actuator, h.state⟩
    · cases hs

theorem Sound.after (h : s.Sound) {cs : List Change} (hcs : ∀ c ∈ cs, c.IsProper) :
    (s.after cs).Sound := by
  induction cs generalizing s with
  | nil => exact h
  | cons c rest ih =>
    refine ih (s := (c.apply s).toOption.getD s) ?_ fun c' hc' => hcs c' (List.mem_cons_of_mem _ hc')
    cases hs : c.apply s with
    | error e => exact h
    | ok s' => exact h.apply (hcs c (List.mem_cons_self ..)) hs

/-! ## What a sound store is asked -/

/-- The outputs of a store are some records, in the order of their ids. -/
structure Lists (s : Store) (records : List Record) : Prop where
  migrated : s.migrated = true
  entries_eq : s.actuators.entries.entries = records.map fun r => (r.id, .ofRecord r)

theorem records_of_entries {l : List (Int × ActuatorEntry)}
    (h : ∀ x ∈ l, ∃ r : Record, r.id = x.1 ∧ x.2 = .ofRecord r) :
    ∃ records : List Record, l = records.map fun r => (r.id, .ofRecord r) := by
  induction l with
  | nil => exact ⟨[], rfl⟩
  | cons x rest ih =>
    obtain ⟨r, hid, he⟩ := h x (List.mem_cons_self ..)
    obtain ⟨records, hrest⟩ := ih fun y hy => h y (List.mem_cons_of_mem _ hy)
    exact ⟨r :: records, by rw [List.map_cons, ← hrest, hid, ← he]⟩

theorem Sound.records (h : s.Sound) : ∃ records, s.Lists records := by
  obtain ⟨records, hrecords⟩ := records_of_entries fun x hx => h.actuator (Table.get?_eq_some_iff.2 hx)
  exact ⟨records, h.migrated, hrecords⟩

/-- No state row is a bad value. -/
theorem Sound.load (h : s.Sound) (id : Int) : ∃ row?, s.load id = .ok row? := by
  unfold Store.load guarded
  rw [if_pos h.migrated]
  cases he : s.states.get? id with
  | none => exact ⟨none, rfl⟩
  | some e =>
    obtain ⟨r, rfl, hm, rfl⟩ := h.state he
    refine ⟨some r.cut, ?_⟩
    dsimp only
    rw [ofRow_row hm]
    rfl

/-! ## Saved rows -/

/-- Rows that are saved are put over those of their outputs, and nothing else changes. -/
theorem after_saves (h : s.migrated = true) (rows : List Row) :
    s.after (rows.map .save) = { s with states := s.states.insertAll (·.id) .ofRow rows } := by
  induction rows generalizing s with
  | nil => rfl
  | cons r rest ih =>
    have hs : (Change.save r).apply s = .ok { s with states := s.states.insert r.id (.ofRow r) } :=
      if_pos h
    rw [List.map_cons, after_cons hs]
    exact ih h

/-- A row that was saved is read back. -/
theorem Sound.load_saves (h : s.Sound) {rows : List Row} (hrows : rows.Pairwise fun r r' => r.id ≠ r'.id)
    {r : Row} (hr : r ∈ rows) (hm : r.updated.IsMoment) :
    (s.after (rows.map .save)).load r.id = .ok (some r.cut) := by
  rw [after_saves h.migrated]
  unfold Store.load guarded
  dsimp only
  rw [if_pos h.migrated, Table.get?_insertAll_of_mem hrows hr]
  dsimp only
  rw [ofRow_row hm]
  rfl

namespace Lists

variable {records : List Record}

theorem mapM_record (records : List Record) :
    (records.map fun r => (r.id, ActuatorEntry.ofRecord r)).mapM (fun e => e.2.record e.1) =
      .ok records := by
  induction records with
  | nil => rfl
  | cons r rest ih => rw [List.map_cons, List.mapM_cons, ofRecord_record, ok_bind, ih, ok_bind]; rfl

theorem saves (h : s.Lists records) (rows : List Row) : (s.after (rows.map .save)).Lists records := by
  rw [after_saves h.migrated]
  exact ⟨h.migrated, h.entries_eq⟩

theorem list_eq (h : s.Lists records) (enabledOnly : Bool) :
    s.list enabledOnly = .ok (records.filter fun r => !enabledOnly || r.enabled) := by
  unfold Store.list guarded
  rw [if_pos h.migrated, h.entries_eq, List.filter_map]
  have hp : ((fun e : Int × ActuatorEntry => !enabledOnly || e.2.enabled == .int 1) ∘
      fun r : Record => (r.id, ActuatorEntry.ofRecord r)) = fun r => !enabledOnly || r.enabled := by
    funext r
    simp only [Function.comp_apply, ActuatorEntry.ofRecord]
    cases r.enabled <;> rfl
  rw [hp]
  exact mapM_record _

theorem list_all (h : s.Lists records) : s.list false = .ok records := by
  rw [h.list_eq, List.filter_eq_self.2]
  exact fun _ _ => rfl

theorem ascending (h : s.Lists records) : records.Pairwise fun r r' => r.id < r'.id := by
  have hp := s.actuators.entries.ascending
  rw [h.entries_eq, List.pairwise_map] at hp
  exact hp

end Lists

/-- A sensor is on a pin. -/
def hasSensor (s : Store) (pin : Gpio.Pin) (chip : String) : Bool :=
  s.sensors.entries.entries.any fun e =>
    e.2.interface == "gpio" && e.2.pin == Cell.ofNat pin.toNat && e.2.chip == chip

/-- A pin is free for an output if no other output and no sensor is on it. -/
theorem Lists.ensureFree_iff {records : List Record} (h : s.Lists records) (pin : Gpio.Pin) (chip : String)
    (id : Int) :
    s.ensureFree pin chip (some id) = .ok () ↔
      (∀ o ∈ records, o.pin = pin → o.chip = chip → o.id = id) ∧ s.hasSensor pin chip = false := by
  unfold Store.ensureFree conflict? guarded hasSensor
  dsimp only
  rw [if_pos h.migrated, h.entries_eq]
  cases ha : (records.map fun r => (r.id, ActuatorEntry.ofRecord r)).find? fun e =>
      e.2.pin == Cell.ofNat pin.toNat && e.2.chip == chip && some e.1 != some id with
  | some e =>
    have hmem := List.mem_of_find?_eq_some ha
    have he := List.find?_some ha
    obtain ⟨o, ho, rfl⟩ := List.mem_map.1 hmem
    simp only [ActuatorEntry.ofRecord, Bool.and_eq_true, beq_iff_eq, bne_iff_ne, ne_eq, Option.some.injEq,
      ofNat_eq_iff] at he
    simp only [Except.bind, noConflict, reduceCtorEq, false_iff, not_and]
    intro hno
    exact absurd (hno o ho he.1.1 he.1.2) he.2
  | none =>
    rw [List.find?_eq_none] at ha
    have hno : ∀ o ∈ records, o.pin = pin → o.chip = chip → o.id = id := by
      intro o ho hpin hchip
      simpa [ActuatorEntry.ofRecord, hpin, hchip] using ha _ (List.mem_map_of_mem ho)
    simp only [Except.bind]
    rw [← List.isSome_find?]
    generalize List.find? _ s.sensors.entries.entries = sensor?
    cases sensor? with
    | none => exact iff_of_true rfl ⟨hno, rfl⟩
    | some e => exact iff_of_false nofun fun hf => by cases hf.2

end Store

end Switchboard
