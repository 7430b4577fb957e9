import Mathlib.Data.List.Forall2
import Switchboard.Proofs.Stored

/-!
# What is read of stored values

The tables take any whole number in a column of numbers, and any text in a column of texts. What the field of a
column takes of that is said once, by `Column.fits`, and an entry is the list of its columns in the order of
the fields (`demands`). To read an entry is to fail at the first column that does not fit its field, with an
error that names the column and what is stored in it, or else to give a record that says what is stored
(`Reads`). Readings one after another are readings of the columns of both (`Reads.bind`), so the proof for an
entry follows its columns one by one (`ActuatorEntry.reads`, `StateEntry.reads`), and the proof for a list of
entries follows the list (`reads_mapM`).

Flags are the exception: every number is a flag, and only its low thirty-two bits count (`Cell.Flags`). So a
number that is not zero is read as false if it is a multiple of `2 ^ 32`.
-/

namespace Switchboard

namespace Store

/-! ## Columns -/

/-- What the field of a column takes. -/
inductive Field where
  /-- A number of so many bits without a sign. -/
  | word (bits : Nat)
  /-- One of some labels, in any case. -/
  | label (labels : List String)
  /-- A moment of the calendar, in milliseconds from 1970. -/
  | moment
  deriving DecidableEq, Repr

/-- A column of an entry with what is stored in it. -/
structure Column where
  name : String
  content : Cell
  field : Field
  deriving DecidableEq, Repr

namespace Column

/-- The field takes what is stored. -/
def fits (c : Column) : Bool :=
  match c.field, c.content with
  | .word bits, .int i => 0 ≤ i ∧ i < (2 ^ bits : Nat)
  | .label labels, .text s => labels.any fun l => Text.sameLetters l s
  | .moment, .int i => (Timestamp.ofMillis i).inRange
  | _, _ => false

/-- The error of a column that does not fit its field. -/
def misfit (c : Column) : Error :=
  .badValue c.name c.content.asText

end Column

/-- What is stored is a whole number. -/
def Cell.IsWhole (c : Cell) : Prop :=
  ∃ i, c = .int i

@[simp] theorem Cell.isWhole_int (i : Int) : (Cell.int i).IsWhole :=
  ⟨i, rfl⟩

/-- A flag is stored as a number. It is set unless the low thirty-two bits are all zero. -/
def Cell.Flags (c : Cell) (b : Bool) : Prop :=
  ∃ i, c = .int i ∧ (b = true ↔ ¬(2 ^ 32 : Int) ∣ i)

/-! ## Readings -/

section Reads

variable {α β : Type} {cs cs' : List Column} {x : Except Error α} {P : α → Prop} {Q : β → Prop}

/-- A reading of some columns fails at the first one that does not fit its field, and else its result has a
property. -/
def Reads (cs : List Column) (x : Except Error α) (P : α → Prop) : Prop :=
  match cs.find? (!·.fits) with
  | some c => x = .error c.misfit
  | none => ∃ a, x = .ok a ∧ P a

theorem reads_ok {a : α} (h : P a) : Reads [] (.ok a) P :=
  ⟨a, rfl, h⟩

/-- Of two readings the second one is made if the columns of the first one fit. -/
theorem Reads.bind {f : α → Except Error β} (h : Reads cs x P) (hf : ∀ a, P a → Reads cs' (f a) Q) :
    Reads (cs ++ cs') (x >>= f) Q := by
  unfold Reads at h ⊢
  rw [List.find?_append]
  cases hc : cs.find? (!·.fits) with
  | some c =>
    rw [hc] at h
    rw [h]
    rfl
  | none =>
    rw [hc] at h
    obtain ⟨a, rfl, ha⟩ := h
    exact hf a ha

/-- A column is read, and then the columns after it. -/
theorem Reads.cons {c : Column} {f : α → Except Error β} (h : Reads [c] x P)
    (hf : ∀ a, P a → Reads cs (f a) Q) : Reads (c :: cs) (x >>= f) Q :=
  h.bind hf

/-- Something is read that cannot fail. -/
theorem Reads.free {f : α → Except Error β} (h : Reads [] x P) (hf : ∀ a, P a → Reads cs (f a) Q) :
    Reads cs (x >>= f) Q :=
  h.bind hf

theorem Reads.map {f : α → β} (h : Reads cs x P) (hf : ∀ a, P a → Q (f a)) : Reads cs (x.map f) Q := by
  have hb := h.bind (f := fun a => .ok (f a)) fun a ha => reads_ok (hf a ha)
  rw [List.append_nil] at hb
  cases x with
  | error e => exact hb
  | ok a => exact hb

/-- Entries are read one after another. -/
theorem reads_mapM {l : List α} {f : α → Except Error β} {columns : α → List Column}
    {R : α → β → Prop} (h : ∀ x ∈ l, Reads (columns x) (f x) (R x)) :
    Reads (l.flatMap columns) (l.mapM f) (List.Forall₂ R l) := by
  induction l with
  | nil => exact reads_ok .nil
  | cons x l ih =>
    rw [List.mapM_cons, List.flatMap_cons]
    refine (h x (List.mem_cons_self ..)).bind fun b hb => ?_
    have hrest := ih fun y hy => h y (List.mem_cons_of_mem _ hy)
    refine hrest.map (f := fun bs => b :: bs) fun bs hbs => ?_
    exact .cons hb hbs

end Reads

/-! ## Single columns -/

section Columns

variable {c : Cell} {name : String}

theorem reads_word {bits : Nat} (h : c.IsWhole) :
    Reads [⟨name, c, .word bits⟩] (c.natBelow (2 ^ bits) name) fun n => c = .ofNat n ∧ n < 2 ^ bits := by
  obtain ⟨i, rfl⟩ := h
  by_cases hi : 0 ≤ i ∧ i < (2 ^ bits : Nat)
  · have hfits : (Column.mk name (.int i) (.word bits)).fits = true := decide_eq_true hi
    simp only [Reads, List.find?_cons, hfits, Bool.not_true, List.find?_nil]
    refine ⟨i.toNat, if_pos hi, ?_, by omega⟩
    rw [Cell.ofNat, Int.toNat_of_nonneg hi.1]
  · have hfits : (Column.mk name (.int i) (.word bits)).fits = false := decide_eq_false hi
    simp only [Reads, List.find?_cons, hfits, Bool.not_false]
    exact if_neg hi

theorem reads_label {α : Type} {all : List α} {label : α → String} {ofLabel? : String → Option α}
    {s : String} (h : ofLabel? s = all.find? fun a => Text.sameLetters (label a) s) :
    Reads [⟨name, .text s, .label (all.map label)⟩] (named name ofLabel? s)
      fun a => Text.sameLetters (label a) s = true := by
  have hfits : (Column.mk name (.text s) (.label (all.map label))).fits = (ofLabel? s).isSome := by
    rw [h, List.isSome_find?]
    exact List.any_map
  simp only [Reads, List.find?_cons, hfits, List.find?_nil, named]
  cases ha : ofLabel? s with
  | none => rfl
  | some a =>
    have hfind : all.find? (fun a => Text.sameLetters (label a) s) = some a := h.symm.trans ha
    exact ⟨a, rfl, List.find?_some (p := fun a => Text.sameLetters (label a) s) hfind⟩

theorem reads_flag (h : c.IsWhole) : Reads [] c.bool fun b => c.Flags b := by
  obtain ⟨i, rfl⟩ := h
  refine ⟨i % 2 ^ 32 != 0, rfl, i, rfl, ?_⟩
  rw [bne_iff_ne, Ne, Int.dvd_iff_emod_eq_zero]

theorem reads_whole (h : c.IsWhole) : Reads [] c.read fun i => c = .int i := by
  obtain ⟨i, rfl⟩ := h
  exact ⟨i, rfl, rfl⟩

end Columns

/-! ## Outputs -/

namespace ActuatorEntry

/-- The columns of an output that do not take everything, in the order of its fields. -/
def demands (e : ActuatorEntry) : List Column :=
  [⟨"slot", e.slot, .word 16⟩, ⟨"subslot", e.subslot, .word 16⟩,
    ⟨"type", .text e.kind, .label (Output.Kind.all.map Output.Kind.label)⟩, ⟨"gpio_pin", e.pin, .word 32⟩,
    ⟨"safe_state", .text e.safeState, .label (SafeState.all.map SafeState.label)⟩,
    ⟨"min_on_time_ms", e.minOn, .word 32⟩, ⟨"max_on_time_ms", e.maxOn, .word 32⟩,
    ⟨"pwm_frequency_hz", e.frequency, .word 32⟩]

/-- The columns of numbers hold numbers. -/
def IsTyped (e : ActuatorEntry) : Prop :=
  ∀ c ∈ [e.slot, e.subslot, e.pin, e.activeLow, e.minOn, e.maxOn, e.frequency, e.enabled], c.IsWhole

/-- A record says what is stored of an output. -/
structure Says (e : ActuatorEntry) (id : Int) (r : Record) : Prop where
  id_eq : r.id = id
  slot : e.slot = .ofNat r.slot.toNat
  subslot : e.subslot = .ofNat r.subslot.toNat
  name_eq : r.name = e.name
  kind : Text.sameLetters r.kind.label e.kind = true
  pin : e.pin = .ofNat r.pin.toNat
  chip_eq : r.chip = e.chip
  activeLow : e.activeLow.Flags r.activeLow
  safeState : Text.sameLetters r.safeState.label e.safeState = true
  minOn : e.minOn = .ofNat r.minOn.toNat
  maxOn : e.maxOn = .ofNat r.maxOn.toNat
  frequency : e.frequency = .ofNat r.frequency.toNat
  enabled : e.enabled.Flags r.enabled

theorem reads {e : ActuatorEntry} (h : e.IsTyped) (id : Int) : Reads e.demands (e.record id) (e.Says id) := by
  simp only [IsTyped, List.forall_mem_cons] at h
  obtain ⟨hslot, hsubslot, hpin, hactiveLow, hminOn, hmaxOn, hfrequency, henabled, -⟩ := h
  unfold record demands
  refine (reads_word hslot).cons fun slot ⟨hslot, hslot'⟩ => ?_
  refine (reads_word hsubslot).cons fun subslot ⟨hsubslot, hsubslot'⟩ => ?_
  refine (reads_label rfl).cons fun kind hkind => ?_
  refine (reads_word hpin).cons fun pin ⟨hpin, hpin'⟩ => ?_
  refine (reads_flag hactiveLow).free fun activeLow hactiveLow => ?_
  refine (reads_label rfl).cons fun safeState hsafeState => ?_
  refine (reads_word hminOn).cons fun minOn ⟨hminOn, hminOn'⟩ => ?_
  refine (reads_word hmaxOn).cons fun maxOn ⟨hmaxOn, hmaxOn'⟩ => ?_
  refine (reads_word hfrequency).cons fun frequency ⟨hfrequency, hfrequency'⟩ => ?_
  refine (reads_flag henabled).free fun enabled henabled => ?_
  refine reads_ok ⟨rfl, ?_, ?_, rfl, hkind, ?_, rfl, hactiveLow, hsafeState, ?_, ?_, ?_, henabled⟩
  · exact hslot.trans (congrArg Cell.ofNat (UInt16.toNat_ofNat_of_lt' hslot').symm)
  · exact hsubslot.trans (congrArg Cell.ofNat (UInt16.toNat_ofNat_of_lt' hsubslot').symm)
  · exact hpin.trans (congrArg Cell.ofNat (UInt32.toNat_ofNat_of_lt' hpin').symm)
  · exact hminOn.trans (congrArg Cell.ofNat (UInt32.toNat_ofNat_of_lt' hminOn').symm)
  · exact hmaxOn.trans (congrArg Cell.ofNat (UInt32.toNat_ofNat_of_lt' hmaxOn').symm)
  · exact hfrequency.trans (congrArg Cell.ofNat (UInt32.toNat_ofNat_of_lt' hfrequency').symm)

end ActuatorEntry

/-! ## State rows -/

namespace StateEntry

/-- The columns of a state row that do not take everything, in the order of its fields. -/
def demands (e : StateEntry) : List Column :=
  [⟨"pwm_duty", e.duty, .word 8⟩, ⟨"total_on_time_ms", e.total, .word 64⟩, ⟨"cycle_count", e.cycles, .word 32⟩,
    ⟨"updated_at", e.updated, .moment⟩]

/-- The columns hold numbers. -/
def IsTyped (e : StateEntry) : Prop :=
  ∀ c ∈ [e.isOn, e.duty, e.total, e.cycles, e.updated], c.IsWhole

/-- A row says what is stored of the state of an output. -/
structure Says (e : StateEntry) (id : Int) (r : Row) : Prop where
  id_eq : r.id = id
  isOn : e.isOn.Flags r.isOn
  duty : e.duty = .ofNat r.duty.toNat
  total : e.total = .ofNat r.total.toNat
  cycles : e.cycles = .ofNat r.cycles.toNat
  updated : ∃ millis, e.updated = .int millis ∧ r.updated = .ofMillis millis

theorem reads {e : StateEntry} (h : e.IsTyped) (id : Int) : Reads e.demands (e.row id) (e.Says id) := by
  simp only [IsTyped, List.forall_mem_cons] at h
  obtain ⟨hisOn, hduty, htotal, hcycles, hupdated, -⟩ := h
  unfold row demands
  -- The time is read before the columns in front of it, but only as a number.
  refine (reads_whole hupdated).free fun millis hmillis => ?_
  refine (reads_flag hisOn).free fun isOn hisOn => ?_
  refine (reads_word hduty).cons fun duty ⟨hduty, hduty'⟩ => ?_
  refine (reads_word htotal).cons fun total ⟨htotal, htotal'⟩ => ?_
  refine (reads_word hcycles).cons fun cycles ⟨hcycles, hcycles'⟩ => ?_
  rw [hmillis]
  have hfits : (Column.mk "updated_at" (.int millis) .moment).fits = (Timestamp.ofMillis millis).inRange := rfl
  simp only [Reads, List.find?_cons, hfits, List.find?_nil]
  cases (Timestamp.ofMillis millis).inRange with
  | false => rfl
  | true =>
    refine ⟨_, rfl, rfl, hisOn, ?_, ?_, ?_, millis, hmillis, rfl⟩
    · exact hduty.trans (congrArg Cell.ofNat (UInt8.toNat_ofNat_of_lt' hduty').symm)
    · exact htotal.trans (congrArg Cell.ofNat (UInt64.toNat_ofNat_of_lt' htotal').symm)
    · exact hcycles.trans (congrArg Cell.ofNat (UInt32.toNat_ofNat_of_lt' hcycles').symm)

end StateEntry

/-! ## Stores -/

variable {s : Store}

/-- A store with any contents, as long as its columns of numbers hold numbers. -/
structure Typed (s : Store) : Prop where
  migrated : s.migrated = true
  actuator : ∀ x ∈ s.actuators.entries.entries, x.2.IsTyped
  state : ∀ x ∈ s.states.entries, x.2.IsTyped

/-- The entries that are listed, in the order of their ids. -/
def listed (s : Store) (enabledOnly : Bool) : List (Int × ActuatorEntry) :=
  s.actuators.entries.entries.filter fun e => !enabledOnly || e.2.enabled == .int 1

/-- What is stored is read as it is, or else as the first column that does not fit its field. -/
structure Unaltered (s : Store) : Prop where
  get : ∀ id,
    match s.actuators.entries.get? id with
    | none => s.get id = .error (.notFound id)
    | some e => Reads e.demands (s.get id) (e.Says id)
  list : ∀ enabledOnly,
    Reads ((s.listed enabledOnly).flatMap fun x => x.2.demands) (s.list enabledOnly)
      (List.Forall₂ (fun x r => x.2.Says x.1 r) (s.listed enabledOnly))
  load : ∀ id,
    match s.states.get? id with
    | none => s.load id = .ok none
    | some e => Reads e.demands (s.load id) fun row? => ∃ r, row? = some r ∧ e.Says id r

/-- No store with any contents gives out anything but what is stored, flags apart. -/
theorem typed_unaltered (h : s.Typed) : s.Unaltered where
  get id := by
    unfold Store.get guarded
    rw [if_pos h.migrated]
    cases he : s.actuators.entries.get? id with
    | none => rfl
    | some e => exact ActuatorEntry.reads (h.actuator (id, e) (Table.get?_eq_some_iff.1 he)) id
  list enabledOnly := by
    unfold Store.list guarded listed
    rw [if_pos h.migrated]
    exact reads_mapM fun x hx => ActuatorEntry.reads (h.actuator x (List.mem_filter.1 hx).1) x.1
  load id := by
    unfold Store.load guarded
    rw [if_pos h.migrated]
    cases he : s.states.get? id with
    | none => rfl
    | some e =>
      have htyped : e.IsTyped := h.state (id, e) (Table.get?_eq_some_iff.1 he)
      exact (StateEntry.reads htyped id).map fun r hr => ⟨r, rfl, hr⟩

/-- A valve as it is stored. -/
def valve : ActuatorEntry where
  slot := .int 0
  subslot := .int 0
  name := "valve"
  kind := "Relay"
  pin := .int 17
  chip := Output.defaultChip
  activeLow := .int 1
  safeState := "off"
  minOn := .int 0
  maxOn := .int 0
  frequency := .int 0
  enabled := .int 1

/-- A valve of an unknown type, and on a pin that is none. -/
def spoilt : ActuatorEntry :=
  { valve with kind := "valve", pin := .int (-1) }

/-- A state row with too many cycles. -/
def overrun : StateEntry :=
  ⟨.int 0, .int 0, .int 0, .int (2 ^ 32), .int 0⟩

def damaged : Store :=
  { empty.setActuators ((Table.empty.insert 1 valve).insert 2 spoilt) with
    states := Table.empty.insert 1 overrun }

theorem damaged_typed : damaged.Typed where
  migrated := rfl
  actuator := by
    change ∀ x ∈ [((1 : Int), valve), (2, spoilt)], x.2.IsTyped
    simp [ActuatorEntry.IsTyped, valve, spoilt]
  state := by
    change ∀ x ∈ [((1 : Int), overrun)], x.2.IsTyped
    simp [StateEntry.IsTyped, overrun]

/-- The first valve is read, the list stops at the type of the second one, and the row at its cycles. -/
theorem damaged_unaltered :
    (∃ r, damaged.get 1 = .ok r ∧ r.kind = .relay ∧ r.pin = 17 ∧ r.activeLow = true) ∧
      damaged.list false = .error (.badValue "type" "valve") ∧
      damaged.load 1 = .error (.badValue "cycle_count" "4294967296") := by
  have h := typed_unaltered damaged_typed
  refine ⟨?_, ?_, ?_⟩
  · have hget : Reads valve.demands (damaged.get 1) (valve.Says 1) := h.get 1
    have hfits : valve.demands.find? (!·.fits) = none := by decide +kernel
    rw [Reads, hfits] at hget
    obtain ⟨r, hr, hsays⟩ := hget
    refine ⟨r, hr, ?_, ?_, ?_⟩
    · have hkind := hsays.kind
      revert hkind
      cases r.kind <;> decide +kernel
    · have hpin : (17 : Int) = r.pin.toNat := Cell.int.inj hsays.pin
      exact UInt32.toNat_inj.1 (Int.ofNat_inj.1 hpin.symm)
    · obtain ⟨i, hi, hflag⟩ := hsays.activeLow
      obtain rfl : 1 = i := Cell.int.inj hi
      exact hflag.2 (by decide)
  · have hlist := h.list false
    have hmisfit : ((damaged.listed false).flatMap fun x => x.2.demands).find? (!·.fits) =
        some ⟨"type", .text "valve", .label (Output.Kind.all.map Output.Kind.label)⟩ := by decide +kernel
    rw [Reads, hmisfit] at hlist
    exact hlist
  · have hload : Reads overrun.demands (damaged.load 1) _ := h.load 1
    have hmisfit : overrun.demands.find? (!·.fits) =
        some ⟨"cycle_count", .int (2 ^ 32), .word 32⟩ := by decide +kernel
    rw [Reads, hmisfit] at hload
    exact hload

/-- A store with one valve, whose flag is the least number beyond thirty-two bits. -/
def wide : Store :=
  empty.setActuators (Table.empty.insert 1 { valve with activeLow := .int (2 ^ 32) })

/-- The flag is not zero, and is read as false. -/
theorem wide_flag_lost :
    ∃ e r i, wide.actuators.entries.get? 1 = some e ∧ e.IsTyped ∧ e.activeLow = .int i ∧ i ≠ 0 ∧
      wide.get 1 = .ok r ∧ r.activeLow = false := by
  refine ⟨{ valve with activeLow := .int (2 ^ 32) }, _, 2 ^ 32, rfl, ?_, rfl, by decide, rfl, rfl⟩
  simp [ActuatorEntry.IsTyped, valve]

end Store

end Switchboard
