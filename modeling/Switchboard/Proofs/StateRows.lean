import Switchboard.Proofs.RecordMap

/-!
# State rows and their outputs

A state row belongs to the id of an output, and the tables do not make sure that there is such an output. What
holds is told from the history of the store: an id has the row that was last saved under it and whose output
was not deleted since (`History.saved`). The table of the rows says the same (`Notes`), and every request keeps
that (`Notes.serve`). A row that was saved under an assigned id stays clear of the ids to come, so an output
that is added has none (`mem_assigned_of_saved`).

The deletion of an output removes its row first and learns only then whether there was an output
(`deletion`). If there was none the whole is taken back, and a row that was saved after its output was deleted
is still there (`perform_delete_eq`).
-/

namespace Switchboard

namespace Store

/-! ## Rows as they are read back -/

/-- A row is read back as another: with its total cut to what a column holds, and its time to the whole
millisecond before it. -/
structure Row.ReadAs (r r' : Row) : Prop where
  id_eq : r'.id = r.id
  isOn_eq : r'.isOn = r.isOn
  duty_eq : r'.duty = r.duty
  total_eq : r'.total.toNat = min r.total.toNat (2 ^ 63 - 1)
  cycles_eq : r'.cycles = r.cycles
  whole : r'.updated.nano < Timestamp.perSecond ∧ r'.updated.nano % 1000000 = 0
  updated_le : r'.updated.toNanos ≤ r.updated.toNanos
  lt_updated : r.updated.toNanos < r'.updated.toNanos + 1000000

theorem Row.readAs_cut (r : Row) : r.ReadAs r.cut where
  id_eq := rfl
  isOn_eq := rfl
  duty_eq := rfl
  total_eq := r.cut_total
  cycles_eq := rfl
  whole := by
    simp only [Row.cut, Timestamp.ofMillis, Timestamp.ofNanos, Timestamp.perSecond]
    omega
  updated_le := by
    simp only [Row.cut, Timestamp.ofMillis, Timestamp.toNanos_ofNanos]
    simp only [Timestamp.toMillis, Timestamp.toNanos, Timestamp.perSecond]
    omega
  lt_updated := by
    simp only [Row.cut, Timestamp.ofMillis, Timestamp.toNanos_ofNanos]
    simp only [Timestamp.toMillis, Timestamp.toNanos, Timestamp.perSecond]
    omega

/-! ## Histories of rows -/

namespace History

/-- The row that was last saved under an id and whose output was not deleted since. -/
def saved (id : Int) : History → Option Row
  | [] => none
  | (.change (.save r), .done) :: h => if r.id = id then some r else saved id h
  | (.change (.delete id'), .done) :: h => if id' = id then none else saved id h
  | _ :: h => saved id h

/-- Rows were only saved under ids that had been assigned to records by then, be they deleted or not. -/
def Orderly : History → Prop
  | [] => True
  | (.change (.save r), _) :: h => r.id ∈ assigned h ∧ Orderly h
  | _ :: h => Orderly h

variable {h : History} {x : Request × Answer} {id : Int} {r : Row}

theorem Orderly.tail (ho : Orderly (x :: h)) : Orderly h := by
  unfold Orderly at ho
  split at ho
  · trivial
  · rename_i heq
    cases heq
    exact ho.2
  · rename_i heq
    cases heq
    exact ho

theorem mem_assigned_cons (hid : id ∈ assigned h) : id ∈ assigned (x :: h) := by
  unfold assigned
  split
  · rename_i heq
    cases heq
  · rename_i heq
    cases heq
    exact List.mem_cons_of_mem _ hid
  · rename_i heq
    cases heq
    exact hid

theorem id_of_saved (hr : saved id h = some r) : r.id = id := by
  fun_induction saved id h with
  | case1 => cases hr
  | case2 r _ hid => cases hr; exact hid
  | case3 _ _ _ ih => exact ih hr
  | case4 => cases hr
  | case5 _ _ _ ih => exact ih hr
  | case6 _ _ _ _ ih => exact ih hr

/-- An id with a row was assigned. -/
theorem mem_assigned_of_saved (ho : Orderly h) (hr : saved id h = some r) : id ∈ assigned h := by
  fun_induction saved id h with
  | case1 => cases hr
  | case2 r h hid => exact mem_assigned_cons (hid ▸ ho.1)
  | case3 _ _ _ ih => exact mem_assigned_cons (ih ho.tail hr)
  | case4 => cases hr
  | case5 _ _ _ ih => exact mem_assigned_cons (ih ho.tail hr)
  | case6 _ _ _ _ ih => exact mem_assigned_cons (ih ho.tail hr)

end History

open History

/-! ## What the table of the rows says -/

variable {h : History} {s : Store} {id : Int} {r : Row}

/-- The table of the rows says what a history says. -/
def Notes (h : History) (s : Store) : Prop :=
  ∀ id, s.states.get? id = (saved id h).map .ofRow

theorem Notes.save (hn : Notes h s) (r : Row) :
    Notes ((.change (.save r), .done) :: h) { s with states := s.states.insert r.id (.ofRow r) } := by
  intro id
  by_cases hid : r.id = id
  · subst hid
    rw [saved, if_pos rfl]
    exact Table.get?_insert_self
  · rw [saved, if_neg hid]
    exact (Table.get?_insert_of_ne hid).trans (hn id)

theorem Notes.delete (hn : Notes h s) (id : Int) :
    Notes ((.change (.delete id), .done) :: h)
      { s.setActuators (s.actuators.entries.erase id) with states := s.states.erase id } := by
  intro id'
  by_cases hid : id = id'
  · subst hid
    rw [saved, if_pos rfl]
    exact Table.get?_erase_self
  · rw [saved, if_neg hid]
    exact (Table.get?_erase_of_ne hid).trans (hn id')

theorem perform_save (hm : s.migrated = true) (r : Row) :
    s.perform (.change (.save r)) =
      (.done, { s with states := s.states.insert r.id (.ofRow r) }) := by
  simp only [perform, Change.answer, Change.apply, Store.save, guarded, hm, if_true]
  rfl

/-- Every request leaves the table of the rows saying what the history says. -/
theorem Notes.serve (ht : Tells h s) (hn : Notes h s) (q : Request) :
    Notes ((q, (s.perform q).1) :: h) (s.perform q).2 := by
  cases q with
  | migrate => exact hn
  | reopen p path =>
    simp only [perform, p.open?_keep path s]
    exact hn
  | change c =>
    cases c with
    | add r =>
      rw [ht.perform_add]
      split
      · exact hn
      · exact hn
    | update r =>
      rw [ht.perform_update]
      split
      · exact hn
      · exact hn
    | delete id =>
      rw [ht.perform_delete]
      split
      · exact hn.delete id
      · exact hn
    | save row =>
      rw [perform_save ht.migrated]
      exact hn.save row
    | addSensor name pin chip =>
      rw [ht.perform_addSensor]
      split
      · exact hn
      · exact hn

/-! ## Deleting in two statements -/

/-- The two statements of a deletion, in their order: the row goes, and then the output. How many outputs
that were tells whether there was one. -/
def deletion (s : Store) (id : Int) : Nat × Store :=
  let s := { s with states := s.states.erase id }
  (if s.actuators.entries.contains id then 1 else 0, s.setActuators (s.actuators.entries.erase id))

/-- A deletion that removes no output is taken back as a whole. -/
theorem perform_delete_eq (hm : s.migrated = true) (id : Int) :
    s.perform (.change (.delete id)) =
      if (s.deletion id).1 = 0 then (.failed (.notFound id), s) else (.done, (s.deletion id).2) := by
  have hdelete : s.delete id = if s.actuators.entries.contains id then
      .ok { s.setActuators (s.actuators.entries.erase id) with states := s.states.erase id }
    else .error (.notFound id) := if_pos hm
  simp only [perform, Change.answer, Change.apply, hdelete, deletion]
  by_cases hc : s.actuators.entries.contains id = true
  · simp only [if_pos hc]
    rfl
  · simp only [if_neg hc]
    rfl

/-! ## What a store is asked at the end of a history -/

/-- At the end of a history the rows follow their outputs. -/
structure Attends (h : History) (s : Store) : Prop where
  /-- A row with a time of the calendar is read back as it was last saved, if its output was not deleted
  since. -/
  load : ∀ id,
    match saved id h with
    | none => s.load id = .ok none
    | some r => r.updated.IsMoment → ∃ r', s.load id = .ok (some r') ∧ r.ReadAs r'
  /-- An output that is added has no row. -/
  fresh : ∀ r id s', s.perform (.change (.add r)) = (.assigned id, s') → s'.load id = .ok none
  /-- Saving a row changes no other. -/
  apart : ∀ r id, id ≠ r.id → (s.perform (.change (.save r))).2.load id = s.load id
  /-- An output is deleted together with its row. -/
  together : ∀ id, recorded id h ≠ none → ∃ s', s.perform (.change (.delete id)) = (.done, s') ∧
    s'.get id = .error (.notFound id) ∧ s'.load id = .ok none
  /-- Where there is no output to delete its row is removed and put back. -/
  back : ∀ id, recorded id h = none → (s.deletion id).2.load id = .ok none ∧
    s.perform (.change (.delete id)) = (.failed (.notFound id), s)
  /-- A deletion is its two statements, or nothing. -/
  statements : ∀ id, s.perform (.change (.delete id)) =
    if (s.deletion id).1 = 0 then (.failed (.notFound id), s) else (.done, (s.deletion id).2)

theorem load_of_absent (hm : s.migrated = true) (hs : s.states.get? id = none) : s.load id = .ok none := by
  unfold Store.load guarded
  rw [if_pos hm, hs]

theorem load_congr {s' : Store} (hm : s'.migrated = s.migrated) (hs : s'.states.get? id = s.states.get? id) :
    s'.load id = s.load id := by
  unfold Store.load guarded
  rw [hm, hs]

theorem Notes.load_eq (ht : Tells h s) (hn : Notes h s) (hr : saved id h = some r)
    (hmoment : r.updated.IsMoment) : s.load id = .ok (some r.cut) := by
  obtain rfl := id_of_saved hr
  unfold Store.load guarded
  rw [if_pos ht.migrated, hn, hr]
  dsimp only [Option.map_some]
  rw [ofRow_row hmoment]
  rfl

theorem Notes.attends (ht : Tells h s) (hn : Notes h s) (ho : Orderly h) : Attends h s where
  load id := by
    cases hr : saved id h with
    | none => exact load_of_absent ht.migrated (by rw [hn, hr]; rfl)
    | some r => exact fun hmoment => ⟨r.cut, hn.load_eq ht hr hmoment, r.readAs_cut⟩
  fresh r id s' hs := by
    have hstates : s'.states = s.states ∧ s'.migrated = true ∧ id = s.actuators.last + 1 := by
      rw [ht.perform_add] at hs
      split at hs
      · cases hs
        exact ⟨rfl, ht.migrated, rfl⟩
      · cases hs
    obtain ⟨hstates, hm, rfl⟩ := hstates
    refine load_of_absent hm ?_
    rw [hstates, hn]
    cases hr : saved (s.actuators.last + 1) h with
    | none => rfl
    | some row => exact absurd (mem_assigned_of_saved ho hr) ht.not_mem_assigned_next
  apart r id hid := by
    rw [perform_save ht.migrated]
    exact load_congr rfl (Table.get?_insert_of_ne hid.symm)
  together id hr := by
    have hsome : (recorded id h).isSome := Option.isSome_iff_ne_none.2 hr
    have ht' := ht.delete hsome
    refine ⟨_, (ht.perform_delete id).trans (if_pos hsome), ?_, ?_⟩
    · rw [ht'.get_eq, recorded, if_pos rfl]
    · exact load_of_absent ht.migrated Table.get?_erase_self
  back id hr := by
    refine ⟨load_of_absent ht.migrated Table.get?_erase_self, ?_⟩
    rw [ht.perform_delete, hr]
    rfl
  statements := perform_delete_eq ht.migrated

theorem served_notes (qs : List Request) : Notes (served qs).1 (served qs).2 := by
  have hserve : ∀ {x : History × Store}, Tells x.1 x.2 → Notes x.1 x.2 →
      Notes (qs.foldl Store.serve x).1 (qs.foldl Store.serve x).2 := by
    induction qs with
    | nil => exact fun _ hn => hn
    | cons q qs ih => exact fun ht hn => ih (ht.serve q) (hn.serve ht q)
  exact hserve (x := ([], empty)) empty_tells fun _ => rfl

/-- At the end of every history of a new store in which rows were saved under assigned ids, the rows follow
their outputs. -/
theorem served_attends (qs : List Request) (ho : Orderly (served qs).1) :
    Attends (served qs).1 (served qs).2 :=
  (served_notes qs).attends (served_tells qs) ho

/-- A row from the last millisecond before 1970, with more time on than a column holds. -/
def lastRow : Row := ⟨1, false, 255, 0xFFFFFFFFFFFFFFFF, 7, ⟨-1, 999999999⟩⟩

/-- A pump is added and deleted, and a row is saved for it before that and after. -/
def orphaned : List Request :=
  [.change (.add
      { id := 0, slot := 2, subslot := 1, name := "pump", kind := .relay, pin := 18, chip := Output.defaultChip,
        activeLow := false, safeState := .off, minOn := 0, maxOn := 0, frequency := 0, enabled := true }),
    .change (.save { lastRow with isOn := true }), .change (.delete 1), .change (.save lastRow)]

/-- The second row outlives another deletion, which finds no pump. It is read back with the greatest total, at
the millisecond that it was saved in. -/
theorem orphaned_attends :
    (served orphaned).2.perform (.change (.delete 1)) = (.failed (.notFound 1), (served orphaned).2) ∧
      ∃ row, (served orphaned).2.load 1 = .ok (some row) ∧ row.total.toNat = 2 ^ 63 - 1 ∧
        row.updated = ⟨-1, 999000000⟩ := by
  have ho : Orderly (served orphaned).1 := ⟨by decide, by decide, trivial⟩
  have ha := served_attends orphaned ho
  have hrecorded : recorded 1 (served orphaned).1 = none := by rfl
  have hsaved : saved 1 (served orphaned).1 = some lastRow := by rfl
  refine ⟨(ha.back 1 hrecorded).2, ?_⟩
  have hload := ha.load 1
  rw [hsaved] at hload
  obtain ⟨row, hrow, hread⟩ := hload ⟨by decide, by decide, by decide⟩
  refine ⟨row, hrow, hread.total_eq, ?_⟩
  obtain ⟨hnano, hmillis⟩ := hread.whole
  have hle := hread.updated_le
  have hlt := hread.lt_updated
  obtain ⟨id, isOn, duty, total, cycles, second, nano⟩ := row
  simp only [lastRow, Timestamp.toNanos, Timestamp.perSecond] at hnano hmillis hle hlt
  have hsecond : second = -1 := by omega
  have hfraction : nano = 999000000 := by omega
  rw [hsecond, hfraction]

end Store

end Switchboard
