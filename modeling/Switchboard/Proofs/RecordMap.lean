import Switchboard.Program
import Switchboard.Proofs.Stored

/-!
# The store as a map of records

Told from what a store was asked and what it answered (`History`), an id has the record that was last added
or updated under it and not deleted since (`recorded`). The tables have to say the same (`Tells`), and every
request keeps that (`Tells.serve`), a store that is left in a file and opened again included. So a store is
a faithful map at the end of every history (`served_faithful`): it assigns ids in ascending order, it hands
out what is recorded and nothing else, and it turns away what is said of an id that has no record.
-/

namespace Switchboard

namespace Place

/-- A store that is left at a path is the one that is opened there, with its tables. -/
theorem open?_keep (p : Place) (path : List String) (s : Store) :
    (p.keep path s).open? path = some s.migrate := by
  unfold open? keep
  rw [List.lookup_cons_self]

end Place

namespace Store

/-- Two records with one id that are written alike are the same. -/
theorem ofRecord_inj {r r' : Record} (hid : r.id = r'.id)
    (he : ActuatorEntry.ofRecord r = .ofRecord r') : r = r' := by
  have hr := ofRecord_record r
  rw [hid, he, ofRecord_record r'] at hr
  exact (Except.ok.inj hr).symm

/-! ## Histories -/

/-- What a store can be asked that may change it. -/
inductive Request where
  | change (c : Change)
  | migrate
  /-- The store is left at a path, and opened there again. -/
  | reopen (p : Place) (path : List String)

inductive Answer where
  | done
  | assigned (id : Int)
  | failed (e : Error)

/-- What a change that succeeds answers, with the store after it. -/
def Change.answer (s : Store) : Change → Except Error (Answer × Store)
  | add r => (s.add r).map fun x => (.assigned x.1, x.2)
  | addSensor name pin chip => (s.addSensor name pin chip).map fun x => (.assigned x.1, x.2)
  | c => (c.apply s).map fun s' => (.done, s')

/-- What a request answers, with the store after it. A request that fails leaves the store as it is. -/
def perform (s : Store) : Request → Answer × Store
  | .change c =>
    match c.answer s with
    | .ok x => x
    | .error e => (.failed e, s)
  | .migrate => (.done, s.migrate)
  | .reopen p path =>
    match (p.keep path s).open? path with
    | some s' => (.done, s')
    | none => (.failed .database, s)

/-- What a store was asked and what it answered, the latest first. -/
abbrev History := List (Request × Answer)

def serve (x : History × Store) (q : Request) : History × Store :=
  ((q, (x.2.perform q).1) :: x.1, (x.2.perform q).2)

/-- The history of some requests to a new store, and the store after them. -/
def served (qs : List Request) : History × Store :=
  qs.foldl serve ([], empty)

namespace History

/-- The ids that were assigned to records, the latest first. -/
def assigned : History → List Int
  | [] => []
  | (.change (.add _), .assigned id) :: h => id :: assigned h
  | _ :: h => assigned h

/-- The ids whose records were deleted, the latest first. -/
def deleted : History → List Int
  | [] => []
  | (.change (.delete id), .done) :: h => id :: deleted h
  | _ :: h => deleted h

/-- The record that was last added or updated under an id and not deleted since. -/
def recorded (id : Int) : History → Option Record
  | [] => none
  | (.change (.add r), .assigned id') :: h => if id' = id then some { r with id } else recorded id h
  | (.change (.update r), .done) :: h => if r.id = id then some r else recorded id h
  | (.change (.delete id'), .done) :: h => if id' = id then none else recorded id h
  | _ :: h => recorded id h

/-- What is recorded under an id has that id. -/
theorem id_of_recorded {h : History} {id : Int} {r : Record} (hr : recorded id h = some r) : r.id = id := by
  fun_induction recorded id h with
  | case1 => cases hr
  | case2 => cases hr; rfl
  | case3 _ _ _ _ ih => exact ih hr
  | case4 r _ hid => cases hr; exact hid
  | case5 _ _ _ ih => exact ih hr
  | case6 => cases hr
  | case7 _ _ _ ih => exact ih hr
  | case8 _ _ _ _ _ ih => exact ih hr

end History

open History

/-! ## What the tables say -/

variable {h h' : History} {s s' : Store} {id : Int} {r : Record}

/-- The table of the outputs says what a history says. -/
structure Tells (h : History) (s : Store) : Prop where
  migrated : s.migrated = true
  entry : ∀ id, s.actuators.entries.get? id = (recorded id h).map .ofRecord
  last : s.actuators.last = (assigned h).length
  descending : (assigned h).Pairwise (· > ·)
  le_last : ∀ id ∈ assigned h, id ≤ s.actuators.last
  assigned_of_deleted : ∀ id ∈ deleted h, id ∈ assigned h
  missing : ∀ id, recorded id h = none ↔ id ∉ assigned h ∨ id ∈ deleted h

theorem empty_tells : Tells [] empty :=
  ⟨rfl, fun _ => rfl, rfl, .nil, nofun, nofun, fun _ => iff_of_true rfl (.inl List.not_mem_nil)⟩

namespace Tells

/-- A request that leaves the table of the outputs, and of which a history says nothing, leaves them in
agreement. -/
theorem of_actuators (ht : Tells h s) (hm : s'.migrated = true) (hs : s'.actuators = s.actuators)
    (ha : assigned h' = assigned h) (hd : deleted h' = deleted h)
    (hr : ∀ id, recorded id h' = recorded id h) : Tells h' s' := by
  constructor
  · exact hm
  · intro id
    rw [hs, hr, ht.entry]
  · rw [hs, ha, ht.last]
  · rw [ha]
    exact ht.descending
  · rw [ha, hs]
    exact ht.le_last
  · rw [ha, hd]
    exact ht.assigned_of_deleted
  · intro id
    rw [ha, hd, hr, ht.missing]

theorem contains_eq (ht : Tells h s) (id : Int) :
    s.actuators.entries.contains id = (recorded id h).isSome := by
  rw [Table.contains, ht.entry, Option.isSome_map]

theorem mem_assigned (ht : Tells h s) (hr : recorded id h = some r) : id ∈ assigned h := by
  by_contra hn
  cases hr.symm.trans ((ht.missing id).2 (.inl hn))

theorem foldl_max_eq {l : List Int} {m : Int} (hl : ∀ k ∈ l, k ≤ m) : l.foldl max m = m := by
  induction l with
  | nil => rfl
  | cons k rest ih =>
    rw [List.foldl_cons, Int.max_eq_left (hl k (List.mem_cons_self ..))]
    exact ih fun k' hk' => hl k' (List.mem_cons_of_mem _ hk')

/-- No entry has an id beyond those assigned. -/
theorem next_eq (ht : Tells h s) : s.actuators.next = s.actuators.last + 1 := by
  unfold Numbered.next
  rw [foldl_max_eq]
  intro k hk
  have hk := ht.contains_eq k ▸ Table.mem_keys_iff.1 hk
  obtain ⟨r, hr⟩ := Option.isSome_iff_exists.1 hk
  exact ht.le_last k (ht.mem_assigned hr)

theorem not_mem_assigned_next (ht : Tells h s) : s.actuators.last + 1 ∉ assigned h := by
  intro hmem
  have := ht.le_last _ hmem
  omega

/-! ## Single requests -/

theorem perform_add (ht : Tells h s) (r : Record) :
    s.perform (.change (.add r)) = if s.actuators.last + 1 ≤ greatest then
      (.assigned (s.actuators.last + 1), { s with actuators :=
        ⟨s.actuators.entries.insert (s.actuators.last + 1) (.ofRecord r), s.actuators.last + 1⟩ })
    else (.failed .database, s) := by
  simp only [perform, Change.answer, Store.add, guarded, Numbered.add, ht.migrated, if_true, ht.next_eq]
  by_cases hroom : s.actuators.last + 1 ≤ greatest
  · simp only [if_pos hroom]
    rfl
  · simp only [if_neg hroom]
    rfl

theorem perform_update (ht : Tells h s) (r : Record) :
    s.perform (.change (.update r)) = if (recorded r.id h).isSome then
      (.done, s.setActuators (s.actuators.entries.insert r.id (.ofRecord r)))
    else (.failed (.notFound r.id), s) := by
  simp only [perform, Change.answer, Change.apply, Store.update, guarded, ht.migrated, if_true,
    ht.contains_eq]
  cases (recorded r.id h).isSome <;> rfl

theorem perform_delete (ht : Tells h s) (id : Int) :
    s.perform (.change (.delete id)) = if (recorded id h).isSome then
      (.done, { s.setActuators (s.actuators.entries.erase id) with states := s.states.erase id })
    else (.failed (.notFound id), s) := by
  simp only [perform, Change.answer, Change.apply, Store.delete, guarded, ht.migrated, if_true,
    ht.contains_eq]
  cases (recorded id h).isSome <;> rfl

theorem perform_addSensor (ht : Tells h s) (name : String) (pin : Gpio.Pin) (chip : String) :
    s.perform (.change (.addSensor name pin chip)) = if s.sensors.next ≤ greatest then
      (.assigned s.sensors.next, { s with sensors :=
        ⟨s.sensors.entries.insert s.sensors.next ⟨name, "gpio", .ofNat pin.toNat, chip⟩, s.sensors.next⟩ })
    else (.failed .database, s) := by
  simp only [perform, Change.answer, Store.addSensor, guarded, Numbered.add, ht.migrated, if_true]
  by_cases hroom : s.sensors.next ≤ greatest
  · simp only [if_pos hroom]
    rfl
  · simp only [if_neg hroom]
    rfl

/-- A record that was added is recorded under its id. -/
theorem add (ht : Tells h s) (r : Record) :
    Tells ((.change (.add r), .assigned (s.actuators.last + 1)) :: h) { s with actuators :=
      ⟨s.actuators.entries.insert (s.actuators.last + 1) (.ofRecord r), s.actuators.last + 1⟩ } where
  migrated := ht.migrated
  entry id := by
    simp only [recorded, Table.get?_insert]
    split
    · rename_i hid
      rw [if_pos (rank_inj hid)]
      rfl
    · rename_i hid
      rw [if_neg fun h => hid (congrArg rank h), ht.entry]
  last := by
    simp only [assigned, List.length_cons, Int.natCast_add, ht.last]
    rfl
  descending := by
    refine List.pairwise_cons.2 ⟨fun id hid => ?_, ht.descending⟩
    have := ht.le_last id hid
    omega
  le_last id hid := by
    rcases List.mem_cons.1 hid with rfl | hid
    · exact Int.le_refl _
    · have := ht.le_last id hid
      dsimp only
      omega
  assigned_of_deleted id hid := List.mem_cons_of_mem _ (ht.assigned_of_deleted id hid)
  missing id := by
    simp only [recorded, assigned, deleted, List.mem_cons, not_or]
    split
    · rename_i hid
      subst hid
      have hfresh : s.actuators.last + 1 ∉ deleted h :=
        fun hd => ht.not_mem_assigned_next (ht.assigned_of_deleted _ hd)
      simp [hfresh]
    · rename_i hid
      rw [ht.missing]
      simp [Ne.symm hid]

/-- A record that was updated is recorded in the place of the one before. -/
theorem update (ht : Tells h s) (hr : (recorded r.id h).isSome) :
    Tells ((.change (.update r), .done) :: h)
      (s.setActuators (s.actuators.entries.insert r.id (.ofRecord r))) where
  migrated := ht.migrated
  entry id := by
    simp only [recorded, setActuators, Table.get?_insert]
    split
    · rename_i hid
      rw [if_pos (rank_inj hid)]
      rfl
    · rename_i hid
      rw [if_neg fun h => hid (congrArg rank h), ht.entry]
  last := ht.last
  descending := ht.descending
  le_last := ht.le_last
  assigned_of_deleted := ht.assigned_of_deleted
  missing id := by
    simp only [recorded, assigned, deleted]
    split
    · rename_i hid
      subst hid
      rw [← ht.missing]
      exact iff_of_false nofun fun hn => by simp [hn] at hr
    · exact ht.missing id

/-- A record that was deleted is not recorded any more, and its id stays assigned. -/
theorem delete (ht : Tells h s) (hr : (recorded id h).isSome) :
    Tells ((.change (.delete id), .done) :: h)
      { s.setActuators (s.actuators.entries.erase id) with states := s.states.erase id } where
  migrated := ht.migrated
  entry id' := by
    simp only [recorded, setActuators, Table.get?_erase]
    split
    · rename_i hid
      rw [if_pos (rank_inj hid)]
      rfl
    · rename_i hid
      rw [if_neg fun h => hid (congrArg rank h), ht.entry]
  last := ht.last
  descending := ht.descending
  le_last := ht.le_last
  assigned_of_deleted id' hid := by
    rcases List.mem_cons.1 hid with rfl | hid
    · obtain ⟨r, hr⟩ := Option.isSome_iff_exists.1 hr
      exact ht.mem_assigned hr
    · exact ht.assigned_of_deleted id' hid
  missing id' := by
    simp only [recorded, assigned, deleted, List.mem_cons]
    split
    · rename_i hid
      simp [hid]
    · rename_i hid
      rw [ht.missing]
      simp [Ne.symm hid]

/-- Every request leaves the tables saying what the history says. -/
theorem serve (ht : Tells h s) (q : Request) :
    Tells ((q, (s.perform q).1) :: h) (s.perform q).2 := by
  have hfailed {c : Change} {e : Error} : Tells ((.change c, .failed e) :: h) s := by
    cases c <;> exact ht.of_actuators ht.migrated rfl rfl rfl fun _ => rfl
  cases q with
  | migrate => exact ht.of_actuators rfl rfl rfl rfl fun _ => rfl
  | reopen p path =>
    simp only [perform, p.open?_keep path s]
    exact ht.of_actuators rfl rfl rfl rfl fun _ => rfl
  | change c =>
    cases c with
    | add r =>
      rw [ht.perform_add]
      split
      · exact ht.add r
      · exact hfailed
    | update r =>
      rw [ht.perform_update]
      split
      · exact ht.update ‹_›
      · exact hfailed
    | delete id =>
      rw [ht.perform_delete]
      split
      · exact ht.delete ‹_›
      · exact hfailed
    | save row =>
      simp only [perform, Change.answer, Change.apply, Store.save, guarded, ht.migrated, if_true]
      exact ht.of_actuators rfl rfl rfl rfl fun _ => rfl
    | addSensor name pin chip =>
      rw [ht.perform_addSensor]
      split
      · exact ht.of_actuators ht.migrated rfl rfl rfl fun _ => rfl
      · exact hfailed

/-! ## What a store is asked at the end of a history -/

theorem get_eq (ht : Tells h s) (id : Int) :
    s.get id = match recorded id h with
      | some r => .ok r
      | none => .error (.notFound id) := by
  unfold Store.get guarded
  rw [if_pos ht.migrated, ht.entry]
  cases hr : recorded id h with
  | none => rfl
  | some r =>
    obtain rfl := id_of_recorded hr
    exact ofRecord_record r

/-- The table holds the records of a history, in the order of their ids. -/
theorem lists (ht : Tells h s) :
    ∃ records, s.Lists records ∧ ∀ r, r ∈ records ↔ recorded r.id h = some r := by
  have hentry {id : Int} {e : ActuatorEntry} : (id, e) ∈ s.actuators.entries.entries ↔
      ∃ r, recorded id h = some r ∧ .ofRecord r = e := by
    rw [← Table.get?_eq_some_iff, ht.entry, Option.map_eq_some_iff]
  obtain ⟨records, hrecords⟩ := records_of_entries (l := s.actuators.entries.entries) fun x hx => by
    obtain ⟨r, hr, he⟩ := hentry.1 hx
    exact ⟨r, id_of_recorded hr, he.symm⟩
  refine ⟨records, ⟨ht.migrated, hrecords⟩, fun r => ⟨fun hr => ?_, fun hr => ?_⟩⟩
  · obtain ⟨r', hr', he⟩ := hentry.1 (hrecords ▸ List.mem_map_of_mem hr)
    rwa [ofRecord_inj (id_of_recorded hr') he] at hr'
  · have hmem := hentry.2 ⟨r, hr, rfl⟩
    rw [hrecords, List.mem_map] at hmem
    obtain ⟨r', hr', he⟩ := hmem
    obtain ⟨hid, he⟩ := Prod.mk.inj he
    rwa [ofRecord_inj hid he] at hr'

end Tells

/-- At the end of a history a store is the map that the history tells of. -/
structure Faithful (h : History) (s : Store) : Prop where
  /-- Later ids are greater. -/
  descending : (assigned h).Pairwise (· > ·)
  /-- The next id is greater than those before, as long as there is one that a column holds. -/
  add : ∀ r, (assigned h).length < greatest →
    ∃ id s', s.perform (.change (.add r)) = (.assigned id, s') ∧ ∀ id' ∈ assigned h, id > id'
  get : ∀ id, s.get id =
    match recorded id h with
    | some r => .ok r
    | none => .error (.notFound id)
  named : ∀ id r, recorded id h = some r → r.id = id
  /-- An id has no record if it was never assigned, or if its record was deleted. -/
  missing : ∀ id, recorded id h = none ↔ id ∉ assigned h ∨ id ∈ deleted h
  list : ∃ records, s.list false = .ok records ∧ s.list true = .ok (records.filter (·.enabled)) ∧
    records.Pairwise (fun r r' => r.id < r'.id) ∧ ∀ r, r ∈ records ↔ recorded r.id h = some r
  /-- A record is updated in its place, or else not at all. -/
  update : ∀ r, if recorded r.id h = none then
      s.perform (.change (.update r)) = (.failed (.notFound r.id), s)
    else (s.perform (.change (.update r))).1 = .done
  /-- A record is deleted if there is one, and else nothing is. -/
  delete : ∀ id, if recorded id h = none then
      s.perform (.change (.delete id)) = (.failed (.notFound id), s)
    else (s.perform (.change (.delete id))).1 = .done

theorem Tells.faithful (ht : Tells h s) : Faithful h s where
  descending := ht.descending
  add r hroom := by
    have hlast : s.actuators.last + 1 ≤ greatest := by
      rw [ht.last]
      omega
    refine ⟨_, _, (ht.perform_add r).trans (if_pos hlast), fun id hid => ?_⟩
    have := ht.le_last id hid
    omega
  get := ht.get_eq
  named _ _ hr := id_of_recorded hr
  missing := ht.missing
  list := by
    obtain ⟨records, hl, hmem⟩ := ht.lists
    exact ⟨records, hl.list_all, hl.list_eq true, hl.ascending, hmem⟩
  update r := by
    rw [ht.perform_update]
    cases recorded r.id h <;> simp
  delete id := by
    rw [ht.perform_delete]
    cases recorded id h <;> simp

theorem served_tells (qs : List Request) : Tells (served qs).1 (served qs).2 := by
  have hserve : ∀ {x : History × Store}, Tells x.1 x.2 → Tells (qs.foldl serve x).1 (qs.foldl serve x).2 := by
    induction qs with
    | nil => exact fun hx => hx
    | cons q qs ih => exact fun hx => ih (hx.serve q)
  exact hserve empty_tells

/-- Every history of a new store ends with a store that is the map that the history tells of. -/
theorem served_faithful (qs : List Request) : Faithful (served qs).1 (served qs).2 :=
  (served_tells qs).faithful

end Store

end Switchboard
