import Switchboard.Proofs.StartupPins
import Switchboard.Proofs.StateRows

/-!
# Which outputs of a store get a driver

Startup goes through the outputs in use in the order of their ids. Whether one is fit does not depend on the
others that are made: the check knows the whole store, and a driver refuses an output for its own sake or
for its chip (`isFit`). Two fit outputs are never on one pin. So each one takes a new pin, and the only thing
that the outputs before it can do to an output is to use up the room on the board (`createDriver_trial`).
Therefore the drivers made are the first of the fit ones, as many as there is room for (`createSome_making`).

The result is told by the records alone (`chosen`), together with what it leaves on the board and in the
groups (`Driven`).
-/

namespace Switchboard

open Output (Config Driver)
open Store (Record Row)

/-- A driver of an output that has not been switched, with the counters of a state row, or zero without one. -/
def Output.Driver.resumed (serial : Nat) (config : Config) (row? : Option Row) : Driver where
  serial
  config
  status :=
    { state := .unknown
      duty := Duty.zero
      lastChange := none
      lastOn := none
      lastOff := none
      total := row?.elim 0 (·.total)
      cycles := row?.elim 0 (·.cycles)
      lockout := false
      reason := none }
  onSince := none
  offSince := none
  pulse := none
  pulses := 0

namespace Startup

/-- The first so many, or all. -/
def upTo {α : Type} : Option Nat → List α → List α
  | none, l => l
  | some k, l => l.take k

section UpTo

variable {α β : Type} {k? : Option Nat} {l : List α}

theorem upTo_nil : upTo k? ([] : List α) = [] := by
  cases k? with
  | none => rfl
  | some k => exact List.take_nil

theorem upTo_zero : upTo (some 0) l = [] := rfl

theorem upTo_cons (h : k? ≠ some 0) (a : α) : upTo k? (a :: l) = a :: upTo (k?.map (· - 1)) l := by
  rcases k? with - | - | k
  · rfl
  · exact absurd rfl h
  · rfl

theorem upTo_map (f : α → β) : upTo k? (l.map f) = (upTo k? l).map f := by
  cases k? with
  | none => rfl
  | some k => exact List.map_take.symm

theorem upTo_sublist : (upTo k? l).Sublist l := by
  cases k? with
  | none => exact .refl l
  | some k => exact List.take_sublist k l

end UpTo

variable {store : Store} {c : Config} {r : Rig}

/-! ## One output -/

/-- How many pins still fit into the table of a board, if there is a bound. -/
def room (b : Gpio.Board) : Option Nat :=
  b.capacity.map (· - b.pins.size)

theorem hasRoom_iff {b : Gpio.Board} {pin : Gpio.Pin} (h : b.pins.contains pin = false) :
    b.hasRoom pin = true ↔ room b ≠ some 0 := by
  unfold Gpio.Board.hasRoom room
  cases b.capacity with
  | none => simp
  | some k =>
    simp only [h, Bool.false_or, Option.all_some, decide_eq_true_eq, Option.map_some, ne_eq,
      Option.some.injEq]
    omega

theorem room_hosting {b : Gpio.Board} (h : b.pins.contains c.pin = false) :
    room (b.hosting c) = (room b).map (· - 1) := by
  have hsize : (b.hosting c).pins.size = b.pins.size + 1 := Table.size_insert h
  unfold room
  rw [hsize, Option.map_map]
  rfl

theorem not_contains_hosting {b : Gpio.Board} {pin : Gpio.Pin} (h : b.pins.contains pin = false)
    (hne : c.pin ≠ pin) : (b.hosting c).pins.contains pin = false := by
  rw [Gpio.Board.hosting, Table.contains_insert, h, Bool.or_false, decide_eq_false_iff_not]
  exact fun heq => hne (rank_inj heq)

/-- Nothing but the output itself has its pin, and its driver would be made where there is room. -/
def isFit (store : Store) (chip : String) (c : Config) : Bool :=
  (store.ensureFree c.pin c.chip (some c.id)).isOk && c.validate.isOk && c.chip == chip

theorem isOk_iff {ε : Type} {x : Except ε Unit} : x.isOk = true ↔ x = .ok () := by
  cases x with
  | ok u => exact iff_of_true rfl rfl
  | error e => exact iff_of_false nofun nofun

theorem isFit_iff {chip : String} :
    isFit store chip c = true ↔
      store.ensureFree c.pin c.chip (some c.id) = .ok () ∧ c.validate = .ok () ∧ c.chip = chip := by
  simp only [isFit, Bool.and_eq_true, isOk_iff, beq_iff_eq, and_assoc]

/-- How the making of the driver of a stored output can end. -/
inductive Trial (store : Store) (c : Config) (r : Rig) : Option Nat × Rig → Prop
  | made {p : Plant} {row? : Option Row} (fit : isFit store r.plant.board.chip c = true)
      (room : r.plant.board.hasRoom c.pin = true) (alike : (r.plant.hosting c).Alike p)
      (load : store.load c.id = .ok row?) :
      Trial store c r (some r.next,
        { r with
          plant := p
          drivers := r.drivers.insert r.next (.resumed r.next c row?)
          next := r.next + 1 })
  | skipped {p : Plant} {next : Nat}
      (unfit : isFit store r.plant.board.chip c = true → r.plant.board.hasRoom c.pin = false)
      (alike : r.plant.Alike p) (next_le : r.next ≤ next) :
      Trial store c r (none, { r with plant := p, next })

theorem createDriver_trial (outputs : List Config) (c : Config) (hs : store.Sound)
    (hb : r.plant.board.bench.initialised = true) :
    Trial store c r (createDriver outputs (some store) c r) := by
  unfold createDriver ensureFree
  dsimp only
  cases hfree : store.ensureFree c.pin c.chip (some c.id) with
  | error e =>
    refine .skipped (fun h => ?_) (Plant.note_alike ..) (Nat.le_refl _)
    cases hfree.symm.trans (isFit_iff.1 h).1
  | ok u =>
    unfold Rig.create Rig.fresh
    dsimp only
    rcases create_hosting hb r.next c with ⟨⟨hvalid, hchip, hroom⟩, p, hmade, ha⟩ | ⟨hunfit, e, p, hfailed, ha⟩
    · rw [hmade]
      have hfit : isFit store r.plant.board.chip c = true := isFit_iff.2 ⟨hfree, hvalid, hchip⟩
      obtain ⟨row?, hload⟩ := hs.load c.id
      have ht := Trial.made hfit hroom ha hload
      cases row? with
      | none =>
        simp only [restore, hload]
        exact ht
      | some row =>
        simp only [restore, hload, Rig.tell, Table.get?_insert_self, Rig.keep, Rig.obey, Table.insert_insert]
        exact ht
    · rw [hfailed]
      refine .skipped (fun h => ?_) (ha.trans (Plant.note_alike ..)) (Nat.le_succ _)
      obtain ⟨-, hvalid, hchip⟩ := isFit_iff.1 h
      rw [Bool.eq_false_iff]
      exact fun hroom => hunfit ⟨hvalid, hchip, hroom⟩

/-! ## All outputs -/

/-- What the making of the drivers of some stored outputs leaves. -/
structure Making (store : Store) (made : List Config) (r : Rig) (serials : List Nat) (r' : Rig) : Prop where
  drivers : List.Forall₂ (fun n c => ∃ row?, store.load c.id = .ok row? ∧
    r'.drivers.get? n = some (.resumed n c row?)) serials made
  ordered : serials.Pairwise (· < ·)
  fresh : ∀ n ∈ serials, r.next ≤ n
  others : ∀ n, n ∉ serials → r'.drivers.get? n = r.drivers.get? n
  board_eq : r'.plant.board = made.foldl Gpio.Board.hosting r.plant.board
  groups_eq : r'.plant.groups = made.foldl Interlock.Groups.hosting r.plant.groups

section Making

variable {made : List Config} {serials : List Nat} {r' : Rig} {p : Plant}

/-- One more driver is made before some others. They have later serials, and leave it where it is. -/
theorem Making.cons {row? : Option Row} (alike : (r.plant.hosting c).Alike p)
    (load : store.load c.id = .ok row?)
    (h : Making store made
      { r with
        plant := p
        drivers := r.drivers.insert r.next (.resumed r.next c row?)
        next := r.next + 1 } serials r') :
    Making store (c :: made) r (r.next :: serials) r' := by
  have hlater : r.next ∉ serials := fun hm => Nat.lt_irrefl _ (h.fresh r.next hm)
  have hn := (h.others r.next hlater).trans Table.get?_insert_self
  refine ⟨.cons ⟨row?, load, hn⟩ h.drivers, List.pairwise_cons.2 ⟨h.fresh, h.ordered⟩, ?_, ?_, ?_, ?_⟩
  · intro n hm
    rcases List.mem_cons.1 hm with rfl | hm
    · exact Nat.le_refl _
    · exact Nat.le_of_succ_le (h.fresh n hm)
  · intro n hm
    obtain ⟨hne, hm⟩ := not_or.1 (mt List.mem_cons.2 hm)
    rw [h.others n hm]
    exact Table.get?_insert_of_ne (Ne.symm hne)
  · rw [h.board_eq, alike.board_eq]
    rfl
  · rw [h.groups_eq, alike.groups_eq]
    rfl

theorem Making.skip {next : Nat} (alike : r.plant.Alike p) (next_le : r.next ≤ next)
    (h : Making store made { r with plant := p, next } serials r') : Making store made r serials r' := by
  refine ⟨h.drivers, h.ordered, fun n hm => Nat.le_trans next_le (h.fresh n hm), h.others, ?_, ?_⟩
  · rw [h.board_eq, alike.board_eq]
  · rw [h.groups_eq, alike.groups_eq]

end Making

/-- An output that gets no driver makes no difference: either it is not fit, or there is no room for it nor
for any later one. -/
theorem upTo_skip {b : Gpio.Board} {chip : String} {rest : List Config}
    (unfit : isFit store chip c = true → b.hasRoom c.pin = false)
    (hnew : ∀ c' ∈ (c :: rest).filter (isFit store chip), b.pins.contains c'.pin = false) :
    upTo (room b) ((c :: rest).filter (isFit store chip)) =
      upTo (room b) (rest.filter (isFit store chip)) := by
  by_cases fit : isFit store chip c = true
  · rw [List.filter_cons_of_pos fit] at hnew ⊢
    have hfull : room b = some 0 := by
      by_contra hne
      have hroom := (hasRoom_iff (hnew c (List.mem_cons_self ..))).2 hne
      cases hroom.symm.trans (unfit fit)
    rw [hfull, upTo_zero, upTo_zero]
  · rw [List.filter_cons_of_neg fit]

/-- Outputs that are fit, on pins of their own that are not taken yet, get drivers as long as there is
room. -/
theorem createSome_making (outputs : List Config) {cs : List Config} {r : Rig} {chip : String}
    (hs : store.Sound) (hb : r.plant.board.bench.initialised = true) (hchip : r.plant.board.chip = chip)
    (hpins : (cs.filter (isFit store chip)).Pairwise fun c c' => c.pin ≠ c'.pin)
    (hnew : ∀ c ∈ cs.filter (isFit store chip), r.plant.board.pins.contains c.pin = false) :
    Making store (upTo (room r.plant.board) (cs.filter (isFit store chip))) r
      (createSome outputs (some store) cs r).1 (createSome outputs (some store) cs r).2 := by
  -- By induction on the outputs still to come, for every rig that the ones before may leave.
  induction cs generalizing r with
  | nil =>
    rw [List.filter_nil, upTo_nil]
    exact ⟨.nil, .nil, nofun, fun _ _ => rfl, rfl, rfl⟩
  | cons c rest ih =>
    have ht := createDriver_trial outputs c hs hb
    unfold createSome
    dsimp only
    generalize createDriver outputs (some store) c r = x at ht ⊢
    cases ht with
    | @made p row? fit hroom alike load =>
      rw [hchip] at fit
      rw [List.filter_cons_of_pos fit] at hpins hnew ⊢
      obtain ⟨hapart, hpins⟩ := List.pairwise_cons.1 hpins
      have hfree := hnew c (List.mem_cons_self ..)
      have hboard : p.board = r.plant.board.hosting c := alike.board_eq
      have hb' : p.board.bench.initialised = true := by
        rw [hboard]
        exact hb
      have hchip' : p.board.chip = chip := by
        rw [hboard]
        exact hchip
      have hnew' : ∀ c' ∈ rest.filter (isFit store chip), p.board.pins.contains c'.pin = false := by
        intro c' hc'
        rw [hboard]
        exact not_contains_hosting (hnew c' (List.mem_cons_of_mem _ hc')) (hapart c' hc')
      rw [upTo_cons ((hasRoom_iff hfree).1 hroom), ← room_hosting hfree, ← hboard]
      have h := ih
        (r :=
          { r with
            plant := p
            drivers := r.drivers.insert r.next (.resumed r.next c row?)
            next := r.next + 1 })
        hb' hchip' hpins hnew'
      exact .cons alike load h
    | @skipped p next unfit alike next_le =>
      have hboard : p.board = r.plant.board := alike.board_eq
      have hb' : p.board.bench.initialised = true := by
        rw [hboard]
        exact hb
      have hchip' : p.board.chip = chip := by
        rw [hboard]
        exact hchip
      have hsub := (List.sublist_cons_self c rest).filter (isFit store chip)
      have hnew' : ∀ c' ∈ rest.filter (isFit store chip), p.board.pins.contains c'.pin = false := by
        intro c' hc'
        rw [hboard]
        exact hnew c' (hsub.subset hc')
      rw [upTo_skip (hchip ▸ unfit) hnew, ← hboard]
      have h := ih (r := { r with plant := p, next }) hb' hchip' (hpins.sublist hsub) hnew'
      exact .skip alike next_le h

/-! ## What the drivers take -/

section Hosting

variable {made : List Config}

theorem hosting_board (made : List Config) (b : Gpio.Board) :
    made.foldl Gpio.Board.hosting b =
      { b with
        bench :=
          { b.bench with
            lines := b.bench.lines.insertAll (·.pin)
              (fun c => .fresh (.output (c.level false)) .disabled) made }
        pins := b.pins.insertAll (·.pin)
          (fun c => ⟨.output (c.level false), .disabled, .none, false⟩) made } := by
  induction made generalizing b with
  | nil => rfl
  | cons c rest ih => exact ih (b.hosting c)

/-- A group that has a place had one before, or is the group of one of the outputs. -/
theorem hosting_registered {g : Interlock.Groups} {group : Interlock.Group}
    (h : (made.foldl Interlock.Groups.hosting g).isRegistered group = true) :
    g.isRegistered group = true ∨ ∃ c ∈ made, c.group = some group := by
  induction made generalizing g with
  | nil => exact .inl h
  | cons c rest ih =>
    rcases ih h with h | ⟨c', hc', hgroup⟩
    · unfold Interlock.Groups.hosting at h
      cases hc : c.group with
      | none =>
        rw [hc] at h
        exact .inl h
      | some group' =>
        rw [hc] at h
        rcases Interlock.Groups.register_registered h with h | rfl
        · exact .inl h
        · exact .inr ⟨c, List.mem_cons_self .., hc⟩
    · exact .inr ⟨c', List.mem_cons_of_mem _ hc', hgroup⟩

end Hosting

/-! ## The drivers of a store -/

/-- The configuration of an output of the store: what its record says, and for the rest what the first tuning with
its id says, or the defaults. The greatest time on is in whole seconds, rounded up. -/
def overlay (s : Settings) (r : Record) : Config :=
  let tuning? := s.tunings.find? (·.id == r.id)
  { id := r.id
    name := r.name
    kind := r.kind
    pin := r.pin
    chip := r.chip
    activeLow := r.activeLow
    frequency := r.frequency
    minDuty := (tuning?.bind (·.minDuty)).getD Duty.zero
    maxDuty := (tuning?.bind (·.maxDuty)).getD Duty.full
    minOn := r.minOn
    minOff := (tuning?.bind (·.minOff)).getD 0
    maxOn := .ofNat ((r.maxOn.toNat + 999) / 1000)
    pulse := (tuning?.bind (·.pulse)).getD 0
    group := tuning?.bind (·.group) }

/-- An output of the store may have a driver, if there is room: it is in use, nothing else has its pin, it
is on the chip, and it is valid under its tuning. -/
def suits (s : Settings) (store : Store) (records : List Record) (r : Record) : Bool :=
  r.enabled && records.all (fun o => o.id == r.id || !(o.pin == r.pin && o.chip == r.chip))
    && !store.hasSensor r.pin r.chip && r.chip == s.gpio.chip && (overlay s r).validate.isOk

/-- The outputs that get a driver: the first ones that may have one, as many as there are pins. -/
def chosen (s : Settings) (store : Store) (records : List Record) : List Config :=
  (upTo s.gpio.capacity (records.filter (suits s store records))).map (overlay s)

/-- There is a driver for each of some outputs, with the counters of its state row, and nothing else is
there: neither another driver nor another pin nor another group. -/
structure Driven (s : Settings) (store : Store) (made : List Config) (serials : List Nat) (r : Rig) :
    Prop where
  drivers : List.Forall₂ (fun n c => ∃ row?, store.load c.id = .ok row? ∧
    r.drivers.get? n = some (.resumed n c row?)) serials made
  ordered : serials.Pairwise (· < ·)
  only : ∀ n, (r.drivers.get? n).isSome = true → n ∈ serials
  ascending : made.Pairwise fun c c' => c.id < c'.id
  apart : made.Pairwise fun c c' => c.pin ≠ c'.pin
  /-- Each output is off. -/
  off : ∀ c ∈ made,
    r.plant.board.pins.get? c.pin = some ⟨.output (c.level false), .disabled, .none, false⟩ ∧
      r.plant.board.bench.level? c.pin = some (c.level false)
  configured : ∀ pin, r.plant.board.pins.contains pin = true ↔ ∃ c ∈ made, c.pin = pin
  lines : ∀ pin, r.plant.board.bench.lines.contains pin = true ↔ ∃ c ∈ made, c.pin = pin
  groups_eq : r.plant.groups =
    made.foldl Interlock.Groups.hosting (.new s.interlock.maxGroups s.interlock.overflow)
  registered : ∀ group, r.plant.groups.isRegistered group = true → ∃ c ∈ made, c.group = some group

variable {s : Settings} {records : List Record}

theorem tuned_config (s : Settings) (r : Record) : s.tuned r.config = overlay s r := by
  have hid : r.config.id = r.id := rfl
  unfold Settings.tuned Settings.tuning? overlay
  rw [hid]
  cases s.tunings.find? (·.id == r.id) with
  | none => rfl
  | some t =>
    simp only [Tuning.apply, Record.config, Config.plain, Store.secondsUp, Option.or_none, Option.bind_some]

theorem suits_iff (hl : store.Lists records) (r : Record) :
    suits s store records r = true ↔
      r.enabled = true ∧ isFit store s.gpio.chip (overlay s r) = true := by
  have halone : records.all (fun o => o.id == r.id || !(o.pin == r.pin && o.chip == r.chip)) = true ↔
      ∀ o ∈ records, o.pin = r.pin → o.chip = r.chip → o.id = r.id := by
    rw [List.all_eq_true]
    refine forall₂_congr fun o ho => ?_
    simp only [Bool.or_eq_true, beq_iff_eq, Bool.not_eq_true', Bool.and_eq_false_iff, beq_eq_false_iff_ne]
    tauto
  rw [isFit_iff, hl.ensureFree_iff]
  simp only [suits, Bool.and_eq_true, halone, Bool.not_eq_true', beq_iff_eq, isOk_iff]
  tauto

/-- The outputs of a store that are in use, under their tunings. -/
def offered (s : Settings) (records : List Record) : List Config :=
  (records.filter (·.enabled)).map (overlay s)

theorem outputs_eq (s : Settings) (hl : store.Lists records) :
    outputs s (some store) = .ok (offered s records) := by
  have hlist : store.list true = .ok (records.filter (·.enabled)) := hl.list_eq true
  simp only [outputs, hlist, tuned_config]
  rfl

/-- Those that are fit are those that may have a driver. -/
theorem offered_isFit (hl : store.Lists records) :
    (offered s records).filter (isFit store s.gpio.chip) =
      (records.filter (suits s store records)).map (overlay s) := by
  unfold offered
  rw [List.filter_map, List.filter_filter]
  congr 1
  refine List.filter_congr fun r _ => ?_
  rw [Bool.eq_iff_iff, suits_iff hl, Bool.and_eq_true, and_comm]
  rfl

/-- No two of them are on one pin: the check would have found the other. -/
theorem fit_apart (hl : store.Lists records) :
    ((offered s records).filter (isFit store s.gpio.chip)).Pairwise fun c c' =>
      c.id < c'.id ∧ c.pin ≠ c'.pin := by
  rw [offered_isFit hl, List.pairwise_map]
  refine (hl.ascending.filter _).imp_of_mem fun {r r'} hr hr' hlt => ?_
  obtain ⟨-, hsuits⟩ := List.mem_filter.1 hr
  obtain ⟨hmem', hsuits'⟩ := List.mem_filter.1 hr'
  obtain ⟨hfree, -, hchip⟩ := isFit_iff.1 ((suits_iff hl r).1 hsuits).2
  obtain ⟨-, -, hchip'⟩ := isFit_iff.1 ((suits_iff hl r').1 hsuits').2
  have halone := (hl.ensureFree_iff _ _ _).1 hfree
  refine ⟨hlt, fun heq => ?_⟩
  have hsame : r'.id = r.id := halone.1 r' hmem' heq.symm (hchip'.trans hchip.symm)
  exact absurd hsame.symm (Int.ne_of_lt hlt)

/-- The ones that get a driver are the first of the fit ones, as many as an empty board has room for. -/
theorem chosen_eq (s : Settings) (wall : Timestamp) (hl : store.Lists records) :
    chosen s store records =
      upTo (room (rig s wall).plant.board) ((offered s records).filter (isFit store s.gpio.chip)) := by
  have hroom : room (rig s wall).plant.board = s.gpio.capacity := Option.map_id' ..
  rw [hroom, offered_isFit hl, upTo_map]
  rfl

theorem Making.driven {wall : Timestamp} {made : List Config} {serials : List Nat}
    (h : Making store made (rig s wall) serials r)
    (hapart : made.Pairwise fun c c' => c.id < c'.id ∧ c.pin ≠ c'.pin) :
    Driven s store made serials r := by
  have hpins : made.Pairwise fun c c' => c.pin ≠ c'.pin := hapart.imp And.right
  have hboard := h.board_eq.trans (hosting_board made _)
  refine ⟨h.drivers, h.ordered, ?_, hapart.imp And.left, hpins, ?_, ?_, ?_, h.groups_eq, ?_⟩
  · intro n hn
    by_contra hno
    rw [h.others n hno] at hn
    cases hn
  · intro c hc
    rw [hboard, Gpio.Bench.level?]
    refine ⟨Table.get?_insertAll_of_mem hpins hc, ?_⟩
    rw [Table.get?_insertAll_of_mem hpins hc]
    rfl
  -- The board and the groups were empty, so that what is there was taken for one of the outputs.
  · intro pin
    rw [hboard]
    exact Table.contains_insertAll.trans (or_iff_right Bool.false_ne_true)
  · intro pin
    rw [hboard]
    exact Table.contains_insertAll.trans (or_iff_right Bool.false_ne_true)
  · intro group hgroup
    rw [h.groups_eq] at hgroup
    exact (hosting_registered hgroup).resolve_left Bool.false_ne_true

theorem createDrivers_driven (s : Settings) (wall : Timestamp) (hs : store.Sound)
    (hl : store.Lists records) :
    ∃ serials r, createDrivers s (some store) (rig s wall) = .ok (serials, r) ∧
      Driven s store (chosen s store records) serials r := by
  have hapart := fit_apart (s := s) hl
  have hm := createSome_making (r := rig s wall) (offered s records) hs rfl rfl (hapart.imp And.right)
    fun _ _ => rfl
  simp only [createDrivers, outputs_eq s hl, Except.map]
  refine ⟨_, _, rfl, ?_⟩
  rw [chosen_eq s wall hl]
  exact hm.driven (hapart.sublist upTo_sublist)

/-- What a store is told when it is changed. -/
def told (changes : List Store.Change) : Store.History :=
  (Store.served (changes.map .change)).1

/-- A record with nothing set beyond what it must have. -/
def plainRecord (id : Int) (name : String) (pin : Gpio.Pin) : Record where
  id
  slot := 0
  subslot := 0
  name
  kind := .relay
  pin
  chip := Output.defaultChip
  activeLow := false
  safeState := .off
  minOn := 0
  maxOn := 0
  frequency := 0
  enabled := true

def workshopRecords : List Record :=
  [{ plainRecord 1 "saw" 17 with maxOn := 4500 }, plainRecord 2 "drill" 18, { plainRecord 3 "lathe" 18 with enabled := false },
    plainRecord 4 "lamp" 4, plainRecord 5 "fan" 22, plainRecord 6 "horn" 23]

/-- The pins of the drill and of the lamp are also someone else's, and there is room for two pins. The saw
has been on before. -/
def workshop : List Store.Change :=
  workshopRecords.map .add ++ [.addSensor "light" 4 Output.defaultChip, .save ⟨1, false, 0, 5000, 3, ⟨60, 0⟩⟩]

def workshopSettings : Settings :=
  { plainSettings [] with
    gpio := { GpioSettings.default with maxPins := 2 }
    tunings := [⟨5, some 7, none, none, none, none⟩] }

theorem workshop_lists : (Store.empty.after workshop).Lists workshopRecords :=
  ⟨by decide +kernel, by decide +kernel⟩

theorem workshop_isProper : ∀ c ∈ workshop, c.IsProper := by
  have hmoment : Timestamp.IsMoment ⟨60, 0⟩ := ⟨by decide, by decide, by decide⟩
  simpa [workshop, workshopRecords, Store.Change.IsProper] using hmoment

end Startup

end Switchboard
