import Mathlib.Data.List.Forall2
import Switchboard.Proofs.Runs
import Switchboard.Startup

/-!
# Which outputs get a driver

A driver takes the pin of its output and a place for its group. A driver that is refused takes nothing
(`create_hosting`).

Without a store the settings say which outputs there are. Startup goes through them in order and makes a
driver for each whose pin no other output has, if it is valid, on the chip of the board, and there is room
for its pin (`createDriver_attempt`). What another output is, the check tells by the number alone: an entry
that has the same number is taken for the one that asks. So an entry whose pin is also that of an entry with
another number gets no driver, and neither does the other one, but entries with one number do not get in
each other's way, and the board lets the second take the pin of the first.

If no two entries have the number, the pin and the chip in common, all drivers have different pins. If two
have, are valid, and the first gets a driver, the second gets one on the same pin (`GetsDriver.twin`,
`createDrivers_pins`).
-/

namespace Switchboard

open Output (Config Driver)

/-! ## What an output takes -/

/-- The board with the pin of an output taken, at the level that leaves it off. -/
def Gpio.Board.hosting (b : Gpio.Board) (c : Config) : Gpio.Board :=
  { b with
    bench :=
      { b.bench with
        lines := b.bench.lines.insert c.pin (.fresh (.output (c.level false)) .disabled) }
    pins := b.pins.insert c.pin ⟨.output (c.level false), .disabled, .none, false⟩ }

def Interlock.Groups.hosting (g : Interlock.Groups) (c : Config) : Interlock.Groups :=
  match c.group with
  | none => g
  | some group => (g.register group).2

def Plant.hosting (p : Plant) (c : Config) : Plant :=
  { p with board := p.board.hosting c, groups := p.groups.hosting c }

theorem Gpio.Board.configure_hosting {b : Gpio.Board} (hb : b.bench.initialised = true) (c : Config) :
    b.hasRoom c.pin = true ∧
        b.configure c.pin (.output (c.level false)) .disabled = (.ok (), b.hosting c) ∨
      b.hasRoom c.pin = false ∧
        ∃ e, b.configure c.pin (.output (c.level false)) .disabled = (.error e, b) := by
  unfold Gpio.Board.configure Gpio.Bench.configure
  cases b.hasRoom c.pin with
  | false =>
    simp only [hb, Bool.not_true, Bool.not_false, Bool.false_eq_true, if_false, if_true]
    exact .inr ⟨trivial, _, rfl⟩
  | true =>
    simp only [hb, Bool.not_true, Bool.false_eq_true, if_false, if_true]
    refine .inl ⟨trivial, ?_⟩
    simp only [Gpio.Board.hosting, hb]

/-- On a started board a driver is made if its output is valid, on the chip, and has room. Then its pin and
a place for its group are taken, and otherwise nothing is. -/
theorem create_hosting {p : Plant} (hb : p.board.bench.initialised = true) (serial : Nat) (c : Config) :
    (c.validate = .ok () ∧ c.chip = p.board.chip ∧ p.board.hasRoom c.pin = true) ∧
        (∃ q, Driver.create serial c p = (.ok (.idle serial c), q) ∧ (p.hosting c).Alike q) ∨
      ¬(c.validate = .ok () ∧ c.chip = p.board.chip ∧ p.board.hasRoom c.pin = true) ∧
        ∃ e q, Driver.create serial c p = (.error e, q) ∧ p.Alike q := by
  have hends := Driver.create_cases serial c p
  have hboard := p.board.configure_hosting hb c
  generalize Driver.create serial c p = x at hends ⊢
  cases hends with
  | unfit unfit => exact .inr ⟨fun h => unfit ⟨h.1, h.2.1⟩, _, _, rfl, .refl p⟩
  | failed configure alike =>
    rcases hboard with ⟨-, hmade⟩ | ⟨hroom, e, hfailed⟩
    · rw [hmade] at configure
      cases configure
    · rw [hfailed] at alike
      exact .inr ⟨fun h => (by cases hroom.symm.trans h.2.2), _, _, rfl, alike⟩
  | made fit configure alike =>
    rcases hboard with ⟨hroom, hmade⟩ | ⟨-, e, hfailed⟩
    · rw [hmade] at alike
      refine .inl ⟨⟨fit.1, fit.2, hroom⟩, _, rfl, ?_⟩
      unfold Plant.hosting Interlock.Groups.hosting
      cases hg : c.group with
      | none => simpa only [hg] using alike
      | some g => simpa only [hg] using alike
    · rw [hfailed] at configure
      cases configure

namespace Startup

/-- No entry with another number has the pin of an output. -/
def Unshared (outputs : List Config) (c : Config) : Prop :=
  ∀ o ∈ outputs, o.pin = c.pin → o.chip = c.chip → o.id = c.id

/-- What it takes for an output to get a driver. -/
structure Fits (outputs : List Config) (b : Gpio.Board) (c : Config) : Prop where
  unshared : Unshared outputs c
  valid : c.validate = .ok ()
  chip_eq : c.chip = b.chip
  room : b.hasRoom c.pin = true

variable {outputs : List Config} {c : Config} {r : Rig}

theorem ensureFree_eq_ok_iff : ensureFree outputs none c = .ok () ↔ Unshared outputs c := by
  unfold ensureFree Store.conflictAmong Unshared
  cases hf : outputs.find? fun o => some o.id != some c.id && o.pin == c.pin && o.chip == c.chip with
  | none =>
    rw [List.find?_eq_none] at hf
    simp only [Option.map_none, Store.noConflict, true_iff]
    intro o ho hpin hchip
    simpa [hpin, hchip] using hf o ho
  | some o =>
    have ho := List.find?_some hf
    simp only [Bool.and_eq_true, bne_iff_ne, ne_eq, Option.some.injEq, beq_iff_eq] at ho
    simp only [Option.map_some, Store.noConflict, reduceCtorEq, false_iff]
    intro h
    exact ho.1.1 (h o (List.mem_of_find?_eq_some hf) ho.1.2 ho.2)

/-! ## One output -/

/-- What becomes of the board while drivers are made: no pin is given up. -/
structure Grown (b b' : Gpio.Board) : Prop where
  chip_eq : b'.chip = b.chip
  initialised : b.bench.initialised = true → b'.bench.initialised = true
  keeps : ∀ pin, b.pins.contains pin = true → b'.pins.contains pin = true

theorem Grown.refl (b : Gpio.Board) : Grown b b :=
  ⟨rfl, id, fun _ => id⟩

theorem Grown.trans {b b' b'' : Gpio.Board} (h : Grown b b') (h' : Grown b' b'') : Grown b b'' :=
  ⟨h'.chip_eq.trans h.chip_eq, fun hi => h'.initialised (h.initialised hi),
    fun pin hp => h'.keeps pin (h.keeps pin hp)⟩

theorem Grown.hosting (b : Gpio.Board) (c : Config) : Grown b (b.hosting c) where
  chip_eq := rfl
  initialised := id
  keeps pin hp := by simp [Gpio.Board.hosting, Table.contains_insert, hp]

/-- On a started board a driver is made if its output is valid, on the chip, and has room. -/
theorem create_cases {p : Plant} (hb : p.board.bench.initialised = true) (serial : Nat) (c : Config) :
    Grown p.board (Driver.create serial c p).2.board ∧
      ((c.validate = .ok () ∧ c.chip = p.board.chip ∧ p.board.hasRoom c.pin = true) ∧
          (Driver.create serial c p).1 = .ok (.idle serial c) ∧
          (Driver.create serial c p).2.board.pins.contains c.pin = true ∨
        ¬(c.validate = .ok () ∧ c.chip = p.board.chip ∧ p.board.hasRoom c.pin = true) ∧
          ∃ e, (Driver.create serial c p).1 = .error e) := by
  rcases create_hosting hb serial c with ⟨hfits, q, hmade, ha⟩ | ⟨hunfit, e, q, hfailed, ha⟩
  · rw [hmade, ha.board_eq]
    exact ⟨.hosting _ c, .inl ⟨hfits, rfl, by simp [Plant.hosting, Gpio.Board.hosting, Table.contains_insert]⟩⟩
  · rw [hfailed, ha.board_eq]
    exact ⟨.refl _, .inr ⟨hunfit, e, rfl⟩⟩

/-- How the making of a driver can end. -/
inductive Attempt (outputs : List Config) (c : Config) (r : Rig) : Option Nat × Rig → Prop
  | made {p : Plant} (fits : Fits outputs r.plant.board c) (grown : Grown r.plant.board p.board)
      (taken : p.board.pins.contains c.pin = true) :
      Attempt outputs c r (some r.next,
        { r with plant := p, drivers := r.drivers.insert r.next (.idle r.next c), next := r.next + 1 })
  | skipped {p : Plant} {next : Nat} (unfit : ¬Fits outputs r.plant.board c)
      (grown : Grown r.plant.board p.board) (next_le : r.next ≤ next) :
      Attempt outputs c r (none, { r with plant := p, next })

theorem createDriver_attempt (outputs : List Config) (c : Config) (r : Rig)
    (hb : r.plant.board.bench.initialised = true) :
    Attempt outputs c r (createDriver outputs none c r) := by
  unfold createDriver
  cases hfree : ensureFree outputs none c with
  | error e =>
    refine .skipped (fun h => ?_) (.refl _) (Nat.le_refl _)
    cases hfree.symm.trans (ensureFree_eq_ok_iff.2 h.unshared)
  | ok u =>
    have hshare : Unshared outputs c := ensureFree_eq_ok_iff.1 hfree
    obtain ⟨hgrown, hcases⟩ := create_cases hb r.next c
    unfold Rig.create Rig.fresh
    dsimp only
    generalize Driver.create r.next c r.plant = x at hgrown hcases ⊢
    obtain ⟨result, p⟩ := x
    rcases hcases with ⟨⟨hvalid, hchip, hroom⟩, hmade, htaken⟩ | ⟨hunfit, e, he⟩
    · obtain rfl : result = .ok (.idle r.next c) := hmade
      exact .made ⟨hshare, hvalid, hchip, hroom⟩ hgrown htaken
    · obtain rfl : result = .error e := he
      refine .skipped (fun h => hunfit ⟨h.valid, h.chip_eq, h.room⟩) ?_ (Nat.le_succ _)
      exact hgrown

/-! ## All outputs -/

/-- The outputs that get a driver, in order. -/
def accepted (outputs : List Config) : List Config → Rig → List Config
  | [], _ => []
  | c :: rest, r =>
    let (made, r) := createDriver outputs none c r
    (if made.isSome then [c] else []) ++ accepted outputs rest r

/-- What the making of the drivers of some outputs leaves: the drivers of those that got one, and all that
was there before. -/
structure Creation (outputs cs : List Config) (r : Rig) (serials : List Nat) (r' : Rig) : Prop where
  sublist : (accepted outputs cs r).Sublist cs
  fits : ∀ c ∈ accepted outputs cs r, Unshared outputs c ∧ c.chip = r.plant.board.chip
  drivers : List.Forall₂ (fun n c => r'.drivers.get? n = some (.idle n c)) serials (accepted outputs cs r)
  ordered : serials.Pairwise (· < ·)
  fresh : ∀ n ∈ serials, r.next ≤ n ∧ n < r'.next
  kept : ∀ n, n < r.next → r'.drivers.get? n = r.drivers.get? n
  next_le : r.next ≤ r'.next
  grown : Grown r.plant.board r'.plant.board

theorem createSome_creation (outputs cs : List Config) (r : Rig)
    (hb : r.plant.board.bench.initialised = true) :
    Creation outputs cs r (createSome outputs none cs r).1 (createSome outputs none cs r).2 := by
  -- By induction on the outputs still to come, for every rig that the ones before may leave.
  induction cs generalizing r with
  | nil =>
    exact ⟨.slnil, by simp [accepted], .nil, .nil, by simp [createSome], fun _ _ => rfl, Nat.le_refl _,
      .refl _⟩
  | cons c rest ih =>
    have ha := createDriver_attempt outputs c r hb
    unfold createSome
    dsimp only
    have hacc : accepted outputs (c :: rest) r =
        (if (createDriver outputs none c r).1.isSome then [c] else []) ++
          accepted outputs rest (createDriver outputs none c r).2 := rfl
    generalize createDriver outputs none c r = x at ha hacc ⊢
    cases ha with
    | @made p fits grown taken =>
      have h := ih
        { r with plant := p, drivers := r.drivers.insert r.next (.idle r.next c), next := r.next + 1 }
        (grown.initialised hb)
      -- Later drivers have later serials, and leave this one where it is.
      have hn := (h.kept r.next (Nat.lt_succ_self _)).trans Table.get?_insert_self
      refine ⟨?_, ?_, ?_, ?_, ?_, ?_, ?_, grown.trans h.grown⟩
      · rw [hacc]
        exact h.sublist.cons_cons c
      · rw [hacc]
        intro c' hc'
        rcases List.mem_cons.1 hc' with rfl | hc'
        · exact ⟨fits.unshared, fits.chip_eq⟩
        · obtain ⟨hu, hchip⟩ := h.fits c' hc'
          exact ⟨hu, hchip.trans grown.chip_eq⟩
      · rw [hacc]
        exact .cons hn h.drivers
      · exact List.pairwise_cons.2 ⟨fun n hm => (h.fresh n hm).1, h.ordered⟩
      · intro n hm
        rcases List.mem_cons.1 hm with rfl | hm
        · exact ⟨Nat.le_refl _, h.next_le⟩
        · obtain ⟨hle, hlt⟩ := h.fresh n hm
          exact ⟨Nat.le_of_succ_le hle, hlt⟩
      · intro n hlt
        rw [h.kept n (Nat.lt_succ_of_lt hlt)]
        exact Table.get?_insert_of_ne (Nat.ne_of_gt hlt)
      · exact Nat.le_of_succ_le h.next_le
    | @skipped p next unfit grown next_le =>
      have h := ih { r with plant := p, next } (grown.initialised hb)
      refine ⟨?_, ?_, ?_, h.ordered, ?_, ?_, ?_, grown.trans h.grown⟩
      · rw [hacc]
        exact h.sublist.cons c
      · rw [hacc]
        intro c' hc'
        obtain ⟨hu, hchip⟩ := h.fits c' hc'
        exact ⟨hu, hchip.trans grown.chip_eq⟩
      · rw [hacc]
        exact h.drivers
      · intro n hm
        obtain ⟨hle, hlt⟩ := h.fresh n hm
        exact ⟨Nat.le_trans next_le hle, hlt⟩
      · intro n hlt
        exact h.kept n (Nat.lt_of_lt_of_le hlt next_le)
      · exact Nat.le_trans next_le h.next_le

theorem createSome_append (outputs cs cs' : List Config) (r : Rig) :
    (createSome outputs none (cs ++ cs') r).2 =
      (createSome outputs none cs' (createSome outputs none cs r).2).2 := by
  induction cs generalizing r with
  | nil => rfl
  | cons c rest ih => simp only [List.cons_append, createSome, ih]

theorem accepted_append (outputs cs cs' : List Config) (r : Rig) :
    accepted outputs (cs ++ cs') r =
      accepted outputs cs r ++ accepted outputs cs' (createSome outputs none cs r).2 := by
  induction cs generalizing r with
  | nil => rfl
  | cons c rest ih => simp only [List.cons_append, accepted, createSome, ih, List.append_assoc]

/-- The output that comes after some others gets a driver. -/
def GetsDriver (outputs before : List Config) (r : Rig) (c : Config) : Prop :=
  (createDriver outputs none c (createSome outputs none before r).2).1.isSome = true

variable {before cs : List Config} {c' : Config}

theorem getsDriver_iff (hb : r.plant.board.bench.initialised = true) :
    GetsDriver outputs before r c ↔
      Fits outputs (createSome outputs none before r).2.plant.board c := by
  have hb' := (createSome_creation outputs before r hb).grown.initialised hb
  have ha := createDriver_attempt outputs c _ hb'
  unfold GetsDriver
  generalize createDriver outputs none c _ = x at ha ⊢
  cases ha with
  | made fits grown taken => exact iff_of_true rfl fits
  | skipped unfit grown next_le => exact iff_of_false (by simp) unfit

theorem accepted_cons (h : GetsDriver outputs before r c) (cs : List Config) :
    accepted outputs (before ++ c :: cs) r =
      accepted outputs before r ++
        c :: accepted outputs cs (createSome outputs none (before ++ [c]) r).2 := by
  unfold GetsDriver at h
  rw [accepted_append, createSome_append]
  simp only [accepted, createSome, h, if_true, List.singleton_append]

theorem getsDriver_of_mem (h : c ∈ accepted outputs cs r) :
    ∃ before after, cs = before ++ c :: after ∧ GetsDriver outputs before r c := by
  induction cs generalizing r with
  | nil => cases h
  | cons c₀ rest ih =>
    simp only [accepted, List.mem_append] at h
    rcases h with h | h
    · split at h
      · rename_i hmade
        rw [List.mem_singleton] at h
        subst h
        exact ⟨[], rest, rfl, hmade⟩
      · cases h
    · obtain ⟨before, after, rfl, hgets⟩ := ih h
      exact ⟨c₀ :: before, after, rfl, hgets⟩

/-- What holds of two outputs that get drivers, the one after the other, holds throughout. -/
theorem accepted_pairwise {P : Config → Config → Prop}
    (h : ∀ before between after c c', cs = before ++ c :: between ++ c' :: after →
      GetsDriver outputs before r c → GetsDriver outputs (before ++ c :: between) r c' → P c c') :
    (accepted outputs cs r).Pairwise P := by
  induction cs generalizing r with
  | nil => exact .nil
  | cons c rest ih =>
    have hrest : (accepted outputs rest (createDriver outputs none c r).2).Pairwise P := by
      refine ih fun before between after c₁ c₂ he h₁ h₂ => ?_
      exact h (c :: before) between after c₁ c₂ (by rw [he]; rfl) h₁ h₂
    simp only [accepted]
    split
    · rename_i hmade
      refine List.pairwise_cons.2 ⟨fun c' hc' => ?_, hrest⟩
      obtain ⟨between, after, rfl, hgets⟩ := getsDriver_of_mem hc'
      exact h [] between after c c' rfl hmade hgets
    · exact hrest

/-- Two entries have the same number, pin and chip. -/
def Twins (c c' : Config) : Prop :=
  c.id = c'.id ∧ c.pin = c'.pin ∧ c.chip = c'.chip

theorem GetsDriver.taken (h : GetsDriver outputs before r c)
    (hb : r.plant.board.bench.initialised = true) (between : List Config) :
    Grown r.plant.board (createSome outputs none (before ++ c :: between) r).2.plant.board ∧
      (createSome outputs none (before ++ c :: between) r).2.plant.board.pins.contains c.pin = true := by
  have hgrown := (createSome_creation outputs before r hb).grown
  have hfits := (getsDriver_iff hb).1 h
  rw [createSome_append]
  generalize (createSome outputs none before r).2 = r₁ at hgrown hfits ⊢
  have hone : Grown r₁.plant.board (createDriver outputs none c r₁).2.plant.board ∧
      (createDriver outputs none c r₁).2.plant.board.pins.contains c.pin = true := by
    have ha := createDriver_attempt outputs c r₁ (hgrown.initialised hb)
    generalize createDriver outputs none c r₁ = x at ha ⊢
    cases ha with
    | made fits grown taken => exact ⟨grown, taken⟩
    | skipped unfit grown next_le => exact absurd hfits unfit
  obtain ⟨hstep, htaken⟩ := hone
  have hboth := hgrown.trans hstep
  have hrest := (createSome_creation outputs between _ (hboth.initialised hb)).grown
  exact ⟨hboth.trans hrest, hrest.keeps c.pin htaken⟩

/-- A valid twin of an output that got a driver gets one too: the check takes it for the same output, and
its pin is taken already, so that there is room. -/
theorem GetsDriver.twin (h : GetsDriver outputs before r c)
    (hb : r.plant.board.bench.initialised = true) (between : List Config) (ht : Twins c c')
    (hv : c'.validate = .ok ()) : GetsDriver outputs (before ++ c :: between) r c' := by
  obtain ⟨hid, hpin, hchip⟩ := ht
  have hfits := (getsDriver_iff hb).1 h
  have hgrown := (createSome_creation outputs before r hb).grown
  obtain ⟨hlater, htaken⟩ := h.taken hb between
  refine (getsDriver_iff hb).2 ⟨fun o ho hp hc => ?_, hv, ?_, ?_⟩
  · rw [← hid]
    exact hfits.unshared o ho (hp.trans hpin.symm) (hc.trans hchip.symm)
  · rw [← hchip, hfits.chip_eq, hgrown.chip_eq, hlater.chip_eq]
  · rw [← hpin]
    simp [Gpio.Board.hasRoom, htaken]

/-- Without a store startup makes a driver for each of some outputs, in order. They are on the chip of the
board, and no output with another number has the pin of one of them. Their pins are all different unless an
output that gets a driver has a valid twin after it, and then they are not. -/
theorem createDrivers_pins (s : Settings) (wall : Timestamp) :
    ∃ serials made r', createDrivers s none (rig s wall) = .ok (serials, r') ∧ serials.Nodup ∧
      List.Forall₂ (fun n c => r'.drivers.get? n = some (.idle n c)) serials made ∧
      made.Sublist s.outputs ∧
      (∀ c ∈ made, c.chip = s.gpio.chip ∧ Unshared s.outputs c) ∧
      ((made.map (·.pin)).Nodup ↔
        ∀ before between after c c', s.outputs = before ++ c :: between ++ c' :: after →
          Twins c c' → c'.validate = .ok () → ¬GetsDriver s.outputs before (rig s wall) c) := by
  have hb : (rig s wall).plant.board.bench.initialised = true := rfl
  have h := createSome_creation s.outputs s.outputs (rig s wall) hb
  refine ⟨_, accepted s.outputs s.outputs (rig s wall), _, rfl, h.ordered.imp Nat.ne_of_lt, h.drivers,
    h.sublist, fun c hc => ?_, ?_⟩
  · obtain ⟨hu, hchip⟩ := h.fits c hc
    exact ⟨hchip, hu⟩
  · rw [List.Nodup, List.pairwise_map]
    constructor
    · -- The twin gets a driver as well, so that the pin is there twice.
      intro hnodup before between after c c' hsplit ht hv hgets
      have hgets' := hgets.twin hb between ht hv
      have hmade := accepted_cons hgets' after
      rw [← hsplit] at hmade
      have hbefore : c ∈ accepted s.outputs (before ++ c :: between) (rig s wall) := by
        rw [accepted_cons hgets]
        simp
      rw [hmade, List.pairwise_append] at hnodup
      obtain ⟨-, -, hacross⟩ := hnodup
      exact hacross c hbefore c' (by simp) ht.2.1
    · -- Two that have a pin in common are on one chip, and the check lets the first pass only if the other
      -- has its number.
      intro hno
      refine accepted_pairwise fun before between after c c' hsplit hgets hgets' hpin => ?_
      have hfits := (getsDriver_iff hb).1 hgets
      have hfits' := (getsDriver_iff hb).1 hgets'
      have hchip : c'.chip = c.chip := by
        rw [hfits.chip_eq, hfits'.chip_eq, (hgets.taken hb between).1.chip_eq,
          (createSome_creation s.outputs before _ hb).grown.chip_eq]
      have hmem : c' ∈ s.outputs := by
        rw [hsplit]
        simp
      have hid : c'.id = c.id := hfits.unshared c' hmem hpin.symm hchip
      exact hno before between after c c' hsplit ⟨hid.symm, hpin, hchip.symm⟩ hfits'.valid hgets

/-- Settings that name some outputs and nothing else. -/
def plainSettings (outputs : List Config) : Settings where
  gpio := .default
  interlock := .default
  database := none
  control := .default
  outputs := outputs
  tunings := []

/-- Two outputs with one pin, and one with its own between them. -/
def rivals : Settings :=
  plainSettings [.plain 1 "valve" .relay 17, .plain 2 "pump" .relay 18, .plain 3 "lamp" .relay 17]

/-- The numbers are all different, and so are the pins of the drivers. -/
theorem rivals_pins :
    ∃ serials made r', createDrivers rivals none (rig rivals ⟨0, 0⟩) = .ok (serials, r') ∧
      List.Forall₂ (fun n c => r'.drivers.get? n = some (.idle n c)) serials made ∧
      (made.map (·.pin)).Nodup := by
  obtain ⟨serials, made, r', hrun, -, hdrivers, -, -, hnodup⟩ := createDrivers_pins rivals ⟨0, 0⟩
  refine ⟨serials, made, r', hrun, hdrivers, hnodup.2 ?_⟩
  intro before between after c c' hsplit ht
  have hids : (rivals.outputs.map (·.id)).Nodup := by decide
  rw [hsplit, List.map_append, List.nodup_append] at hids
  obtain ⟨-, -, hids⟩ := hids
  exact absurd ht.1 (hids c.id (by simp) c'.id (by simp))

/-- Two outputs with one number and one pin. -/
def twinned : Settings :=
  plainSettings [.plain 1 "valve" .relay 17, .plain 1 "pump" .relay 17]

/-- Both get drivers, on the pin that they have in common. -/
theorem twinned_share_pin :
    ∃ serials r' n m d d', createDrivers twinned none (rig twinned ⟨0, 0⟩) = .ok (serials, r') ∧
      n ∈ serials ∧ m ∈ serials ∧ n ≠ m ∧
      r'.drivers.get? n = some d ∧ r'.drivers.get? m = some d' ∧
      d.config.pin = d'.config.pin ∧ d.config.chip = d'.config.chip := by
  generalize hmade : createSome twinned.outputs none twinned.outputs (rig twinned ⟨0, 0⟩) = made
  have hserials : made.1 = [0, 1] := by
    rw [← hmade]
    decide +kernel
  have hvalve : made.2.drivers.get? 0 = some (.idle 0 (.plain 1 "valve" .relay 17)) := by
    rw [← hmade]
    rfl
  have hpump : made.2.drivers.get? 1 = some (.idle 1 (.plain 1 "pump" .relay 17)) := by
    rw [← hmade]
    rfl
  refine ⟨made.1, made.2, 0, 1, _, _, congrArg _ hmade, ?_, ?_, by decide, hvalve, hpump, rfl, rfl⟩
  · simp [hserials]
  · simp [hserials]

end Startup

end Switchboard
