import Switchboard.Proofs.InStep

/-!
# Making a driver

A driver can fail to be made for five reasons, and several of them may hold at once. `Config.obstacles` lists
them in the order in which they are looked for, each with the error that tells of it. The making fails with
the first that holds, and then nothing has happened (`create_of_obstacle`); where none holds it succeeds
(`create_of_no_obstacle`). The pin is taken after all other checks, and the group is given a place only after
that, so there is never anything to undo.

`Rig.Gained` is all that a success leaves: there is one driver more, its pin is an output at the off level,
and the rest of the rig is as it was.
-/

namespace Switchboard

open Gpio (Board Line Mode Pin Pull)
open Output (Config Driver)

/-! ## What keeps a driver from being made -/

namespace Output.Config

variable {c : Config} {p : Plant} {e : Error}

/-- Nothing is at most the least duty, which is at most the greatest, which is at most all. -/
def inOrder (c : Config) : Bool :=
  Duty.zero.le c.minDuty && c.minDuty.le c.maxDuty && c.maxDuty.le Duty.full

/-- What may keep a driver of an output from being made on a plant, in the order of the checks. -/
def obstacles (c : Config) (p : Plant) : List (Bool × Error) :=
  [(Text.allBlank c.name, .invalid (.unnamed c.id)),
    (!c.inOrder, .invalid (.duties c.name c.minDuty c.maxDuty)),
    (c.chip != p.board.chip, .wrongChip c.name c.chip p.board.chip),
    (!p.board.bench.initialised, .gpio .notInitialized),
    (!p.board.pins.contains c.pin && p.board.capacity.any (· ≤ p.board.pins.size),
      .gpio (.full (p.board.capacity.getD 0)))]

/-- The error of the first obstacle, if there is one. -/
def obstacle? (c : Config) (p : Plant) : Option Error :=
  ((c.obstacles p).find? Prod.fst).map Prod.snd

/-- The two outer bounds and the order of the duties bound each duty on both sides. -/
theorem inOrder_eq (c : Config) :
    c.inOrder = (Duty.isShare c.minDuty && Duty.isShare c.maxDuty && !c.maxDuty.lt c.minDuty) := by
  rw [Bool.eq_iff_iff]
  simp only [inOrder, Duty.isShare, Bool.and_eq_true, Bool.not_eq_true']
  constructor
  · rintro ⟨⟨hmin, hle⟩, hmax⟩
    exact ⟨⟨⟨hmin, Binary.le_trans hle hmax⟩, Binary.le_trans hmin hle, hmax⟩, Binary.not_lt_of_le hle⟩
  · rintro ⟨⟨⟨hmin, -⟩, hmax, hfull⟩, hlt⟩
    exact ⟨⟨hmin, Binary.le_of_not_lt (Binary.le_iff.1 hmin).2.1 (Binary.le_iff.1 hmax).2.1 hlt⟩, hfull⟩

/-- An output is valid if neither of the first two obstacles holds. -/
theorem validate_eq (c : Config) :
    c.validate =
      if Text.allBlank c.name then .error (.unnamed c.id)
      else if !c.inOrder then .error (.duties c.name c.minDuty c.maxDuty)
      else .ok () := by
  unfold validate
  rw [← inOrder_eq]
  cases c.inOrder <;> rfl

end Output.Config

/-- The pin of a new output cannot be had if the board is not started, or if it is a new pin and the table is
full. -/
theorem Gpio.Board.configure_result (b : Board) (pin : Pin) (mode : Mode) (pull : Pull) :
    (b.configure pin mode pull).1 =
      if !b.bench.initialised then .error .notInitialized
      else if !b.pins.contains pin && b.capacity.any (· ≤ b.pins.size) then
        .error (.full (b.capacity.getD 0))
      else .ok () := by
  have hroom : (!b.hasRoom pin) = (!b.pins.contains pin && b.capacity.any (· ≤ b.pins.size)) := by
    unfold hasRoom
    cases b.pins.contains pin with
    | true => rfl
    | false =>
      cases b.capacity with
      | none => rfl
      | some c =>
        simp only [Bool.false_or, Option.all_some, Option.any_some, Bool.not_false, Bool.true_and]
        rw [← decide_not]
        exact decide_eq_decide.2 Nat.not_lt
  rw [configure_eq, ← hroom]
  cases b.bench.initialised <;> cases b.hasRoom pin <;> rfl

/-- A pin that was had is in the table and has a fresh line, and that is all. -/
theorem Gpio.Board.configured {b : Board} {pin : Pin} {mode : Mode} {pull : Pull}
    (h : (b.configure pin mode pull).1 = .ok ()) :
    (b.configure pin mode pull).2 =
      { b with
        pins := b.pins.insert pin ⟨mode, pull, .none, false⟩
        bench := { b.bench with lines := b.bench.lines.insert pin (.fresh mode pull) } } := by
  rw [configure_eq] at h ⊢
  split at h
  · cases h
  · split at h
    · cases h
    · rename_i hi hroom
      rw [if_neg hi, if_neg hroom]

/-- Where a pin cannot be had the plant is left alone. -/
theorem Plant.configure_failed {p : Plant} {pin : Pin} {mode : Mode} {pull : Pull} {e : Gpio.Error}
    (h : (p.board.configure pin mode pull).1 = .error e) : p.configure pin mode pull = (.error e, p) := by
  have hboard := Gpio.Board.configure_failed h
  unfold configure
  generalize p.board.configure pin mode pull = x at h hboard
  obtain ⟨result, board⟩ := x
  subst h hboard
  rfl

/-! ## Making one -/

/-- What a plant is once the driver of an output was made on it. -/
def Plant.fitted (p : Plant) (c : Config) : Plant where
  board :=
    { p.board with
      pins := p.board.pins.insert c.pin ⟨.output (c.level false), .disabled, .none, false⟩
      bench :=
        { p.board.bench with
          lines := p.board.bench.lines.insert c.pin (.fresh (.output (c.level false)) .disabled) } }
  groups := match c.group with
    | some g => (p.groups.register g).2
    | none => p.groups
  clock := p.clock
  log := p.log

/-- The first obstacle is the first failure of three checks: of the output alone, of its chip, and of its pin. -/
theorem Output.Config.obstacle?_eq (c : Config) (p : Plant) :
    c.obstacle? p =
      match c.validate with
      | .error e => some (.invalid e)
      | .ok () =>
        if c.chip ≠ p.board.chip then some (.wrongChip c.name c.chip p.board.chip)
        else
          match (p.board.configure c.pin (.output (c.level false)) .disabled).1 with
          | .error e => some (.gpio e)
          | .ok () => none := by
  rw [validate_eq, Board.configure_result]
  unfold obstacle? obstacles
  cases Text.allBlank c.name with
  | true => rfl
  | false =>
    cases c.inOrder with
    | false => rfl
    | true =>
      by_cases hchip : c.chip = p.board.chip
      · cases p.board.bench.initialised with
        | false => simp [hchip]
        | true => cases (!p.board.pins.contains c.pin && p.board.capacity.any (· ≤ p.board.pins.size)) <;>
            simp [hchip]
      · simp [hchip]

theorem Output.Config.obstacle?_eq_none_iff {c : Config} {p : Plant} :
    c.obstacle? p = none ↔ c.validate = .ok () ∧ c.chip = p.board.chip ∧
      (p.board.configure c.pin (.output (c.level false)) .disabled).1 = .ok () := by
  rw [c.obstacle?_eq]
  cases c.validate with
  | error e => simp
  | ok u =>
    by_cases hchip : c.chip = p.board.chip
    · cases (p.board.configure c.pin (.output (c.level false)) .disabled).1 <;> simp [hchip]
    · simp [hchip]

namespace Output.Driver

variable {c : Config} {p : Plant} {e : Error}

/-- Where there is an obstacle no driver is made, and the plant is left alone. -/
theorem create_of_obstacle (serial : Nat) (h : c.obstacle? p = some e) :
    create serial c p = (.error e, p) := by
  rw [c.obstacle?_eq] at h
  unfold create
  cases hv : c.validate with
  | error e' =>
    simp only [hv, Option.some.injEq] at h
    exact congrArg (Except.error ·, p) h
  | ok u =>
    simp only [hv] at h
    dsimp only
    split at h
    · rename_i hchip
      rw [if_pos hchip, Option.some.inj h]
    · rename_i hchip
      rw [if_neg hchip]
      split at h
      · rename_i e' hc
        rw [Plant.configure_failed hc]
        exact congrArg (Except.error ·, p) (Option.some.inj h)
      · cases h

/-- Where there is none a driver is made, and the plant is fitted with it. -/
theorem create_of_no_obstacle (serial : Nat) (h : c.obstacle? p = none) :
    ∃ q, create serial c p = (.ok (.idle serial c), q) ∧ (p.fitted c).Alike q := by
  obtain ⟨hvalid, hchip, hconf⟩ := Config.obstacle?_eq_none_iff.1 h
  have hends := create_cases serial c p
  generalize create serial c p = x at hends ⊢
  cases hends with
  | unfit unfit => exact absurd ⟨hvalid, hchip⟩ unfit
  | failed configure alike => cases hconf.symm.trans configure
  | made fit configure alike =>
    -- The plant that was left is known up to its log.
    rw [Board.configured hconf] at alike
    exact ⟨_, rfl, alike⟩

end Output.Driver

/-! ## The rig with one driver more -/

/-- A group that has got a place has the free claim of one; every other claim is as it was. -/
theorem Interlock.Groups.register_get? (g : Interlock.Groups) (group group' : Interlock.Group) :
    (g.register group).2.claims.get? group' = g.claims.get? group' ∨
      group = group' ∧ g.isRegistered group' = false ∧
        (g.register group).2.claims.get? group' = some .free := by
  unfold register
  split
  · exact .inl rfl
  · rename_i hr
    split
    · exact .inl rfl
    · by_cases hg : group = group'
      · subst hg
        exact .inr ⟨rfl, Bool.eq_false_iff.2 hr, Table.get?_insert_self⟩
      · exact .inl (Table.get?_insert_of_ne hg)

/-- The claims on a plant that was fitted with an output are as they were, but for a free one that is new. -/
theorem Plant.fitted_claims (p : Plant) (c : Config) (group : Interlock.Group) :
    (p.fitted c).groups.claims.get? group = p.groups.claims.get? group ∨
      c.group = some group ∧ p.groups.isRegistered group = false ∧
        (p.fitted c).groups.claims.get? group = some .free := by
  unfold fitted
  cases c.group with
  | none => exact .inl rfl
  | some g => simpa only [Option.some.injEq] using p.groups.register_get? g group

/-- A rig has gained the driver of an output: its pin is an output at the off level, and nothing else has
changed but that its group may have got a place. -/
structure Rig.Gained (c : Config) (r r' : Rig) : Prop where
  drivers_eq : r'.drivers = r.drivers.insert r.next (.idle r.next c)
  /-- Every driver that was there is as it was. -/
  kept : ∀ {n d}, r.drivers.get? n = some d → r'.drivers.get? n = some d
  listed : r'.plant.board.pins.get? c.pin = some ⟨.output (c.level false), .disabled, .none, false⟩
  line : r'.plant.board.bench.lines.get? c.pin = some (.fresh (.output (c.level false)) .disabled)
  off : r'.plant.board.read c.pin = .ok (c.level false)
  /-- No other pin has changed, neither in the table nor below. -/
  pins : ∀ {pin}, pin ≠ c.pin → r'.plant.board.pins.get? pin = r.plant.board.pins.get? pin ∧
    r'.plant.board.bench.lines.get? pin = r.plant.board.bench.lines.get? pin
  written_eq : r'.plant.board.bench.written = r.plant.board.bench.written
  failing_eq : r'.plant.board.bench.failing = r.plant.board.bench.failing
  /-- No claim has changed. A group that has got a place has the free claim of one. -/
  claims : ∀ group, r'.plant.groups.claims.get? group = r.plant.groups.claims.get? group ∨
    c.group = some group ∧ r.plant.groups.isRegistered group = false ∧
      r'.plant.groups.claims.get? group = some .free
  holder_eq : ∀ group, r'.plant.groups.holder? group = r.plant.groups.holder? group
  clock_eq : r'.plant.clock = r.plant.clock
  timer_eq : r'.timer = r.timer
  tokens_eq : r'.tokens = r.tokens
  subscriptions_eq : r'.subscriptions = r.subscriptions
  started_eq : r'.started = r.started

namespace Rig

variable {r r' : Rig} {c : Config} {e : Output.Error}

/-- The making of a driver that fails leaves the rig as it was. -/
theorem create_obstructed (h : c.obstacle? r.plant = some e) :
    r.create c = ({ r with next := r.next + 1 }, .outputFailed e) := by
  simp only [create, fresh, Driver.create_of_obstacle r.next h]

/-- The making of a driver that succeeds changes what it has to, and nothing else. -/
theorem create_gained (hw : r.WellFormed) (h : c.obstacle? r.plant = none) :
    ∃ r', r.create c = (r', .serial r.next) ∧ Gained c r r' := by
  obtain ⟨q, hq, ha⟩ := Driver.create_of_no_obstacle r.next h
  have hcreate : r.create c = ({ r with
      plant := q
      drivers := r.drivers.insert r.next (.idle r.next c)
      next := r.next + 1 }, .serial r.next) := by
    simp only [create, fresh, hq]
  have hclaims (group : Interlock.Group) := r.plant.fitted_claims c group
  simp only [← ha.groups_eq] at hclaims
  refine ⟨_, hcreate, ?_⟩
  constructor
  case drivers_eq => rfl
  case kept =>
    -- Nobody has the serial of the new driver yet.
    intro n d hd
    exact (Table.get?_insert_of_ne (Nat.ne_of_gt (hw.driver hd).2)).trans hd
  case listed => rw [ha.board_eq]; exact Table.get?_insert_self
  case line => rw [ha.board_eq]; exact Table.get?_insert_self
  case off =>
    rw [ha.board_eq]
    simp [Plant.fitted, Board.read, Table.contains, Gpio.Bench.read, Gpio.Bench.level?, Line.fresh]
  case pins =>
    intro pin hpin
    rw [ha.board_eq]
    exact ⟨Table.get?_insert_of_ne hpin.symm, Table.get?_insert_of_ne hpin.symm⟩
  case written_eq => rw [ha.board_eq]; rfl
  case failing_eq => rw [ha.board_eq]; rfl
  case claims => exact hclaims
  case holder_eq =>
    intro group
    unfold Interlock.Groups.holder?
    rcases hclaims group with he | ⟨-, hr, he⟩
    · rw [he]
    · have hnone : r.plant.groups.claims.get? group = none := by
        simpa [Interlock.Groups.isRegistered, Table.contains] using hr
      rw [he, hnone]
  case clock_eq => exact ha.clock_eq
  all_goals rfl

/-- In every reached state the making of a driver fails with the first obstacle, if there is one, and leaves
the rig as it was but for the serial that it used up. Otherwise it succeeds. -/
theorem run_create (s : Setup) (es : List Event) (c : Config) :
    let r := s.cold.run es
    match c.obstacle? r.plant with
    | some e => r.step (.create c) = ({ r with next := r.next + 1 }, .outputFailed e)
    | none => ∃ r', r.step (.create c) = (r', .serial r.next) ∧ Gained c r r' := by
  intro r
  cases h : c.obstacle? r.plant with
  | some e => exact create_obstructed h
  | none => exact create_gained (run_wellFormed (cold_wellFormed s) es) h

end Rig

end Switchboard
