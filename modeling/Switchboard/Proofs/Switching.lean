import Switchboard.Proofs.Claims
import Switchboard.Proofs.Pins
import Switchboard.Rig

/-!
# What switching does

A command passes the gates and is refused, or it is written and fails, or it is written and goes through:
`apply_cases` lists the three, each with the whole outcome. A forced switch-off knows only the last two
(`forceOff_cases`). Where a write goes through, both end in `Driver.settle`, and the lemmas about it say
what that leaves in each field of the driver.

Entries in the log are of no concern here: `Plant.Alike` compares plants without them.
-/

namespace Switchboard

/-! ## Plants without their logs -/

/-- Two plants that differ in their logs at most. -/
structure Plant.Alike (p p' : Plant) : Prop where
  board_eq : p'.board = p.board
  groups_eq : p'.groups = p.groups
  clock_eq : p'.clock = p.clock

namespace Plant

variable {p p' p'' : Plant}

theorem Alike.refl (p : Plant) : Alike p p :=
  ⟨rfl, rfl, rfl⟩

theorem Alike.trans (h : Alike p p') (h' : Alike p' p'') : Alike p p'' :=
  ⟨h'.board_eq.trans h.board_eq, h'.groups_eq.trans h.groups_eq, h'.clock_eq.trans h.clock_eq⟩

theorem note_alike (p : Plant) (level : Log.Level) (channel : Log.Channel) (text : String) :
    Alike p (p.note level channel text) :=
  ⟨rfl, rfl, rfl⟩

/-- A write is one to the board; it leaves the groups and the clocks. -/
theorem write_eq (p : Plant) (pin : Gpio.Pin) (level : Bool) :
    (p.write pin level).1 = (p.board.write pin level).1 ∧
      Alike { p with board := (p.board.write pin level).2 } (p.write pin level).2 := by
  unfold write
  rcases hw : p.board.write pin level with ⟨result, board⟩
  cases result with
  | ok u => exact ⟨rfl, ⟨rfl, rfl, rfl⟩⟩
  | error e => exact ⟨rfl, ⟨rfl, rfl, rfl⟩⟩

/-- Taking a pin is an operation of the board; it leaves the groups and the clocks. -/
theorem configure_eq (p : Plant) (pin : Gpio.Pin) (mode : Gpio.Mode) (pull : Gpio.Pull) :
    (p.configure pin mode pull).1 = (p.board.configure pin mode pull).1 ∧
      Alike { p with board := (p.board.configure pin mode pull).2 } (p.configure pin mode pull).2 := by
  unfold configure
  rcases hc : p.board.configure pin mode pull with ⟨result, board⟩
  cases result with
  | ok u => exact ⟨rfl, ⟨rfl, rfl, rfl⟩⟩
  | error e => exact ⟨rfl, ⟨rfl, rfl, rfl⟩⟩

theorem release_alike (p : Plant) (pin : Gpio.Pin) :
    Alike { p with board := (p.board.release pin).2 } (p.release pin).2 := by
  unfold release
  rcases p.board.release pin with ⟨result, board⟩
  cases result with
  | ok u => exact ⟨rfl, rfl, rfl⟩
  | error e => exact ⟨rfl, rfl, rfl⟩

theorem notes_alike (text : Gpio.Pin → String) (pins : List Gpio.Pin) (p : Plant) :
    Alike p (pins.foldl (fun p pin => p.note .debug .board (text pin)) p) := by
  induction pins generalizing p with
  | nil => exact .refl p
  | cons pin rest ih => exact (note_alike ..).trans (ih _)

/-- An access is one to the board; it leaves the groups and the clocks. -/
theorem access_alike (p : Plant) (a : Gpio.Access) :
    Alike { p with board := (p.board.access a).2 } (p.access a).2 := by
  cases a with
  | shutdown =>
    have hn := notes_alike (fun pin => "Releasing pin " ++ toString pin ++ " during shutdown: "
      ++ (Gpio.Error.notFound pin).message) p.board.strays p
    exact ⟨rfl, hn.groups_eq, hn.clock_eq⟩
  | configure pin mode pull => exact (p.configure_eq pin mode pull).2
  | release pin => exact p.release_alike pin
  | write pin level => exact (p.write_eq pin level).2
  | init | read _ | setEdge _ _ | waitEdge _ => exact ⟨rfl, rfl, rfl⟩

theorem accessBench_alike (p : Plant) (a : Gpio.Access) :
    Alike { p with board := { p.board with bench := (p.board.bench.access a).2 } } (p.accessBench a).2 := by
  unfold accessBench
  dsimp only
  split
  · exact note_alike ..
  · exact .refl _

/-- A confirmation is one of the groups; it leaves the board and the clocks. -/
theorem confirm_alike (p : Plant) (group : Interlock.Group) (t : Interlock.Token) :
    Alike { p with groups := p.groups.confirm group t } (p.confirm group t) := by
  unfold confirm
  split
  · exact note_alike ..
  · exact .refl _

/-- Giving a group a place is an operation of the groups; it leaves the board and the clocks. -/
theorem register_alike (p : Plant) (group : Interlock.Group) :
    Alike { p with groups := (p.groups.register group).2 } (p.register group).2 := by
  unfold register
  rcases p.groups.register group with ⟨placed, groups⟩
  cases placed with
  | true => exact .refl _
  | false => exact note_alike ..

end Plant

/-! ## Lockouts -/

namespace Output.Status

variable {s : Status} {r : Lockout}

/-- A latched reason is shown as the lockout. -/
theorem latched?_eq_some_iff :
    s.latched? = some r ↔ s.lockout = true ∧ s.reason = some r ∧ r.isLatched = true := by
  unfold latched?
  rw [Option.filter_eq_some_iff]
  constructor
  · rintro ⟨hr, hl⟩
    rw [Bool.and_eq_true] at hl
    exact ⟨hl.1, hr, hl.2⟩
  · rintro ⟨hl, hr, hr'⟩
    exact ⟨hr, by simp [hl, hr']⟩

theorem isOn_iff : s.isOn = true ↔ s.state = .on :=
  beq_iff_eq

/-- A refusal does not take the place of a latched reason. -/
theorem refuse_of_latched {r' : Lockout} (h : s.latched? = some r') : s.refuse r = s := by
  simp [refuse, h]

theorem refuse_state : (s.refuse r).state = s.state := by
  unfold refuse
  split <;> rfl

theorem refuse_isOn : (s.refuse r).isOn = s.isOn := by
  simp [isOn, refuse_state]

theorem refuse_duty : (s.refuse r).duty = s.duty := by
  unfold refuse
  split <;> rfl

/-- Carrying a command out leaves a latched reason. -/
theorem relent_of_latched {r' : Lockout} (h : s.latched? = some r') : s.relent = s := by
  simp [relent, h]

theorem relent_state : s.relent.state = s.state := by
  unfold relent
  split <;> rfl

theorem relent_isOn : s.relent.isOn = s.isOn := by
  simp [isOn, relent_state]

end Output.Status

namespace Output.Driver

variable {d : Driver} {p : Plant} {on : Bool} {duty : Single}

theorem note_alike (d : Driver) (p : Plant) (level : Log.Level) (text : String) :
    p.Alike (d.note p level text) :=
  Plant.note_alike ..

/-! ## The end of a write that went through -/

@[simp] theorem settle_result : (d.settle p on duty).result = .ok () := rfl

theorem settle_alike (d : Driver) (p : Plant) (on : Bool) (duty : Single) :
    p.Alike (d.settle p on duty).plant := by
  unfold settle
  dsimp only
  split
  · exact note_alike ..
  · exact .refl p

@[simp] theorem settle_serial : (d.settle p on duty).driver.serial = d.serial := by
  unfold settle transit
  cases on <;> cases d.status.isOn <;> rfl

@[simp] theorem settle_config : (d.settle p on duty).driver.config = d.config := by
  unfold settle transit
  cases on <;> cases d.status.isOn <;> rfl

@[simp] theorem settle_pulse : (d.settle p on duty).driver.pulse = d.pulse := by
  unfold settle transit
  cases on <;> cases d.status.isOn <;> rfl

@[simp] theorem settle_pulses : (d.settle p on duty).driver.pulses = d.pulses := by
  unfold settle transit
  cases on <;> cases d.status.isOn <;> rfl

@[simp] theorem settle_state :
    (d.settle p on duty).driver.status.state = if on then .on else .off := rfl

@[simp] theorem settle_isOn : (d.settle p on duty).driver.status.isOn = on := by
  cases on <;> rfl

@[simp] theorem settle_duty : (d.settle p on duty).driver.status.duty = duty := by
  unfold settle transit
  cases on <;> cases d.status.isOn <;> cases d.onSince <;> rfl

@[simp] theorem settle_latched? : (d.settle p on duty).driver.status.latched? = d.status.latched? := by
  unfold settle transit
  cases on <;> cases d.status.isOn <;> cases d.onSince <;> rfl

/-- The mark of the last switching on moves when the output was not on. -/
theorem settle_onSince : (d.settle p on duty).driver.onSince =
    if on && !d.status.isOn then some p.clock.now else d.onSince := by
  unfold settle transit
  cases on <;> cases d.status.isOn <;> rfl

/-- The mark of the last switching off moves when the output was on. -/
theorem settle_offSince : (d.settle p on duty).driver.offSince =
    if !on && d.status.isOn then some p.clock.now else d.offSince := by
  unfold settle transit
  cases on <;> cases d.status.isOn <;> rfl

/-! ## Commands -/

/-- The claim of the driver is held, if it has a group. -/
def hold (d : Driver) (g : Interlock.Groups) : Interlock.Groups :=
  match d.config.group with
  | none => g
  | some group => g.hold group d.token

/-- What freeing the claim does to the groups depends on the groups alone. -/
theorem free_groups {q : Plant} (hq : q.groups = p.groups) :
    Plant.Alike { q with groups := (d.free p).groups } (d.free q) := by
  unfold free
  cases d.config.group with
  | none => exact ⟨rfl, hq, rfl⟩
  | some g => exact ⟨rfl, by simp only [hq], rfl⟩

/-- The group lets the driver through, and the rest of the plant is as before. -/
theorem reserve?_alike {q : Plant} (h : d.reserve? p = some q) :
    Plant.Alike { p with groups := q.groups } q ∧ d.checkInterlock p = true := by
  unfold reserve? at h
  unfold checkInterlock
  split at h
  · rename_i hg
    cases h
    exact ⟨.refl _, by simp [hg]⟩
  · rename_i g hg
    obtain ⟨groups, hr, rfl⟩ := Option.map_eq_some_iff.1 h
    refine ⟨.refl _, ?_⟩
    rw [Interlock.Groups.reserve?_eq] at hr
    split at hr
    · simpa [hg] using ‹_›
    · cases hr

theorem checkInterlock_of_reserve?_eq_none (h : d.reserve? p = none) : d.checkInterlock p = false := by
  unfold reserve? at h
  unfold checkInterlock
  split at h
  · cases h
  · rename_i g hg
    rw [Option.map_eq_none_iff] at h
    rw [Interlock.Groups.reserve?_eq] at h
    split at h
    · cases h
    · rename_i ha
      simpa [hg] using ha

/-- A driver that passed the gate and whose output is on holds its claim. -/
theorem confirm_groups {q q' : Plant} (h : d.reserve? p = some q) (hq : q'.groups = q.groups) :
    Plant.Alike { q' with groups := d.hold p.groups } (d.confirm q') := by
  unfold reserve? at h
  unfold confirm hold
  cases hg : d.config.group with
  | none =>
    simp only [hg, Option.some.injEq] at h
    subst h
    exact ⟨rfl, hq, rfl⟩
  | some g =>
    simp only [hg] at h
    obtain ⟨groups, hr, rfl⟩ := Option.map_eq_some_iff.1 h
    have ha := Plant.confirm_alike q' g d.token
    refine ⟨ha.board_eq, ?_, ha.clock_eq⟩
    rw [ha.groups_eq, hq]
    exact Interlock.Groups.confirm_reserve? hr

/-- A driver that passed the gate and goes back leaves what it would have left anyway. -/
theorem abandon_groups {q q' : Plant} (h : d.reserve? p = some q) (hq : q'.groups = q.groups) :
    Plant.Alike { q' with groups := (d.abandon p).groups } (d.abandon q') := by
  unfold reserve? at h
  unfold abandon
  cases hg : d.config.group with
  | none =>
    simp only [hg, Option.some.injEq] at h
    subst h
    exact ⟨rfl, hq, rfl⟩
  | some g =>
    simp only [hg] at h
    obtain ⟨groups, hr, rfl⟩ := Option.map_eq_some_iff.1 h
    refine ⟨rfl, ?_, rfl⟩
    simp only [hq]
    exact Interlock.Groups.abandon_reserve? hr

/-- How a command can end. -/
inductive Applied (d : Driver) (p : Plant) (on : Bool) (duty : Single) : Outcome → Prop
  | refused {r : Lockout} {p' : Plant}
      (gate : d.refusal? p.clock.now on = some r ∨
        d.refusal? p.clock.now on = none ∧ on = true ∧ d.checkInterlock p = false ∧ r = .interlockActive)
      (alike : p.Alike p') :
      Applied d p on duty ⟨.error (.refused r), { d with status := d.status.refuse r }, p', none⟩
  /-- The gates let the command through, and the write fails. -/
  | failed {e : Gpio.Error} {p' : Plant}
      (gate : d.refusal? p.clock.now on = none) (pass : on = true → d.checkInterlock p = true)
      (write : (p.board.write d.config.pin (d.config.level on)).1 = .error e)
      (alike : Plant.Alike { p with groups := if on then (d.abandon p).groups else p.groups } p') :
      Applied d p on duty
        ⟨.error (.gpio e), { d with status := { d.status with state := .error } }, p', none⟩
  /-- The gates let the command through, and the write goes through. -/
  | done {p' : Plant}
      (gate : d.refusal? p.clock.now on = none) (pass : on = true → d.checkInterlock p = true)
      (write : (p.board.write d.config.pin (d.config.level on)).1 = .ok ())
      (clock_eq : p'.clock = p.clock)
      (alike : Plant.Alike
        { p with
          board := (p.board.write d.config.pin (d.config.level on)).2
          groups := if on then d.hold p.groups else (d.free p).groups }
        ({ d with status := d.status.relent }.settle p' on duty).plant) :
      Applied d p on duty ({ d with status := d.status.relent }.settle p' on duty)

/-- Every command ends in one of three ways. -/
theorem apply_cases (d : Driver) (p : Plant) (on : Bool) (duty : Single) :
    Applied d p on duty (d.apply p on duty) := by
  unfold apply
  cases hr : d.refusal? p.clock.now on with
  | some r => exact .refused (.inl hr) (note_alike ..)
  | none =>
    cases on with
    | false =>
      simp only [Bool.false_eq_true, if_false]
      obtain ⟨hw, ha⟩ := p.write_eq d.config.pin (d.config.level false)
      rcases he : p.write d.config.pin (d.config.level false) with ⟨result, p'⟩
      rw [he] at hw ha
      cases result with
      | error e =>
        rw [Gpio.Board.write_failed hw.symm] at ha
        exact .failed hr (by simp) hw.symm (ha.trans (note_alike ..))
      | ok u =>
        have hfr : Plant.Alike { p' with groups := (d.free p).groups } (d.free p') :=
          free_groups ha.groups_eq
        have hc := hfr.clock_eq.trans ha.clock_eq
        exact .done hr (by simp) hw.symm hc (Plant.Alike.trans
          ⟨hfr.board_eq.trans ha.board_eq, hfr.groups_eq, hc⟩ (settle_alike ..))
    | true =>
      simp only [if_true]
      cases hq : d.reserve? p with
      | none => exact .refused (.inr ⟨hr, rfl, checkInterlock_of_reserve?_eq_none hq, rfl⟩) (note_alike ..)
      | some q =>
        obtain ⟨hpq, hpass⟩ := reserve?_alike hq
        obtain ⟨hw, ha⟩ := q.write_eq d.config.pin (d.config.level true)
        dsimp only
        have hb : q.board = p.board := hpq.board_eq
        have hc : q.clock = p.clock := hpq.clock_eq
        rcases he : q.write d.config.pin (d.config.level true) with ⟨result, q'⟩
        rw [he] at hw ha
        rw [hb] at hw
        cases result with
        | error e =>
          have hab : Plant.Alike { q' with groups := (d.abandon p).groups } (d.abandon q') :=
            abandon_groups hq ha.groups_eq
          refine .failed hr (fun _ => hpass) hw.symm (Plant.Alike.trans ⟨?_, ?_, ?_⟩ (note_alike ..))
          · rw [hab.board_eq, ha.board_eq, hb, Gpio.Board.write_failed hw.symm]
          · exact hab.groups_eq
          · rw [hab.clock_eq, ha.clock_eq, hc]
        | ok u =>
          have hco : Plant.Alike { q' with groups := d.hold p.groups } (d.confirm q') :=
            confirm_groups hq ha.groups_eq
          have hc' : (d.confirm q').clock = p.clock := by rw [hco.clock_eq, ha.clock_eq, hc]
          refine .done hr (fun _ => hpass) hw.symm hc' (Plant.Alike.trans ⟨?_, ?_, hc'⟩ (settle_alike ..))
          · rw [hco.board_eq, ha.board_eq, hb]
          · exact hco.groups_eq

/-! ## Creating -/

/-- How the making of a driver can end. -/
inductive Created (serial : Nat) (c : Config) (p : Plant) : Except Error Driver × Plant → Prop
  /-- The output is none, or none of this chip. -/
  | unfit {e : Error} (unfit : ¬(c.validate = .ok () ∧ c.chip = p.board.chip)) :
      Created serial c p (.error e, p)
  /-- The pin of the output cannot be had. -/
  | failed {e : Gpio.Error} {q : Plant}
      (configure : (p.board.configure c.pin (.output (c.level false)) .disabled).1 = .error e)
      (alike : Plant.Alike
        { p with board := (p.board.configure c.pin (.output (c.level false)) .disabled).2 } q) :
      Created serial c p (.error (.gpio e), q)
  | made {q : Plant} (fit : c.validate = .ok () ∧ c.chip = p.board.chip)
      (configure : (p.board.configure c.pin (.output (c.level false)) .disabled).1 = .ok ())
      (alike : Plant.Alike
        { p with
          board := (p.board.configure c.pin (.output (c.level false)) .disabled).2
          groups := match c.group with
            | some g => (p.groups.register g).2
            | none => p.groups } q) :
      Created serial c p (.ok (.idle serial c), q)

/-- The making of a driver ends in one of three ways. -/
theorem create_cases (serial : Nat) (c : Config) (p : Plant) :
    Created serial c p (create serial c p) := by
  unfold create
  cases hv : c.validate with
  | error e => exact .unfit fun h => by cases hv.symm.trans h.1
  | ok u =>
    dsimp only
    by_cases hchip : c.chip = p.board.chip
    · rw [if_neg (not_not_intro hchip)]
      obtain ⟨hresult, halike⟩ := p.configure_eq c.pin (.output (c.level false)) .disabled
      generalize p.configure c.pin (.output (c.level false)) .disabled = x at hresult halike ⊢
      obtain ⟨result, q⟩ := x
      cases result with
      | error e => exact .failed hresult.symm halike
      | ok u =>
        refine .made ⟨hv, hchip⟩ hresult.symm (.trans ?_ (Plant.note_alike ..))
        cases c.group with
        | none => exact halike
        | some g =>
          have hreg := q.register_alike g
          rw [halike.groups_eq] at hreg
          exact ⟨hreg.board_eq.trans halike.board_eq, hreg.groups_eq, hreg.clock_eq.trans halike.clock_eq⟩
    · rw [if_pos hchip]
      exact .unfit fun h => hchip h.2

/-! ## Giving a driver up -/

/-- What an operation of the plant left, with an entry in the log if it failed. -/
def noteFailure (d : Driver) (level : Log.Level) (failure : String) :
    Except Gpio.Error Unit × Plant → Plant
  | (.ok (), p) => p
  | (.error e, p) => d.note p level (failure ++ e.message)

theorem noteFailure_alike (d : Driver) (level : Log.Level) (failure : String)
    (x : Except Gpio.Error Unit × Plant) : x.2.Alike (d.noteFailure level failure x) := by
  obtain ⟨result, p⟩ := x
  cases result with
  | ok u => exact .refl p
  | error e => exact d.note_alike p ..

/-- The three steps of giving a driver up. None of them looks at how the one before went. -/
theorem close_eq (d : Driver) (p : Plant) :
    d.close p =
      let q := d.noteFailure .error "failed to switch off on release: "
        (p.write d.config.pin (d.config.level false))
      let q := d.noteFailure .warn ("failed to release pin " ++ toString d.config.pin ++ ": ")
        ((d.free q).release d.config.pin)
      let q := d.note q .debug "released"
      { q with groups := q.groups.forget d.token } :=
  rfl

/-! ## Forced switch-off -/

/-- The driver that a forced switch-off writes for: without a pulse, and locked if there is a reason. -/
def stopped (d : Driver) (reason : Option Lockout) : Driver :=
  match reason with
  | some r => { d.dropPulse with status := d.status.lock r }
  | none => d.dropPulse

/-- How a forced switch-off can end. -/
inductive Forced (d : Driver) (p : Plant) (reason : Option Lockout) : Outcome → Prop
  | failed {e : Gpio.Error} {p' : Plant}
      (write : (p.board.write d.config.pin (d.config.level false)).1 = .error e) (alike : p.Alike p') :
      Forced d p reason
        ⟨.error (.gpio e),
          { d.stopped reason with status := { (d.stopped reason).status with state := .error } }, p', none⟩
  | done {p' : Plant}
      (write : (p.board.write d.config.pin (d.config.level false)).1 = .ok ())
      (clock_eq : p'.clock = p.clock)
      (alike : Plant.Alike
        { p with
          board := (p.board.write d.config.pin (d.config.level false)).2
          groups := (d.free p).groups }
        ((d.stopped reason).settle p' false Duty.zero).plant) :
      Forced d p reason ((d.stopped reason).settle p' false Duty.zero)

/-- A driver that is not on settles off without a note of the time. -/
theorem settle_off_of_not_isOn (h : d.status.isOn = false) :
    d.settle p false duty = ⟨.ok (), { d with status := { d.status with duty, state := .off } }, p, none⟩ := by
  simp [settle, h]

/-- A forced switch-off without its special case: to settle does no more where the output was not on. -/
theorem forceOff_eq (d : Driver) (p : Plant) (reason : Option Lockout) :
    d.forceOff p reason =
      match p.write d.config.pin (d.config.level false) with
      | (.error e, p) => (d.stopped reason).fault p "failed to de-energise" e
      | (.ok (), p) => (d.stopped reason).settle (d.free p) false Duty.zero := by
  have hf : d.forceOff p reason =
      match p.write d.config.pin (d.config.level false) with
      | (.error e, p) => (d.stopped reason).fault p "failed to de-energise" e
      | (.ok (), p) =>
        if (d.stopped reason).status.isOn then (d.stopped reason).settle (d.free p) false Duty.zero
        else
          ⟨.ok (), { d.stopped reason with
            status := { (d.stopped reason).status with duty := Duty.zero, state := .off } }, d.free p, none⟩ := by
    cases reason <;> rfl
  rw [hf]
  rcases p.write d.config.pin (d.config.level false) with ⟨result, q⟩
  cases result with
  | error e => rfl
  | ok u =>
    dsimp only
    split
    · rfl
    · rw [settle_off_of_not_isOn (Bool.eq_false_iff.2 ‹_›)]

/-- Every forced switch-off ends in one of two ways. -/
theorem forceOff_cases (d : Driver) (p : Plant) (reason : Option Lockout) :
    Forced d p reason (d.forceOff p reason) := by
  rw [forceOff_eq]
  obtain ⟨hw, ha⟩ := p.write_eq d.config.pin (d.config.level false)
  rcases he : p.write d.config.pin (d.config.level false) with ⟨result, p'⟩
  rw [he] at hw ha
  cases result with
  | error e =>
    rw [Gpio.Board.write_failed hw.symm] at ha
    exact .failed hw.symm (ha.trans (note_alike ..))
  | ok u =>
    have hfr : Plant.Alike { p' with groups := (d.free p).groups } (d.free p') :=
      free_groups ha.groups_eq
    have hc := hfr.clock_eq.trans ha.clock_eq
    exact .done hw.symm hc
      (Plant.Alike.trans ⟨hfr.board_eq.trans ha.board_eq, hfr.groups_eq, hc⟩ (settle_alike ..))

/-- Where the greatest time on is over, enforcing it is a forced switch-off. -/
theorem process_of_overdue (h : d.overdue? p.clock.now ≠ none) :
    ∃ q, p.Alike q ∧ d.process p = d.forceOff q (some .autoShutoff) := by
  obtain ⟨millis, hm⟩ := Option.ne_none_iff_exists'.1 h
  unfold process
  rw [hm]
  exact ⟨_, d.note_alike p .., rfl⟩

@[simp] theorem stopped_serial (d : Driver) (reason : Option Lockout) :
    (d.stopped reason).serial = d.serial := by
  cases reason <;> rfl

@[simp] theorem stopped_config (d : Driver) (reason : Option Lockout) :
    (d.stopped reason).config = d.config := by
  cases reason <;> rfl

@[simp] theorem stopped_isOn (d : Driver) (reason : Option Lockout) :
    (d.stopped reason).status.isOn = d.status.isOn := by
  cases reason <;> rfl

@[simp] theorem stopped_onSince (d : Driver) (reason : Option Lockout) :
    (d.stopped reason).onSince = d.onSince := by
  cases reason <;> rfl

@[simp] theorem stopped_offSince (d : Driver) (reason : Option Lockout) :
    (d.stopped reason).offSince = d.offSince := by
  cases reason <;> rfl

/-! ## Results and states -/

/-- What a command answers tells what it leaves of the state. -/
theorem command_ends (d : Driver) (p : Plant) (on : Bool) (duty : Single) :
    (d.command p on duty).result = .ok () ∧
        (d.command p on duty).driver.status.state = (if on then .on else .off) ∨
      (∃ r, (d.command p on duty).result = .error (.refused r) ∧
        (d.command p on duty).driver.status.state = d.status.state) ∨
      ∃ e, (d.command p on duty).result = .error (.gpio e) ∧
        (d.command p on duty).driver.status.state = .error := by
  have hc := d.apply_cases p on duty
  unfold command
  generalize d.apply p on duty = o at hc ⊢
  cases hc with
  | refused gate alike => exact .inr (.inl ⟨_, rfl, Status.refuse_state⟩)
  | failed gate pass write alike => exact .inr (.inr ⟨_, rfl, rfl⟩)
  | done gate pass write clock_eq alike => exact .inl ⟨rfl, rfl⟩

theorem forceOff_ends (d : Driver) (p : Plant) (reason : Option Lockout) :
    (d.forceOff p reason).result = .ok () ∧ (d.forceOff p reason).driver.status.state = .off ∨
      ∃ e, (d.forceOff p reason).result = .error (.gpio e) ∧
        (d.forceOff p reason).driver.status.state = .error := by
  have hc := d.forceOff_cases p reason
  generalize d.forceOff p reason = o at hc ⊢
  cases hc with
  | failed write alike => exact .inr ⟨_, rfl, rfl⟩
  | done write clock_eq alike => exact .inl ⟨rfl, rfl⟩

/-- A duty that is a number is a command to the position that it stands for. -/
theorem setDuty_eq_command (d : Driver) (p : Plant) {x : Single} (hx : x.isFinite = true) :
    ∃ duty, d.setDuty p x = d.command p
      (if d.config.kind = .pwm then Duty.threshold.lt (x.clamp d.config.minDuty d.config.maxDuty)
        else Duty.half.lt x) duty := by
  by_cases hk : d.config.kind = .pwm
  · simp only [setDuty, hx, hk, Bool.not_true, Bool.false_eq_true, if_false, if_true]
    exact ⟨_, rfl⟩
  · simp only [setDuty, hx, hk, Bool.not_true, Bool.false_eq_true, if_false]
    exact ⟨_, rfl⟩

theorem setDuty_of_not_isFinite {x : Single} (hx : x.isFinite = false) :
    d.setDuty p x = ⟨.error (.notFinite d.name x), d, p, none⟩ := by
  simp [setDuty, hx]

theorem pulseNow_of_error {e : Error} (h : (d.set p true).result = .error e) :
    d.pulseNow p = d.set p true := by
  simp only [pulseNow, h]

theorem pulseNow_of_ok (h : (d.set p true).result = .ok ()) :
    d.pulseNow p = (d.set p true).driver.set (d.set p true).plant false := by
  simp only [pulseNow, h]

theorem startPulse_of_error {serial timer : Nat} {millis : Option UInt32} {e : Error}
    (h : (d.set p true).result = .error e) : d.startPulse p serial timer millis = d.set p true := by
  simp only [startPulse, h]

end Output.Driver

end Switchboard
