import Switchboard.Proofs.Overflow
import Switchboard.Proofs.Truthful

/-!
# What the question for the gate foretells

A driver can be asked whether its group would let it on. The question is no operation: it is answered from
the driver and the plant and gives back nothing but the answer. The gate itself comes after two others, the
latched lockout and the least time off. So a command to switch on is refused by the group exactly if the
answer was no and neither of the other two stops it first (`set_on_shut_iff`).

A driver that was switched on has a hold on its group (`Driver.Grips`): it holds the claim, or the group has
no place, cannot get one any more, and is open. Nothing that others do loosens it (`Move.spares_or`), and of
what the driver does itself only a switch-off that goes through does (`Turn.grips`). As long as it has the
hold, its own answer is yes, and where the group has a place the answer of every other driver of the group is
no (`run_forecast`).
-/

namespace Switchboard

open Interlock (Group)
open Output (Driver Outcome Lockout)

namespace Output.Driver

variable {may : Command → Prop} {d d' : Driver} {p p' : Plant} {on : Bool} {duty : Single} {group : Group}

/-! ## The gates before the group -/

/-- Nothing but the group can keep the driver from being switched on. -/
theorem refusal?_on_eq_none_iff {now : Nat} :
    d.refusal? now true = none ↔
      d.status.latched? = none ∧ ¬(d.status.isOn = false ∧ isEarly d.offSince d.config.minOff now = true) := by
  unfold refusal?
  cases d.status.latched? <;> simp

/-- A command to switch on is refused by the group if the group would not let the driver through, and no
other gate refuses it. -/
theorem set_on_shut_iff :
    (d.set p true).result = .error (.refused .interlockActive) ↔
      d.checkInterlock p = false ∧ d.refusal? p.clock.now true = none := by
  have hc := d.apply_cases p true (d.config.fullDuty true)
  unfold set command
  generalize d.apply p true (d.config.fullDuty true) = o at hc
  cases hc with
  | refused gate alike =>
    rcases gate with hr | ⟨hr, -, hshut, rfl⟩
    · refine iff_of_false (fun h => ?_) fun h => ?_
      · cases h
        exact d.refusal?_ne_interlockActive p.clock.now true hr
      · cases hr.symm.trans h.2
    · simp [hr, hshut]
  | failed gate pass write alike => simp [pass rfl]
  | done gate pass write clock_eq alike => simp [pass rfl]

/-! ## A hold on a group -/

/-- The group of the driver, if it has one, was given a place or there is none left for it. -/
def Housed (d : Driver) (p : Plant) : Prop :=
  ∀ {group}, d.config.group = some group → p.groups.isRegistered group = true ∨ p.groups.IsFull

/-- The driver has a hold on its group, if it has one: it holds the claim, or the group is open and will never
have a place. -/
structure Grips (d : Driver) (p : Plant) : Prop where
  held : ∀ {group}, d.config.group = some group → p.groups.isRegistered group = true →
    p.groups.claims.get? group = some (.held d.token)
  placeless : d.Placeless p → p.groups.overflow = .failOpen ∧ p.groups.IsFull

/-- The driver was switched off, and no pulse of it is still to end. -/
def Released (d : Driver) : Prop :=
  d.status.state = .off ∧ d.pulse = none

theorem Housed.spared {serial : Nat} (h : d.Housed p) (hs : p.groups.Spares serial p'.groups)
    (hc : d'.config = d.config) : d'.Housed p' :=
  fun hg => (h (hc ▸ hg)).imp hs.registered fun hf => (hs.full hf).1

theorem Grips.housed (h : d.Grips p) : d.Housed p := by
  intro group hg
  cases hr : p.groups.isRegistered group with
  | true => exact .inl rfl
  | false => exact .inr (h.placeless ⟨group, hg, hr⟩).2

theorem Grips.of_groups (h : d.Grips p) (hg : p'.groups = p.groups) (hs : d'.serial = d.serial)
    (hc : d'.config = d.config) : d'.Grips p' := by
  have ht : d'.token = d.token := by simp [token, hs, hc]
  refine ⟨fun hgroup hr => ?_, fun hp => ?_⟩
  · rw [hg] at hr ⊢
    rw [ht]
    exact h.held (hc ▸ hgroup) hr
  · obtain ⟨group, hgroup, hr⟩ := hp
    rw [hg] at hr ⊢
    exact h.placeless ⟨group, hc ▸ hgroup, hr⟩

/-- What spares the claims of a driver leaves it its hold. -/
theorem Grips.spared (h : d.Grips p) (hs : p.groups.Spares d.serial p'.groups) : d.Grips p' := by
  have hplaceless : d.Placeless p' → d.Placeless p := by
    rintro ⟨group, hg, hr⟩
    refine ⟨group, hg, Bool.eq_false_iff.2 fun hr' => ?_⟩
    cases hr.symm.trans (hs.registered hr')
  refine ⟨fun {group} hg hr => ?_, fun hp => ?_⟩
  · cases hr' : p.groups.isRegistered group with
    | true => exact (hs.claim_iff belongsTo_token).2 (h.held hg hr')
    | false =>
      -- A full table gives no place.
      have hfull := (h.placeless ⟨group, hg, hr'⟩).2
      cases hr'.symm.trans ((hs.full hfull).2 group hr)
  · obtain ⟨ho, hf⟩ := h.placeless (hplaceless hp)
    exact ⟨hs.overflow_eq.trans ho, (hs.full hf).1⟩

/-- The answer of a driver that has a hold on its group is yes. -/
theorem Grips.checkInterlock_eq (h : d.Grips p) : d.checkInterlock p = true := by
  cases hg : d.config.group with
  | none => simp [checkInterlock, hg]
  | some group =>
    cases hr : p.groups.isRegistered group with
    | true =>
      simp only [checkInterlock, hg, Option.all_some]
      rw [Interlock.Groups.isAvailable_eq_true_iff hr, h.held hg hr]
      rintro c ⟨⟩
      exact Interlock.Claim.admits_of_isOf (Interlock.Claim.isOf_iff.2 belongsTo_token)
    | false =>
      have hp : d.Placeless p := ⟨group, hg, hr⟩
      rw [hp.checkInterlock_eq, (h.placeless hp).1]
      rfl

/-- If the group has a place, the answer of every other driver of it is no. -/
theorem Grips.shuts (h : d.Grips p) (hg : d.config.group = some group)
    (hr : p.groups.isRegistered group = true) (hg' : d'.config.group = some group)
    (hne : d'.serial ≠ d.serial) : d'.checkInterlock p = false := by
  simp only [checkInterlock, hg', Option.all_some]
  rw [Bool.eq_false_iff, ne_eq, Interlock.Groups.isAvailable_eq_true_iff hr]
  intro hall
  exact Interlock.Claim.not_belongsTo_of_admits (hall _ (h.held hg hr)) (Ne.symm hne) belongsTo_token

/-! ## What a driver does about it -/

/-- A driver that the gate let through, and whose output is on, has a hold on its group. -/
theorem Housed.grips (h : d.Housed p) (hpass : d.checkInterlock p = true)
    (hq : p'.groups = d.hold p.groups) (hs : d'.serial = d.serial) (hc : d'.config = d.config) :
    d'.Grips p' := by
  have hplaces : p.groups.Places p'.groups := by
    rw [hq]
    exact (Frame.hold_groups hpass).places
  have ht : d'.token = d.token := by simp [token, hs, hc]
  refine ⟨fun {group} hg hr => ?_, fun hp => ?_⟩
  · rw [hc] at hg
    rw [hplaces.registered_eq] at hr
    obtain ⟨c, hc'⟩ := Option.isSome_iff_exists.1 hr
    rw [hq, ht, hold, hg]
    simp [Interlock.Groups.hold, Table.get?_modify_self, hc']
  · obtain ⟨group, hg, hr⟩ := hp
    rw [hc] at hg
    rw [hplaces.registered_eq] at hr
    have hp : d.Placeless p := ⟨group, hg, hr⟩
    have hopen : p.groups.overflow = .failOpen := by
      rw [hp.checkInterlock_eq] at hpass
      exact beq_iff_eq.1 hpass
    have hfull : p.groups.IsFull := (h hg).resolve_left (by simp [hr])
    refine ⟨hplaces.overflow_eq.trans hopen, ?_⟩
    unfold Interlock.Groups.IsFull at hfull ⊢
    rw [hplaces.capacity_eq, hplaces.size_eq]
    exact hfull

/-- A driver that holds its claim has no reservation to take back. -/
theorem Grips.abandon_groups (h : d.Grips p) : (d.abandon p).groups = p.groups := by
  unfold abandon
  cases hg : d.config.group with
  | none => rfl
  | some group =>
    refine Interlock.Groups.abandon_eq_self fun u hu => ?_
    have hr : p.groups.isRegistered group = true := Table.contains_of_get? hu
    cases hu.symm.trans (h.held hg hr)

/-- Only a command to switch off that goes through gives the hold up. -/
theorem Grips.apply (h : d.Grips p) (on : Bool) (duty : Single) :
    (d.apply p on duty).driver.Grips (d.apply p on duty).plant ∨
      on = false ∧ (d.apply p on duty).result = .ok () ∧
        (d.apply p on duty).driver.status.state = .off := by
  have hc := d.apply_cases p on duty
  generalize d.apply p on duty = o at hc ⊢
  cases hc with
  | refused gate alike => exact .inl (h.of_groups alike.groups_eq rfl rfl)
  | failed gate pass write alike =>
    refine .inl (h.of_groups ?_ rfl rfl)
    rw [alike.groups_eq]
    cases on with
    | false => rfl
    | true => exact h.abandon_groups
  | done gate pass write clock_eq alike =>
    cases on with
    | false => exact .inr ⟨rfl, rfl, rfl⟩
    | true => exact .inl (Housed.grips h.housed (pass rfl) alike.groups_eq settle_serial settle_config)

theorem Grips.command (h : d.Grips p) (on : Bool) (duty : Single) :
    (d.command p on duty).driver.Grips (d.command p on duty).plant ∨
      on = false ∧ (d.command p on duty).driver.Released := by
  have ha := h.apply on duty
  unfold Driver.command
  cases hr : (d.apply p on duty).result with
  | ok u =>
    simp only [hr]
    rcases ha with ha | ⟨rfl, -, hs⟩
    · exact .inl (ha.of_groups rfl rfl rfl)
    · exact .inr ⟨rfl, hs, rfl⟩
  | error e =>
    simp only [hr]
    rcases ha with ha | ⟨-, hok, -⟩
    · exact .inl ha
    · cases hr.symm.trans hok

theorem Grips.forceOff (h : d.Grips p) (reason : Option Lockout) :
    (d.forceOff p reason).driver.Grips (d.forceOff p reason).plant ∨
      (d.forceOff p reason).driver.Released := by
  have hc := d.forceOff_cases p reason
  generalize d.forceOff p reason = o at hc ⊢
  cases hc with
  | failed write alike => exact .inl (h.of_groups alike.groups_eq (by simp) (by simp))
  | done write clock_eq alike =>
    refine .inr ⟨rfl, ?_⟩
    cases reason <;> simp [stopped, dropPulse]

theorem Grips.pulseNow (h : d.Grips p) :
    (d.pulseNow p).driver.Grips (d.pulseNow p).plant ∨ (d.pulseNow p).driver.Released := by
  have hon := (h.command true (d.config.fullDuty true)).resolve_right nofun
  cases hr : (d.set p true).result with
  | error e =>
    rw [pulseNow_of_error hr]
    exact .inl hon
  | ok u =>
    rw [pulseNow_of_ok hr]
    exact (hon.command false _).imp_right And.right

theorem Grips.obey (h : d.Grips p) (c : Command) :
    (Rig.obey d p c).driver.Grips (Rig.obey d p c).plant ∨ (Rig.obey d p c).driver.Released := by
  have hcommand (on : Bool) (duty : Single) := (h.command on duty).imp_right And.right
  cases c with
  | set on => exact hcommand on _
  | toggle => exact hcommand _ _
  | duty x =>
    by_cases hx : x.isFinite = true
    · obtain ⟨duty, he⟩ := d.setDuty_eq_command p hx
      simp only [Rig.obey, he]
      exact hcommand _ _
    · simp only [Rig.obey, setDuty_of_not_isFinite (Bool.eq_false_iff.2 hx)]
      exact .inl h
  | process =>
    simp only [Rig.obey]
    by_cases ho : d.overdue? p.clock.now = none
    · simp only [process, ho]
      exact .inl h
    · obtain ⟨q, hq, he⟩ := process_of_overdue ho
      rw [he]
      exact (h.of_groups hq.groups_eq rfl rfl).forceOff _
  | emergencyStop => exact (h.of_groups (d.note_alike p ..).groups_eq rfl rfl).forceOff _
  | shutdown => exact h.forceOff none
  | resetLockout =>
    refine .inl (h.of_groups ?_ rfl rfl)
    simp only [Rig.obey, resetLockout]
    split <;> rfl
  | restore total cycles => exact .inl (h.of_groups rfl rfl rfl)
  | pulseNow => exact h.pulseNow

/-- A driver goes on holding its group whatever it does, unless it is switched off. -/
theorem Turn.grips {o : Outcome} (h : d.Grips p) (ht : Turn may d p o) :
    o.driver.Grips o.plant ∨ o.driver.Released := by
  cases ht with
  | idle => exact .inl h
  | tell c told => exact h.obey c
  | pulse serial timer millis =>
    have hon := (h.command true (d.config.fullDuty true)).resolve_right nofun
    unfold startPulse set
    dsimp only
    split
    · exact .inl hon
    · exact .inl (hon.of_groups rfl rfl rfl)
  | finish number =>
    unfold finishPulse
    split
    · have hd : d.dropPulse.Grips p := h.of_groups rfl rfl rfl
      have ha := hd.apply false Duty.zero
      cases hr : (d.dropPulse.apply p false Duty.zero).result with
      | ok u =>
        simp only [hr]
        exact ha.imp_right fun hoff => ⟨hoff.2.2, apply_pulse ..⟩
      | error e =>
        simp only [hr]
        rcases ha with ha | ⟨-, hok, -⟩
        · exact .inl (ha.of_groups rfl rfl rfl)
        · cases hr.symm.trans hok
    · exact .inl (h.of_groups rfl rfl rfl)
  | cancel serial => exact .inl (h.of_groups rfl rfl rfl)

/-- A command to switch on that goes through gets the driver a hold on its group. -/
theorem Housed.set_on (h : d.Housed p) (hok : (d.set p true).result = .ok ()) :
    (d.set p true).driver.Grips (d.set p true).plant := by
  have hc := d.apply_cases p true (d.config.fullDuty true)
  unfold set command at hok ⊢
  generalize d.apply p true (d.config.fullDuty true) = o at hc hok ⊢
  cases hc with
  | refused gate alike => cases hok
  | failed gate pass write alike => cases hok
  | @done p' gate pass write clock_eq alike =>
    refine Housed.grips h (pass rfl) alike.groups_eq ?_ ?_
    · exact settle_serial (d := { d with status := d.status.relent })
    · exact settle_config (d := { d with status := d.status.relent })

end Output.Driver

/-! ## What the rig does about it -/

namespace Rig

variable {r r' : Rig} {e : Event} {es : List Event} {n : Nat} {d d' : Driver}

/-- After each event of a run the driver with a serial is there, and its status does not say off: it was not
switched off. -/
def unreleased (r : Rig) (n : Nat) : List Event → Bool
  | [] => true
  | e :: es => ((r.step e).1.drivers.get? n).any (·.status.state != .off) && (r.step e).1.unreleased n es

/-- In a reached state the group of every driver has a place, or there is none left. -/
theorem run_housed (hw : r.WellFormed) (hh : ∀ {n d}, r.drivers.get? n = some d → d.Housed r.plant)
    (es : List Event) (hd : (r.run es).drivers.get? n = some d) : d.Housed (r.run es).plant := by
  induction es generalizing r with
  | nil => exact hh hd
  | cons e es ih =>
    refine ih (hw.step e) (fun {m d'} hd' => ?_) hd
    cases hm : r.drivers.get? m with
    | none => exact (step_born hw hm hd').1.placed
    | some d₁ =>
      exact Driver.Housed.spared (hh hm) (step_spares_next hw e) (step_config hw hm hd')

/-- No move takes the hold from a driver, unless the driver is given up or switched off. -/
theorem Move.grips (hw : r.WellFormed) (hd : r.drivers.get? n = some d) (hg : d.Grips r.plant)
    (h : Move e r r') (hd' : r'.drivers.get? n = some d') : d'.Grips r'.plant ∨ d'.Released := by
  have hs := (hw.driver hd).1
  rcases h.spares_or hw fun _ => hw.distinct hd with ⟨hspares, hkept⟩ | ⟨d₁, hd₁, hturn⟩
  · cases (hkept d hd).symm.trans hd'
    exact .inl (hg.spared (hs ▸ hspares))
  · cases hd.symm.trans hd₁
    rcases hturn with hn | ⟨o, turn, alike, hlive⟩
    · cases hn.symm.trans hd'
    · cases hlive.symm.trans hd'
      exact (Driver.Turn.grips hg turn).imp_left fun hg' => hg'.of_groups alike.groups_eq rfl rfl

/-- Nor does the end of a pulse. A driver that was switched off by it has no other. -/
theorem finish_grips (hw : r.WellFormed) (hd : r.drivers.get? n = some d)
    (hg : d.Grips r.plant ∨ d.Released) (m : Nat) (q : Output.Pulse) :
    ∃ d', (r.finish m q).drivers.get? n = some d' ∧ (d'.Grips (r.finish m q).plant ∨ d'.Released) := by
  by_cases hm : m = n
  · subst hm
    have hd' : (r.finish m q).drivers.get? m = some (d.finishPulse r.plant q.number).driver := by
      rw [(finish_eq hd q).2, Table.get?_insert_self]
    refine ⟨_, hd', ?_⟩
    rcases hg with hg | hoff
    · exact Move.grips hw hd hg (finish_move (.drift 0) r m q) hd'
    · right
      simp only [Driver.finishPulse, hoff.2, Option.any_none, Bool.false_eq_true, if_false]
      exact hoff
  · have hd' : (r.finish m q).drivers.get? n = some d := (finish_get?_of_ne hm q).trans hd
    refine ⟨d, hd', ?_⟩
    rcases hg with hg | hoff
    · exact Move.grips hw hd hg (finish_move (.drift 0) r m q) hd'
    · exact .inr hoff

theorem finishAll_grips (l : List (Nat × Output.Pulse)) (hw : r.WellFormed)
    (hd : r.drivers.get? n = some d) (hg : d.Grips r.plant ∨ d.Released) :
    ∃ d', (r.finishAll l).drivers.get? n = some d' ∧ (d'.Grips (r.finishAll l).plant ∨ d'.Released) := by
  induction l generalizing r d with
  | nil => exact ⟨d, hd, hg⟩
  | cons x rest ih =>
    obtain ⟨d', hd', hg'⟩ := finish_grips hw hd hg x.1 x.2
    exact ih (hw.move (finish_move (.drift 0) r x.1 x.2)) hd' hg'

/-- No step takes the hold from a driver, unless the driver is given up or switched off. -/
theorem step_grips (hw : r.WellFormed) (hd : r.drivers.get? n = some d) (hg : d.Grips r.plant)
    (hd' : (r.step e).1.drivers.get? n = some d') : d'.Grips (r.step e).1.plant ∨ d'.Released := by
  by_cases hadvance : ∃ millis, e = .advance millis
  · obtain ⟨millis, rfl⟩ := hadvance
    obtain ⟨r₁, hq, he⟩ := advance_eq r millis
    simp only [step, he] at hd' ⊢
    have hd₁ : r₁.drivers.get? n = some d := by rw [hq.drivers_eq, hd]
    obtain ⟨d₂, hd₂, hg₂⟩ :=
      finishAll_grips r₁.due (hw.quiet hq) hd₁ (Move.grips hw hd hg (.quiet hq) hd₁)
    cases hd₂.symm.trans hd'
    exact hg₂
  · exact Move.grips hw hd hg (step_move r e fun millis he => hadvance ⟨millis, he⟩) hd'

/-- A driver has its hold as long as it is not given up or switched off. -/
theorem run_grips (hw : r.WellFormed) (hd : r.drivers.get? n = some d) (hg : d.Grips r.plant)
    (hu : r.unreleased n es = true) :
    ∃ d', (r.run es).drivers.get? n = some d' ∧ d'.Grips (r.run es).plant := by
  induction es generalizing r d with
  | nil => exact ⟨d, hd, hg⟩
  | cons e es ih =>
    obtain ⟨he, hes⟩ := Bool.and_eq_true_iff.1 hu
    obtain ⟨d', hd', hs⟩ := (Option.any_eq_true _ _).1 he
    refine ih (hw.step e) hd' ((step_grips hw hd hg hd').resolve_right fun hoff => ?_) hes
    simp [hoff.1] at hs

/-- In every reached state the answer of a driver foretells what a command to switch on comes to: the command is
refused for the group if and only if the answer is no, no latched lockout is there and the least time off does
not refuse it. When the command goes through, the answer is yes as long as the driver is neither switched off
nor given up, and if its group has a place, the answer of every other driver of the group is no as long. -/
theorem run_forecast (s : Setup) (es : List Event) {n : Nat} {d : Driver}
    (hd : (s.cold.run es).drivers.get? n = some d) :
    let r := s.cold.run es
    let on := r.step (.command n (.set true))
    (on.2 = .outputFailed (.refused .interlockActive) ↔
        d.checkInterlock r.plant = false ∧ d.status.latched? = none ∧
          ¬(d.status.isOn = false ∧
            Driver.isEarly d.offSince d.config.minOff r.plant.clock.now = true)) ∧
      (on.2 = .done → ∀ later, on.1.unreleased n later = true →
        let r' := on.1.run later
        ∃ d', r'.drivers.get? n = some d' ∧ d'.checkInterlock r'.plant = true ∧
          ∀ {group m d''}, d.config.group = some group → r'.plant.groups.isRegistered group = true →
            r'.drivers.get? m = some d'' → m ≠ n → d''.config.group = some group →
            d''.checkInterlock r'.plant = false) := by
  intro r on
  have hd : r.drivers.get? n = some d := hd
  have hw : r.WellFormed := run_wellFormed (cold_wellFormed s) es
  have hset : on = (r.keep n (d.set r.plant true), outputReply (d.set r.plant true).result) := by
    simp only [on, step, tell, hd, obey]
  refine ⟨?_, fun hdone later hu => ?_⟩
  · rw [hset, outputReply_eq_outputFailed_iff, Driver.set_on_shut_iff, Driver.refusal?_on_eq_none_iff]
  · have hok : (d.set r.plant true).result = .ok () := by
      rw [hset] at hdone
      exact outputReply_eq_done_iff.1 hdone
    have hhoused : d.Housed r.plant := run_housed (cold_wellFormed s) (fun hd => by cases hd) es hd
    have hlive : on.1.drivers.get? n = some (d.set r.plant true).driver := by
      rw [hset]
      exact Table.get?_insert_self
    have hgrips : (d.set r.plant true).driver.Grips on.1.plant := by
      rw [hset]
      exact hhoused.set_on hok
    have hw' : on.1.WellFormed := hw.step _
    obtain ⟨d', hd', hg'⟩ := run_grips hw' hlive hgrips hu
    have hwl : (on.1.run later).WellFormed := run_wellFormed hw' later
    have hconfig : d'.config = d.config :=
      (run_config hw' hlive hd').trans (step_config hw hd hlive)
    refine ⟨d', hd', hg'.checkInterlock_eq, fun {group m d''} hgroup hr hm hne hgroup' => ?_⟩
    refine hg'.shuts (hconfig ▸ hgroup) hr hgroup' ?_
    rw [(hwl.driver hm).1, (hwl.driver hd').1]
    exact hne

/-- Two outputs of one group, and a token of others. -/
def crossroads : List Event :=
  [.pin .init, .create { Output.Config.plain 1 "north" .relay 17 with group := some 5 },
    .create { Output.Config.plain 2 "east" .relay 18 with group := some 5 }, .createToken 9 "panel"]

/-- The first output fails to go off, and the others ask for the group. -/
def stubborn : List Event :=
  [.setFailing 17 true, .command 0 (.set false), .reserve 5 2, .command 1 (.set true), .free 5 2,
    .advance 1000]

/-- Once the first output was on, its answer stays yes and that of the second no, even in an error. -/
theorem crossroads_forecast :
    let r := ((Setup.plain.cold.run crossroads).step (.command 0 (.set true))).1.run stubborn
    ∃ d d', r.drivers.get? 0 = some d ∧ d.status.state = .error ∧ r.drivers.get? 1 = some d' ∧
      d.checkInterlock r.plant = true ∧ d'.checkInterlock r.plant = false := by
  intro r
  obtain ⟨d, hd, hgroup⟩ : ∃ d, (Setup.plain.cold.run crossroads).drivers.get? 0 = some d ∧
      d.config.group = some 5 :=
    Option.map_eq_some_iff.1 (by decide +kernel)
  obtain ⟨-, hon⟩ := run_forecast Setup.plain crossroads hd
  obtain ⟨d₁, hd₁, hyes, hno⟩ := hon (by rfl) stubborn (by decide +kernel)
  obtain ⟨d₂, hd₂, hgroup₂⟩ : ∃ d₂, r.drivers.get? 1 = some d₂ ∧ d₂.config.group = some 5 :=
    Option.map_eq_some_iff.1 (by decide +kernel)
  have hstate : (r.drivers.get? 0).map (·.status.state) = some .error := by decide +kernel
  have hplace : r.plant.groups.isRegistered 5 = true := by decide +kernel
  rw [hd₁, Option.map_some, Option.some.injEq] at hstate
  exact ⟨d₁, d₂, hd₁, hstate, hd₂, hyes, hno hgroup hplace hd₂ (by decide) hgroup₂⟩

end Rig

end Switchboard
