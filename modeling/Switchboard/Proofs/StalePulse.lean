import Switchboard.Proofs.PendingPulse

/-!
# Pulses that are over

The timer may get to a pulse after something has ended its wait. Such a pulse does nothing: whatever has become
of its driver since, the rig is as before but for its log (`ring_of_over`). And when time passes, the
drivers whose pulses are not over are left alone (`step_leaves`). So in every run the switch-off of a pulse is
tried once at most, when the timer gets to it, and if nothing has ended its wait before (`run_attempts_iff`).

A pulse is told by its serial. Its number tells it from the other pulses of its driver only as long as numbers
go up, which is what a driver keeps of a pulse that it has begun (`Driver.Outlives`).
-/

namespace Switchboard

open Output (Driver Outcome Pulse)

/-- An event at which the timer gets to pulses. -/
def Event.isTimer : Event → Bool
  | .advance _ | .ring .. => true
  | _ => false

namespace Output.Driver

/-- What a driver that has begun a pulse may still have of it. A pulse that it has begun since has another serial
and a higher number. -/
structure Outlives (d : Driver) (q : Pulse) : Prop where
  number_le : q.number ≤ d.pulses
  pulse : ∀ {q'}, d.pulse = some q' →
    q' = q ∨ q' = { q with cancelled := true } ∨ q'.serial ≠ q.serial ∧ q.number < q'.number

variable {d : Driver} {p : Plant} {q : Pulse}

@[simp] theorem forceOff_pulses (d : Driver) (p : Plant) (reason : Option Lockout) :
    (d.forceOff p reason).driver.pulses = d.pulses := by
  have hc := d.forceOff_cases p reason
  generalize d.forceOff p reason = o at hc ⊢
  cases hc with
  | failed write alike => cases reason <;> rfl
  | done write clock_eq alike =>
    rw [settle_pulses]
    cases reason <;> rfl

/-- What a driver is told begins no pulse that waits. -/
theorem obey_pulses (d : Driver) (p : Plant) (c : Command) : (Rig.obey d p c).driver.pulses = d.pulses := by
  cases c with
  | set on => exact d.command_pulses p on _
  | toggle => exact d.command_pulses p _ _
  | duty x =>
    by_cases hx : x.isFinite = true
    · obtain ⟨duty, he⟩ := d.setDuty_eq_command p hx
      simp only [Rig.obey, he, command_pulses]
    · simp only [Rig.obey, setDuty_of_not_isFinite (Bool.eq_false_iff.2 hx)]
  | process =>
    simp only [Rig.obey, process]
    split
    · rfl
    · exact forceOff_pulses ..
  | emergencyStop | shutdown => exact forceOff_pulses ..
  | resetLockout | restore total cycles => rfl
  | pulseNow =>
    have hset : (d.set p true).driver.pulses = d.pulses := d.command_pulses p true _
    cases hr : (d.set p true).result with
    | error e => simp only [Rig.obey, pulseNow_of_error hr, hset]
    | ok u =>
      simp only [Rig.obey, pulseNow_of_ok hr]
      exact (command_pulses ..).trans hset

theorem startPulse_pulses (d : Driver) (p : Plant) (serial timer : Nat) (millis : Option UInt32) :
    (d.startPulse p serial timer millis).driver.pulses =
      if (d.set p true).result.isOk then d.pulses + 1 else d.pulses := by
  have h : (d.set p true).driver.pulses = d.pulses := d.command_pulses p true _
  unfold startPulse
  dsimp only
  cases hr : (d.set p true).result with
  | error e => exact h
  | ok u => exact congrArg (· + 1) h

theorem finishPulse_pulses (d : Driver) (p : Plant) (number : Nat) :
    (d.finishPulse p number).driver.pulses = d.pulses := by
  unfold finishPulse
  split
  · dsimp only
    split <;> exact d.dropPulse.apply_pulses p false _
  · rfl

theorem Outlives.eq_of_serial {q' : Pulse} (h : d.Outlives q) (hp : d.pulse = some q')
    (hs : q'.serial = q.serial) (hk : q'.cancelled = false) : q' = q := by
  rcases h.pulse hp with he | rfl | ⟨hne, -⟩
  · exact he
  · cases hk
  · exact absurd hs hne

theorem Outlives.eq_of_number {q' : Pulse} (h : d.Outlives q) (hp : d.pulse = some q')
    (hn : q'.number = q.number) (hk : q'.cancelled = false) : q' = q := by
  rcases h.pulse hp with he | rfl | ⟨-, hlt⟩
  · exact he
  · cases hk
  · exact absurd hn (Nat.ne_of_gt hlt)

theorem Outlives.of_eq {d' : Driver} (h : d.Outlives q) (hp : d'.pulse = d.pulse ∨ d'.pulse = none)
    (hn : d'.pulses = d.pulses) : d'.Outlives q where
  number_le := hn ▸ h.number_le
  pulse hq := by
    rcases hp with hp | hp
    · exact h.pulse (hp ▸ hq)
    · cases hp.symm.trans hq

end Output.Driver

namespace Rig

variable {r : Rig} {e : Event} {n : Nat} {d d' : Driver} {q : Pulse}

/-- At an event of the timer the driver with a serial drops the pulse with a serial, and switches off past its
gates. -/
def Attempts (r : Rig) (n serial : Nat) (e : Event) : Prop :=
  e.isTimer = true ∧ ∃ d q, r.drivers.get? n = some d ∧ d.pulse = some q ∧ q.serial = serial ∧
    (r.step e).1.drivers.get? n = some (d.dropPulse.apply (r.found n e) false Duty.zero).driver

/-- At an event a driver stays as it is, and unless another driver is on its pin, so do the level of its pin, the
writes to it and the claims of the driver. -/
structure Leaves (r : Rig) (n : Nat) (e : Event) : Prop where
  driver_eq : (r.step e).1.drivers.get? n = r.drivers.get? n
  spares : ∀ {d}, r.drivers.get? n = some d → r.Alone n d.config.pin →
    r.plant.Spares n d.config.pin (r.step e).1.plant

/-- A driver keeps to the pulse that it has begun, and to higher numbers for those after it. -/
theorem step_outlives (hw : r.WellFormed) (hb : r.Begun n q) (hd : r.drivers.get? n = some d)
    (hd' : (r.step e).1.drivers.get? n = some d') (h : d.Outlives q) : d'.Outlives q := by
  rcases step_part hw hd e with ⟨-, hn⟩ | ⟨o, ho, hlive⟩
  · cases hn.symm.trans hd'
  cases hlive.symm.trans hd'
  cases ho with
  | told c =>
    refine h.of_eq ?_ (d.obey_pulses r.plant c)
    rw [Driver.obey_pulse]
    split
    · exact .inr rfl
    · exact .inl rfl
  | pulse millis =>
    have hp := d.startPulse_pulse r.plant r.next r.timer millis
    have hn := d.startPulse_pulses r.plant r.next r.timer millis
    split at hp
    · rename_i hok
      rw [if_pos hok] at hn
      refine ⟨hn ▸ Nat.le_succ_of_le h.number_le, fun hq => .inr (.inr ?_)⟩
      cases hp.symm.trans hq
      exact ⟨Nat.ne_of_gt hb.serial_lt, Nat.lt_succ_of_le h.number_le⟩
    · rename_i hok
      exact h.of_eq (.inl hp) (hn.trans (if_neg hok))
  | cancel handle mine =>
    refine ⟨h.number_le, fun {q'} hq => ?_⟩
    obtain ⟨q₀, hq₀, rfl⟩ := Option.map_eq_some_iff.1 hq
    rcases h.pulse hq₀ with rfl | rfl | ⟨hs, hlt⟩
    · split
      · exact .inr (.inl rfl)
      · exact .inl rfl
    · split <;> exact .inr (.inl rfl)
    · split <;> exact .inr (.inr ⟨hs, hlt⟩)
  | finish pending kept rings =>
    refine h.of_eq (.inr ?_) (d.finishPulse_pulses ..)
    rw [(Driver.finishPulse_of_pending pending).1]
    exact Driver.apply_pulse ..
  | none apart => exact h

theorem run_outlives {es : List Event} (hw : r.WellFormed) (hb : r.Begun n q)
    (hd : r.drivers.get? n = some d) (hd' : (r.run es).drivers.get? n = some d') (h : d.Outlives q) :
    d'.Outlives q := by
  induction es generalizing r d with
  | nil =>
    cases hd.symm.trans hd'
    exact h
  | cons e es ih =>
    obtain ⟨d₁, hd₁⟩ : ∃ d₁, (r.step e).1.drivers.get? n = some d₁ := live_between hw hd [e] es hd'
    exact ih (hw.step e) (hb.step e) hd₁ hd' (step_outlives hw hb hd hd₁ h)

/-! ## What the timer does -/

/-- The switch-off of a pulse is tried when the pulse waits and the timer gets to it, and only then. -/
theorem attempts_iff {serial : Nat} (hw : r.WellFormed) (hd : r.drivers.get? n = some d) :
    r.Attempts n serial e ↔
      ∃ q, d.pulse = some q ∧ q.serial = serial ∧ q.cancelled = false ∧ r.rings n q e = true := by
  constructor
  · rintro ⟨ht, d', q, hd', hp, hs, hlive⟩
    cases hd.symm.trans hd'
    refine ⟨q, hp, hs, ?_⟩
    rcases step_part hw hd e with ⟨rfl, -⟩ | ⟨o, ho, hlive'⟩
    · cases ht
    have hgone : o.driver.pulse = none := by
      rw [Option.some.inj (hlive'.symm.trans hlive)]
      exact Driver.apply_pulse ..
    cases ho with
    | told c => cases ht
    | pulse millis => cases ht
    | cancel handle mine => cases ht
    | finish pending kept rings =>
      cases pending.symm.trans hp
      exact ⟨kept, rings⟩
    | none apart => cases hgone.symm.trans hp
  · rintro ⟨q, hp, hs, hk, hr⟩
    have ht : e.isTimer = true := by
      cases e with
      | advance millis => rfl
      | ring m number => rfl
      | _ => cases hr
    exact ⟨ht, d, q, hd, hp, hs, step_rung hw hk hd hp hr⟩

theorem advance_leaves {millis : Int} (hw : r.WellFormed)
    (h : n ∉ (r.elapse millis).due.map Prod.fst) : r.Leaves n (.advance millis) where
  driver_eq := finishAll_get?_of_not_mem _ h
  spares {d} hd ha := by
    have hq := elapse_quiet r millis
    have helapse : r.plant.Spares n d.config.pin (r.elapse millis).plant :=
      ⟨hq.now_le, hq.board rfl, hq.groups_eq ▸ .refl _ _⟩
    exact helapse.trans (finishAll_spares _ (hw.quiet hq) hd ha h).1

/-- The end of the pulse of another driver leaves a driver alone, and so does the timer when it gets to one that
is not over. -/
theorem ring_leaves {m number : Nat} (hw : r.WellFormed) (hd : r.drivers.get? n = some d)
    (h : m = n → ∀ q, d.pulse = some q → q.number = number → q.cancelled = false → ¬q.due ≤ r.timer) :
    r.Leaves n (.ring m number) := by
  by_cases hover : ∃ d' q, r.drivers.get? m = some d' ∧ d'.pulse = some q ∧ q.number = number ∧
      q.cancelled = false ∧ q.due ≤ r.timer
  · obtain ⟨d', q, hd', hp, hnum, hk, hdue⟩ := hover
    have hm : m ≠ n := by
      rintro rfl
      cases hd.symm.trans hd'
      exact h rfl q hp hnum hk hdue
    have he : (r.step (.ring m number)).1 = r.finish m q := ring_of_over hd' hp hnum hk hdue
    refine ⟨he ▸ finish_get?_of_ne hm q, fun {d} hd ha => ?_⟩
    rw [he]
    exact (finish_spares hw hd ha hm q).1
  · obtain ⟨p, ha, he⟩ := ring_stale r m number fun hd' hp hnum hk hdue =>
      hover ⟨_, _, hd', hp, hnum, hk, hdue⟩
    have he : (r.step (.ring m number)).1 = { r with plant := p } := he
    refine ⟨by rw [he], fun {d} _ _ => ?_⟩
    rw [he]
    exact ha.spares

/-- At an event of the timer a driver is left alone unless the switch-off of its pulse is tried. -/
theorem step_leaves (hw : r.WellFormed) (hd : r.drivers.get? n = some d) (ht : e.isTimer = true)
    (h : ∀ serial, ¬r.Attempts n serial e) : r.Leaves n e := by
  have hidle : ∀ q, d.pulse = some q → q.cancelled = false → ¬r.rings n q e = true := fun q hp hk hr =>
    h q.serial ((attempts_iff hw hd).2 ⟨q, hp, rfl, hk, hr⟩)
  cases e with
  | advance millis =>
    refine advance_leaves hw fun hmem => ?_
    obtain ⟨⟨n', q⟩, hx, rfl⟩ := List.mem_map.1 hmem
    obtain ⟨d', hd', hp, hk, hdue⟩ := mem_due.1 hx
    cases hd.symm.trans hd'
    exact hidle q hp hk (decide_eq_true hdue)
  | ring m number =>
    refine ring_leaves hw hd ?_
    rintro rfl q hp hnum hk hdue
    exact hidle q hp hk (by simp [rings, hnum, hdue])
  | _ => cases ht

theorem pulse_outlives (hw : r.WellFormed) (hd : r.drivers.get? n = some d) {millis : Option UInt32}
    (accepted : r.accepts n (.pulse n millis true) = true)
    (hd' : (r.step (.pulse n millis true)).1.drivers.get? n = some d') : d'.Outlives (r.pulseOf d millis) := by
  rw [accepts_pulse hd] at accepted
  rcases step_part hw hd (.pulse n millis true) with ⟨he, -⟩ | ⟨o, ho, hlive⟩
  · cases he
  cases hlive.symm.trans hd'
  cases ho with
  | pulse millis =>
    have hp := d.startPulse_pulse r.plant r.next r.timer millis
    have hn := d.startPulse_pulses r.plant r.next r.timer millis
    rw [if_pos accepted] at hp hn
    refine ⟨Nat.le_of_eq hn.symm, fun hq => .inl ?_⟩
    exact (Option.some.inj (hp.symm.trans hq)).symm
  | finish pending kept rings => cases rings
  | none apart => simp [involves] at apart

/-- After a run the switch-off of a pulse that waited before it is tried when the timer gets to the pulse, if
nothing in the run has ended its wait. -/
theorem run_attempts {es : List Event} (hw : r.WellFormed) (hb : r.Begun n q) (hk : q.cancelled = false)
    (hd : r.drivers.get? n = some d) (hp : d.pulse = some q) (ho : d.Outlives q)
    (hd' : (r.run es).drivers.get? n = some d') :
    (r.run es).Attempts n q.serial e ↔ r.never (ends · n q) es = true ∧ (r.run es).rings n q e = true := by
  have hwaits : d'.pulse = some q ↔ r.never (ends · n q) es = true := by
    rw [run_pending hw hb hk hd hd']
    exact and_iff_right hp
  rw [attempts_iff (run_wellFormed hw es) hd', ← hwaits]
  constructor
  · rintro ⟨q', hp', hs, hk', hr⟩
    obtain rfl := (run_outlives hw hb hd hd' ho).eq_of_serial hp' hs hk'
    exact ⟨hp', hr⟩
  · rintro ⟨hp', hr⟩
    exact ⟨q, hp', rfl, hk, hr⟩

/-- Of a pulse that a driver has begun, the switch-off is tried when the timer gets to it and nothing has
ended its wait before: no command that was carried out, no forced switch-off, and not its own handle. So it
is tried once at most. Until then it stays the pulse of its driver, and afterwards the rig is the same but for
its log when the timer gets to it. The timer does nothing else with a driver than to try such switch-offs. -/
theorem run_attempts_iff (s : Setup) {before : List Event} {n : Nat} {millis : Option UInt32}
    {d : Driver} (hd : (s.rig.run before).drivers.get? n = some d)
    (accepted : (s.rig.run before).accepts n (.pulse n millis true) = true) {es : List Event}
    {d' : Driver} (hd' : (s.rig.run (before ++ .pulse n millis true :: es)).drivers.get? n = some d') :
    let q := (s.rig.run before).pulseOf d millis
    let begun := ((s.rig.run before).step (.pulse n millis true)).1
    let r := begun.run es
    (d'.pulse = some q ↔ begun.never (ends · n q) es = true) ∧
      (∀ e, r.Attempts n q.serial e ↔ begun.never (ends · n q) es = true ∧ r.rings n q e = true) ∧
      (∀ {earlier e later}, es = earlier ++ e :: later → (begun.run earlier).Attempts n q.serial e →
        ∀ e', ¬r.Attempts n q.serial e') ∧
      (begun.never (ends · n q) es = false →
        ∃ p, r.plant.Alike p ∧ r.step (.ring n q.number) = ({ r with plant := p }, .done)) ∧
      ∀ e, e.isTimer = true → (∀ serial, ¬r.Attempts n serial e) → r.Leaves n e := by
  intro q begun r
  have hw₀ : (s.rig.run before).WellFormed := run_wellFormed (setup_wellFormed s) before
  have hw : begun.WellFormed := hw₀.step _
  obtain ⟨hb, d₁, hd₁, hp₁, -⟩ := pulse_begun hd accepted
  have ho : d₁.Outlives q := pulse_outlives hw₀ hd accepted hd₁
  have hrun : s.rig.run (before ++ .pulse n millis true :: es) = r := run_append ..
  rw [hrun] at hd'
  have hwaits : d'.pulse = some q ↔ begun.never (ends · n q) es = true := by
    rw [run_pending hw hb rfl hd₁ hd']
    exact and_iff_right hp₁
  have htried : ∀ e, r.Attempts n q.serial e ↔
      begun.never (ends · n q) es = true ∧ r.rings n q e = true := fun e =>
    run_attempts hw hb rfl hd₁ hp₁ ho hd'
  refine ⟨hwaits, htried, ?_, fun hended => ?_, fun e => step_leaves (run_wellFormed hw es) hd'⟩
  · rintro earlier e later rfl hfirst e' hsecond
    obtain ⟨-, d₂, -, hd₂, -⟩ := id hfirst
    -- The first attempt is itself an end of the wait.
    have hrings : (begun.run earlier).rings n q e = true :=
      ((run_attempts hw hb rfl hd₁ hp₁ ho hd₂).1 hfirst).2
    have hnever := ((never_append _ begun earlier (e :: later)).1 ((htried e').1 hsecond).1).2
    simp [never, ends, hrings] at hnever
  · have hidle : ∀ {d₂ q'}, r.drivers.get? n = some d₂ → d₂.pulse = some q' → q'.number = q.number →
        q'.cancelled = false → ¬q'.due ≤ r.timer := by
      intro d₂ q' hd₂ hp hnum hk _
      cases hd'.symm.trans hd₂
      obtain rfl := (run_outlives hw hb hd₁ hd' ho).eq_of_number hp hnum hk
      exact Bool.false_ne_true (hended.symm.trans (hwaits.1 hp))
    obtain ⟨p, ha, he⟩ := ring_stale r n q.number hidle
    exact ⟨p, ha, congrArg (·, Reply.done) he⟩

/-- An output that stays on for thirty milliseconds at least, and is on for a first pulse. -/
def flashing : List Event :=
  [.create { Output.Config.plain 1 "lamp" .momentary 17 with minOn := 30 }, .pulse 0 (some 200) true]

/-- A second pulse has begun. The handle of the first is used, a command is refused, and another fails. -/
def disturbed : List Event :=
  [.cancelPulse 1, .command 0 (.set false), .setFailing 17 true, .command 0 (.set true),
    .setFailing 17 false]

/-- The switch-off of the second pulse is tried all the same. -/
theorem disturbed_attempts :
    (Setup.plain.rig.run (flashing ++ .pulse 0 (some 60) true :: disturbed)).Attempts 0
      2 (.advance 60) := by
  obtain ⟨d, hd⟩ : ∃ d, (Setup.plain.rig.run flashing).drivers.get? 0 = some d :=
    Option.isSome_iff_exists.1 (by decide +kernel)
  obtain ⟨d', hd'⟩ : ∃ d', (Setup.plain.rig.run
      (flashing ++ .pulse 0 (some 60) true :: disturbed)).drivers.get? 0 = some d' :=
    Option.isSome_iff_exists.1 (by decide +kernel)
  have hq : (Setup.plain.rig.run flashing).pulseOf d (some 60) = ⟨2, 2, 60, false⟩ := by
    have h : ((Setup.plain.rig.run flashing).drivers.get? 0).map
        ((Setup.plain.rig.run flashing).pulseOf · (some 60)) = some ⟨2, 2, 60, false⟩ := by
      decide +kernel
    simpa [hd] using h
  have h := (run_attempts_iff Setup.plain hd (by decide +kernel) hd').2.1 (.advance 60)
  rw [hq] at h
  exact h.2 ⟨by decide +kernel, by decide +kernel⟩

end Rig

end Switchboard
