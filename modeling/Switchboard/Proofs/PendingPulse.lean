import Switchboard.Proofs.Parts

/-!
# Pulses that wait

A pulse that has begun waits to switch its output off, until something ends that (`Rig.ends`): a command
that is carried out, a forced switch-off, its own handle, or the timer. Nothing else does, a command that
is refused or fails least of all (`step_pending`, `run_pending`). A pulse that waits when the timer gets to it
is dropped, and the output switches off past its gates (`step_rung`).
-/

namespace Switchboard

open Output (Driver Outcome Pulse)

namespace Output.Driver

/-- A command to switch is carried out, if only in part: a driver that is told to pulse at once may be
refused when it is to go off again. -/
def accepts (d : Driver) (p : Plant) : Command → Bool
  | .set on => (d.set p on).result.isOk
  | .toggle => (d.toggle p).result.isOk
  | .duty x => (d.setDuty p x).result.isOk
  | .pulseNow => (d.set p true).result.isOk
  | _ => false

/-- A command makes the driver switch off by force. -/
def stops (d : Driver) (p : Plant) : Command → Bool
  | .emergencyStop | .shutdown => true
  | .process => (d.overdue? p.clock.now).isSome
  | _ => false

variable {d : Driver} {p : Plant} {on : Bool} {duty : Single}

@[simp] theorem apply_pulse (d : Driver) (p : Plant) (on : Bool) (duty : Single) :
    (d.apply p on duty).driver.pulse = d.pulse := by
  have hc := d.apply_cases p on duty
  generalize d.apply p on duty = o at hc ⊢
  cases hc with
  | refused gate alike => rfl
  | failed gate pass write alike => rfl
  | done gate pass write clock_eq alike => exact settle_pulse

@[simp] theorem apply_pulses (d : Driver) (p : Plant) (on : Bool) (duty : Single) :
    (d.apply p on duty).driver.pulses = d.pulses := by
  have hc := d.apply_cases p on duty
  generalize d.apply p on duty = o at hc ⊢
  cases hc with
  | refused gate alike => rfl
  | failed gate pass write alike => rfl
  | done gate pass write clock_eq alike => exact settle_pulses

@[simp] theorem command_pulses (d : Driver) (p : Plant) (on : Bool) (duty : Single) :
    (d.command p on duty).driver.pulses = d.pulses := by
  rw [← d.apply_pulses p on duty]
  unfold command
  dsimp only
  split <;> rfl

/-- A command replaces a pulse if it is carried out, and leaves it otherwise. -/
theorem command_pulse (d : Driver) (p : Plant) (on : Bool) (duty : Single) :
    (d.command p on duty).driver.pulse =
      if (d.command p on duty).result.isOk then none else d.pulse := by
  have hp := d.apply_pulse p on duty
  unfold command
  generalize d.apply p on duty = o at hp ⊢
  obtain ⟨result, d', p'⟩ := o
  cases result with
  | ok u => rfl
  | error e => exact hp

theorem setDuty_pulse (d : Driver) (p : Plant) (x : Single) :
    (d.setDuty p x).driver.pulse = if (d.setDuty p x).result.isOk then none else d.pulse := by
  by_cases hx : x.isFinite = true
  · obtain ⟨duty, he⟩ := d.setDuty_eq_command p hx
    rw [he]
    exact command_pulse ..
  · rw [setDuty_of_not_isFinite (Bool.eq_false_iff.2 hx)]
    rfl

@[simp] theorem forceOff_pulse (d : Driver) (p : Plant) (reason : Option Lockout) :
    (d.forceOff p reason).driver.pulse = none := by
  have hc := d.forceOff_cases p reason
  generalize d.forceOff p reason = o at hc ⊢
  cases hc with
  | failed write alike => cases reason <;> rfl
  | done write clock_eq alike =>
    rw [settle_pulse]
    cases reason <;> rfl

theorem process_pulse (d : Driver) (p : Plant) :
    (d.process p).driver.pulse = if (d.overdue? p.clock.now).isSome then none else d.pulse := by
  unfold process
  cases h : d.overdue? p.clock.now with
  | none => rfl
  | some millis => exact forceOff_pulse ..

theorem pulseNow_pulse (d : Driver) (p : Plant) :
    (d.pulseNow p).driver.pulse = if (d.set p true).result.isOk then none else d.pulse := by
  have hset : (d.set p true).driver.pulse = if (d.set p true).result.isOk then none else d.pulse :=
    d.command_pulse p true _
  cases hr : (d.set p true).result with
  | error e =>
    rw [pulseNow_of_error hr, hset, hr]
  | ok u =>
    have hnone : (d.set p true).driver.pulse = none := by
      rw [hset, hr]
      rfl
    have hoff : ((d.set p true).driver.set (d.set p true).plant false).driver.pulse =
        if ((d.set p true).driver.set (d.set p true).plant false).result.isOk then none
        else (d.set p true).driver.pulse :=
      command_pulse ..
    rw [hnone, ite_self] at hoff
    rw [pulseNow_of_ok hr]
    exact hoff

/-- What a driver is told ends its pulse if it is carried out or forces the output off. -/
theorem obey_pulse (d : Driver) (p : Plant) (c : Command) :
    (Rig.obey d p c).driver.pulse = if d.accepts p c || d.stops p c then none else d.pulse := by
  cases c with
  | set on =>
    simp only [accepts, stops, Bool.or_false]
    exact d.command_pulse p on _
  | toggle =>
    simp only [accepts, stops, Bool.or_false]
    exact d.command_pulse p _ _
  | duty x =>
    simp only [accepts, stops, Bool.or_false]
    exact d.setDuty_pulse p x
  | process =>
    simp only [accepts, stops, Bool.false_or]
    exact d.process_pulse p
  | emergencyStop | shutdown => exact forceOff_pulse ..
  | resetLockout | restore total cycles => rfl
  | pulseNow =>
    simp only [accepts, stops, Bool.or_false]
    exact d.pulseNow_pulse p

theorem startPulse_pulse (d : Driver) (p : Plant) (serial timer : Nat) (millis : Option UInt32) :
    (d.startPulse p serial timer millis).driver.pulse =
      if (d.set p true).result.isOk then
        some ⟨serial, d.pulses + 1, timer + d.pulseLength millis, false⟩
      else d.pulse := by
  have h := d.command_pulse p true (d.config.fullDuty true)
  have hset : d.set p true = d.command p true (d.config.fullDuty true) := rfl
  rw [← d.command_pulses p true (d.config.fullDuty true), ← hset]
  unfold startPulse
  dsimp only
  cases hr : (d.set p true).result with
  | error e =>
    rw [← hset, hr] at h
    exact h
  | ok u => rfl

theorem startPulse_result (d : Driver) (p : Plant) (serial timer : Nat) (millis : Option UInt32) :
    (d.startPulse p serial timer millis).result = (d.set p true).result := by
  unfold startPulse
  dsimp only
  split <;> rfl

theorem startPulse_isOn {serial timer : Nat} {millis : Option UInt32}
    (h : (d.startPulse p serial timer millis).result = .ok ()) :
    (d.startPulse p serial timer millis).driver.status.isOn = true := by
  have hset : (d.set p true).result = .ok () := (d.startPulse_result p ..).symm.trans h
  unfold startPulse
  simp only [hset]
  exact command_isOn hset

theorem finishPulse_of_pending {q : Pulse} (h : d.pulse = some q) :
    (d.finishPulse p q.number).driver = (d.dropPulse.apply p false Duty.zero).driver ∧
      (d.finishPulse p q.number).result = (d.dropPulse.apply p false Duty.zero).result ∧
      (d.dropPulse.apply p false Duty.zero).plant.Alike (d.finishPulse p q.number).plant := by
  unfold finishPulse
  simp only [h, Option.any_some, beq_self_eq_true, if_true]
  cases hr : (d.dropPulse.apply p false Duty.zero).result with
  | ok u => exact ⟨rfl, hr, .refl _⟩
  | error e => exact ⟨rfl, rfl, Plant.note_alike ..⟩

end Output.Driver

namespace Rig

/-! ## What ends the wait of a pulse -/

/-- The pulse that a driver begins when it is told to. -/
def pulseOf (r : Rig) (d : Driver) (millis : Option UInt32) : Pulse :=
  ⟨r.next, d.pulses + 1, r.timer + d.pulseLength millis, false⟩

/-- At an event a command to switch, or to begin a pulse, is carried out by the driver with a serial. -/
def accepts (r : Rig) (n : Nat) : Event → Bool
  | .command m c => m == n && (r.drivers.get? n).any fun d => d.accepts r.plant c
  | .pulse m _ timed => m == n && timed && (r.drivers.get? n).any fun d => (d.set r.plant true).result.isOk
  | _ => false

/-- At an event the driver with a serial switches off by force. -/
def stops (r : Rig) (n : Nat) : Event → Bool
  | .command m c => m == n && (r.drivers.get? n).any fun d => d.stops r.plant c
  | _ => false

/-- At an event a pulse is cancelled by its handle. -/
def cancels (r : Rig) (q : Pulse) : Event → Bool
  | .cancelPulse serial => serial == q.serial && r.started.contains serial
  | _ => false

/-- At an event something ends the wait of a pulse of the driver with a serial. -/
def ends (r : Rig) (n : Nat) (q : Pulse) (e : Event) : Bool :=
  r.accepts n e || r.stops n e || r.cancels q e || r.rings n q e

/-- Something is so at no event of a run. -/
def never (so : Rig → Event → Bool) (r : Rig) : List Event → Bool
  | [] => true
  | e :: es => !so r e && (r.step e).1.never so es

variable {r : Rig} {e : Event} {n : Nat} {d d' : Driver} {q : Pulse}

theorem never_append (so : Rig → Event → Bool) (r : Rig) (es es' : List Event) :
    r.never so (es ++ es') = true ↔ r.never so es = true ∧ (r.run es).never so es' = true := by
  induction es generalizing r with
  | nil => simp [never]
  | cons e es ih => simp [never, ih, and_assoc]

theorem accepts_command (hd : r.drivers.get? n = some d) (c : Command) :
    r.accepts n (.command n c) = d.accepts r.plant c := by
  simp [accepts, hd]

theorem stops_command (hd : r.drivers.get? n = some d) (c : Command) :
    r.stops n (.command n c) = d.stops r.plant c := by
  simp [stops, hd]

theorem accepts_pulse (hd : r.drivers.get? n = some d) (millis : Option UInt32) :
    r.accepts n (.pulse n millis true) = (d.set r.plant true).result.isOk := by
  simp [accepts, hd]

theorem ends_of_not_involves (handle : ∀ s, r.started.get? q.serial = some s → s.driver = n)
    (hp : d.pulse = some q) (hk : q.cancelled = false) (h : r.involves n d e = false) :
    r.ends n q e = false := by
  cases e with
  | command m c =>
    have hm : (m == n) = false := h
    simp [ends, accepts, stops, cancels, rings, hm]
  | pulse m millis timed =>
    have hm : (m == n && timed) = false := h
    simp [ends, accepts, stops, cancels, rings, hm]
  | cancelPulse serial =>
    have hother : (r.started.get? serial).any (fun s => s.driver == n) = false := h
    have hcancel : r.cancels q (.cancelPulse serial) = false := by
      rw [Bool.eq_false_iff]
      intro hc
      obtain ⟨hs, hstarted⟩ := Bool.and_eq_true_iff.1 hc
      obtain rfl : serial = q.serial := by simpa using hs
      obtain ⟨s, hs⟩ := Option.isSome_iff_exists.1 hstarted
      rw [hs, Option.any_some, beq_eq_false_iff_ne] at hother
      exact hother (handle s hs)
    simp [ends, accepts, stops, rings, hcancel]
  | advance millis =>
    have hr : r.rings n q (.advance millis) = false := by simpa [involves, hp, hk] using h
    simp [ends, accepts, stops, cancels, hr]
  | ring m number =>
    have hr : r.rings n q (.ring m number) = false := by simpa [involves, hp, hk] using h
    simp [ends, accepts, stops, cancels, hr]
  | _ => rfl

/-! ## Steps and runs of a pulse that waits -/

/-- A pulse was begun by the driver with a serial. -/
structure Begun (r : Rig) (n : Nat) (q : Pulse) : Prop where
  serial_lt : q.serial < r.next
  handle : ∀ s, r.started.get? q.serial = some s → s.driver = n

theorem finish_handle {m : Nat} {q' : Pulse} {serial : Nat} {s : Started}
    (h : (r.finish m q').started.get? serial = some s) :
    ∃ s', r.started.get? serial = some s' ∧ s.driver = s'.driver := by
  unfold finish at h
  split at h
  · exact ⟨s, h, rfl⟩
  · simp only [Table.get?_modify] at h
    split at h
    · obtain ⟨s', hs', rfl⟩ := Option.map_eq_some_iff.1 h
      exact ⟨s', hs', rfl⟩
    · exact ⟨s, h, rfl⟩

theorem finishAll_handle (l : List (Nat × Pulse)) {serial : Nat} {s : Started}
    (h : (r.finishAll l).started.get? serial = some s) :
    ∃ s', r.started.get? serial = some s' ∧ s.driver = s'.driver := by
  induction l generalizing r with
  | nil => exact ⟨s, h, rfl⟩
  | cons x rest ih =>
    obtain ⟨s', hs', he⟩ := ih h
    obtain ⟨s'', hs'', he'⟩ := finish_handle hs'
    exact ⟨s'', hs'', he.trans he'⟩

/-- No handle changes hands, and the new ones have new serials. -/
theorem step_handle {serial : Nat} {s : Started} (hlt : serial < r.next)
    (h : (r.step e).1.started.get? serial = some s) :
    ∃ s', r.started.get? serial = some s' ∧ s.driver = s'.driver := by
  cases e with
  | create c =>
    simp only [step, create, fresh] at h
    split at h <;> exact ⟨s, h, rfl⟩
  | close m =>
    simp only [step, close] at h
    split at h <;> exact ⟨s, h, rfl⟩
  | command m c =>
    simp only [step, tell] at h
    split at h <;> exact ⟨s, h, rfl⟩
  | pulse m millis timed =>
    simp only [step, Rig.pulse, fresh] at h
    split at h
    · exact ⟨s, h, rfl⟩
    · split at h
      · exact ⟨s, h, rfl⟩
      · split at h
        · exact ⟨s, h, rfl⟩
        · dsimp only at h
          rw [Table.get?_insert_of_ne (Nat.ne_of_gt hlt)] at h
          exact ⟨s, h, rfl⟩
  | cancelPulse serial' =>
    simp only [step, cancelPulse] at h
    split at h <;> exact ⟨s, h, rfl⟩
  | awaitPulse serial' =>
    simp only [step, awaitPulse] at h
    split at h
    · exact ⟨s, h, rfl⟩
    · exact ⟨s, (Table.get?_erase_eq_some_iff.1 h).2, rfl⟩
  | advance millis => exact finishAll_handle (r := r.elapse millis) _ h
  | ring m number =>
    simp only [step, ring] at h
    split at h
    · exact ⟨s, h, rfl⟩
    · split at h
      · exact ⟨s, h, rfl⟩
      · split at h
        · exact finish_handle h
        · exact ⟨s, h, rfl⟩
  | _ =>
    rw [(step_beside rfl).started_eq] at h
    exact ⟨s, h, rfl⟩

theorem Begun.step (h : r.Begun n q) (e : Event) : (r.step e).1.Begun n q where
  serial_lt := Nat.lt_of_lt_of_le h.serial_lt (step_next_le r e)
  handle s hs := by
    obtain ⟨s', hs', he⟩ := step_handle h.serial_lt hs
    exact he.trans (h.handle s' hs')

/-- A pulse waits after an event if it did before and the event does not end that. -/
theorem step_pending (hw : r.WellFormed) (hb : r.Begun n q) (hk : q.cancelled = false)
    (hd : r.drivers.get? n = some d) (hd' : (r.step e).1.drivers.get? n = some d') :
    d'.pulse = some q ↔ d.pulse = some q ∧ r.ends n q e = false := by
  rcases step_part hw hd e with ⟨-, hn⟩ | ⟨o, ho, hlive⟩
  · cases hn.symm.trans hd'
  cases hlive.symm.trans hd'
  cases ho with
  | told c =>
    have hends : r.ends n q (.command n c) = (d.accepts r.plant c || d.stops r.plant c) := by
      simp [ends, accepts_command hd, stops_command hd, cancels, rings]
    rw [hends, Driver.obey_pulse]
    cases d.accepts r.plant c || d.stops r.plant c <;> simp
  | pulse millis =>
    have hends : r.ends n q (.pulse n millis true) = (d.set r.plant true).result.isOk := by
      simp [ends, accepts_pulse hd, stops, cancels, rings]
    rw [hends, Driver.startPulse_pulse]
    cases hr : (d.set r.plant true).result.isOk with
    | false => simp
    | true =>
      -- The pulse that begins has a serial of its own.
      have hne : some (r.pulseOf d millis) ≠ some q := by
        intro he
        have hs : r.next = q.serial := congrArg Pulse.serial (Option.some.inj he)
        have hlt := hb.serial_lt
        omega
      simpa [pulseOf] using hne
  | @cancel serial s handle mine =>
    have hends : r.ends n q (.cancelPulse serial) = (serial == q.serial) := by
      simp [ends, accepts, stops, cancels, rings, Table.contains_of_get? handle]
    rw [hends]
    cases hp : d.pulse with
    | none => simp [Driver.cancelPulse, hp]
    | some q' =>
      by_cases hs : q'.serial = serial
      · subst hs
        have hne : { q' with cancelled := true } ≠ q := by
          rintro rfl
          cases hk
        simp only [Driver.cancelPulse, hp, Option.map_some, if_true, Option.some.injEq, hne,
          false_iff, not_and]
        rintro rfl
        simp
      · simp only [Driver.cancelPulse, hp, Option.map_some, hs, if_false, Option.some.injEq]
        constructor
        · rintro rfl
          exact ⟨rfl, by simpa using Ne.symm hs⟩
        · exact And.left
  | @finish _ q' pending kept rings =>
    rw [(Driver.finishPulse_of_pending pending).1, Driver.apply_pulse]
    constructor
    · intro hp
      cases hp
    · rintro ⟨hp, hends⟩
      cases pending.symm.trans hp
      simp [ends, rings] at hends
  | none apart =>
    refine ⟨fun hp => ⟨hp, ?_⟩, And.left⟩
    exact ends_of_not_involves hb.handle hp hk apart

theorem run_pending {es : List Event} (hw : r.WellFormed) (hb : r.Begun n q)
    (hk : q.cancelled = false) (hd : r.drivers.get? n = some d)
    (hd' : (r.run es).drivers.get? n = some d') :
    d'.pulse = some q ↔ d.pulse = some q ∧ r.never (ends · n q) es = true := by
  induction es generalizing r d with
  | nil =>
    cases hd.symm.trans hd'
    simp [never]
  | cons e es ih =>
    obtain ⟨d₁, hd₁⟩ : ∃ d₁, (r.step e).1.drivers.get? n = some d₁ := live_between hw hd [e] es hd'
    rw [ih (hw.step e) (hb.step e) hd₁ hd', step_pending hw hb hk hd hd₁]
    simp [never, and_assoc]

/-- When the timer gets to a pulse that waits, the driver drops it and switches off past its gates. -/
theorem step_rung (hw : r.WellFormed) (hk : q.cancelled = false) (hd : r.drivers.get? n = some d)
    (hp : d.pulse = some q) (hr : r.rings n q e = true) :
    (r.step e).1.drivers.get? n = some (d.dropPulse.apply (r.found n e) false Duty.zero).driver := by
  rcases step_part hw hd e with ⟨rfl, -⟩ | ⟨o, ho, hlive⟩
  · cases hr
  rw [hlive]
  cases ho with
  | told c => cases hr
  | pulse millis => cases hr
  | cancel handle mine => cases hr
  | finish pending kept rings =>
    cases pending.symm.trans hp
    rw [(Driver.finishPulse_of_pending pending).1]
  | none apart =>
    have hno : r.rings n q e = false := by
      cases e with
      | advance _ | ring _ _ => simpa [involves, hp, hk] using apart
      | _ => rfl
    cases hno.symm.trans hr

/-- A pulse that is carried out has begun: it waits, and the output is on. -/
theorem pulse_begun (hd : r.drivers.get? n = some d) {millis : Option UInt32}
    (accepted : r.accepts n (.pulse n millis true) = true) :
    (r.step (.pulse n millis true)).1.Begun n (r.pulseOf d millis) ∧
      ∃ d', (r.step (.pulse n millis true)).1.drivers.get? n = some d' ∧
        d'.pulse = some (r.pulseOf d millis) ∧ d'.status.isOn = true := by
  rw [accepts_pulse hd] at accepted
  have hp := d.startPulse_pulse r.plant r.next r.timer millis
  rw [if_pos accepted] at hp
  simp only [step, Rig.pulse, fresh, hd, Bool.not_true, Bool.false_eq_true, if_false]
  have hres := d.startPulse_result r.plant r.next r.timer millis
  cases hr : (d.startPulse r.plant r.next r.timer millis).result with
  | error e =>
    rw [← hres, hr] at accepted
    cases accepted
  | ok u =>
    refine ⟨⟨Nat.lt_succ_self _, fun s hs => ?_⟩, _, Table.get?_insert_self, hp,
      Driver.startPulse_isOn hr⟩
    have hself : (r.started.insert r.next ⟨d.name, n, none⟩).get? r.next = some s := hs
    rw [Table.get?_insert_self] at hself
    cases hself
    rfl

end Rig

end Switchboard
