import Switchboard.Proofs.Marks

/-!
# Latched stops

After an emergency stop, or when its greatest time on was enforced, a driver is latched: until the lockout
is cleared by hand it reports the reason, it is never on, and it writes no on level (`run_heldOff`). Who
asks it to switch on is refused with the reason, and nothing but the log shows that. If the stop itself was
written, the output stays off and its group free.

An output that is latched may still be told to go off. One that knows duties then reports the duty that it
was told, which is not zero but too small to count as on (`dimmed_duty`).
-/

namespace Switchboard

open Output (Driver Outcome Lockout Deed)

namespace Output.Driver

/-- The driver is latched for a reason, and no pulse waits. -/
structure Latched (reason : Lockout) (d : Driver) : Prop where
  latched : d.status.latched? = some reason
  state : d.status.state = .off ∨ d.status.state = .error
  pulse : d.pulse = none

/-- The output is off, and its duty is zero or one that it was told and that does not count as on. -/
structure Down (told : Single → Prop) (d : Driver) (p : Plant) : Prop where
  level : d.isAt p false
  duty : d.status.duty = Duty.zero ∨ ∃ x, told x ∧ d.config.kind = .pwm ∧
    d.status.duty = x.clamp d.config.minDuty d.config.maxDuty ∧ Duty.threshold.lt d.status.duty = false

/-- A command that asks the driver to switch on. -/
def meansOn (d : Driver) : Command → Bool
  | .set on => on
  | .toggle => !d.status.isOn
  | .duty x =>
    x.isFinite &&
      if d.config.kind = .pwm then Duty.threshold.lt (x.clamp d.config.minDuty d.config.maxDuty)
      else Duty.half.lt x
  | .pulseNow => true
  | _ => false

variable {may : Command → Prop} {told : Single → Prop} {reason : Lockout} {d d' : Driver} {p p' : Plant}

theorem Latched.isOn_eq (h : d.Latched reason) : d.status.isOn = false := by
  rcases h.state with hs | hs <;> simp [Status.isOn, hs]

theorem Latched.refusal?_eq (h : d.Latched reason) (now : Nat) : d.refusal? now true = some reason := by
  simp [refusal?, h.latched]

/-! ## What a latched driver does -/

/-- A command to go off may be carried out, and leaves the latch. -/
theorem Latched.apply (h : d.Latched reason) (on : Bool) (duty : Single) :
    (d.apply p on duty).driver.Latched reason := by
  have hc := d.apply_cases p on duty
  generalize d.apply p on duty = o at hc ⊢
  cases hc with
  | refused gate alike =>
    refine ⟨?_, ?_, h.pulse⟩
    · rw [Status.refuse_of_latched h.latched]
      exact h.latched
    · rw [Status.refuse_of_latched h.latched]
      exact h.state
  | failed gate pass write alike => exact ⟨h.latched, .inr rfl, h.pulse⟩
  | done gate pass write clock_eq alike =>
    cases on with
    | true => cases gate.symm.trans (h.refusal?_eq _)
    | false =>
      refine ⟨?_, .inl rfl, settle_pulse.trans h.pulse⟩
      rw [settle_latched?, Status.relent_of_latched h.latched]
      exact h.latched

theorem stopped_latched? {r : Lockout} (hr : r.isLatched = true) :
    (d.stopped (some r)).status.latched? = some r :=
  Status.latched?_eq_some_iff.2 ⟨rfl, rfl, hr⟩

/-- A forced switch-off leaves a driver latched for the reason that it is locked for. -/
theorem forceOff_latched (h : (d.stopped (some reason)).status.latched? = some reason) :
    (d.forceOff p (some reason)).driver.Latched reason := by
  have hc := d.forceOff_cases p (some reason)
  generalize d.forceOff p (some reason) = o at hc ⊢
  cases hc with
  | failed write alike => exact ⟨h, .inr rfl, rfl⟩
  | done write clock_eq alike => exact ⟨settle_latched?.trans h, .inl rfl, settle_pulse⟩

theorem Latched.shutdown (h : d.Latched reason) : (d.forceOff p none).driver.Latched reason := by
  have hc := d.forceOff_cases p none
  generalize d.forceOff p none = o at hc ⊢
  cases hc with
  | failed write alike => exact ⟨h.latched, .inr rfl, rfl⟩
  | done write clock_eq alike => exact ⟨settle_latched?.trans h.latched, .inl rfl, settle_pulse⟩

theorem Latched.overdue?_eq (h : d.Latched reason) (now : Nat) : d.overdue? now = none := by
  simp [overdue?, h.isOn_eq]

/-- No deed unlatches a driver but clearing its lockout; another stop may change the reason. -/
theorem Latched.deed (hreset : ¬may .resetLockout)
    (hstop : reason = .autoShutoff → ¬may .emergencyStop) (hd : Deed may d p d' p')
    (h : d.Latched reason) : d'.Latched reason := by
  cases hd with
  | note alike => exact h
  | apply asked => exact h.apply _ _
  | @force r compelled =>
    rcases compelled with rfl | ⟨rfl, ho⟩ | ⟨rfl, hs⟩
    · exact h.shutdown
    · exact absurd (h.overdue?_eq _) ho
    · have hr : reason = .emergencyStop := by
        have hl := (Status.latched?_eq_some_iff.1 h.latched).2.2
        cases reason with
        | emergencyStop => rfl
        | autoShutoff => exact absurd hs (hstop rfl)
        | minOffTime | minOnTime | interlockActive => cases hl
      subst hr
      exact forceOff_latched (stopped_latched? rfl)
  | unlock told => exact absurd told hreset
  | restore told => exact ⟨h.latched, h.state, h.pulse⟩
  | dropPulse => exact ⟨h.latched, h.state, rfl⟩
  | cancelPulse serial => exact ⟨h.latched, h.state, by simp [cancelPulse, h.pulse]⟩
  | beginPulse q number isOn => cases h.isOn_eq.symm.trans isOn

/-! ## What becomes of its output -/

theorem Down.of_board (h : d.Down told p) (hb : p'.board = p.board) (hc : d'.config = d.config)
    (hd : d'.status.duty = d.status.duty) : d'.Down told p' := by
  refine ⟨?_, ?_⟩
  · unfold isAt
    rw [hb, hc]
    exact h.level
  · rw [hd, hc]
    exact h.duty

theorem Down.spared (h : d.Down told p) (hs : p.Spares d.serial d.config.pin p') : d.Down told p' := by
  refine ⟨?_, h.duty⟩
  unfold isAt
  rw [hs.board.bench.level_eq]
  exact h.level

theorem Down.apply (h : d.Down told p) (hl : d.Latched reason) {on : Bool} {duty : Single}
    (ha : d.config.Asked may on duty) (ht : ∀ x, may (.duty x) → told x) :
    (d.apply p on duty).driver.Down told (d.apply p on duty).plant := by
  have hc := d.apply_cases p on duty
  generalize d.apply p on duty = o at hc ⊢
  cases hc with
  | refused gate alike => exact h.of_board alike.board_eq rfl Status.refuse_duty
  | failed gate pass write alike => exact h.of_board alike.board_eq rfl rfl
  | done gate pass write clock_eq alike =>
    cases on with
    | true => cases gate.symm.trans (hl.refusal?_eq _)
    | false =>
      refine ⟨?_, ?_⟩
      · unfold isAt
        rw [settle_config, alike.board_eq]
        exact (Gpio.Board.write_level write).1
      · rw [settle_duty, settle_config]
        rcases ha with rfl | ⟨x, hx, -, hk, rfl, hon⟩
        · exact .inl rfl
        · exact .inr ⟨x, ht x hx, hk, rfl, hon.symm⟩

/-- A forced switch-off that is written leaves the output off without a duty. -/
theorem forceOff_down {r : Option Lockout} (h : (d.forceOff p r).result = .ok ()) :
    (d.forceOff p r).driver.Down told (d.forceOff p r).plant := by
  have hc := d.forceOff_cases p r
  revert h
  generalize d.forceOff p r = o at hc ⊢
  intro h
  cases hc with
  | failed write alike => cases h
  | done write clock_eq alike =>
    refine ⟨?_, .inl settle_duty⟩
    unfold isAt
    rw [settle_config, stopped_config, alike.board_eq]
    exact (Gpio.Board.write_level write).1

theorem Down.forceOff (h : d.Down told p) (r : Option Lockout) :
    (d.forceOff p r).driver.Down told (d.forceOff p r).plant := by
  cases hr : (d.forceOff p r).result with
  | ok u => exact forceOff_down hr
  | error e =>
    have hc := d.forceOff_cases p r
    revert hr
    generalize d.forceOff p r = o at hc ⊢
    intro hr
    cases hc with
    | failed write alike =>
      refine h.of_board alike.board_eq (stopped_config d r) ?_
      cases r <;> rfl
    | done write clock_eq alike => cases hr

/-- No deed of a latched driver takes its output from off. -/
theorem Down.deed (ht : ∀ x, may (.duty x) → told x) (hl : d.Latched reason) (hd : Deed may d p d' p')
    (h : d.Down told p) : d'.Down told p' := by
  cases hd with
  | note alike => exact h.of_board alike.board_eq rfl rfl
  | apply asked => exact h.apply hl asked ht
  | force compelled => exact h.forceOff _
  | unlock told => exact h.of_board rfl rfl rfl
  | restore told => exact h.of_board rfl rfl rfl
  | dropPulse => exact h.of_board rfl rfl rfl
  | cancelPulse serial => exact h.of_board rfl rfl rfl
  | beginPulse q number isOn => exact h.of_board rfl rfl rfl

end Output.Driver

namespace Output.Driver

variable {reason : Lockout} {d : Driver}

/-! ## What a latched driver answers -/

/-- A driver that would refuse to switch on to any duty refuses every command that asks for it. -/
theorem obey_of_refused {p : Plant} {c : Command} (h : ∀ duty, d.apply p true duty = d.refuse p reason)
    (hc : d.meansOn c = true) : Rig.obey d p c = d.refuse p reason := by
  have hcommand (duty : Single) : d.command p true duty = d.refuse p reason := by
    unfold command
    rw [h duty]
    rfl
  cases c with
  | set on =>
    obtain rfl : on = true := hc
    exact hcommand _
  | toggle =>
    have hoff : (!d.status.isOn) = true := hc
    simp only [Rig.obey, toggle, hoff]
    exact hcommand _
  | duty x =>
    simp only [meansOn, Bool.and_eq_true] at hc
    obtain ⟨hf, hon⟩ := hc
    obtain ⟨duty, he⟩ := d.setDuty_eq_command p hf
    rw [hon] at he
    simp only [Rig.obey, he]
    exact hcommand duty
  | pulseNow => exact (pulseNow_of_error (congrArg Outcome.result (hcommand _))).trans (hcommand _)
  | process | emergencyStop | shutdown | resetLockout | restore total cycles => cases hc

/-- It begins no pulse either. -/
theorem startPulse_of_refused {p : Plant} (h : ∀ duty, d.apply p true duty = d.refuse p reason)
    (serial timer : Nat) (millis : Option UInt32) :
    d.startPulse p serial timer millis = d.refuse p reason := by
  have hset : d.set p true = d.refuse p reason := obey_of_refused (c := .set true) h rfl
  exact (startPulse_of_error (congrArg Outcome.result hset)).trans hset

/-- A latched driver that is told to switch on refuses and stays as it is. -/
theorem Latched.apply_on (h : d.Latched reason) (p : Plant) (duty : Single) :
    d.apply p true duty = d.refuse p reason := by
  unfold Driver.apply
  rw [h.refusal?_eq]

theorem Latched.refuse_eq (h : d.Latched reason) (p : Plant) :
    d.refuse p reason =
      ⟨.error (.refused reason), d, d.note p .info ("refused, " ++ reason.text), none⟩ := by
  simp only [refuse, Status.refuse_of_latched h.latched]

theorem Latched.obey_on (h : d.Latched reason) (p : Plant) {c : Command} (hc : d.meansOn c = true) :
    Rig.obey d p c =
      ⟨.error (.refused reason), d, d.note p .info ("refused, " ++ reason.text), none⟩ :=
  (obey_of_refused (h.apply_on p) hc).trans (h.refuse_eq p)

theorem Latched.startPulse (h : d.Latched reason) (p : Plant) (serial timer : Nat)
    (millis : Option UInt32) :
    d.startPulse p serial timer millis =
      ⟨.error (.refused reason), d, d.note p .info ("refused, " ++ reason.text), none⟩ :=
  (startPulse_of_refused (h.apply_on p) serial timer millis).trans (h.refuse_eq p)

theorem Latched.finishPulse (h : d.Latched reason) (p : Plant) (number : Nat) :
    d.finishPulse p number =
      ⟨.ok (), d, d.note p .debug ("pulse " ++ toString number ++ " superseded"), none⟩ := by
  unfold Driver.finishPulse
  simp only [h.pulse, Option.any_none, Bool.false_eq_true, if_false]

end Output.Driver

namespace Rig

/-- In a state of the rig a driver is kept off for a reason, and what it does meanwhile. -/
structure HeldOff (r : Rig) (n : Nat) (reason : Lockout) (d : Driver) : Prop where
  live : r.drivers.get? n = some d
  /-- The lockout is on, for the reason. -/
  locked : d.status.lockout = true ∧ d.status.reason = some reason
  /-- The status does not say on. -/
  state : d.status.state = .off ∨ d.status.state = .error
  /-- Whatever happens, no on level is written to the pin, or would be if writes did not fail. -/
  silent : ∀ {e}, r.keeps n e = true → e ≠ .close n →
    (r.issues e d.config.pin).contains (d.config.level true) = false
  /-- Who asks it to switch on is refused with the reason, and only the log shows it. -/
  refuses : ∀ {c}, d.meansOn c = true → r.step (.command n c) =
    ({ r with plant := d.note r.plant .info ("refused, " ++ reason.text) },
      .outputFailed (.refused reason))
  refuses_pulse : ∀ {millis}, r.step (.pulse n millis true) =
    ({ r with
        plant := d.note r.plant .info ("refused, " ++ reason.text)
        next := r.next + 1 }, .outputFailed (.refused reason))
  /-- No pulse waits, and the end of an earlier one does nothing. -/
  pulse : d.pulse = none ∧ ∀ number, r.step (.ring n number) =
    ({ r with plant := d.note r.plant .debug ("pulse " ++ toString number ++ " superseded") }, .done)

variable {r : Rig} {e : Event} {n : Nat} {d : Driver} {reason : Lockout}

theorem keep_self (hd : r.drivers.get? n = some d) (result : Except Output.Error Unit) (p : Plant)
    (wreck : Option Output.Wreck) : r.keep n ⟨result, d, p, wreck⟩ = { r with plant := p } := by
  unfold keep
  rw [Table.insert_eq_self hd]

/-- A latched driver writes no on level, even if the fault of its pin were cleared. -/
theorem issues_of_latched (hw : r.WellFormed) (hd : r.drivers.get? n = some d)
    (hl : d.Latched reason) (hk : r.keeps n e = true) (hc : e ≠ .close n) :
    (r.issues e d.config.pin).contains (d.config.level true) = false := by
  have hw' := hw.step (.setFailing d.config.pin false)
  have hd' : (r.step (.setFailing d.config.pin false)).1.drivers.get? n = some d := hd
  have hk' : (r.step (.setFailing d.config.pin false)).1.keeps n e = true := hk
  rcases step_turned hw' hd' hk' with ⟨rfl, -⟩ | ⟨-, -, -, -, live⟩
  · exact absurd rfl hc
  · obtain ⟨-, hm⟩ := step_marks hw' hd' hk' live
    rw [Bool.eq_false_iff]
    intro hon
    cases (hl.refusal?_eq _).symm.trans (hm.gate hon)

/-- A latched driver is kept off. -/
theorem HeldOff.of_latched (hw : r.WellFormed) (hd : r.drivers.get? n = some d)
    (hl : d.Latched reason) : r.HeldOff n reason d where
  live := hd
  locked := by
    obtain ⟨hlock, hr, -⟩ := Output.Status.latched?_eq_some_iff.1 hl.latched
    exact ⟨hlock, hr⟩
  state := hl.state
  silent hk hc := issues_of_latched hw hd hl hk hc
  refuses {c} hc := by
    simp only [step, tell, hd, hl.obey_on r.plant hc, keep_self hd, outputReply]
  refuses_pulse {millis} := by
    simp only [step, Rig.pulse, fresh, hd, hl.startPulse, Bool.not_true, Bool.false_eq_true, if_false]
    have hk := keep_self (r := { r with next := r.next + 1 }) hd
    simp only [hk]
  pulse := by
    refine ⟨hl.pulse, fun number => ?_⟩
    simp only [step, ring, hd, hl.pulse, Option.filter_none, hl.finishPulse, keep_self hd]

/-- An event that stops a driver and latches a reason: it is told to stop at once, or it is asked to
enforce a greatest time on that is over. -/
inductive Stops (n : Nat) (d : Driver) (now : Nat) : Event → Lockout → Prop
  | emergency : Stops n d now (.command n .emergencyStop) .emergencyStop
  | overdue (late : d.overdue? now ≠ none) : Stops n d now (.command n .process) .autoShutoff

/-- A stop leaves the driver latched, and its output off if the write went through. -/
theorem stop_latched (told : Single → Prop) (hd : r.drivers.get? n = some d)
    (hs : Stops n d r.plant.clock.now e reason) :
    ∃ d', (r.step e).1.drivers.get? n = some d' ∧ d'.Latched reason ∧ d'.config = d.config ∧
      ((r.step e).2 = .done → d'.Down told (r.step e).1.plant) := by
  obtain ⟨c, q, rfl, hobey, hl⟩ : ∃ c q, e = .command n c ∧
      obey d r.plant c = d.forceOff q (some reason) ∧ reason.isLatched = true := by
    cases hs with
    | emergency => exact ⟨_, _, rfl, rfl, rfl⟩
    | overdue late =>
      obtain ⟨q, -, hq⟩ := Driver.process_of_overdue late
      exact ⟨_, q, rfl, hq, rfl⟩
  have hstep : r.step (.command n c) = (r.keep n (d.forceOff q (some reason)),
      outputReply (d.forceOff q (some reason)).result) := by
    simp only [step, tell, hd, hobey]
  rw [hstep]
  refine ⟨_, Table.get?_insert_self, Driver.forceOff_latched (Driver.stopped_latched? hl), ?_, ?_⟩
  · exact (Frame.forceOff d q _).config_eq
  · intro hdone
    refine Driver.forceOff_down ?_
    cases hr : (d.forceOff q (some reason)).result with
    | ok u => rfl
    | error err => simp [hr, outputReply] at hdone

/-- After a driver that has its pin for itself was stopped it is kept off, as long as its lockout is not
cleared by hand; an emergency stop may follow a shut-off and take the place of its reason. If the write of
the stop went through, the output stays off and the driver has no claim. -/
theorem run_heldOff (s : Setup) (before es : List Event)
    (ho : s.rig.owns n (before ++ e :: es) = true)
    (hd : (s.rig.run before).drivers.get? n = some d)
    (hs : Stops n d (s.rig.run before).plant.clock.now e reason) (hclose : Event.close n ∉ es)
    (hreset : Event.command n .resetLockout ∉ es)
    (hagain : reason = .autoShutoff → Event.command n .emergencyStop ∉ es) :
    ∃ d', (s.rig.run (before ++ e :: es)).HeldOff n reason d' ∧ d'.config = d.config ∧
      (((s.rig.run before).step e).2 = .done →
        d'.Down (fun x => Event.command n (.duty x) ∈ es) (s.rig.run (before ++ e :: es)).plant ∧
          ∀ {group c}, (s.rig.run (before ++ e :: es)).plant.groups.claims.get? group = some c →
            ¬c.belongsTo n) := by
  have hw := setup_wellFormed s
  obtain ⟨d₁, hd₁, hl₁, hc₁, hdown₁⟩ :=
    stop_latched (fun x => Event.command n (.duty x) ∈ es) hd hs
  have hrun : s.rig.run (before ++ e :: es) = ((s.rig.run before).step e).1.run es := run_append ..
  have ho' : ((s.rig.run before).step e).1.owns n es = true :=
    (Bool.and_eq_true_iff.1 ((owns_append ..).1 ho).2).2
  -- The latch, and the level under it, are kept by every deed that the events allow.
  let J : Driver → Plant → Prop := fun d' p =>
    d'.Latched reason ∧ d'.config = d.config ∧
      (((s.rig.run before).step e).2 = .done → d'.Down (fun x => Event.command n (.duty x) ∈ es) p)
  have hspares : ∀ {d' p p'}, J d' p → p.Spares d'.serial d'.config.pin p' → J d' p' :=
    fun ⟨hl, hc, hdown⟩ hsp => ⟨hl, hc, fun h => (hdown h).spared hsp⟩
  have hdeed : ∀ {e' d' d'' p p'}, e' ∈ es →
      Deed (fun c => e' = .command n c) d' p d'' p' → J d' p → J d'' p' := by
    rintro e' d' d'' p p' he hde ⟨hl, hc, hdown⟩
    have hreset' : ¬e' = Event.command n .resetLockout := fun h => hreset (h ▸ he)
    have hagain' : reason = .autoShutoff → ¬e' = Event.command n .emergencyStop :=
      fun hr h => hagain hr (h ▸ he)
    have htold : ∀ x, e' = Event.command n (.duty x) → Event.command n (.duty x) ∈ es :=
      fun x hx => hx ▸ he
    refine ⟨hl.deed hreset' hagain' hde, ?_, fun h => (hdown h).deed htold hl hde⟩
    rw [(Frame.of_deed hde).config_eq, hc]
  obtain ⟨d', hd', hl, hc, hdown⟩ := run_keeps hspares hdeed ((run_wellFormed hw before).step e) hd₁
    ⟨hl₁, hc₁, hdown₁⟩ ho' hclose
  rw [← hrun] at hd' hdown
  refine ⟨d', .of_latched (run_wellFormed hw _) hd' hl, hc, fun hdone => ⟨hdown hdone, ?_⟩⟩
  intro group c hg hb
  rw [← ((run_wellFormed hw _).driver hd').1] at hb
  obtain ⟨-, -, hon⟩ := (run_sound ho hd').claim hg hb
  exact Driver.not_isAt_off hon (hdown hdone).level

/-- An output that knows duties, and is on. -/
def lit : List Event :=
  [.create (.plain 1 "pump" .pwm 17), .command 0 (.set true)]

/-- A duty of half a hundredth. -/
def dim : Single := ⟨false, 0x3BA3D70A⟩

/-- The output is stopped, and told to go to a duty that does not count as on. -/
theorem dimmed_heldOff :
    ∃ d', (Setup.plain.rig.run (lit ++ .command 0 .emergencyStop :: [.command 0 (.duty dim)])).HeldOff 0
        .emergencyStop d' ∧
      d'.Down (fun x => Event.command 0 (.duty x) ∈ [Event.command 0 (.duty dim)])
        (Setup.plain.rig.run (lit ++ .command 0 .emergencyStop :: [.command 0 (.duty dim)])).plant := by
  obtain ⟨d, hd⟩ : ∃ d, (Setup.plain.rig.run lit).drivers.get? 0 = some d :=
    Option.isSome_iff_exists.1 (by decide +kernel)
  obtain ⟨d', hheld, -, hdown⟩ := run_heldOff Setup.plain lit [.command 0 (.duty dim)]
    (by decide +kernel) hd .emergency (by simp) (by simp) nofun
  exact ⟨d', hheld, (hdown rfl).1⟩

/-- Its duty is not zero then, though it was stopped and its pin is off. -/
theorem dimmed_duty :
    Setup.plain.rig.owns 0 (lit ++ .command 0 .emergencyStop :: [.command 0 (.duty dim)]) = true ∧
      ((Setup.plain.rig.run lit).step (.command 0 .emergencyStop)).2 = .done ∧
      ((Setup.plain.rig.run (lit ++ .command 0 .emergencyStop :: [.command 0 (.duty dim)])).drivers.get?
        0).map (·.status.duty) = some dim ∧
      dim ≠ Duty.zero := by
  refine ⟨?_, rfl, ?_, ?_⟩
  · decide +kernel
  · decide +kernel
  · decide

end Rig

end Switchboard
