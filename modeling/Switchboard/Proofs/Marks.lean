import Switchboard.Proofs.Energised

/-!
# The marks of time

A driver marks when it was last switched on and when it was last switched off, and its gates measure the
least and the greatest times from these marks. In a turn a driver makes one stroke at its switch, or two if
it is told to pulse at once (`Turn.marks`): the marks move with the levels that are written, as far as the
status knows what was on the line before.

`Rig.throughout` and `Rig.Lasting` speak of what was so for a stretch of a run up to its end.
-/

namespace Switchboard

open Output (Driver Outcome Lockout)

/-! ## Strokes -/

namespace Output.Driver

/-- What an attempt to switch leaves: it is refused or fails and writes nothing, or it writes the level. -/
inductive Stroke (d : Driver) (p : Plant) (on : Bool) (d' : Driver) (p' : Plant) : Prop
  | missed (isOn : d'.status.isOn = true → d.status.isOn = true) (onSince_eq : d'.onSince = d.onSince)
      (offSince_eq : d'.offSince = d.offSince)
      (writes_eq : p'.board.bench.writes d.config.pin = p.board.bench.writes d.config.pin)
  | made (isOn : d'.status.isOn = on) (gate : on = true → d.refusal? p.clock.now true = none)
      (onSince_eq : d'.onSince = if on && !d.status.isOn then some p.clock.now else d.onSince)
      (offSince_eq : d'.offSince = if !on && d.status.isOn then some p.clock.now else d.offSince)
      (writes_eq : p'.board.bench.writes d.config.pin =
        p.board.bench.writes d.config.pin ++ [d.config.level on])

variable {d d' d'' : Driver} {p p' p'' : Plant} {on : Bool}

/-- Where nothing but the pulse, the lockout and the counters changes, nothing was written. -/
theorem Stroke.idle (on : Bool) (ha : p.Alike p') (hs : d'.status.isOn = d.status.isOn)
    (hon : d'.onSince = d.onSince) (hoff : d'.offSince = d.offSince) : Stroke d p on d' p' :=
  .missed (fun h => hs ▸ h) hon hoff (by rw [ha.board_eq])

/-- Entries in the log and the pulse are no part of a stroke. -/
theorem Stroke.then_alike (h : Stroke d p on d' p') (ha : p'.Alike p'') (hs : d''.status = d'.status)
    (hon : d''.onSince = d'.onSince) (hoff : d''.offSince = d'.offSince) : Stroke d p on d'' p'' := by
  cases h with
  | missed isOn onSince_eq offSince_eq writes_eq =>
    refine .missed (fun h => isOn (hs ▸ h)) (hon.trans onSince_eq) (hoff.trans offSince_eq) ?_
    rw [ha.board_eq, writes_eq]
  | made isOn gate onSince_eq offSince_eq writes_eq =>
    refine .made (hs ▸ isOn) gate (hon.trans onSince_eq) (hoff.trans offSince_eq) ?_
    rw [ha.board_eq, writes_eq]

theorem Stroke.after_alike (ha : p.Alike p') (h : Stroke d p' on d' p'') : Stroke d p on d' p'' := by
  cases h with
  | missed isOn onSince_eq offSince_eq writes_eq =>
    exact .missed isOn onSince_eq offSince_eq (by rw [writes_eq, ha.board_eq])
  | made isOn gate onSince_eq offSince_eq writes_eq =>
    rw [ha.clock_eq] at gate onSince_eq offSince_eq
    exact .made isOn gate onSince_eq offSince_eq (by rw [writes_eq, ha.board_eq])

theorem apply_stroke (d : Driver) (p : Plant) (on : Bool) (duty : Single) :
    Stroke d p on (d.apply p on duty).driver (d.apply p on duty).plant := by
  have hc := d.apply_cases p on duty
  generalize d.apply p on duty = o at hc ⊢
  cases hc with
  | refused gate alike => exact .idle on alike Status.refuse_isOn rfl rfl
  | failed gate pass write alike =>
    refine .missed (fun h => by cases h) rfl rfl ?_
    rw [alike.board_eq]
  | @done p' gate pass write clock_eq alike =>
    refine .made settle_isOn (fun h => h ▸ gate) ?_ ?_ ?_
    · rw [settle_onSince, Status.relent_isOn, clock_eq]
    · rw [settle_offSince, Status.relent_isOn, clock_eq]
    · rw [alike.board_eq]
      exact (Gpio.Board.write_level write).2

theorem forceOff_stroke (d : Driver) (p : Plant) (reason : Option Lockout) :
    Stroke d p false (d.forceOff p reason).driver (d.forceOff p reason).plant := by
  have hc := d.forceOff_cases p reason
  generalize d.forceOff p reason = o at hc ⊢
  cases hc with
  | failed write alike =>
    refine .missed (fun h => by cases h) (stopped_onSince d reason) (stopped_offSince d reason) ?_
    rw [alike.board_eq]
  | @done p' write clock_eq alike =>
    refine .made settle_isOn nofun ?_ ?_ ?_
    · rw [settle_onSince]
      exact stopped_onSince d reason
    · rw [settle_offSince, stopped_isOn, stopped_offSince, clock_eq]
    · rw [alike.board_eq]
      exact (Gpio.Board.write_level write).2

theorem command_stroke (d : Driver) (p : Plant) (on : Bool) (duty : Single) :
    Stroke d p on (d.command p on duty).driver (d.command p on duty).plant := by
  unfold command
  dsimp only
  split
  · exact (apply_stroke d p on duty).then_alike (.refl _) rfl rfl rfl
  · exact apply_stroke d p on duty

/-- A command that is carried out has written the level. -/
theorem command_writes {duty : Single} (h : (d.command p on duty).result = .ok ()) :
    (d.command p on duty).plant.board.bench.writes d.config.pin =
      p.board.bench.writes d.config.pin ++ [d.config.level on] := by
  have hc := d.apply_cases p on duty
  unfold command at h ⊢
  dsimp only at h ⊢
  generalize d.apply p on duty = o at hc h ⊢
  cases hc with
  | refused gate alike => cases h
  | failed gate pass write alike => cases h
  | done gate pass write clock_eq alike =>
    rw [settle_result]
    dsimp only
    rw [alike.board_eq]
    exact (Gpio.Board.write_level write).2

end Output.Driver

/-! ## Marks -/

/-- Among the levels written in a turn there is an off that the driver took the output from on with: the
status said on at the start of the turn, or the driver had switched on in the same turn. -/
def Output.Driver.fell (d : Driver) (written : List Bool) : Bool :=
  (d.status.isOn || written.contains (d.config.level true)) && written.contains (d.config.level false)

/-- The marks after a turn that wrote some levels. -/
structure Marks (d : Driver) (p : Plant) (o : Outcome) (written : List Bool) : Prop where
  writes_eq : o.plant.board.bench.writes d.config.pin = p.board.bench.writes d.config.pin ++ written
  gate : written.contains (d.config.level true) = true → d.refusal? p.clock.now true = none
  onSince : o.driver.status.isOn = true →
    o.driver.onSince = if d.status.isOn then d.onSince else some p.clock.now
  offSince_eq : o.driver.offSince = if d.fell written then some p.clock.now else d.offSince

open Output.Driver (Stroke)

variable {may : Command → Prop} {d : Driver} {p : Plant} {o : Outcome}

/-- One stroke moves the marks with the level that it writes. -/
theorem Marks.of_stroke {on : Bool} (h : Stroke d p on o.driver o.plant) :
    ∃ written, Marks d p o written := by
  cases h with
  | missed isOn onSince_eq offSince_eq writes_eq =>
    refine ⟨[], by rw [writes_eq, List.append_nil], nofun, fun h => ?_, ?_⟩
    · rw [onSince_eq, if_pos (isOn h)]
    · simp [offSince_eq, Driver.fell]
  | made isOn gate onSince_eq offSince_eq writes_eq =>
    refine ⟨[d.config.level on], writes_eq, fun h => ?_, fun h => ?_, ?_⟩
    · cases on with
      | true => exact gate rfl
      | false => simp [d.config.level_ne] at h
    · rw [isOn] at h
      subst h
      cases hd : d.status.isOn <;> simp [onSince_eq, hd]
    · have hne := d.config.level_ne
      cases on with
      | true => simp [offSince_eq, Driver.fell, Ne.symm hne]
      | false => cases hd : d.status.isOn <;> simp [offSince_eq, Driver.fell, hd, hne]

/-- So do two strokes of which the first switches on and the second off. -/
theorem Marks.of_strokes {o₁ : Outcome} (hc : o₁.driver.config = d.config)
    (hn : o₁.plant.clock.now = p.clock.now) (hon : o₁.driver.status.isOn = true)
    (h₁ : Stroke d p true o₁.driver o₁.plant)
    (hw : o₁.plant.board.bench.writes d.config.pin =
      p.board.bench.writes d.config.pin ++ [d.config.level true])
    (h₂ : Stroke o₁.driver o₁.plant false o.driver o.plant) : ∃ written, Marks d p o written := by
  have hne := d.config.level_ne
  cases h₁ with
  | missed isOn onSince_eq offSince_eq writes_eq => simp [writes_eq] at hw
  | made isOn gate onSince_eq offSince_eq writes_eq =>
    cases h₂ with
    | missed isOn' onSince_eq' offSince_eq' writes_eq' =>
      rw [hc] at writes_eq'
      refine ⟨[d.config.level true], writes_eq'.trans hw, fun _ => gate rfl, fun _ => ?_, ?_⟩
      · rw [onSince_eq', onSince_eq]
        cases d.status.isOn <;> rfl
      · simp [offSince_eq', offSince_eq, Driver.fell, Ne.symm hne]
    | made isOn' gate' onSince_eq' offSince_eq' writes_eq' =>
      rw [hc] at writes_eq'
      refine ⟨[d.config.level true, d.config.level false], ?_, fun _ => gate rfl, fun h => ?_, ?_⟩
      · rw [writes_eq', hw, List.append_assoc]
        rfl
      · cases isOn'.symm.trans h
      · simp [offSince_eq', hon, hn, Driver.fell]

/-- A turn that leaves the line and the marks alone. -/
theorem Marks.of_idle (ha : p.Alike o.plant) (hs : o.driver.status.isOn = d.status.isOn)
    (hon : o.driver.onSince = d.onSince) (hoff : o.driver.offSince = d.offSince) :
    ∃ written, Marks d p o written :=
  Marks.of_stroke (.idle false ha hs hon hoff)

theorem process_marks (d : Driver) (p : Plant) : ∃ written, Marks d p (d.process p) written := by
  unfold Driver.process
  split
  · exact Marks.of_idle (.refl p) rfl rfl rfl
  · exact Marks.of_stroke (.after_alike (d.note_alike p ..) (Driver.forceOff_stroke ..))

theorem setDuty_marks (d : Driver) (p : Plant) (x : Single) :
    ∃ written, Marks d p (d.setDuty p x) written := by
  unfold Driver.setDuty
  split
  · exact Marks.of_idle (.refl p) rfl rfl rfl
  · split
    · exact Marks.of_stroke (Driver.command_stroke ..)
    · exact Marks.of_stroke (Driver.command_stroke ..)

theorem pulseNow_marks (d : Driver) (p : Plant) : ∃ written, Marks d p (d.pulseNow p) written := by
  have h := Driver.command_stroke d p true (d.config.fullDuty true)
  unfold Driver.pulseNow
  dsimp only
  split
  · exact Marks.of_stroke h
  · rename_i hr
    have ht : Turn (fun _ => True) d p (Rig.obey d p (.set true)) := .tell _ trivial
    have hf := Frame.of_turn ht
    exact Marks.of_strokes hf.config_eq (congrArg Clock.now hf.clock_eq) (command_isOn hr) h
      (Driver.command_writes hr) (Driver.command_stroke ..)

theorem resetLockout_marks (d : Driver) (p : Plant) :
    ∃ written, Marks d p (d.resetLockout p) written := by
  refine Marks.of_idle ?_ rfl rfl rfl
  unfold Driver.resetLockout
  dsimp only
  split
  · exact d.note_alike p ..
  · exact .refl p

theorem obey_marks (d : Driver) (p : Plant) (c : Command) :
    ∃ written, Marks d p (Rig.obey d p c) written := by
  cases c with
  | set on => exact Marks.of_stroke (Driver.command_stroke ..)
  | toggle => exact Marks.of_stroke (Driver.command_stroke ..)
  | duty x => exact setDuty_marks d p x
  | process => exact process_marks d p
  | emergencyStop => exact Marks.of_stroke (.after_alike (d.note_alike p ..) (Driver.forceOff_stroke ..))
  | shutdown => exact Marks.of_stroke (Driver.forceOff_stroke ..)
  | resetLockout => exact resetLockout_marks d p
  | restore total cycles => exact Marks.of_idle (.refl p) rfl rfl rfl
  | pulseNow => exact pulseNow_marks d p

theorem startPulse_marks (d : Driver) (p : Plant) (serial timer : Nat) (millis : Option UInt32) :
    ∃ written, Marks d p (d.startPulse p serial timer millis) written := by
  have h := Driver.command_stroke d p true (d.config.fullDuty true)
  unfold Driver.startPulse
  dsimp only
  split
  · exact Marks.of_stroke h
  · exact Marks.of_stroke (h.then_alike (Plant.note_alike ..) rfl rfl rfl)

theorem finishPulse_marks (d : Driver) (p : Plant) (number : Nat) :
    ∃ written, Marks d p (d.finishPulse p number) written := by
  unfold Driver.finishPulse
  split
  · have h : Stroke d p false (d.dropPulse.apply p false Duty.zero).driver
        (d.dropPulse.apply p false Duty.zero).plant := by
      cases Driver.apply_stroke d.dropPulse p false Duty.zero with
      | missed isOn onSince_eq offSince_eq writes_eq => exact .missed isOn onSince_eq offSince_eq writes_eq
      | made isOn gate onSince_eq offSince_eq writes_eq => exact .made isOn nofun onSince_eq offSince_eq writes_eq
    dsimp only
    split
    · exact Marks.of_stroke h
    · exact Marks.of_stroke (h.then_alike (Plant.note_alike ..) rfl rfl rfl)
  · exact Marks.of_idle (d.note_alike p ..) rfl rfl rfl

/-- What a turn writes moves the marks. -/
theorem Turn.marks (h : Turn may d p o) : ∃ written, Marks d p o written := by
  cases h with
  | idle => exact Marks.of_idle (.refl p) rfl rfl rfl
  | tell c told => exact obey_marks d p c
  | pulse serial timer millis => exact startPulse_marks d p serial timer millis
  | finish number => exact finishPulse_marks d p number
  | cancel serial => exact Marks.of_idle (.refl p) rfl rfl rfl

/-! ## Steps and stretches of a run -/

namespace Rig

/-- The levels that are written to a pin at an event. -/
def wrote (r : Rig) (e : Event) (pin : Gpio.Pin) : List Bool :=
  ((r.step e).1.plant.board.bench.writes pin).drop (r.plant.board.bench.writes pin).length

/-- The levels that an event would write to a pin if writes to it did not fail. -/
def issues (r : Rig) (e : Event) (pin : Gpio.Pin) : List Bool :=
  (r.step (.setFailing pin false)).1.wrote e pin

/-- The status of the driver with a serial says on. -/
def saysOn (n : Nat) (r : Rig) : Bool :=
  (r.drivers.get? n).any fun d => d.status.isOn

/-- The pin of the driver with a serial is at its on level. -/
def energised (n : Nat) (r : Rig) : Bool :=
  (r.drivers.get? n).any fun d => r.plant.board.bench.level? d.config.pin == some (d.config.level true)

/-- Something is so in every state of a run, the first and the last among them. -/
def throughout (so : Rig → Bool) (r : Rig) : List Event → Bool
  | [] => so r
  | e :: es => so r && (r.step e).1.throughout so es

/-- In a run something has been so for more than a time in milliseconds, up to the end. -/
def Lasting (so : Rig → Bool) (millis : Nat) (r : Rig) (es : List Event) : Prop :=
  ∃ before during, es = before ++ during ∧ (r.run before).throughout so during = true ∧
    millis < millisBetween (r.run before).plant.clock.now (r.run es).plant.clock.now

variable {r : Rig} {e : Event} {n : Nat} {d d' : Driver}

/-- What a step writes to the pin of a driver moves the driver's marks, at the time after the step. -/
theorem step_marks (hw : r.WellFormed) (hd : r.drivers.get? n = some d) (hk : r.keeps n e = true)
    (hd' : (r.step e).1.drivers.get? n = some d') :
    d'.config = d.config ∧ Marks d { r.plant with clock := (r.step e).1.plant.clock }
      ⟨.ok (), d', (r.step e).1.plant, none⟩ (r.wrote e d.config.pin) := by
  rcases step_turned hw hd hk with ⟨-, hn⟩ | ⟨before, turn, after, now_eq, live⟩
  · cases hn.symm.trans hd'
  · cases live.symm.trans hd'
    obtain ⟨written, hm⟩ := turn.marks
    have hb := before.board.bench.writes_eq
    have ha := after.board.bench.writes_eq
    have hwr : (r.step e).1.plant.board.bench.writes d.config.pin =
        r.plant.board.bench.writes d.config.pin ++ written := by
      rw [ha, hm.writes_eq, hb]
    have hwrote : r.wrote e d.config.pin = written := by
      unfold wrote
      rw [hwr, List.drop_left]
    rw [hwrote]
    refine ⟨(Frame.of_turn turn).config_eq, hwr, ?_, ?_, ?_⟩
    · rw [now_eq]
      exact hm.gate
    · rw [now_eq]
      exact hm.onSince
    · rw [now_eq]
      exact hm.offSince_eq

theorem throughout_append (so : Rig → Bool) (r : Rig) (es es' : List Event) :
    r.throughout so (es ++ es') = true ↔
      r.throughout so es = true ∧ (r.run es).throughout so es' = true := by
  induction es generalizing r with
  | nil =>
    simp only [List.nil_append, throughout, run_nil]
    refine ⟨fun h => ⟨?_, h⟩, And.right⟩
    cases es' with
    | nil => exact h
    | cons e es' => exact (Bool.and_eq_true_iff.1 h).1
  | cons e es ih => simp only [List.cons_append, throughout, run_cons, Bool.and_eq_true, ih, and_assoc]

theorem throughout_first {so : Rig → Bool} {es : List Event} (h : r.throughout so es = true) :
    so r = true :=
  (throughout_append so r [] es).1 h |>.1

theorem throughout_last {so : Rig → Bool} {es : List Event} (h : r.throughout so es = true) :
    so (r.run es) = true :=
  ((throughout_append so r es []).1 (by rwa [List.append_nil])).2

/-- A time is longer to a later reading of the clock, and shorter from one. -/
theorem millisBetween_le {since since' now now' : Nat} (hs : since' ≤ since) (hn : now ≤ now') :
    millisBetween since now ≤ millisBetween since' now' := by
  have hd : (now - since) / Clock.perMilli ≤ (now' - since') / Clock.perMilli :=
    Nat.div_le_div_right (by omega)
  unfold millisBetween
  omega

end Rig

end Switchboard
