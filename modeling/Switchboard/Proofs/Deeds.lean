import Switchboard.Proofs.Switching

/-!
# What a driver does

Everything that a driver is told, and everything that its pulses do, is made of a few deeds: a command that
passes the gates, a forced switch-off, and bookkeeping of its lockout, counters and pulse (`Deed`). What
happens to a driver between two looks at it is a `Turn`, one call of one operation, and a turn is a
sequence of deeds (`Turn.deeds`). A property that each deed keeps is kept by every turn (`Deeds.keeps`).

`Frame` is such a property: whatever a driver does stays at its own pin and its own group. It spares
every other driver (`Frame.spares`).
-/

namespace Switchboard

open Output (Driver Outcome Lockout Config Pulse)

namespace Output

/-- A position and a duty that a driver may be asked for: the full duty of the position, or a duty that the
driver was told, brought into the bounds of its output. -/
def Config.Asked (may : Command → Prop) (c : Config) (on : Bool) (duty : Single) : Prop :=
  duty = c.fullDuty on ∨
    ∃ x : Single, may (.duty x) ∧ x.isFinite = true ∧ c.kind = .pwm ∧
      duty = x.clamp c.minDuty c.maxDuty ∧ on = Duty.threshold.lt duty

/-- A reason to switch off by force, or none: the greatest time on has passed, or the driver was told. -/
def Driver.Compelled (may : Command → Prop) (d : Driver) (p : Plant) (reason : Option Lockout) : Prop :=
  reason = none ∨ (reason = some .autoShutoff ∧ d.overdue? p.clock.now ≠ none) ∨
    (reason = some .emergencyStop ∧ may .emergencyStop)

/-- The smallest things that a driver does, where it may have been told some commands. -/
inductive Deed (may : Command → Prop) (d : Driver) (p : Plant) : Driver → Plant → Prop
  /-- An entry in the log. -/
  | note {p' : Plant} (alike : p.Alike p') : Deed may d p d p'
  /-- A command that passes the gates. -/
  | apply {on : Bool} {duty : Single} (asked : d.config.Asked may on duty) :
      Deed may d p (d.apply p on duty).driver (d.apply p on duty).plant
  | force {reason : Option Lockout} (compelled : d.Compelled may p reason) :
      Deed may d p (d.forceOff p reason).driver (d.forceOff p reason).plant
  /-- The lockout is cleared by hand. -/
  | unlock (told : may .resetLockout) : Deed may d p { d with status := d.status.unlock } p
  | restore {total : UInt64} {cycles : UInt32} (told : may (.restore total cycles)) :
      Deed may d p (d.restore total cycles) p
  | dropPulse : Deed may d p d.dropPulse p
  | cancelPulse (serial : Nat) : Deed may d p (d.cancelPulse serial) p
  /-- A pulse is begun while the output is on. -/
  | beginPulse (q : Pulse) (number : Nat) (isOn : d.status.isOn = true) :
      Deed may d p { d with pulse := some q, pulses := number } p

/-- Deeds one after another. -/
inductive Deeds (may : Command → Prop) (d : Driver) (p : Plant) : Driver → Plant → Prop
  | refl : Deeds may d p d p
  | tail {d' d'' : Driver} {p' p'' : Plant} :
      Deeds may d p d' p' → Deed may d' p' d'' p'' → Deeds may d p d'' p''

variable {may : Command → Prop} {d d' d'' : Driver} {p p' p'' : Plant}

theorem Deeds.of_deed (h : Deed may d p d' p') : Deeds may d p d' p' :=
  .tail .refl h

theorem Deeds.trans (h : Deeds may d p d' p') (h' : Deeds may d' p' d'' p'') :
    Deeds may d p d'' p'' := by
  induction h' with
  | refl => exact h
  | tail _ hd ih => exact .tail ih hd

/-- What each deed keeps, every sequence of deeds keeps. -/
theorem Deeds.keeps {J : Driver → Plant → Prop}
    (step : ∀ {d d' : Driver} {p p' : Plant}, Deed may d p d' p' → J d p → J d' p')
    (h : Deeds may d p d' p') (hj : J d p) : J d' p' := by
  induction h with
  | refl => exact hj
  | tail _ hd ih => exact step hd ih

end Output

/-! ## Turns -/

open Output

/-- What happens to a driver between two looks at it: nothing, or one call of one operation. -/
inductive Turn (may : Command → Prop) (d : Driver) (p : Plant) : Outcome → Prop
  | idle : Turn may d p ⟨.ok (), d, p, none⟩
  | tell (c : Command) (told : may c) : Turn may d p (Rig.obey d p c)
  | pulse (serial timer : Nat) (millis : Option UInt32) :
      Turn may d p (d.startPulse p serial timer millis)
  /-- The timer gets to a pulse. -/
  | finish (number : Nat) : Turn may d p (d.finishPulse p number)
  | cancel (serial : Nat) : Turn may d p ⟨.ok (), d.cancelPulse serial, p, none⟩

section Turns

variable {may : Command → Prop} {d : Driver} {p : Plant}

/-- After a command that was carried out the output is in the position asked for. -/
theorem apply_isOn {on : Bool} {duty : Single} (h : (d.apply p on duty).result = .ok ()) :
    (d.apply p on duty).driver.status.isOn = on := by
  have hc := d.apply_cases p on duty
  revert h
  generalize d.apply p on duty = o at hc ⊢
  intro h
  cases hc with
  | refused gate alike => cases h
  | failed gate pass write alike => cases h
  | done gate pass write clock_eq alike => exact Driver.settle_isOn

theorem command_deeds {on : Bool} {duty : Single} (h : d.config.Asked may on duty) :
    Deeds may d p (d.command p on duty).driver (d.command p on duty).plant := by
  have ha : Deeds may d p (d.apply p on duty).driver (d.apply p on duty).plant := .of_deed (.apply h)
  unfold Driver.command
  dsimp only
  split
  · exact .tail ha .dropPulse
  · exact ha

theorem set_deeds (on : Bool) : Deeds may d p (d.set p on).driver (d.set p on).plant :=
  command_deeds (.inl rfl)

theorem setDuty_deeds {x : Single} (told : may (.duty x)) :
    Deeds may d p (d.setDuty p x).driver (d.setDuty p x).plant := by
  unfold Driver.setDuty
  split
  · exact .refl
  · rename_i hf
    split
    · rename_i hk
      exact command_deeds (.inr ⟨x, told, by simpa using hf, hk, rfl, rfl⟩)
    · exact set_deeds _

theorem process_deeds : Deeds may d p (d.process p).driver (d.process p).plant := by
  unfold Driver.process
  split
  · exact .refl
  · rename_i millis ho
    refine .tail (.of_deed (.note (d.note_alike p ..))) (.force (.inr (.inl ⟨rfl, ?_⟩)))
    exact fun hn => by cases ho.symm.trans hn

theorem emergencyStop_deeds (told : may .emergencyStop) :
    Deeds may d p (d.emergencyStop p).driver (d.emergencyStop p).plant :=
  .tail (.of_deed (.note (d.note_alike p ..))) (.force (.inr (.inr ⟨rfl, told⟩)))

theorem resetLockout_deeds (told : may .resetLockout) :
    Deeds may d p (d.resetLockout p).driver (d.resetLockout p).plant := by
  refine .tail (.of_deed (.unlock told)) (.note ?_)
  unfold Driver.resetLockout
  dsimp only
  split
  · exact d.note_alike p ..
  · exact .refl p

theorem pulseNow_deeds : Deeds may d p (d.pulseNow p).driver (d.pulseNow p).plant := by
  unfold Driver.pulseNow
  dsimp only
  split
  · exact set_deeds true
  · exact (set_deeds true).trans (set_deeds false)

theorem obey_deeds (c : Command) (told : may c) :
    Deeds may d p (Rig.obey d p c).driver (Rig.obey d p c).plant := by
  cases c with
  | set on => exact set_deeds on
  | toggle => exact set_deeds _
  | duty x => exact setDuty_deeds told
  | process => exact process_deeds
  | emergencyStop => exact emergencyStop_deeds told
  | shutdown => exact .of_deed (.force (.inl rfl))
  | resetLockout => exact resetLockout_deeds told
  | restore total cycles => exact .of_deed (.restore told)
  | pulseNow => exact pulseNow_deeds

/-- A command that succeeds leaves what carrying it out left, without a pulse. -/
theorem command_isOn {on : Bool} {duty : Single} (h : (d.command p on duty).result = .ok ()) :
    (d.command p on duty).driver.status.isOn = on := by
  unfold Driver.command at h ⊢
  cases hr : (d.apply p on duty).result with
  | ok u =>
    simp only [hr]
    exact apply_isOn hr
  | error e => simp [hr] at h

theorem startPulse_deeds {serial timer : Nat} {millis : Option UInt32} :
    Deeds may d p (d.startPulse p serial timer millis).driver
      (d.startPulse p serial timer millis).plant := by
  unfold Driver.startPulse
  dsimp only
  split
  · exact set_deeds true
  · rename_i hr
    exact .tail (.tail (set_deeds true) (.beginPulse _ _ (command_isOn hr))) (.note (Plant.note_alike ..))

theorem finishPulse_deeds {number : Nat} :
    Deeds may d p (d.finishPulse p number).driver (d.finishPulse p number).plant := by
  unfold Driver.finishPulse
  split
  · have ha : Deeds may d p (d.dropPulse.apply p false Duty.zero).driver
        (d.dropPulse.apply p false Duty.zero).plant :=
      .tail (.of_deed .dropPulse) (.apply (.inl rfl))
    dsimp only
    split
    · exact ha
    · exact .tail ha (.note (Plant.note_alike ..))
  · exact .of_deed (.note (d.note_alike p ..))

/-- A turn is a sequence of deeds. -/
theorem Turn.deeds {o : Outcome} (h : Turn may d p o) : Deeds may d p o.driver o.plant := by
  cases h with
  | idle => exact .refl
  | tell c told => exact obey_deeds c told
  | pulse serial timer millis => exact startPulse_deeds
  | finish number => exact finishPulse_deeds
  | cancel serial => exact .of_deed (.cancelPulse serial)

end Turns

/-! ## What a driver leaves alone -/

/-- What happened from a driver and a plant to another stayed at the driver's pin and its claim. -/
structure Frame (d : Driver) (p : Plant) (d' : Driver) (p' : Plant) : Prop where
  serial_eq : d'.serial = d.serial
  config_eq : d'.config = d.config
  clock_eq : p'.clock = p.clock
  board : p.board.Frame d.config.pin p'.board
  groups : p.groups.Frame d.token d.config.group p'.groups

namespace Frame

variable {may : Command → Prop} {d d' d'' : Driver} {p p' p'' : Plant}

theorem refl (d : Driver) (p : Plant) : Frame d p d p :=
  ⟨rfl, rfl, rfl, .refl _ _, .refl _ _ _⟩

theorem token_eq (h : Frame d p d' p') : d'.token = d.token := by
  simp [Driver.token, h.serial_eq, h.config_eq]

theorem trans (h : Frame d p d' p') (h' : Frame d' p' d'' p'') : Frame d p d'' p'' where
  serial_eq := h'.serial_eq.trans h.serial_eq
  config_eq := h'.config_eq.trans h.config_eq
  clock_eq := h'.clock_eq.trans h.clock_eq
  board := h.board.trans (h.config_eq ▸ h'.board)
  groups := h.groups.trans (h.token_eq ▸ h.config_eq ▸ h'.groups)

/-- A driver that others see unchanged, on a plant that is the same but for its log. -/
theorem of_alike (hs : d'.serial = d.serial) (hc : d'.config = d.config) (h : p.Alike p') :
    Frame d p d' p' :=
  ⟨hs, hc, h.clock_eq, h.board_eq ▸ .refl _ _, h.groups_eq ▸ .refl _ _ _⟩

theorem free_groups (d : Driver) (p : Plant) :
    p.groups.Frame d.token d.config.group (d.free p).groups := by
  unfold Driver.free
  cases d.config.group with
  | none => exact .refl _ _ _
  | some g => exact Interlock.Groups.release_frame

theorem abandon_groups (d : Driver) (p : Plant) :
    p.groups.Frame d.token d.config.group (d.abandon p).groups := by
  unfold Driver.abandon
  cases d.config.group with
  | none => exact .refl _ _ _
  | some g => exact Interlock.Groups.abandon_frame

theorem hold_groups (h : d.checkInterlock p = true) :
    p.groups.Frame d.token d.config.group (d.hold p.groups) := by
  unfold Driver.checkInterlock at h
  unfold Driver.hold
  cases hg : d.config.group with
  | none => exact .refl _ _ _
  | some g => exact Interlock.Groups.hold_frame (by simpa [hg] using h)

theorem apply (d : Driver) (p : Plant) (on : Bool) (duty : Single) :
    Frame d p (d.apply p on duty).driver (d.apply p on duty).plant := by
  have hc := d.apply_cases p on duty
  generalize d.apply p on duty = o at hc ⊢
  cases hc with
  | refused gate alike => exact of_alike rfl rfl alike
  | failed gate pass write alike =>
    refine ⟨rfl, rfl, alike.clock_eq, alike.board_eq ▸ .refl _ _, alike.groups_eq ▸ ?_⟩
    cases on with
    | false => exact .refl _ _ _
    | true => exact abandon_groups d p
  | done gate pass write clock_eq alike =>
    refine ⟨by simp, by simp, alike.clock_eq, alike.board_eq ▸ Gpio.Board.write_frame ..,
      alike.groups_eq ▸ ?_⟩
    cases on with
    | false => exact free_groups d p
    | true => exact hold_groups (pass rfl)

theorem forceOff (d : Driver) (p : Plant) (reason : Option Lockout) :
    Frame d p (d.forceOff p reason).driver (d.forceOff p reason).plant := by
  have hc := d.forceOff_cases p reason
  generalize d.forceOff p reason = o at hc ⊢
  cases hc with
  | failed write alike => exact of_alike (by simp) (by simp) alike
  | done write clock_eq alike =>
    exact ⟨by simp, by simp, alike.clock_eq, alike.board_eq ▸ Gpio.Board.write_frame ..,
      alike.groups_eq ▸ free_groups d p⟩

/-- Every deed stays at the driver's pin and its claim. -/
theorem of_deed (h : Deed may d p d' p') : Frame d p d' p' := by
  cases h with
  | note alike => exact of_alike rfl rfl alike
  | apply asked => exact apply d p _ _
  | force compelled => exact forceOff d p _
  | unlock told => exact of_alike rfl rfl (.refl p)
  | restore told => exact of_alike rfl rfl (.refl p)
  | dropPulse => exact of_alike rfl rfl (.refl p)
  | cancelPulse serial => exact of_alike rfl rfl (.refl p)
  | beginPulse q number isOn => exact of_alike rfl rfl (.refl p)

theorem of_deeds (h : Deeds may d p d' p') : Frame d p d' p' := by
  induction h with
  | refl => exact refl d p
  | tail _ hd ih => exact ih.trans (of_deed hd)

theorem of_turn {o : Outcome} (h : Turn may d p o) : Frame d p o.driver o.plant :=
  of_deeds h.deeds

end Frame

end Switchboard
