import Switchboard.Proofs.Energised
import Switchboard.Proofs.PendingPulse

/-!
# What a status is worth

Unless it is an error, the status of a driver that has its pin for itself is what reading the pin shows, with
the wiring taken into account (`Driver.Tells`). It is no error after a command that was carried out, so then
the reading and the status agree, whatever failed before (`run_truthful`).
-/

namespace Switchboard

open Output (Driver Outcome)

theorem Gpio.Board.Drives.read_eq {b : Board} {pin : Pin} {level : Bool} (h : b.Drives pin)
    (hl : b.bench.level? pin = some level) : b.read pin = .ok level := by
  have hc : b.pins.contains pin = true := by
    have ho := h.output
    cases hp : b.pins.get? pin with
    | none => simp [hp] at ho
    | some s => exact Table.contains_of_get? hp
  simp only [read, hc, if_true, Bench.read, hl]

namespace Output.Driver

/-- Reading the pin shows what the status says, with the wiring taken into account. -/
def Tells (d : Driver) (p : Plant) : Prop :=
  (p.board.read d.config.pin).map (· != d.config.activeLow) = .ok d.status.isOn

/-- A command that switches the output if it is carried out: it asks for a position or a duty, or forces the
output off. -/
def switches (d : Driver) (p : Plant) (c : Command) : Bool :=
  match c with
  | .set _ | .toggle | .duty _ | .pulseNow => true
  | _ => d.stops p c

variable {d : Driver} {p : Plant}

theorem isAt_tells (h : p.board.Drives d.config.pin) (hat : d.isAt p d.status.isOn) : d.Tells p := by
  unfold Tells
  rw [h.read_eq hat]
  simp [Except.map, Config.level]

/-- A sound driver whose status is no error tells what is on its line. -/
theorem Sound.tells (h : d.Sound p) (hs : d.status.state ≠ .error) : d.Tells p := by
  refine isAt_tells h.drives ?_
  cases hst : d.status.state with
  | on =>
    rw [Status.isOn_iff.2 hst]
    exact h.on hst
  | off =>
    have hoff : d.status.isOn = false := by simp [Status.isOn, hst]
    rw [hoff]
    exact h.off (.inl hst)
  | unknown =>
    have hoff : d.status.isOn = false := by simp [Status.isOn, hst]
    rw [hoff]
    exact h.off (.inr hst)
  | error => exact absurd hst hs

theorem command_settled {on : Bool} {duty : Single} (h : (d.command p on duty).result = .ok ()) :
    (d.command p on duty).driver.status.state ≠ .error := by
  rcases d.command_ends p on duty with ⟨-, hstate⟩ | ⟨r, hr, -⟩ | ⟨e, he, -⟩
  · rw [hstate]
    cases on <;> nofun
  · cases hr.symm.trans h
  · cases he.symm.trans h

theorem forceOff_settled {reason : Option Lockout} (h : (d.forceOff p reason).result = .ok ()) :
    (d.forceOff p reason).driver.status.state ≠ .error := by
  rcases d.forceOff_ends p reason with ⟨-, hstate⟩ | ⟨e, he, -⟩
  · rw [hstate]
    nofun
  · cases he.symm.trans h

/-- A command that switches and is carried out leaves no error. -/
theorem obey_settled {c : Command} (hc : d.switches p c = true)
    (h : (Rig.obey d p c).result = .ok ()) : (Rig.obey d p c).driver.status.state ≠ .error := by
  cases c with
  | set on => exact command_settled h
  | toggle => exact command_settled h
  | duty x =>
    simp only [Rig.obey] at h ⊢
    by_cases hx : x.isFinite = true
    · obtain ⟨duty, he⟩ := d.setDuty_eq_command p hx
      rw [he] at h ⊢
      exact command_settled h
    · rw [setDuty_of_not_isFinite (Bool.eq_false_iff.2 hx)] at h
      cases h
  | pulseNow =>
    simp only [Rig.obey] at h ⊢
    cases hr : (d.set p true).result with
    | error e =>
      rw [pulseNow_of_error hr] at h
      cases hr.symm.trans h
    | ok u =>
      rw [pulseNow_of_ok hr] at h ⊢
      exact command_settled h
  | emergencyStop => exact forceOff_settled h
  | shutdown => exact forceOff_settled h
  | process =>
    have hover : d.overdue? p.clock.now ≠ none := Option.isSome_iff_ne_none.1 hc
    obtain ⟨q, -, he⟩ := process_of_overdue hover
    simp only [Rig.obey, he] at h ⊢
    exact forceOff_settled h
  | resetLockout | restore _ _ => cases hc

end Output.Driver

namespace Rig

variable {r : Rig} {n : Nat} {d : Driver}

theorem outputReply_eq_done_iff {result : Except Output.Error Unit} :
    outputReply result = .done ↔ result = .ok () := by
  cases result with
  | error e => simp [outputReply]
  | ok u => simp [outputReply]

theorem accepts_of_serial (hd : r.drivers.get? n = some d) {millis : Option UInt32} {timed : Bool}
    {serial : Nat} (h : (r.step (.pulse n millis timed)).2 = .serial serial) :
    timed = true ∧ r.accepts n (.pulse n millis true) = true := by
  rw [accepts_pulse hd, ← d.startPulse_result r.plant r.next r.timer millis]
  simp only [step, Rig.pulse, fresh, hd] at h
  cases timed with
  | false => simp at h
  | true =>
    cases hr : (d.startPulse r.plant r.next r.timer millis).result with
    | error e => simp [hr] at h
    | ok u => exact ⟨rfl, rfl⟩

theorem step_tells {s : Setup} {es : List Event} {e : Event} (ho : s.rig.owns n es = true)
    (hk : (s.rig.run es).keeps n e = true) (hd : ((s.rig.run es).step e).1.drivers.get? n = some d)
    (hne : d.status.state ≠ .error) : d.Tells ((s.rig.run es).step e).1.plant := by
  have hrun : s.rig.run (es ++ [e]) = ((s.rig.run es).step e).1 := run_append ..
  have howns : s.rig.owns n (es ++ [e]) = true := (owns_append ..).2 ⟨ho, by simp [owns, hk]⟩
  have hsound : d.Sound (s.rig.run (es ++ [e])).plant := run_sound howns (hrun ▸ hd)
  rw [hrun] at hsound
  exact hsound.tells hne

/-- In every state that a run reaches, a driver that has had its pin for itself is at its on level while its
status says on, and at its off level while it says off or unknown. After a command that was carried out, and
whenever the status is no error, reading the pin shows what the status says. -/
theorem run_truthful (s : Setup) {es : List Event} {n : Nat} {d : Driver}
    (ho : s.rig.owns n es = true) (hd : (s.rig.run es).drivers.get? n = some d) :
    (d.status.state = .on → d.isAt (s.rig.run es).plant true) ∧
      (d.status.state = .off ∨ d.status.state = .unknown → d.isAt (s.rig.run es).plant false) ∧
      (d.status.state ≠ .error → d.Tells (s.rig.run es).plant) ∧
      (∀ {c}, (s.rig.run es).keeps n (.command n c) = true →
        d.switches (s.rig.run es).plant c = true →
        ((s.rig.run es).step (.command n c)).2 = .done →
        ∃ d', ((s.rig.run es).step (.command n c)).1.drivers.get? n = some d' ∧
          d'.Tells ((s.rig.run es).step (.command n c)).1.plant) ∧
      (∀ {millis timed serial}, (s.rig.run es).keeps n (.pulse n millis timed) = true →
        ((s.rig.run es).step (.pulse n millis timed)).2 = .serial serial →
        ∃ d', ((s.rig.run es).step (.pulse n millis timed)).1.drivers.get? n = some d' ∧
          d'.Tells ((s.rig.run es).step (.pulse n millis timed)).1.plant) := by
  have hsound := run_sound ho hd
  refine ⟨hsound.on, hsound.off, hsound.tells, fun {c} hk hc hreply => ?_, fun hk hreply => ?_⟩
  · have hstep := hreply
    simp only [step, tell, hd] at hstep
    have hok : (obey d (s.rig.run es).plant c).result = .ok () := outputReply_eq_done_iff.1 hstep
    have hlive : ((s.rig.run es).step (.command n c)).1.drivers.get? n =
        some (obey d (s.rig.run es).plant c).driver := by
      simp only [step, tell, hd]
      exact Table.get?_insert_self
    exact ⟨_, hlive, step_tells ho hk hlive (Driver.obey_settled hc hok)⟩
  · obtain ⟨rfl, haccepted⟩ := accepts_of_serial hd hreply
    obtain ⟨-, d', hd', -, hon⟩ := pulse_begun hd haccepted
    refine ⟨d', hd', step_tells ho hk hd' ?_⟩
    rw [Output.Status.isOn_iff.1 hon]
    decide

/-- Two outputs, the first of them on at the low level; the second cannot be written. -/
def mixed : List Event :=
  [.create { Output.Config.plain 1 "valve" .relay 17 with activeLow := true },
    .create (Output.Config.plain 2 "pump" .relay 18), .setFailing 18 true, .command 1 (.set true)]

/-- When the first is told to switch on it is read as on, and its line is low. -/
theorem mixed_truthful :
    ∃ d, (Setup.plain.rig.run (mixed ++ [.command 0 (.set true)])).drivers.get? 0 = some d ∧
      d.Tells (Setup.plain.rig.run (mixed ++ [.command 0 (.set true)])).plant ∧
      (Setup.plain.rig.run (mixed ++ [.command 0 (.set true)])).plant.board.bench.level? 17 =
        some false := by
  obtain ⟨d, hd⟩ : ∃ d, (Setup.plain.rig.run mixed).drivers.get? 0 = some d :=
    Option.isSome_iff_exists.1 (by decide +kernel)
  obtain ⟨-, -, -, htold, -⟩ := run_truthful Setup.plain (by decide +kernel) hd
  obtain ⟨d', hd', htells⟩ := htold (c := .set true) (by decide +kernel) rfl (by rfl)
  exact ⟨d', hd', htells, by decide +kernel⟩

end Rig

end Switchboard
