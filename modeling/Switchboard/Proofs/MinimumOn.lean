import Switchboard.Proofs.LatchedStop
import Switchboard.Proofs.OnPeriod
import Switchboard.Proofs.PendingPulse

/-!
# The least time on

While the status of a driver says on, everything that asks it to switch off comes to the same gate, the end
of a pulse like a command. The gate measures from the event at which the status came on, so neither a
further command to switch on nor another duty makes the time longer. Before it is over the driver refuses,
stays on and writes nothing; after that it writes (`minOn_enforced`). A forced switch-off comes to no gate.
-/

namespace Switchboard

open Output (Driver Outcome Lockout)

namespace Output.Driver

/-- A command asks the driver to switch off, and is not a forced switch-off. -/
def meansOff (d : Driver) (c : Command) : Bool :=
  match c with
  | .set on => !on
  | .toggle => d.status.isOn
  | .duty x => x.isFinite && !d.meansOn c
  | _ => false

/-- What comes of an attempt of a driver that is on to switch off, which may be early. -/
structure OffGate (d : Driver) (p : Plant) (early : Prop) (o : Outcome) : Prop where
  held : early → o.result = .error (.refused .minOnTime) ∧ o.driver.status.state = .on ∧
    o.plant.board = p.board
  tried : ¬early →
    o.result = (p.board.write d.config.pin (d.config.level false)).1.mapError .gpio ∧
      o.driver.status.state = if o.result.isOk then .off else .error

variable {d : Driver} {p : Plant} {early early' : Prop} {o o' : Outcome}

theorem OffGate.of_alike (h : d.OffGate p early o) (hr : o'.result = o.result)
    (hs : o'.driver.status = o.driver.status) (ha : o.plant.Alike o'.plant) :
    d.OffGate p early o' := by
  constructor
  · rw [hr, hs, ha.board_eq]
    exact h.held
  · rw [hr, hs]
    exact h.tried

theorem OffGate.congr (h : d.OffGate p early o) (he : early' ↔ early) : d.OffGate p early' o :=
  ⟨fun hearly => h.held (he.1 hearly), fun hlate => h.tried fun hearly => hlate (he.2 hearly)⟩

theorem apply_offGate (hon : d.status.isOn = true) (duty : Single) :
    d.OffGate p (isEarly d.onSince d.config.minOn p.clock.now = true) (d.apply p false duty) := by
  have hr : d.refusal? p.clock.now false =
      if isEarly d.onSince d.config.minOn p.clock.now then some .minOnTime else none := by
    simp [refusal?, hon]
  have hc := d.apply_cases p false duty
  generalize d.apply p false duty = o at hc ⊢
  by_cases he : isEarly d.onSince d.config.minOn p.clock.now = true
  · rw [if_pos he] at hr
    refine ⟨fun _ => ?_, fun hlate => absurd he hlate⟩
    cases hc with
    | refused gate alike =>
      rcases gate with gate | ⟨gate, -, -, -⟩
      · cases hr.symm.trans gate
        exact ⟨rfl, Status.refuse_state.trans (Status.isOn_iff.1 hon), alike.board_eq⟩
      · cases hr.symm.trans gate
    | failed gate pass write alike => cases hr.symm.trans gate
    | done gate pass write clock_eq alike => cases hr.symm.trans gate
  · rw [if_neg he] at hr
    refine ⟨fun hearly => absurd hearly he, fun _ => ?_⟩
    cases hc with
    | refused gate alike =>
      rcases gate with gate | ⟨-, hswitch, -, -⟩
      · cases hr.symm.trans gate
      · cases hswitch
    | failed gate pass write alike =>
      rw [write]
      exact ⟨rfl, rfl⟩
    | done gate pass write clock_eq alike =>
      rw [write]
      exact ⟨rfl, rfl⟩

theorem command_offGate (hon : d.status.isOn = true) (duty : Single) :
    d.OffGate p (isEarly d.onSince d.config.minOn p.clock.now = true) (d.command p false duty) := by
  have h : d.OffGate p _ (d.apply p false duty) := apply_offGate hon duty
  unfold command
  dsimp only
  split
  · exact h.of_alike rfl rfl (.refl _)
  · exact h

/-- Every command that asks a driver to switch off comes to the gate. -/
theorem obey_offGate (hon : d.status.isOn = true) {c : Command} (hc : d.meansOff c = true) :
    d.OffGate p (isEarly d.onSince d.config.minOn p.clock.now = true) (Rig.obey d p c) := by
  cases c with
  | set on =>
    obtain rfl : on = false := by simpa [meansOff] using hc
    exact command_offGate hon _
  | toggle =>
    have ht : Rig.obey d p .toggle = d.command p false (d.config.fullDuty false) := by
      simp [Rig.obey, toggle, set, hon]
    rw [ht]
    exact command_offGate hon _
  | duty x =>
    obtain ⟨hx, hoff⟩ := Bool.and_eq_true_iff.1 hc
    have hoff : d.meansOn (.duty x) = false := by simpa using hoff
    simp only [meansOn, hx, Bool.true_and] at hoff
    obtain ⟨duty, he⟩ := d.setDuty_eq_command p hx
    rw [hoff] at he
    simp only [Rig.obey, he]
    exact command_offGate hon duty
  | process | emergencyStop | shutdown | resetLockout | restore _ _ | pulseNow => cases hc

theorem finishPulse_offGate (hon : d.status.isOn = true) {q : Pulse} (hp : d.pulse = some q) :
    d.OffGate p (isEarly d.onSince d.config.minOn p.clock.now = true) (d.finishPulse p q.number) := by
  obtain ⟨hdriver, hresult, halike⟩ := finishPulse_of_pending (p := p) hp
  have h : d.dropPulse.OffGate p _ (d.dropPulse.apply p false Duty.zero) :=
    apply_offGate (d := d.dropPulse) hon Duty.zero
  have h' : d.dropPulse.OffGate p _ (d.finishPulse p q.number) :=
    h.of_alike hresult (congrArg Driver.status hdriver) halike
  exact ⟨h'.held, h'.tried⟩

/-- A driver that pulses at once comes to the gate once it is on, and is early if it was not on before. -/
theorem pulseNow_offGate (hm : d.config.minOn ≠ 0) (hset : (d.set p true).result = .ok ()) :
    (d.set p true).driver.OffGate (d.set p true).plant
      (d.status.isOn = true → isEarly d.onSince d.config.minOn p.clock.now = true) (d.pulseNow p) := by
  have hturn : Turn (fun _ => True) d p (Rig.obey d p (.set true)) := .tell _ trivial
  obtain ⟨written, hmarks⟩ := hturn.marks
  have hon : (d.set p true).driver.status.isOn = true := command_isOn hset
  have hconfig : (d.set p true).driver.config = d.config := (Frame.of_turn hturn).config_eq
  have hclock : (d.set p true).plant.clock = p.clock := (Frame.of_turn hturn).clock_eq
  have hsince : (d.set p true).driver.onSince = if d.status.isOn then d.onSince else some p.clock.now :=
    hmarks.onSince hon
  rw [pulseNow_of_ok hset]
  refine (command_offGate hon _).congr ?_
  rw [hconfig, hclock, hsince]
  cases d.status.isOn with
  | true => simp
  | false =>
    -- The driver is at its gate at the very time at which it came on.
    have hpos : 0 < d.config.minOn.toNat :=
      Nat.pos_of_ne_zero fun h => hm (UInt32.toNat_inj.1 h)
    simp [isEarly, millisBetween, hpos]

/-! ## Forced switch-off -/

theorem forceOff_result (d : Driver) (p : Plant) (reason : Option Lockout) :
    (d.forceOff p reason).result =
      (p.board.write d.config.pin (d.config.level false)).1.mapError .gpio := by
  have hc := d.forceOff_cases p reason
  generalize d.forceOff p reason = o at hc ⊢
  cases hc with
  | failed write alike =>
    rw [write]
    rfl
  | done write clock_eq alike =>
    rw [write]
    rfl

theorem stops_result {c : Command} (h : d.stops p c = true) :
    (Rig.obey d p c).result =
      (p.board.write d.config.pin (d.config.level false)).1.mapError .gpio := by
  cases c with
  | emergencyStop =>
    have ha := d.note_alike p .warn "emergency stop"
    simp only [Rig.obey, emergencyStop, forceOff_result, ha.board_eq]
  | shutdown => exact forceOff_result ..
  | process =>
    have hover : d.overdue? p.clock.now ≠ none := Option.isSome_iff_ne_none.1 h
    obtain ⟨q, hq, he⟩ := process_of_overdue hover
    simp only [Rig.obey, he, forceOff_result, hq.board_eq]
  | set _ | toggle | duty _ | resetLockout | restore _ _ | pulseNow => cases h

end Output.Driver

namespace Rig

/-- At an event the driver with a serial is asked to switch off: by a command, or by a pulse of its own. -/
def asksOff (r : Rig) (n : Nat) (d : Driver) : Event → Bool
  | .command m c => m == n && d.meansOff c
  | e => d.pulse.any fun q => !q.cancelled && r.rings n q e

/-- In a run the status of the driver with a serial came on less than a time in milliseconds before a
reading of the steady clock, and has said on since. -/
def HeldOn (n millis : Nat) (r : Rig) (es : List Event) (now : Nat) : Prop :=
  ∃ before on during, es = before ++ on :: during ∧ r.CameOn n before on during ∧
    millisBetween (r.run (before ++ [on])).plant.clock.now now < millis

variable {r : Rig} {e : Event} {es : List Event} {n : Nat} {d d' : Driver}

theorem CameOn.saysOn {before during : List Event} (h : r.CameOn n before e during) :
    saysOn n (r.run (before ++ e :: during)) = true := by
  have happ : before ++ e :: during = before ++ [e] ++ during := by simp
  rw [happ, run_append]
  exact throughout_last h.on

/-- What the gate measures is how long ago the status came on. -/
theorem heldOn_iff (hw : r.WellFormed) (hn : Rig.saysOn n r = false)
    (hd : (r.run es).drivers.get? n = some d) (least : UInt32) (now : Nat) :
    HeldOn n least.toNat r es now ↔
      d.status.isOn = true ∧ Driver.isEarly d.onSince least now = true := by
  constructor
  · rintro ⟨before, on, during, rfl, hcame, hlt⟩
    have hon : d.status.isOn = true := (saysOn_eq hd).symm.trans hcame.saysOn
    rw [hcame.onSince_eq hw hd]
    exact ⟨hon, decide_eq_true hlt⟩
  · rintro ⟨hon, hearly⟩
    obtain ⟨before, on, during, rfl, hcame⟩ := exists_cameOn hn ((saysOn_eq hd).trans hon)
    rw [hcame.onSince_eq hw hd] at hearly
    exact ⟨before, on, during, rfl, hcame, of_decide_eq_true hearly⟩

theorem involves_of_asksOff (h : r.asksOff n d e = true) : r.involves n d e = true := by
  cases e with
  | command m c => exact (Bool.and_eq_true_iff.1 h).1
  | pulse m millis timed => simp [asksOff, rings] at h
  | cancelPulse serial => simp [asksOff, rings] at h
  | _ => exact h

/-- A driver that is on and is asked to switch off comes to its gate at the time after the event. -/
theorem asksOff_gate (hw : r.WellFormed) (hd : r.drivers.get? n = some d)
    (hon : d.status.isOn = true) (h : r.asksOff n d e = true) :
    ∃ o, r.Part n d e o ∧ (r.step e).1.drivers.get? n = some o.driver ∧
      d.OffGate (r.found n e)
        (Driver.isEarly d.onSince d.config.minOn (r.step e).1.plant.clock.now = true) o := by
  have hinv := involves_of_asksOff h
  rw [← found_clock hd hinv]
  rcases step_part hw hd e with ⟨rfl, -⟩ | ⟨o, ho, hlive⟩
  · simp [asksOff, rings] at h
  refine ⟨o, ho, hlive, ?_⟩
  cases ho with
  | told c => exact Driver.obey_offGate hon (Bool.and_eq_true_iff.1 h).2
  | pulse millis => simp [asksOff, rings] at h
  | cancel handle mine => simp [asksOff, rings] at h
  | finish pending kept rings => exact Driver.finishPulse_offGate hon pending
  | none apart => cases hinv.symm.trans apart

/-- While the status of a driver says on, it came on at an event of the run. Asked to switch off less than
the least time on after that event, the driver refuses, stays on and writes nothing; later it writes. Told to
pulse at once, it does the same once it is on. A forced switch-off writes at any time. -/
theorem minOn_enforced (s : Setup) {es : List Event} {n : Nat} {d : Driver}
    (hd : (s.rig.run es).drivers.get? n = some d) (hm : d.config.minOn ≠ 0) :
    (d.status.isOn = true →
        ∃ before on during, es = before ++ on :: during ∧ s.rig.CameOn n before on during) ∧
      (d.status.isOn = true → ∀ {e}, (s.rig.run es).asksOff n d e = true →
        ∃ o, (s.rig.run es).Part n d e o ∧
          ((s.rig.run es).step e).1.drivers.get? n = some o.driver ∧
          (∀ c, e = .command n c → ((s.rig.run es).step e).2 = outputReply o.result) ∧
          d.OffGate ((s.rig.run es).found n e)
            (HeldOn n d.config.minOn.toNat s.rig es ((s.rig.run es).step e).1.plant.clock.now) o) ∧
      ((d.set (s.rig.run es).plant true).result = .ok () →
        (d.set (s.rig.run es).plant true).driver.OffGate (d.set (s.rig.run es).plant true).plant
          (d.status.isOn = true →
            HeldOn n d.config.minOn.toNat s.rig es (s.rig.run es).plant.clock.now)
          (d.pulseNow (s.rig.run es).plant)) ∧
      ∀ c, d.stops (s.rig.run es).plant c = true → (obey d (s.rig.run es).plant c).result =
        ((s.rig.run es).plant.board.write d.config.pin (d.config.level false)).1.mapError .gpio := by
  have hw := setup_wellFormed s
  have hstart : saysOn n s.rig = false := rfl
  refine ⟨fun hon => exists_cameOn hstart ((saysOn_eq hd).trans hon), fun hon e he => ?_,
    fun hset => ?_, fun c hc => Driver.stops_result hc⟩
  · obtain ⟨o, ho, hlive, hgate⟩ := asksOff_gate (run_wellFormed hw es) hd hon he
    refine ⟨o, ho, hlive, fun c hc => ?_, hgate.congr ?_⟩
    · subst hc
      exact ho.reply hd
    · rw [heldOn_iff hw hstart hd]
      exact and_iff_right hon
  · refine (Driver.pulseNow_offGate hm hset).congr (forall_congr' fun hon => ?_)
    rw [heldOn_iff hw hstart hd]
    exact and_iff_right hon

/-- An output that stays on for a second at least. It is told to switch on twice, four tenths of a second
apart, and two more tenths pass. -/
def renewed : List Event :=
  [.create { Output.Config.plain 1 "valve" .relay 17 with minOn := 1000 }, .command 0 (.set true),
    .drift 400000000, .command 0 (.set true), .drift 200000000]

/-- It is too early to switch off six tenths of a second after the output came on. -/
theorem renewed_held :
    ∃ d o, (Setup.plain.rig.run renewed).drivers.get? 0 = some d ∧
      (Setup.plain.rig.run renewed).Part 0 d (.command 0 (.set false)) o ∧
      o.result = .error (.refused .minOnTime) ∧ o.driver.status.state = .on := by
  obtain ⟨d, hd⟩ : ∃ d, (Setup.plain.rig.run renewed).drivers.get? 0 = some d :=
    Option.isSome_iff_exists.1 (by decide +kernel)
  have hfacts : ((Setup.plain.rig.run renewed).drivers.get? 0).map
      (fun d => (d.config.minOn, d.status.isOn)) = some (1000, true) := by
    decide +kernel
  simp only [hd, Option.map_some, Option.some.injEq, Prod.mk.injEq] at hfacts
  obtain ⟨hm, hon⟩ := hfacts
  have hne : d.config.minOn ≠ 0 := by
    rw [hm]
    decide
  obtain ⟨o, ho, -, -, hgate⟩ :=
    (minOn_enforced Setup.plain hd hne).2.1 hon (e := .command 0 (.set false)) rfl
  rw [hm] at hgate
  have hheld := hgate.held ⟨renewed.take 1, .command 0 (.set true), renewed.drop 2, rfl,
    ⟨by decide +kernel, by decide +kernel⟩, by decide +kernel⟩
  exact ⟨d, o, hd, ho, hheld.1, hheld.2.1⟩

end Rig

end Switchboard
