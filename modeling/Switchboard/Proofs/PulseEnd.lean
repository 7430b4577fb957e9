import Switchboard.Proofs.MinimumOn

/-!
# The end of a pulse

A driver that pulses and is left alone (`Rig.LeftAlone`) goes through three stages. Its pulse waits while the
output is on; the timer gets to the pulse; from then on the output rests. The end of the pulse comes to the
gate of the least time on like a command. If the output has been on for long enough it rests off, and it
does so too if it was switched off by force while the pulse waited. Otherwise the switch-off is refused, and
as a pulse ends only once the output stays on (`pulse_ends`, `short_pulse_stays_on`).
-/

namespace Switchboard

open Output (Driver Outcome Pulse)

namespace Output.Driver

/-- The pulse waits, and the output is on. -/
structure Waits (q : Pulse) (d : Driver) : Prop where
  pulse : d.pulse = some q
  state : d.status.state = .on

/-- No pulse waits, and the output is in a position. -/
structure Rests (on : Bool) (d : Driver) : Prop where
  pulse : d.pulse = none
  state : d.status.state = if on then .on else .off

variable {d : Driver} {p : Plant}

/-- A command that is not carried out and whose write does not fail leaves the state. -/
theorem command_state {on : Bool} {duty : Single} (h : (d.command p on duty).result.isOk = false)
    (hf : (d.command p on duty).driver.status.state ≠ .error) :
    (d.command p on duty).driver.status.state = d.status.state := by
  rcases d.command_ends p on duty with ⟨hok, -⟩ | ⟨r, -, hstate⟩ | ⟨e, -, hstate⟩
  · rw [hok] at h
    cases h
  · exact hstate
  · exact absurd hstate hf

theorem obey_state {c : Command} (ha : d.accepts p c = false) (hs : d.stops p c = false)
    (hf : (Rig.obey d p c).driver.status.state ≠ .error) :
    (Rig.obey d p c).driver.status.state = d.status.state := by
  cases c with
  | set on => exact command_state ha hf
  | toggle => exact command_state ha hf
  | duty x =>
    have ha : (d.setDuty p x).result.isOk = false := ha
    simp only [Rig.obey] at hf ⊢
    by_cases hx : x.isFinite = true
    · obtain ⟨duty, he⟩ := d.setDuty_eq_command p hx
      rw [he] at ha hf ⊢
      exact command_state ha hf
    · rw [setDuty_of_not_isFinite (Bool.eq_false_iff.2 hx)]
  | process =>
    have hidle : d.overdue? p.clock.now = none := Option.not_isSome_iff_eq_none.1 (by simpa [stops] using hs)
    simp only [Rig.obey, process, hidle]
  | emergencyStop | shutdown => cases hs
  | resetLockout | restore total cycles => rfl
  | pulseNow =>
    have ha : (d.set p true).result.isOk = false := ha
    simp only [Rig.obey] at hf ⊢
    cases hr : (d.set p true).result with
    | error e =>
      rw [pulseNow_of_error hr] at hf ⊢
      exact command_state ha hf
    | ok u =>
      rw [hr] at ha
      cases ha

theorem startPulse_state {serial timer : Nat} {millis : Option UInt32}
    (h : (d.set p true).result.isOk = false)
    (hf : (d.startPulse p serial timer millis).driver.status.state ≠ .error) :
    (d.startPulse p serial timer millis).driver.status.state = d.status.state := by
  cases hr : (d.set p true).result with
  | error e =>
    rw [startPulse_of_error hr] at hf ⊢
    exact command_state h hf
  | ok u =>
    rw [hr] at h
    cases h

theorem forceOff_rests {reason : Option Lockout}
    (hf : (d.forceOff p reason).driver.status.state ≠ .error) :
    (d.forceOff p reason).driver.Rests false := by
  rcases d.forceOff_ends p reason with ⟨-, hstate⟩ | ⟨e, -, hstate⟩
  · exact ⟨forceOff_pulse .., hstate⟩
  · exact absurd hstate hf

/-- A forced switch-off whose write does not fail leaves the output off, without a pulse. -/
theorem obey_rests_off {c : Command} (hs : d.stops p c = true)
    (hf : (Rig.obey d p c).driver.status.state ≠ .error) : (Rig.obey d p c).driver.Rests false := by
  cases c with
  | emergencyStop => exact forceOff_rests hf
  | shutdown => exact forceOff_rests hf
  | process =>
    obtain ⟨q, -, he⟩ := process_of_overdue (Option.isSome_iff_ne_none.1 hs)
    simp only [Rig.obey, he] at hf ⊢
    exact forceOff_rests hf
  | set _ | toggle | duty _ | resetLockout | restore _ _ | pulseNow => cases hs

end Output.Driver

namespace Rig

/-- The status of the driver with a serial is an error: its last write failed. -/
def failed (n : Nat) (r : Rig) : Bool :=
  (r.drivers.get? n).any fun d => d.status.state == .error

/-- In a run the driver with a serial is not given up, no command to it is carried out but forced
switch-offs, none of its writes fails, and the handle of its pulse is not used. -/
structure LeftAlone (r : Rig) (n : Nat) (q : Pulse) (es : List Event) : Prop where
  kept : Event.close n ∉ es
  unasked : r.never (accepts · n) es = true
  unfailed : r.throughout (fun r => !failed n r) es = true
  uncancelled : r.never (cancels · q) es = true

variable {r : Rig} {e : Event} {es es' : List Event} {n : Nat} {d d' : Driver} {q : Pulse} {on : Bool}

theorem LeftAlone.append (h : r.LeftAlone n q (es ++ es')) :
    r.LeftAlone n q es ∧ (r.run es).LeftAlone n q es' := by
  obtain ⟨hk, ha, hf, hc⟩ := h
  rw [List.mem_append, not_or] at hk
  rw [never_append] at ha hc
  rw [throughout_append] at hf
  exact ⟨⟨hk.1, ha.1, hf.1, hc.1⟩, ⟨hk.2, ha.2, hf.2, hc.2⟩⟩

theorem LeftAlone.tail (h : r.LeftAlone n q (e :: es)) : (r.step e).1.LeftAlone n q es := by
  have happ : e :: es = [e] ++ es := rfl
  rw [happ] at h
  exact h.append.2

theorem LeftAlone.head (h : r.LeftAlone n q (e :: es)) :
    e ≠ .close n ∧ r.accepts n e = false ∧ failed n (r.step e).1 = false ∧ r.cancels q e = false := by
  obtain ⟨hk, ha, hf, hc⟩ := h
  have hfirst : (!failed n (r.step e).1) = true := throughout_first (Bool.and_eq_true_iff.1 hf).2
  refine ⟨fun he => hk (he ▸ List.mem_cons_self ..), ?_, by simpa using hfirst, ?_⟩
  · simpa using (Bool.and_eq_true_iff.1 ha).1
  · simpa using (Bool.and_eq_true_iff.1 hc).1

theorem state_ne_error (hd : r.drivers.get? n = some d) (h : failed n r = false) :
    d.status.state ≠ .error := by
  simpa [failed, hd] using h

/-! ## Steps of a driver that is left alone -/

theorem step_stopped (hw : r.WellFormed) (hd : r.drivers.get? n = some d) (hs : r.stops n e = true)
    (hf : failed n (r.step e).1 = false) :
    ∃ d', (r.step e).1.drivers.get? n = some d' ∧ d'.Rests false := by
  rcases step_part hw hd e with ⟨rfl, -⟩ | ⟨o, ho, hlive⟩
  · cases hs
  have hne := state_ne_error hlive hf
  cases ho with
  | told c =>
    rw [stops_command hd] at hs
    exact ⟨_, hlive, Driver.obey_rests_off hs hne⟩
  | pulse millis => cases hs
  | cancel handle mine => cases hs
  | finish pending kept rings => cases e <;> first | cases hs | cases rings
  | none apart =>
    cases e with
    | command m c =>
      have hm : (m == n) = false := apart
      simp [stops, hm] at hs
    | _ => cases hs

/-- An event at which no command is carried out, no write fails and the timer does not get to a pulse
leaves the state. -/
theorem step_state (hw : r.WellFormed) (hd : r.drivers.get? n = some d) (hk : e ≠ .close n)
    (ha : r.accepts n e = false) (hs : r.stops n e = false) (hf : failed n (r.step e).1 = false)
    (hr : ∀ q, d.pulse = some q → r.rings n q e = false) :
    ∃ d', (r.step e).1.drivers.get? n = some d' ∧ d'.status.state = d.status.state := by
  rcases step_part hw hd e with ⟨he, -⟩ | ⟨o, ho, hlive⟩
  · exact absurd he hk
  have hne := state_ne_error hlive hf
  refine ⟨_, hlive, ?_⟩
  cases ho with
  | told c =>
    rw [accepts_command hd] at ha
    rw [stops_command hd] at hs
    exact Driver.obey_state ha hs hne
  | pulse millis =>
    rw [accepts_pulse hd] at ha
    exact Driver.startPulse_state ha hne
  | cancel handle mine => rfl
  | finish pending kept rings => cases (hr _ pending).symm.trans rings
  | none apart => rfl

theorem step_no_pulse (hw : r.WellFormed) (hd : r.drivers.get? n = some d) (hp : d.pulse = none)
    (ha : r.accepts n e = false) (hd' : (r.step e).1.drivers.get? n = some d') : d'.pulse = none := by
  rcases step_part hw hd e with ⟨-, hn⟩ | ⟨o, ho, hlive⟩
  · cases hn.symm.trans hd'
  cases hlive.symm.trans hd'
  cases ho with
  | told c => rw [Driver.obey_pulse, hp, ite_self]
  | pulse millis =>
    rw [accepts_pulse hd] at ha
    rw [Driver.startPulse_pulse, ha, hp]
    rfl
  | cancel handle mine => simp [Driver.cancelPulse, hp]
  | finish pending kept rings => cases hp.symm.trans pending
  | none apart => exact hp

/-- An output that rests stays as it is; if it is on, only as long as it is not switched off by force. -/
theorem step_rests (hw : r.WellFormed) (hd : r.drivers.get? n = some d) (h : d.Rests on)
    (hl : r.LeftAlone n q (e :: es)) (hs : on = true → r.stops n e = false) :
    ∃ d', (r.step e).1.drivers.get? n = some d' ∧ d'.Rests on := by
  obtain ⟨hk, ha, hf, -⟩ := hl.head
  by_cases hstop : r.stops n e = true
  · have hoff : on = false := by
      rw [Bool.eq_false_iff]
      intro hon
      cases (hs hon).symm.trans hstop
    subst hoff
    exact step_stopped hw hd hstop hf
  · have hr : ∀ q, d.pulse = some q → r.rings n q e = false := by
      intro q hq
      cases h.pulse.symm.trans hq
    obtain ⟨d', hd', hstate⟩ := step_state hw hd hk ha (Bool.eq_false_iff.2 hstop) hf hr
    exact ⟨d', hd', step_no_pulse hw hd h.pulse ha hd', hstate.trans h.state⟩

theorem run_rests (hw : r.WellFormed) (hd : r.drivers.get? n = some d) (h : d.Rests on)
    (hl : r.LeftAlone n q es) (hs : on = true → r.never (stops · n) es = true) :
    ∃ d', (r.run es).drivers.get? n = some d' ∧ d'.Rests on := by
  induction es generalizing r d with
  | nil => exact ⟨d, hd, h⟩
  | cons e es ih =>
    have hstop : on = true → r.stops n e = false ∧ (r.step e).1.never (stops · n) es = true := by
      intro hon
      simpa [never] using hs hon
    obtain ⟨d₁, hd₁, h₁⟩ := step_rests hw hd h hl fun hon => (hstop hon).1
    exact ih (hw.step e) hd₁ h₁ hl.tail fun hon => (hstop hon).2

/-- A pulse that is not over waits on, unless the output is switched off by force. -/
theorem step_waits (hw : r.WellFormed) (hb : r.Begun n q) (hq : q.cancelled = false)
    (hd : r.drivers.get? n = some d) (h : d.Waits q) (hl : r.LeftAlone n q (e :: es))
    (hr : r.rings n q e = false) :
    ∃ d', (r.step e).1.drivers.get? n = some d' ∧ (d'.Waits q ∨ d'.Rests false) := by
  obtain ⟨hk, ha, hf, hc⟩ := hl.head
  by_cases hstop : r.stops n e = true
  · obtain ⟨d', hd', hrests⟩ := step_stopped hw hd hstop hf
    exact ⟨d', hd', .inr hrests⟩
  · have hs : r.stops n e = false := Bool.eq_false_iff.2 hstop
    have hnot : ∀ q', d.pulse = some q' → r.rings n q' e = false := by
      intro q' hq'
      cases h.pulse.symm.trans hq'
      exact hr
    obtain ⟨d', hd', hstate⟩ := step_state hw hd hk ha hs hf hnot
    have hends : r.ends n q e = false := by simp [ends, ha, hs, hc, hr]
    exact ⟨d', hd', .inl ⟨(step_pending hw hb hq hd hd').2 ⟨h.pulse, hends⟩, hstate.trans h.state⟩⟩

theorem run_waits (hw : r.WellFormed) (hb : r.Begun n q) (hq : q.cancelled = false)
    (hd : r.drivers.get? n = some d) (h : d.Waits q) (hl : r.LeftAlone n q es)
    (hr : r.never (rings · n q) es = true) :
    ∃ d', (r.run es).drivers.get? n = some d' ∧ (d'.Waits q ∨ d'.Rests false) := by
  induction es generalizing r d with
  | nil => exact ⟨d, hd, .inl h⟩
  | cons e es ih =>
    have hring : r.rings n q e = false ∧ (r.step e).1.never (rings · n q) es = true := by
      simpa [never] using hr
    obtain ⟨d₁, hd₁, h₁⟩ := step_waits hw hb hq hd h hl hring.1
    -- The pulse waits on, or the output is off and rests for the whole of what is left.
    rcases h₁ with h₁ | h₁
    · exact ih (hw.step e) (hb.step e) hd₁ h₁ hl.tail hring.2
    · obtain ⟨d₂, hd₂, h₂⟩ := run_rests (hw.step e) hd₁ h₁ hl.tail fun h => by cases h
      exact ⟨d₂, hd₂, .inr h₂⟩

/-- When the timer gets to a pulse that waits, the output goes off or is held by the least time on. -/
theorem step_fires (hw : r.WellFormed) (hq : q.cancelled = false) (hd : r.drivers.get? n = some d)
    (h : d.Waits q) (hf : failed n (r.step e).1 = false) (hr : r.rings n q e = true) :
    ∃ o, r.Part n d e o ∧ (r.step e).1.drivers.get? n = some o.driver ∧
      (Driver.isEarly d.onSince d.config.minOn (r.step e).1.plant.clock.now = true →
        o.result = .error (.refused .minOnTime) ∧ o.driver.Rests true) ∧
      (¬Driver.isEarly d.onSince d.config.minOn (r.step e).1.plant.clock.now = true →
        o.driver.Rests false) := by
  have hasks : r.asksOff n d e = true := by
    cases e <;> first | cases hr | simp [asksOff, h.pulse, hq, hr]
  have hon : d.status.isOn = true := Output.Status.isOn_iff.2 h.state
  obtain ⟨o, ho, hlive, hgate⟩ := asksOff_gate hw hd hon hasks
  have hpulse : o.driver.pulse = none := by
    rw [Option.some.inj (hlive.symm.trans (step_rung hw hq hd h.pulse hr))]
    exact Driver.apply_pulse ..
  refine ⟨o, ho, hlive, fun hearly => ?_, fun hlate => ?_⟩
  · obtain ⟨hresult, hstate, -⟩ := hgate.held hearly
    exact ⟨hresult, hpulse, hstate⟩
  · obtain ⟨-, hstate⟩ := hgate.tried hlate
    have hne := state_ne_error hlive hf
    cases hok : o.result.isOk with
    | true => exact ⟨hpulse, by rw [hstate, hok]; rfl⟩
    | false =>
      rw [hok] at hstate
      exact absurd hstate hne

/-- The same where the output may have been switched off by force before: then it stays off. -/
theorem step_ends (hw : r.WellFormed) (hq : q.cancelled = false) (hd : r.drivers.get? n = some d)
    (h : d.Waits q ∨ d.Rests false) (hl : r.LeftAlone n q (e :: es)) (hr : r.rings n q e = true) :
    (d.status.isOn = true ∧
        Driver.isEarly d.onSince d.config.minOn (r.step e).1.plant.clock.now = true →
      ∃ o, r.Part n d e o ∧ o.result = .error (.refused .minOnTime) ∧
        (r.step e).1.drivers.get? n = some o.driver ∧ o.driver.Rests true) ∧
    (¬(d.status.isOn = true ∧
        Driver.isEarly d.onSince d.config.minOn (r.step e).1.plant.clock.now = true) →
      ∃ d', (r.step e).1.drivers.get? n = some d' ∧ d'.Rests false) := by
  rcases h with h | h
  · have hf : failed n (r.step e).1 = false := hl.head.2.2.1
    have hon : d.status.isOn = true := Output.Status.isOn_iff.2 h.state
    obtain ⟨o, ho, hlive, hearly, hlate⟩ := step_fires hw hq hd h hf hr
    refine ⟨fun ⟨_, he⟩ => ?_, fun hnot => ⟨_, hlive, hlate fun he => hnot ⟨hon, he⟩⟩⟩
    obtain ⟨hresult, hrests⟩ := hearly he
    exact ⟨o, ho, hresult, hlive, hrests⟩
  · refine ⟨fun ⟨hon, _⟩ => ?_, fun _ => step_rests hw hd h hl nofun⟩
    cases h.state.symm.trans (Output.Status.isOn_iff.1 hon)

theorem pulse_waits {millis : Option UInt32} (hw : r.WellFormed) (hd : r.drivers.get? n = some d)
    (accepted : r.accepts n (.pulse n millis true) = true)
    (alone : (r.step (.pulse n millis true)).1.LeftAlone n (r.pulseOf d millis) es)
    (waits : (r.step (.pulse n millis true)).1.never (rings · n (r.pulseOf d millis)) es = true) :
    ∃ d', (r.run (.pulse n millis true :: es)).drivers.get? n = some d' ∧ d'.config = d.config ∧
      (d'.Waits (r.pulseOf d millis) ∨ d'.Rests false) := by
  obtain ⟨hb, d₁, hd₁, hp, hon⟩ := pulse_begun hd accepted
  have hwaits : d₁.Waits (r.pulseOf d millis) := ⟨hp, Output.Status.isOn_iff.1 hon⟩
  obtain ⟨d₂, hd₂, h₂⟩ := run_waits (hw.step _) hb rfl hd₁ hwaits alone waits
  rw [← run_cons] at hd₂
  exact ⟨d₂, hd₂, run_config hw hd hd₂, h₂⟩

/-- Once the timer has got to a pulse that was left alone, the output is off, unless its status came on less
than the least time on before. Then the switch-off is refused, and the output stays on until it is switched
off by force. -/
theorem pulse_ends (s : Setup) {before mid rest : List Event} {e : Event} {n : Nat}
    {millis : Option UInt32} {d : Driver} {q : Pulse}
    (hd : (s.rig.run before).drivers.get? n = some d)
    (accepted : (s.rig.run before).accepts n (.pulse n millis true) = true)
    (begun : (s.rig.run before).pulseOf d millis = q)
    (alone : ((s.rig.run before).step (.pulse n millis true)).1.LeftAlone n q (mid ++ e :: rest))
    (waits : ((s.rig.run before).step (.pulse n millis true)).1.never (rings · n q) mid = true)
    (fires : (s.rig.run (before ++ .pulse n millis true :: mid)).rings n q e = true) :
    let es := before ++ .pulse n millis true :: mid
    let after := ((s.rig.run es).step e).1
    ∃ d', (after.run rest).drivers.get? n = some d' ∧
      (¬HeldOn n d.config.minOn.toNat s.rig es after.plant.clock.now →
        d'.status.state = .off ∧
          (s.rig.owns n (es ++ e :: rest) = true → d'.isAt (after.run rest).plant false)) ∧
      (HeldOn n d.config.minOn.toNat s.rig es after.plant.clock.now →
        (∃ d₀ o, (s.rig.run es).drivers.get? n = some d₀ ∧ (s.rig.run es).Part n d₀ e o ∧
          o.result = .error (.refused .minOnTime)) ∧
        (after.never (stops · n) rest = true →
          d'.status.state = .on ∧
            (s.rig.owns n (es ++ e :: rest) = true → d'.isAt (after.run rest).plant true))) := by
  intro es after
  subst begun
  have hw : (s.rig.run before).WellFormed := run_wellFormed (setup_wellFormed s) before
  have hes : s.rig.run es = (s.rig.run before).run (.pulse n millis true :: mid) := run_append ..
  have hlast : s.rig.run (es ++ e :: rest) = after.run rest := run_append ..
  have hwes : (s.rig.run es).WellFormed := run_wellFormed (setup_wellFormed s) es
  obtain ⟨hquiet, hloud⟩ := alone.append
  obtain ⟨d₀, hd₀, hconfig, h₀⟩ := pulse_waits hw hd accepted hquiet waits
  rw [← hes] at hd₀
  have hloud : (s.rig.run es).LeftAlone n _ (e :: rest) := hes ▸ hloud
  have hheld : HeldOn n d.config.minOn.toNat s.rig es after.plant.clock.now ↔
      d₀.status.isOn = true ∧
        Driver.isEarly d₀.onSince d₀.config.minOn after.plant.clock.now = true := by
    rw [hconfig]
    exact heldOn_iff (setup_wellFormed s) rfl hd₀ _ _
  obtain ⟨hearly, hlate⟩ := step_ends hwes rfl hd₀ h₀ hloud fires
  -- After that event the output rests.
  have hwafter : after.WellFormed := hwes.step e
  by_cases hh : HeldOn n d.config.minOn.toNat s.rig es after.plant.clock.now
  · obtain ⟨o, ho, hresult, hlive, hrests⟩ := hearly (hheld.1 hh)
    obtain ⟨d', hd'⟩ := run_kept hwafter hlive hloud.tail.kept
    refine ⟨d', hd', fun h => absurd hh h, fun _ => ⟨⟨d₀, o, hd₀, ho, hresult⟩, fun hs => ?_⟩⟩
    obtain ⟨d'', hd'', hon⟩ := run_rests hwafter hlive hrests hloud.tail fun _ => hs
    cases hd'.symm.trans hd''
    refine ⟨hon.state, fun howns => ?_⟩
    have hsound := run_sound howns (hlast ▸ hd')
    exact hlast ▸ hsound.on hon.state
  · obtain ⟨d₁, hd₁, h₁⟩ := hlate (mt hheld.2 hh)
    obtain ⟨d', hd', hoff⟩ := run_rests hwafter hd₁ h₁ hloud.tail nofun
    refine ⟨d', hd', fun _ => ⟨hoff.state, fun howns => ?_⟩, fun h => absurd h hh⟩
    have hsound := run_sound howns (hlast ▸ hd')
    exact hlast ▸ hsound.off (.inl hoff.state)

/-- An output that stays on for a time at least, in milliseconds. -/
def holding (millis : UInt32) : List Event :=
  [.create { Output.Config.plain 1 "valve" .momentary 17 with minOn := millis }]

/-- A pulse of twice the least time on ends off, though a command to switch off was refused meanwhile. -/
theorem long_pulse_ends_off :
    ∃ d, (Setup.plain.rig.run (holding 30 ++ .pulse 0 (some 60) true ::
        [.command 0 (.set false), .advance 60])).drivers.get? 0 = some d ∧ d.status.state = .off := by
  obtain ⟨d, hd⟩ : ∃ d, (Setup.plain.rig.run (holding 30)).drivers.get? 0 = some d :=
    Option.isSome_iff_exists.1 (by decide +kernel)
  have hfacts : ((Setup.plain.rig.run (holding 30)).drivers.get? 0).map
      (fun d => (d.config.minOn, (Setup.plain.rig.run (holding 30)).pulseOf d (some 60))) =
        some (30, ⟨1, 1, 60, false⟩) := by
    decide +kernel
  simp only [hd, Option.map_some, Option.some.injEq, Prod.mk.injEq] at hfacts
  obtain ⟨hm, hq⟩ := hfacts
  obtain ⟨d₀, hd₀⟩ : ∃ d₀, (Setup.plain.rig.run (holding 30 ++ .pulse 0 (some 60) true ::
      [.command 0 (.set false)])).drivers.get? 0 = some d₀ :=
    Option.isSome_iff_exists.1 (by decide +kernel)
  have hlate : ((Setup.plain.rig.run (holding 30 ++ .pulse 0 (some 60) true ::
      [.command 0 (.set false)])).drivers.get? 0).map
        (fun d => Driver.isEarly d.onSince 30 60000000) = some false := by
    decide +kernel
  have hnow : ((Setup.plain.rig.run (holding 30 ++ .pulse 0 (some 60) true ::
      [.command 0 (.set false)])).step (.advance 60)).1.plant.clock.now = 60000000 := by
    decide +kernel
  have halone : ((Setup.plain.rig.run (holding 30)).step (.pulse 0 (some 60) true)).1.LeftAlone 0
      ⟨1, 1, 60, false⟩ ([.command 0 (.set false)] ++ [.advance 60]) :=
    ⟨by simp, by decide +kernel, by decide +kernel, by decide +kernel⟩
  obtain ⟨d', hd', hoff, -⟩ :=
    pulse_ends Setup.plain hd (by decide +kernel) hq halone (by decide +kernel) (by decide +kernel)
  refine ⟨d', hd', (hoff ?_).1⟩
  rw [hm, hnow, heldOn_iff (setup_wellFormed _) rfl hd₀]
  rintro ⟨-, hearly⟩
  rw [hd₀, Option.map_some, hearly] at hlate
  cases hlate

/-- A pulse of a tenth of the least time on leaves the output on, though nothing else is asked of the driver
and no write fails. -/
theorem short_pulse_stays_on :
    ∃ d, (Setup.plain.rig.run (holding 1000)).drivers.get? 0 = some d ∧
      (Setup.plain.rig.run (holding 1000)).accepts 0 (.pulse 0 (some 100) true) = true ∧
      ((Setup.plain.rig.run (holding 1000)).step (.pulse 0 (some 100) true)).1.LeftAlone 0
        ((Setup.plain.rig.run (holding 1000)).pulseOf d (some 100)) [.advance 100] ∧
      (Setup.plain.rig.run (holding 1000 ++ [.pulse 0 (some 100) true])).rings 0
        ((Setup.plain.rig.run (holding 1000)).pulseOf d (some 100)) (.advance 100) = true ∧
      Setup.plain.rig.owns 0 (holding 1000 ++ [.pulse 0 (some 100) true, .advance 100]) = true ∧
      saysOn 0 (Setup.plain.rig.run
        (holding 1000 ++ [.pulse 0 (some 100) true, .advance 100])) = true ∧
      energised 0 (Setup.plain.rig.run
        (holding 1000 ++ [.pulse 0 (some 100) true, .advance 100])) = true := by
  obtain ⟨d, hd⟩ : ∃ d, (Setup.plain.rig.run (holding 1000)).drivers.get? 0 = some d :=
    Option.isSome_iff_exists.1 (by decide +kernel)
  have hq : (Setup.plain.rig.run (holding 1000)).pulseOf d (some 100) = ⟨1, 1, 100, false⟩ := by
    have h : ((Setup.plain.rig.run (holding 1000)).drivers.get? 0).map
        ((Setup.plain.rig.run (holding 1000)).pulseOf · (some 100)) = some ⟨1, 1, 100, false⟩ := by
      decide +kernel
    simpa [hd] using h
  refine ⟨d, hd, ?_⟩
  rw [hq]
  refine ⟨?_, ⟨by simp, ?_, ?_, ?_⟩, ?_, ?_, ?_, ?_⟩
  all_goals decide +kernel

end Rig

end Switchboard
