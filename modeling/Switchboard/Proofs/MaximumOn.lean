import Switchboard.Proofs.OnPeriod

/-!
# The greatest time on

The time that a driver measures is how long its status has said on without a break: its mark of the last
switching on is the time at which that began (`lasting_saysOn_iff`). When it is asked to enforce the
greatest time on it tries to switch off if that time is over, after whatever writes failed before, and
otherwise it does nothing (`process_enforces`).

The status speaks for the line while it says on, but an error forgets what is on the line. An output whose
switch-off failed once may stay energised for longer, until it is told to switch again
(`stuck_stays_on`).
-/

namespace Switchboard

open Output (Driver Outcome)

namespace Output.Driver

/-- What it leaves that a driver wrote the off level when its greatest time on was over, whether the write
went through or failed. -/
structure ShutOff (d : Driver) (p : Plant) (o : Outcome) : Prop where
  /-- Where writes do not fail, the output is off. -/
  done : p.board.bench.isFailing d.config.pin = false →
    o.result = .ok () ∧ o.driver.status.state = .off ∧ d.isAt o.plant false ∧
      o.plant.board.bench.writes d.config.pin =
        p.board.bench.writes d.config.pin ++ [d.config.level false]
  /-- Where writes fail, the failure is that of this write. -/
  failed : p.board.bench.isFailing d.config.pin = true →
    o.result = .error (.gpio (.device (.injected d.config.pin))) ∧ o.driver.status.state = .error
  /-- The lockout is latched in both cases. -/
  latched : o.driver.status.latched? = some .autoShutoff

theorem overdue?_ne_none_iff {d : Driver} {now : Nat} :
    d.overdue? now ≠ none ↔ d.config.maxOn ≠ 0 ∧ d.status.isOn = true ∧
      ∃ t, d.onSince = some t ∧ d.config.maxOn.toNat * 1000 < millisBetween t now := by
  unfold overdue?
  by_cases hm : d.config.maxOn = 0
  · simp [hm]
  · cases hon : d.status.isOn with
    | false => simp
    | true => cases ht : d.onSince <;> simp [hm, Option.filter]

/-- A driver whose greatest time on is over writes the off level. -/
theorem process_shutOff {d : Driver} {p : Plant} (hd : p.board.Drives d.config.pin)
    (h : d.overdue? p.clock.now ≠ none) : d.ShutOff p (d.process p) := by
  obtain ⟨q, hq, he⟩ := process_of_overdue h
  rw [he]
  have hb := hq.board_eq
  have hw : (q.board.write d.config.pin (d.config.level false)).1 =
      if p.board.bench.isFailing d.config.pin then .error (.device (.injected d.config.pin))
      else .ok () := by
    rw [hb]
    exact hd.write_eq _
  have hl : (d.stopped (some .autoShutoff)).status.latched? = some .autoShutoff :=
    Status.latched?_eq_some_iff.2 ⟨rfl, rfl, rfl⟩
  have hc := d.forceOff_cases q (some .autoShutoff)
  generalize d.forceOff q (some .autoShutoff) = o at hc ⊢
  cases hc with
  | failed write alike =>
    rw [write] at hw
    refine ⟨fun hf => ?_, fun hf => ?_, hl⟩
    · simp [hf] at hw
    · simp only [hf, if_true, Except.error.injEq] at hw
      subst hw
      exact ⟨rfl, rfl⟩
  | done write clock_eq alike =>
    rw [write] at hw
    refine ⟨fun hf => ⟨rfl, rfl, ?_, ?_⟩, fun hf => ?_, settle_latched?.trans hl⟩
    · unfold isAt
      rw [alike.board_eq]
      exact (Gpio.Board.write_level write).1
    · rw [alike.board_eq, ← hb]
      exact (Gpio.Board.write_level write).2
    · simp [hf] at hw

/-- A driver whose greatest time on is not over does nothing. -/
theorem process_idle {d : Driver} {p : Plant} (h : d.overdue? p.clock.now = none) :
    d.process p = ⟨.ok (), d, p, none⟩ := by
  unfold process
  rw [h]

end Output.Driver

namespace Rig

variable {r : Rig} {es : List Event} {n : Nat} {d d' : Driver}

/-- What the driver measures from its mark is how long its status has said on. -/
theorem lasting_saysOn_iff (hw : r.WellFormed) (hn : r.drivers.get? n = none)
    (hd : (r.run es).drivers.get? n = some d) {limit : Nat} :
    Lasting (saysOn n) limit r es ↔ d.status.isOn = true ∧
      ∃ t, d.onSince = some t ∧ limit < millisBetween t (r.run es).plant.clock.now := by
  have hoff : saysOn n r = false := by simp [saysOn, hn]
  constructor
  · rintro ⟨before, during, rfl, ht, hlt⟩
    obtain ⟨d₀, hd₀, hon₀⟩ := saysOn_eq_true_iff.1 (throughout_first ht)
    obtain ⟨d₁, hd₁, hon₁⟩ := saysOn_eq_true_iff.1 (throughout_last ht)
    rw [run_append] at hd hlt ⊢
    cases hd.symm.trans hd₁
    obtain ⟨b, e, b', rfl, hcame⟩ := exists_cameOn hoff (throughout_first ht)
    have hsince : d.onSince = d₀.onSince := throughout_onSince (run_wellFormed hw _) ht hd₀ hd
    refine ⟨hon₁, _, hsince.trans (hcame.onSince_eq hw hd₀),
      Nat.lt_of_lt_of_le hlt (millisBetween_le ?_ (Nat.le_refl _))⟩
    have happ : b ++ e :: b' = b ++ [e] ++ b' := by simp
    rw [happ, run_append r (b ++ [e])]
    exact run_now_le _ _
  · rintro ⟨hon, t, ht, hlt⟩
    obtain ⟨before, e, during, rfl, hcame⟩ := exists_cameOn hoff ((saysOn_eq hd).trans hon)
    cases (hcame.onSince_eq hw hd).symm.trans ht
    exact ⟨before ++ [e], during, by simp, hcame.on, hlt⟩

/-- While the status of a driver says on, its pin is at its on level. -/
theorem energised_of_saysOn {s : Setup} (ho : s.rig.owns n es = true)
    (h : saysOn n (s.rig.run es) = true) : energised n (s.rig.run es) = true := by
  obtain ⟨d, hd, hon⟩ := saysOn_eq_true_iff.1 h
  have hat : d.isAt (s.rig.run es).plant true :=
    (run_sound ho hd).on (Output.Status.isOn_iff.1 hon)
  exact (Option.any_eq_true _ _).2 ⟨d, hd, beq_iff_eq.2 hat⟩

theorem throughout_energised {s : Setup} {before during : List Event}
    (ho : s.rig.owns n (before ++ during) = true)
    (h : (s.rig.run before).throughout (saysOn n) during = true) :
    (s.rig.run before).throughout (energised n) during = true := by
  induction during generalizing before with
  | nil => exact energised_of_saysOn (by rwa [List.append_nil] at ho) h
  | cons e during ih =>
    obtain ⟨hs, h⟩ := Bool.and_eq_true_iff.1 h
    refine Bool.and_eq_true_iff.2 ⟨energised_of_saysOn ((owns_append ..).1 ho).1 hs, ?_⟩
    have hrun : s.rig.run (before ++ [e]) = ((s.rig.run before).step e).1 := run_append ..
    rw [← hrun] at h ⊢
    exact ih (by rwa [List.append_assoc]) h

/-- Asked to enforce a greatest time on, a driver that has its pin for itself writes the off level if its
status has said on for longer, whatever writes failed before. Otherwise it does nothing, and so it does
while its pin has been energised for no longer. -/
theorem process_enforces (s : Setup) {es : List Event} {n : Nat} {d : Driver}
    (ho : s.rig.owns n es = true) (hd : (s.rig.run es).drivers.get? n = some d)
    (hm : d.config.maxOn ≠ 0) :
    (Lasting (saysOn n) (d.config.maxOn.toNat * 1000) s.rig es →
        d.ShutOff (s.rig.run es).plant (d.process (s.rig.run es).plant)) ∧
      (¬Lasting (saysOn n) (d.config.maxOn.toNat * 1000) s.rig es →
        d.process (s.rig.run es).plant = ⟨.ok (), d, (s.rig.run es).plant, none⟩) ∧
      (¬Lasting (energised n) (d.config.maxOn.toNat * 1000) s.rig es →
        d.process (s.rig.run es).plant = ⟨.ok (), d, (s.rig.run es).plant, none⟩) := by
  have hiff : Lasting (saysOn n) (d.config.maxOn.toNat * 1000) s.rig es ↔ _ :=
    lasting_saysOn_iff (setup_wellFormed s) rfl hd
  have hidle : ¬Lasting (saysOn n) (d.config.maxOn.toNat * 1000) s.rig es →
      d.process (s.rig.run es).plant = ⟨.ok (), d, (s.rig.run es).plant, none⟩ := by
    intro h
    refine Driver.process_idle ?_
    by_contra hne
    exact h (hiff.2 (Driver.overdue?_ne_none_iff.1 hne).2)
  refine ⟨fun h => ?_, hidle, fun h => hidle fun hs => h ?_⟩
  · exact Driver.process_shutOff (run_sound ho hd).drives
      (Driver.overdue?_ne_none_iff.2 ⟨hm, hiff.1 h⟩)
  · obtain ⟨before, during, rfl, ht, hlt⟩ := hs
    exact ⟨before, during, rfl, throughout_energised ho ht, hlt⟩

/-- An output that may be on for a second, whose switch-off fails when the second is over. -/
def stuck : List Event :=
  [.create { Output.Config.plain 1 "valve" .relay 17 with maxOn := 1 }, .command 0 (.set true),
    .setFailing 17 true, .drift 1001000000]

/-- When the second is over the output tries to go off, and fails. -/
theorem stuck_shutOff :
    ∃ d, (Setup.plain.rig.run stuck).drivers.get? 0 = some d ∧ d.config.maxOn ≠ 0 ∧
      Lasting (saysOn 0) 1000 Setup.plain.rig stuck ∧
      d.ShutOff (Setup.plain.rig.run stuck).plant (d.process (Setup.plain.rig.run stuck).plant) := by
  obtain ⟨d, hd⟩ : ∃ d, (Setup.plain.rig.run stuck).drivers.get? 0 = some d :=
    Option.isSome_iff_exists.1 (by decide +kernel)
  have hm : d.config.maxOn = 1 := by
    have h : ((Setup.plain.rig.run stuck).drivers.get? 0).map (·.config.maxOn) = some 1 := by
      decide +kernel
    simpa [hd] using h
  have hne : d.config.maxOn ≠ 0 := by
    rw [hm]
    decide
  have hl : Lasting (saysOn 0) 1000 Setup.plain.rig stuck :=
    ⟨stuck.take 2, stuck.drop 2, rfl, by decide +kernel, by decide +kernel⟩
  refine ⟨d, hd, hne, hl, (process_enforces Setup.plain (by decide +kernel) hd hne).1 ?_⟩
  rw [hm]
  exact hl

/-- Once that has failed, and writes succeed again, the output is left on: it has been energised for longer
than it may, but its status no longer says on. -/
theorem stuck_stays_on :
    ∃ es d, Setup.plain.rig.owns 0 es = true ∧ (Setup.plain.rig.run es).drivers.get? 0 = some d ∧
      d.config.maxOn = 1 ∧ Lasting (energised 0) 1000 Setup.plain.rig es ∧
      (Setup.plain.rig.run es).plant.board.bench.isFailing d.config.pin = false ∧
      d.process (Setup.plain.rig.run es).plant = ⟨.ok (), d, (Setup.plain.rig.run es).plant, none⟩ ∧
      d.isAt (d.process (Setup.plain.rig.run es).plant).plant true := by
  let es := stuck ++ [.command 0 .process, .setFailing 17 false]
  obtain ⟨d, hd⟩ : ∃ d, (Setup.plain.rig.run es).drivers.get? 0 = some d :=
    Option.isSome_iff_exists.1 (by decide +kernel)
  have hfacts : ((Setup.plain.rig.run es).drivers.get? 0).map
      (fun d => (d.config.maxOn, d.config.pin, d.status.isOn)) = some (1, 17, false) := by
    decide +kernel
  simp only [hd, Option.map_some, Option.some.injEq, Prod.mk.injEq] at hfacts
  obtain ⟨hm, hp, hoff⟩ := hfacts
  have hidle : d.process (Setup.plain.rig.run es).plant = ⟨.ok (), d, (Setup.plain.rig.run es).plant, none⟩ :=
    Driver.process_idle (by simp [Driver.overdue?, hoff])
  have hl : Lasting (energised 0) 1000 Setup.plain.rig es :=
    ⟨es.take 2, es.drop 2, rfl, by decide +kernel, by decide +kernel⟩
  have hat : energised 0 (Setup.plain.rig.run es) = true := by decide +kernel
  obtain ⟨d', hd', hon⟩ := (Option.any_eq_true _ _).1 hat
  cases hd.symm.trans hd'
  refine ⟨es, d, by decide +kernel, hd, hm, hl, ?_, hidle, ?_⟩
  · rw [hp]
    decide +kernel
  · rw [hidle]
    exact beq_iff_eq.1 hon

end Rig

end Switchboard
