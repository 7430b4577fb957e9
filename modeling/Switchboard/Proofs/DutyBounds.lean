import Switchboard.Proofs.LatchedStop
import Switchboard.Proofs.RealDuty
import Switchboard.Proofs.Truthful

/-!
# The bounds of a duty

The bounds of an output are looked at once, when its driver is made. After that a duty that is asked for is
brought between them as they are, which is sound only if the lower one is at most the upper one. Both
were numbers in order when the driver was made, and no event changes them (`run_valid`).

A deed of a driver leaves the duty alone or sets it to one that was asked for (`duty_of_deed`), and every
such duty is one that the output may report (`allows_of_asked`). So no run gets a driver to report another
(`run_allows`). What a command with a duty leaves is the duty itself or the bound on its side
(`takes_clamp`), and a duty that is no finite number leaves nothing (`run_bounded`).
-/

namespace Switchboard

open Output (Config Driver Deed)

namespace Output.Config

variable {c : Config} {may : Command → Prop} {on : Bool} {duty x : Single}

/-- A duty is between the bounds of the output. -/
def spans (c : Config) (duty : Single) : Bool :=
  c.minDuty.le duty && duty.le c.maxDuty

/-- A duty that an output may report: none, or one between its bounds. An output without modulation knows
none and all. -/
def Allows (c : Config) (duty : Single) : Prop :=
  duty = Duty.zero ∨ if c.kind = .pwm then c.spans duty = true else duty = Duty.full

/-- An output takes a duty for the one that it is asked for: the same if that is between its bounds, and else
the bound on its side. -/
def Takes (c : Config) (duty x : Single) : Prop :=
  if c.spans x then duty = x
  else if x.lt c.minDuty then duty = c.minDuty
  else c.maxDuty.lt x = true ∧ duty = c.maxDuty

theorem spans_clamp (hx : x.isNaN = false) (h : c.minDuty.le c.maxDuty = true) :
    c.spans (x.clamp c.minDuty c.maxDuty) = true := by
  simp only [spans, Bool.and_eq_true]
  exact ⟨Binary.le_clamp hx h, Binary.clamp_le hx h⟩

/-- Between bounds that are in order, the duty that is brought between them is the one that is taken. -/
theorem takes_clamp (hx : x.isNaN = false) (h : c.minDuty.le c.maxDuty = true) :
    c.Takes (x.clamp c.minDuty c.maxDuty) x := by
  obtain ⟨hmin, hmax, -⟩ := Binary.le_iff.1 h
  unfold Takes Binary.clamp
  cases hbelow : x.lt c.minDuty with
  | true =>
    have hspans : c.spans x = false := by
      cases hle : c.minDuty.le x with
      | true => cases hbelow.symm.trans (Binary.not_lt_of_le hle)
      | false => simp [spans, hle]
    simp [hspans]
  | false =>
    have hle : c.minDuty.le x = true := Binary.le_of_not_lt hmin hx hbelow
    cases habove : c.maxDuty.lt x with
    | true =>
      have hspans : c.spans x = false := by
        cases hle' : x.le c.maxDuty with
        | true => cases habove.symm.trans (Binary.not_lt_of_le hle')
        | false => simp [spans, hle']
      simp [hspans]
    | false =>
      have hle' : x.le c.maxDuty = true := Binary.le_of_not_lt hx hmax habove
      simp [spans, hle, hle']

/-- Every duty that a valid output is asked for is one that it may report. -/
theorem allows_of_asked (hv : c.validate = .ok ()) (h : c.Asked may on duty) : c.Allows duty := by
  have hbounds := minDuty_le_maxDuty hv
  rcases h with rfl | ⟨x, -, hx, hk, rfl, -⟩
  · cases on with
    | false => exact .inl rfl
    | true =>
      refine .inr ?_
      by_cases hk : c.kind = .pwm
      · obtain ⟨-, hmax, -⟩ := Binary.le_iff.1 hbounds
        have hself : c.maxDuty.le c.maxDuty = true := Binary.le_iff.2 ⟨hmax, hmax, Int.le_refl _⟩
        simp [fullDuty, hk, spans, hbounds, hself]
      · simp [fullDuty, hk]
  · refine .inr ?_
    rw [if_pos hk]
    exact spans_clamp (Binary.isNaN_of_isFinite hx) hbounds

end Output.Config

/-! ## The duty of a driver -/

namespace Output.Driver

variable {may : Command → Prop} {d d' : Driver} {p p' : Plant} {on : Bool} {duty x : Single}

/-- A deed leaves the duty, or sets it to one that was asked for. -/
theorem duty_of_deed (hd : Deed may d p d' p') :
    d'.status.duty = d.status.duty ∨ ∃ on, d.config.Asked may on d'.status.duty := by
  cases hd with
  | note alike => exact .inl rfl
  | @apply on duty asked =>
    have hc := d.apply_cases p on duty
    generalize d.apply p on duty = o at hc ⊢
    cases hc with
    | refused gate alike => exact .inl Status.refuse_duty
    | failed gate pass write alike => exact .inl rfl
    | done gate pass write clock_eq alike =>
      rw [settle_duty]
      exact .inr ⟨on, asked⟩
  | @force reason compelled =>
    have hc := d.forceOff_cases p reason
    generalize d.forceOff p reason = o at hc ⊢
    cases hc with
    | failed write alike =>
      cases reason with
      | none => exact .inl rfl
      | some r => exact .inl rfl
    | done write clock_eq alike =>
      -- A switch-off asks for the full duty of the off position, which is none.
      rw [settle_duty]
      exact .inr ⟨false, .inl rfl⟩
  | unlock told => exact .inl rfl
  | restore told => exact .inl rfl
  | dropPulse => exact .inl rfl
  | cancelPulse serial => exact .inl rfl
  | beginPulse q number isOn => exact .inl rfl

/-- A command that was carried out leaves the duty that it was for. -/
theorem command_duty (h : (d.command p on duty).result = .ok ()) :
    (d.command p on duty).driver.status.duty = duty := by
  have hc := d.apply_cases p on duty
  revert h
  unfold command
  generalize d.apply p on duty = o at hc ⊢
  intro h
  cases hc with
  | refused gate alike => cases h
  | failed gate pass write alike => cases h
  | done gate pass write clock_eq alike => exact settle_duty

/-- A duty that a modulated output was switched to is the one that it takes for the one asked for. -/
theorem setDuty_takes (hv : d.config.validate = .ok ()) (hk : d.config.kind = .pwm)
    (h : (d.setDuty p x).result = .ok ()) :
    d.config.Takes (d.setDuty p x).driver.status.duty x := by
  cases hx : x.isFinite with
  | false =>
    rw [setDuty_of_not_isFinite hx] at h
    cases h
  | true =>
    have he : d.setDuty p x = d.command p (Duty.threshold.lt (x.clamp d.config.minDuty d.config.maxDuty))
        (x.clamp d.config.minDuty d.config.maxDuty) := by
      simp only [setDuty, hx, hk, Bool.not_true, Bool.false_eq_true, if_false, if_true]
    rw [he] at h ⊢
    rw [command_duty h]
    exact Config.takes_clamp (Binary.isNaN_of_isFinite hx) (Config.minDuty_le_maxDuty hv)

end Output.Driver

/-! ## The duties of a run -/

namespace Rig

/-- No run gets a driver to report a duty that its output does not allow. -/
theorem run_allows {s : Setup} {es : List Event} {n : Nat} {d : Driver}
    (hd : (s.rig.run es).drivers.get? n = some d) : d.config.Allows d.status.duty := by
  have hw := setup_wellFormed s
  refine run_everyDriver (J := fun d => d.config.validate = .ok () → d.config.Allows d.status.duty)
    (fun n c _ => .inl rfl) ?_ hw nofun es hd (run_valid hw nofun es hd)
  intro may d d' p p' hdeed hd hv
  have hc : d'.config = d.config := (Frame.of_deed hdeed).config_eq
  rw [hc] at hv ⊢
  rcases Driver.duty_of_deed hdeed with hsame | ⟨on, hasked⟩
  · rw [hsame]
    exact hd hv
  · exact Config.allows_of_asked hv hasked

/-- In every state that a run reaches, the bounds of an output are in order, so that a duty can be brought
between them, and the duty that it reports is one that it may report. A duty that is no finite number is an
invalid parameter, and nothing else comes of it. A modulated output that carries a duty out reports that
duty, or the bound on its side. -/
theorem run_bounded (s : Setup) (es : List Event) {n : Nat} {d : Driver}
    (hd : (s.rig.run es).drivers.get? n = some d) :
    d.config.minDuty.le d.config.maxDuty = true ∧ d.config.Allows d.status.duty ∧
      (∀ x : Single, x.isFinite = false → ∃ e : Output.Error, e.kind = .invalidParam ∧
        (s.rig.run es).step (.command n (.duty x)) = (s.rig.run es, .outputFailed e)) ∧
      (∀ x : Single, d.config.kind = .pwm →
        ((s.rig.run es).step (.command n (.duty x))).2 = .done →
        ∃ d', ((s.rig.run es).step (.command n (.duty x))).1.drivers.get? n = some d' ∧
          d.config.Takes d'.status.duty x) := by
  have hv := run_valid (setup_wellFormed s) nofun es hd
  refine ⟨Config.minDuty_le_maxDuty hv, run_allows hd, fun x hx => ?_, fun x hk hdone => ?_⟩
  · refine ⟨.notFinite d.name x, rfl, ?_⟩
    simp only [step, tell, hd, obey, Driver.setDuty_of_not_isFinite hx, keep_self hd, outputReply]
  · simp only [step, tell, hd] at hdone ⊢
    have hok : (d.setDuty (s.rig.run es).plant x).result = .ok () := outputReply_eq_done_iff.1 hdone
    exact ⟨_, Table.get?_insert_self, Driver.setDuty_takes hv hk hok⟩

/-- A lamp that is driven from a quarter to three quarters. -/
def dimmer : List Event :=
  [.create { Config.plain 1 "lamp" .pwm 17 with
    minDuty := ⟨false, 0x3E800000⟩, maxDuty := ⟨false, 0x3F400000⟩ }]

/-- Asked for all it goes to three quarters, and asked for what is no number it does nothing. -/
theorem dimmer_bounded :
    (∃ d, ((Setup.plain.rig.run dimmer).step (.command 0 (.duty Duty.full))).1.drivers.get? 0 = some d ∧
      d.status.duty = ⟨false, 0x3F400000⟩) ∧
    ∃ e : Output.Error, e.kind = .invalidParam ∧
      (Setup.plain.rig.run dimmer).step (.command 0 (.duty .nan)) =
        (Setup.plain.rig.run dimmer, .outputFailed e) := by
  obtain ⟨d, hd⟩ : ∃ d, (Setup.plain.rig.run dimmer).drivers.get? 0 = some d :=
    Option.isSome_iff_exists.1 (by decide +kernel)
  obtain ⟨-, -, hnan, htakes⟩ := run_bounded Setup.plain dimmer hd
  have hconfig : ((Setup.plain.rig.run dimmer).drivers.get? 0).map (fun d => (d.config.kind,
      d.config.minDuty, d.config.maxDuty)) = some (.pwm, ⟨false, 0x3E800000⟩, ⟨false, 0x3F400000⟩) := by
    decide +kernel
  rw [hd, Option.map_some, Option.some.injEq, Prod.mk.injEq, Prod.mk.injEq] at hconfig
  obtain ⟨hk, hmin, hmax⟩ := hconfig
  obtain ⟨d', hd', hduty⟩ := htakes Duty.full hk (by rfl)
  refine ⟨⟨d', hd', ?_⟩, hnan .nan (by decide)⟩
  have hspans : d.config.spans Duty.full = false := by
    rw [Config.spans, hmin, hmax]
    decide
  have hlt : Duty.full.lt d.config.minDuty = false := by
    rw [hmin]
    decide
  rw [Config.Takes, hspans, hlt] at hduty
  exact hduty.2.trans hmax

end Rig

end Switchboard
