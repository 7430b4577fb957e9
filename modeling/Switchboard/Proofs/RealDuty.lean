import Switchboard.Proofs.Parts

/-!
# What a duty says of a state

An output counts as on above a duty of a hundredth. A duty that a driver is told is compared with that, and
the output is switched to what it stands for. A command to switch on takes the full duty of the output and
compares nothing. So an output that is off has a duty at most the threshold, and one that is on has a duty
above it, unless even its greatest duty is no more than the threshold (`Config.isFaint`). Such an output
goes on at a command, at its greatest duty, which stands for off.

`Driver.Graded` says this of one driver. Every deed of a driver on a valid output keeps it (`Graded.deed`),
and drivers are on valid outputs only (`run_valid`).
-/

namespace Switchboard

open Output (Config Driver Deed Status Lockout)

namespace Output.Config

variable {c : Config}

/-- Even its greatest duty counts as off. -/
def isFaint (c : Config) : Bool :=
  c.kind == .pwm && c.maxDuty.le Duty.threshold

/-- A duty stands for a position: it is above the threshold if the output is on, and at most the threshold if
it is off. A faint output that is on has its greatest duty. -/
def Conveys (c : Config) (on : Bool) (duty : Single) : Prop :=
  if on then if c.isFaint then duty = c.maxDuty else Duty.threshold.lt duty = true
  else duty.le Duty.threshold = true

/-- The duties of a valid output are in order. -/
theorem minDuty_le_maxDuty (h : c.validate = .ok ()) : c.minDuty.le c.maxDuty = true := by
  unfold validate at h
  split at h
  · cases h
  · split at h
    · rename_i hd
      simp only [Bool.and_eq_true, Duty.isShare, Bool.not_eq_true'] at hd
      obtain ⟨⟨⟨hmin, -⟩, hmax, -⟩, hlt⟩ := hd
      exact Binary.le_of_not_lt (Binary.le_iff.1 hmin).2.1 (Binary.le_iff.1 hmax).2.1 hlt
    · cases h

/-- The full duty of a valid output stands for on, as far as a duty of the output can. -/
theorem fullDuty_conveys (h : c.validate = .ok ()) : c.Conveys true (c.fullDuty true) := by
  unfold Conveys isFaint fullDuty
  by_cases hk : c.kind = .pwm
  · simp only [hk, beq_self_eq_true, Bool.true_and, if_true]
    have hnum : c.maxDuty.isNaN = false := (Binary.le_iff.1 (minDuty_le_maxDuty h)).2.1
    split
    · trivial
    · rename_i hle
      cases hlt : Duty.threshold.lt c.maxDuty with
      | true => rfl
      | false => exact absurd (Binary.le_of_not_lt hnum (by decide) hlt) hle
  · simp only [beq_eq_false_iff_ne.2 hk, hk, Bool.false_and, Bool.false_eq_true, if_true, if_false]
    decide

end Output.Config

/-! ## The duty of a driver -/

namespace Output.Driver

variable {may : Command → Prop} {d d' : Driver} {p p' : Plant} {on : Bool} {duty : Single}

/-- The duty of a driver stands for its state. -/
structure Graded (d : Driver) : Prop where
  on : d.status.state = .on → d.config.Conveys true d.status.duty
  off : d.status.state = .off ∨ d.status.state = .unknown → d.config.Conveys false d.status.duty

theorem zero_conveys (c : Config) : c.Conveys false Duty.zero :=
  (by decide : Duty.zero.le Duty.threshold = true)

theorem idle_graded (n : Nat) (c : Config) : (idle n c).Graded :=
  ⟨nofun, fun _ => zero_conveys c⟩

/-- A driver with the state and the duty of another is graded like it. -/
theorem Graded.of_status (h : d.Graded) (hc : d'.config = d.config)
    (hs : d'.status.state = d.status.state) (hd : d'.status.duty = d.status.duty) : d'.Graded := by
  refine ⟨fun hon => ?_, fun hoff => ?_⟩
  · rw [hc, hd]
    exact h.on (hs ▸ hon)
  · rw [hc, hd]
    exact h.off (hs ▸ hoff)

/-- Nothing is said of an output in error. -/
theorem graded_of_error (hs : d.status.state = .error) : d.Graded := by
  constructor
  · intro hon
    cases hs.symm.trans hon
  · rintro (hoff | hoff) <;> cases hs.symm.trans hoff

/-- A driver that was switched, to a duty that stands for the position, is graded. -/
theorem graded_of_switched (hst : d.status.state = if on then .on else .off)
    (h : d.config.Conveys on d.status.duty) : d.Graded := by
  cases on with
  | true =>
    refine ⟨fun _ => h, ?_⟩
    rintro (hoff | hoff) <;> cases hst.symm.trans hoff
  | false => exact ⟨fun hon => (by cases hst.symm.trans hon), fun _ => h⟩

/-- A duty that is asked for with a position stands for it. -/
theorem conveys_of_asked (hv : d.config.validate = .ok ()) (h : d.config.Asked may on duty) :
    d.config.Conveys on duty := by
  rcases h with rfl | ⟨x, -, hx, -, rfl, rfl⟩
  · cases on with
    | false => exact zero_conveys _
    | true => exact Config.fullDuty_conveys hv
  · have hnum := Binary.isNaN_of_isFinite hx
    have hle := Binary.clamp_le hnum (Config.minDuty_le_maxDuty hv)
    generalize x.clamp d.config.minDuty d.config.maxDuty = duty at hle ⊢
    unfold Config.Conveys
    cases hlt : Duty.threshold.lt duty with
    | false => exact Binary.le_of_not_lt (Binary.le_iff.1 hle).1 (by decide) hlt
    | true =>
      -- A duty above the threshold is within the bounds of the output, so the output is not faint.
      have hmax := Binary.lt_of_lt_of_le hlt hle
      have hf : d.config.isFaint = false := by
        cases hm : d.config.maxDuty.le Duty.threshold with
        | false => simp [Config.isFaint, hm]
        | true => cases hmax.symm.trans (Binary.not_lt_of_le hm)
      simp [hf]

/-- No deed of a driver on a valid output lets its duty and its state come apart. -/
theorem Graded.deed (hv : d.config.validate = .ok ()) (hd : Deed may d p d' p') (h : d.Graded) :
    d'.Graded := by
  cases hd with
  | note alike => exact h
  | @apply on duty asked =>
    have hduty := conveys_of_asked hv asked
    have hc := d.apply_cases p on duty
    generalize d.apply p on duty = o at hc ⊢
    cases hc with
    | refused gate alike => exact h.of_status rfl Status.refuse_state Status.refuse_duty
    | failed gate pass write alike => exact graded_of_error rfl
    | done gate pass write clock_eq alike =>
      refine graded_of_switched settle_state ?_
      rw [settle_config, settle_duty]
      exact hduty
  | @force reason compelled =>
    have hc := d.forceOff_cases p reason
    generalize d.forceOff p reason = o at hc ⊢
    cases hc with
    | failed write alike => exact graded_of_error rfl
    | done write clock_eq alike =>
      refine graded_of_switched settle_state ?_
      rw [settle_duty]
      exact zero_conveys _
  | unlock told => exact h.of_status rfl rfl rfl
  | restore told => exact h.of_status rfl rfl rfl
  | dropPulse => exact h.of_status rfl rfl rfl
  | cancelPulse serial => exact h.of_status rfl rfl rfl
  | beginPulse q number isOn => exact h.of_status rfl rfl rfl

end Output.Driver

/-! ## The duties of a run -/

namespace Rig

/-- Every driver that a run makes is on a valid output. -/
theorem run_valid {r : Rig} (hw : r.WellFormed)
    (hv : ∀ {n d}, r.drivers.get? n = some d → d.config.validate = .ok ()) (es : List Event) {n : Nat}
    {d : Driver} (hd : (r.run es).drivers.get? n = some d) : d.config.validate = .ok () := by
  refine run_of_steps (J := fun r => ∀ n d, r.drivers.get? n = some d → d.config.validate = .ok ())
    (fun {r} e hw hv n d' hd' => ?_) hw (fun _ _ => hv) es n d hd
  cases hd : r.drivers.get? n with
  | none => exact step_valid hd hd'
  | some d =>
    rw [step_config hw hd hd']
    exact hv n d hd

/-- In every state that a run reaches, the duty of an output that is off is at most the threshold, and that
of an output that is on is above it, unless even the greatest duty of the output is not. -/
theorem run_graded (s : Setup) (es : List Event) {n : Nat} {d : Driver}
    (hd : (s.rig.run es).drivers.get? n = some d) : d.Graded := by
  have hw := setup_wellFormed s
  refine run_everyDriver (J := fun d => d.config.validate = .ok () → d.Graded)
    (fun n c _ => Driver.idle_graded n c) ?_ hw nofun es hd (run_valid hw nofun es hd)
  intro may d d' p p' hdeed hd hv
  rw [(Frame.of_deed hdeed).config_eq] at hv
  exact (hd hv).deed hv hdeed

/-- A lamp that was set to three tenths, and a night light that goes no higher than half a hundredth and was
told to go on. -/
def evening : List Event :=
  [.create (Config.plain 1 "lamp" .pwm 17),
    .create { Config.plain 2 "night light" .pwm 18 with maxDuty := ⟨false, 0x3BA3D70A⟩ },
    .command 0 (.duty ⟨false, 0x3E99999A⟩), .command 1 (.set true)]

/-- Both are on, the lamp above the threshold. -/
theorem evening_graded :
    ∃ lamp light, (Setup.plain.rig.run evening).drivers.get? 0 = some lamp ∧
      (Setup.plain.rig.run evening).drivers.get? 1 = some light ∧
      lamp.status.state = .on ∧ Duty.threshold.lt lamp.status.duty = true ∧
      light.status.state = .on ∧ light.status.duty = light.config.maxDuty := by
  obtain ⟨lamp, hlamp⟩ : ∃ d, (Setup.plain.rig.run evening).drivers.get? 0 = some d :=
    Option.isSome_iff_exists.1 (by decide +kernel)
  obtain ⟨light, hlight⟩ : ∃ d, (Setup.plain.rig.run evening).drivers.get? 1 = some d :=
    Option.isSome_iff_exists.1 (by decide +kernel)
  have hlampOn : ((Setup.plain.rig.run evening).drivers.get? 0).map
      (fun d => (d.status.state, d.config.isFaint)) = some (.on, false) := by decide +kernel
  have hlightOn : ((Setup.plain.rig.run evening).drivers.get? 1).map
      (fun d => (d.status.state, d.config.isFaint)) = some (.on, true) := by decide +kernel
  rw [hlamp, Option.map_some, Option.some.injEq, Prod.mk.injEq] at hlampOn
  rw [hlight, Option.map_some, Option.some.injEq, Prod.mk.injEq] at hlightOn
  have hlamp' := (run_graded Setup.plain evening hlamp).on hlampOn.1
  have hlight' := (run_graded Setup.plain evening hlight).on hlightOn.1
  refine ⟨lamp, light, hlamp, hlight, hlampOn.1, ?_, hlightOn.1, ?_⟩
  · simpa [Config.Conveys, hlampOn.2] using hlamp'
  · simpa [Config.Conveys, hlightOn.2] using hlight'

/-- The night light is on at a duty that counts as off. -/
theorem evening_faint :
    ∃ d, (Setup.plain.rig.run evening).drivers.get? 1 = some d ∧ d.status.state = .on ∧
      d.status.duty.le Duty.threshold = true := by
  obtain ⟨d, hd⟩ : ∃ d, (Setup.plain.rig.run evening).drivers.get? 1 = some d :=
    Option.isSome_iff_exists.1 (by decide +kernel)
  have hon : ((Setup.plain.rig.run evening).drivers.get? 1).map
      (fun d => (d.status.state, d.status.duty.le Duty.threshold)) = some (.on, true) := by decide +kernel
  rw [hd, Option.map_some, Option.some.injEq, Prod.mk.injEq] at hon
  exact ⟨d, hd, hon.1, hon.2⟩

end Rig

end Switchboard
