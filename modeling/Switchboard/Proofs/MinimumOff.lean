import Mathlib.Data.List.Induction
import Switchboard.Proofs.Marks

/-!
# The least time off

A driver marks each time at which it switched off while its status said on, or right after it had switched
on (`Rig.fell`). Its gate measures the least time off from the last of these, so an output that is off does
not go on before that time is over, whatever switched it off (`minOff_enforced`), and the gate refuses for
no other reason.

A switch-off that succeeds after one that failed is not marked, since an error says nothing of the line. The
output goes on again at once then (`unmarked_off`).
-/

namespace Switchboard

open Output (Driver Lockout)

namespace Rig

/-- At an event the driver with a serial switched off from on, as far as its status knew. -/
def fell (r : Rig) (n : Nat) (e : Event) : Bool :=
  (r.drivers.get? n).any fun d => d.fell (r.wrote e d.config.pin)

/-- In a run the driver with a serial switched off from on less than a time in milliseconds before the end. -/
def FellWithin (n millis : Nat) (r : Rig) (es : List Event) : Prop :=
  ∃ before e after, es = before ++ e :: after ∧ (r.run before).fell n e = true ∧
    millisBetween (r.run (before ++ [e])).plant.clock.now (r.run es).plant.clock.now < millis

variable {r : Rig} {e : Event} {es : List Event} {n : Nat} {d d' : Driver}

theorem fell_eq (hd : r.drivers.get? n = some d) (e : Event) :
    r.fell n e = d.fell (r.wrote e d.config.pin) := by
  simp [fell, hd]

/-- The mark of the last switching off is the time of one. -/
theorem offSince_fell (hw : r.WellFormed) (hn : r.drivers.get? n = none) (ho : r.owns n es = true)
    (hd : (r.run es).drivers.get? n = some d) {t : Nat} (ht : d.offSince = some t) :
    ∃ before e after, es = before ++ e :: after ∧ (r.run before).fell n e = true ∧
      (r.run (before ++ [e])).plant.clock.now = t := by
  induction es using List.reverseRecOn generalizing d with
  | nil => cases hn.symm.trans hd
  | append_singleton es e ih =>
    obtain ⟨ho, hk⟩ := (owns_append r n es [e]).1 ho
    have hk : (r.run es).keeps n e = true := (Bool.and_eq_true_iff.1 hk).1
    have hw' := run_wellFormed hw es
    rw [run_append] at hd
    cases hd₀ : (r.run es).drivers.get? n with
    | none =>
      rw [(step_born hw' hd₀ hd).1.idle] at ht
      cases ht
    | some d₀ =>
      have hm := (step_marks hw' hd₀ hk hd).2.offSince_eq
      rw [← fell_eq hd₀, ht] at hm
      by_cases hf : (r.run es).fell n e = true
      · rw [if_pos hf] at hm
        refine ⟨es, e, [], rfl, hf, ?_⟩
        rw [run_append]
        exact (Option.some.inj hm).symm
      · rw [if_neg hf] at hm
        obtain ⟨before, e', after, rfl, hf', ht'⟩ := ih ho hd₀ hm.symm
        exact ⟨before, e', after ++ [e], by simp, hf', ht'⟩

/-- No switching off is later than the mark. -/
theorem fell_le_offSince (hw : r.WellFormed) {before after : List Event}
    (ho : r.owns n (before ++ e :: after) = true) (hf : (r.run before).fell n e = true)
    (hd : (r.run (before ++ e :: after)).drivers.get? n = some d) :
    ∃ t, d.offSince = some t ∧ (r.run (before ++ [e])).plant.clock.now ≤ t := by
  obtain ⟨d₀, hd₀, -⟩ := (Option.any_eq_true _ _).1 hf
  induction after using List.reverseRecOn generalizing d with
  | nil =>
    have hw' := run_wellFormed hw before
    have hk : (r.run before).keeps n e = true :=
      (Bool.and_eq_true_iff.1 ((owns_append ..).1 ho).2).1
    rw [run_append] at hd ⊢
    have hm := (step_marks hw' hd₀ hk hd).2.offSince_eq
    rw [← fell_eq hd₀, if_pos hf] at hm
    exact ⟨_, hm, Nat.le_refl _⟩
  | append_singleton after e' ih =>
    have hsplit : before ++ e :: (after ++ [e']) = (before ++ e :: after) ++ [e'] := by simp
    rw [hsplit] at ho hd
    obtain ⟨ho, hk⟩ := (owns_append ..).1 ho
    have hk : (r.run (before ++ e :: after)).keeps n e' = true := (Bool.and_eq_true_iff.1 hk).1
    have hw' := run_wellFormed hw (before ++ e :: after)
    rw [run_append] at hd
    obtain ⟨d₁, hd₁⟩ : ∃ d₁, (r.run (before ++ e :: after)).drivers.get? n = some d₁ := by
      rw [run_append r before] at hd ⊢
      exact live_between (run_wellFormed hw before) hd₀ (e :: after) [e'] hd
    obtain ⟨t, ht, hle⟩ := ih ho hd₁
    have hm := (step_marks hw' hd₁ hk hd).2.offSince_eq
    split at hm
    · refine ⟨_, hm, Nat.le_trans ?_ (step_now_le _ e')⟩
      have happ : before ++ e :: after = before ++ [e] ++ after := by simp
      rw [happ, run_append r (before ++ [e]) after]
      exact run_now_le ..
    · exact ⟨t, hm.trans ht, hle⟩

/-- What the gate measures is how long ago the driver switched off from on. -/
theorem isEarly_iff (hw : r.WellFormed) (hn : r.drivers.get? n = none) (ho : r.owns n es = true)
    (hd : (r.run es).drivers.get? n = some d) (least : UInt32) :
    Driver.isEarly d.offSince least (r.run es).plant.clock.now = true ↔
      FellWithin n least.toNat r es := by
  unfold Driver.isEarly
  rw [Option.any_eq_true]
  constructor
  · rintro ⟨t, ht, hlt⟩
    obtain ⟨before, e, after, he, hf, rfl⟩ := offSince_fell hw hn ho hd ht
    exact ⟨before, e, after, he, hf, of_decide_eq_true hlt⟩
  · rintro ⟨before, e, after, rfl, hf, hlt⟩
    obtain ⟨t, ht, hle⟩ := fell_le_offSince hw ho hf hd
    refine ⟨t, ht, decide_eq_true (Nat.lt_of_le_of_lt ?_ hlt)⟩
    exact millisBetween_le hle (Nat.le_refl _)

end Rig

namespace Output.Driver

variable {d : Driver} {p : Plant} {now : Nat}

/-- A gate that lets a driver on which is not on has found it off for long enough. -/
theorem not_isEarly_of_refusal? (h : d.refusal? now true = none) (hon : d.status.isOn = false) :
    isEarly d.offSince d.config.minOff now = false := by
  unfold refusal? at h
  split at h
  · cases h
  · rename_i hl
    rw [Bool.eq_false_iff]
    intro he
    simp [hon, he] at h
  · cases ‹true = false›

/-- A driver that is neither on nor latched is refused for the least time off if it is early. -/
theorem set_refused_iff (hon : d.status.isOn = false) (hl : d.status.latched? = none) :
    (d.set p true).result = .error (.refused .minOffTime) ↔
      isEarly d.offSince d.config.minOff p.clock.now = true := by
  have hr : d.refusal? p.clock.now true =
      if isEarly d.offSince d.config.minOff p.clock.now then some .minOffTime else none := by
    simp [refusal?, hl, hon]
  have hres : (d.set p true).result = (d.apply p true (d.config.fullDuty true)).result := by
    unfold set command
    dsimp only
    split <;> rfl
  rw [hres]
  have hc := d.apply_cases p true (d.config.fullDuty true)
  generalize d.apply p true (d.config.fullDuty true) = o at hc ⊢
  by_cases he : isEarly d.offSince d.config.minOff p.clock.now = true
  · rw [if_pos he] at hr
    refine ⟨fun _ => he, fun _ => ?_⟩
    cases hc with
    | refused gate alike =>
      rcases gate with gate | ⟨gate, -, -, -⟩
      · cases hr.symm.trans gate
        rfl
      · cases hr.symm.trans gate
    | failed gate pass write alike => cases hr.symm.trans gate
    | done gate pass write clock_eq alike => cases hr.symm.trans gate
  · rw [if_neg he] at hr
    refine ⟨fun hbusy => ?_, fun h => absurd h he⟩
    cases hc with
    | refused gate alike =>
      rcases gate with gate | ⟨-, -, -, rfl⟩
      · cases hr.symm.trans gate
      · cases hbusy
    | failed gate pass write alike => cases hbusy
    | done gate pass write clock_eq alike => cases hbusy

end Output.Driver

namespace Rig

/-- Unless its status is an error, a driver switches off from on when it writes the off level to a pin that
is energised, or that it has just energised. -/
theorem fell_iff (s : Setup) {es : List Event} {n : Nat} {d : Driver} (ho : s.rig.owns n es = true)
    (hd : (s.rig.run es).drivers.get? n = some d) (hst : d.status.state ≠ .error) (e : Event) :
    (s.rig.run es).fell n e = true ↔
      (d.isAt (s.rig.run es).plant true ∨
          ((s.rig.run es).wrote e d.config.pin).contains (d.config.level true) = true) ∧
        ((s.rig.run es).wrote e d.config.pin).contains (d.config.level false) = true := by
  have hsound := run_sound ho hd
  have hon : d.status.isOn = true ↔ d.isAt (s.rig.run es).plant true := by
    constructor
    · intro h
      exact hsound.on (by simpa [Output.Status.isOn] using h)
    · intro h
      cases hs : d.status.state with
      | on => simp [Output.Status.isOn, hs]
      | off => exact absurd (hsound.off (.inl hs)) (Driver.not_isAt_off h)
      | unknown => exact absurd (hsound.off (.inr hs)) (Driver.not_isAt_off h)
      | error => exact absurd hs hst
  rw [fell_eq hd, Driver.fell, Bool.and_eq_true, Bool.or_eq_true, hon]

/-- A driver that has its pin for itself takes its output from off to on only when the least time off has
passed since every time that it switched off from on. Neither on nor latched, it is refused for the least
time off exactly as long as that has not passed. A switch-off escapes its notice only after an error. -/
theorem minOff_enforced (s : Setup) {es : List Event} {n : Nat} {d : Driver}
    (ho : s.rig.owns n es = true) (hd : (s.rig.run es).drivers.get? n = some d) :
    (∀ {e}, (s.rig.run es).keeps n e = true → e ≠ .close n → d.isAt (s.rig.run es).plant false →
        ((s.rig.run es).wrote e d.config.pin).contains (d.config.level true) = true →
        ∀ {before off after}, es = before ++ off :: after → (s.rig.run before).fell n off = true →
          d.config.minOff.toNat ≤ millisBetween (s.rig.run (before ++ [off])).plant.clock.now
            ((s.rig.run es).step e).1.plant.clock.now) ∧
      (d.status.isOn = false → d.status.latched? = none →
        ((d.set (s.rig.run es).plant true).result = .error (.refused .minOffTime) ↔
          FellWithin n d.config.minOff.toNat s.rig es)) ∧
      (d.status.state ≠ .error → ∀ e, (s.rig.run es).fell n e = true ↔
        (d.isAt (s.rig.run es).plant true ∨
            ((s.rig.run es).wrote e d.config.pin).contains (d.config.level true) = true) ∧
          ((s.rig.run es).wrote e d.config.pin).contains (d.config.level false) = true) := by
  have hw := setup_wellFormed s
  refine ⟨?_, fun hon hl => ?_, fell_iff s ho hd⟩
  · intro e hk hc hoff hwrote before off after he hf
    have hon : d.status.isOn = false := by
      rw [Bool.eq_false_iff]
      intro hon
      have hst : d.status.state = .on := by simpa [Output.Status.isOn] using hon
      exact Driver.not_isAt_off ((run_sound ho hd).on hst) hoff
    rcases step_turned (run_wellFormed hw es) hd hk with ⟨rfl, -⟩ | ⟨-, -, -, -, live⟩
    · exact absurd rfl hc
    · obtain ⟨-, hm⟩ := step_marks (run_wellFormed hw es) hd hk live
      have hearly := Driver.not_isEarly_of_refusal? (hm.gate hwrote) hon
      subst he
      obtain ⟨t, ht, hle⟩ := fell_le_offSince hw ho hf hd
      simp only [Driver.isEarly, ht, Option.any_some, decide_eq_false_iff_not, Nat.not_lt] at hearly
      exact Nat.le_trans hearly (millisBetween_le hle (Nat.le_refl _))
  · rw [Driver.set_refused_iff hon hl]
    exact isEarly_iff hw rfl ho hd _

/-- An output that stays off for a second, and is on. -/
def running : List Event :=
  [.create { Output.Config.plain 1 "pump" .relay 17 with minOff := 1000 }, .command 0 (.set true)]

/-- Switched off and told to go on at once, the output is refused. -/
theorem minOff_enforced_running :
    ∃ d, Setup.plain.rig.owns 0 (running ++ [.command 0 (.set false)]) = true ∧
      (Setup.plain.rig.run (running ++ [.command 0 (.set false)])).drivers.get? 0 = some d ∧
      (d.set (Setup.plain.rig.run (running ++ [.command 0 (.set false)])).plant true).result =
        .error (.refused .minOffTime) := by
  obtain ⟨d, hd⟩ : ∃ d,
      (Setup.plain.rig.run (running ++ [.command 0 (.set false)])).drivers.get? 0 = some d :=
    Option.isSome_iff_exists.1 (by decide +kernel)
  have hfacts : ((Setup.plain.rig.run (running ++ [.command 0 (.set false)])).drivers.get? 0).map
      (fun d => (d.config.minOff, d.status.isOn, d.status.latched?)) = some (1000, false, none) := by
    decide +kernel
  simp only [hd, Option.map_some, Option.some.injEq, Prod.mk.injEq] at hfacts
  obtain ⟨hm, hon, hl⟩ := hfacts
  have ho : Setup.plain.rig.owns 0 (running ++ [.command 0 (.set false)]) = true := by
    decide +kernel
  refine ⟨d, ho, hd, ((minOff_enforced Setup.plain ho hd).2.1 hon hl).2 ?_⟩
  rw [hm]
  exact ⟨running, _, [], rfl, by decide +kernel, by decide +kernel⟩

/-- Switched off at the second attempt, it goes on again at once: at one time the pin goes from on to off
and from off to on. -/
theorem unmarked_off :
    ∃ es, Setup.plain.rig.owns 0 (es ++ [.command 0 (.set false), .command 0 (.set true)]) = true ∧
      ((Setup.plain.rig.run es).drivers.get? 0).map (·.config.minOff) = some 1000 ∧
      energised 0 (Setup.plain.rig.run es) = true ∧
      energised 0 (Setup.plain.rig.run (es ++ [.command 0 (.set false)])) = false ∧
      energised 0
        (Setup.plain.rig.run (es ++ [.command 0 (.set false), .command 0 (.set true)])) = true ∧
      millisBetween (Setup.plain.rig.run (es ++ [.command 0 (.set false)])).plant.clock.now
        (Setup.plain.rig.run
          (es ++ [.command 0 (.set false), .command 0 (.set true)])).plant.clock.now = 0 := by
  refine ⟨running ++ [.setFailing 17 true, .command 0 (.set false), .setFailing 17 false],
    ?_, ?_, ?_, ?_, ?_, ?_⟩
  all_goals decide +kernel

end Rig

end Switchboard
