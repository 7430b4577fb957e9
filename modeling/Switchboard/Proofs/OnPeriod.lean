import Mathlib.Data.List.Induction
import Switchboard.Proofs.Marks
import Switchboard.Proofs.Parts

/-!
# Since when an output is on

The status of a driver that says on came on at one event of the run and has said on since (`Rig.CameOn`):
there is such an event (`exists_cameOn`), and the mark of the last switching on is its time
(`CameOn.onSince_eq`). What the driver measures from its mark is so what the run shows. Nothing is assumed
of the pin here: the mark is the driver's own.
-/

namespace Switchboard

open Output (Driver)

namespace Rig

/-- In a run the status of the driver with a serial came on at an event, and has said on since. -/
structure CameOn (r : Rig) (n : Nat) (before : List Event) (e : Event) (during : List Event) : Prop where
  off : saysOn n (r.run before) = false
  on : (r.run (before ++ [e])).throughout (saysOn n) during = true

variable {r : Rig} {e : Event} {es before during : List Event} {n : Nat} {d d' : Driver}

theorem saysOn_eq_true_iff : saysOn n r = true ↔ ∃ d, r.drivers.get? n = some d ∧ d.status.isOn = true := by
  unfold saysOn
  rw [Option.any_eq_true]

theorem saysOn_eq (hd : r.drivers.get? n = some d) : saysOn n r = d.status.isOn := by
  simp [saysOn, hd]

/-- A stretch at whose end something is so may be longer by one event. -/
theorem throughout_concat {so : Rig → Bool} (h : r.throughout so es = true)
    (hlast : so ((r.run es).step e).1 = true) : r.throughout so (es ++ [e]) = true := by
  have hend : so (r.run es) = true := throughout_last h
  refine (throughout_append ..).2 ⟨h, ?_⟩
  simp only [throughout, hend, hlast, Bool.and_self]

/-- Where a status says on that did not at the start of a run, it came on in the run. -/
theorem exists_cameOn (hr : saysOn n r = false) (h : saysOn n (r.run es) = true) :
    ∃ before e during, es = before ++ e :: during ∧ r.CameOn n before e during := by
  induction es using List.reverseRecOn with
  | nil =>
    rw [run_nil, hr] at h
    cases h
  | append_singleton es e ih =>
    by_cases hbefore : saysOn n (r.run es) = true
    · obtain ⟨before, e', during, rfl, hoff, hon⟩ := ih hbefore
      refine ⟨before, e', during ++ [e], by simp, hoff, throughout_concat hon ?_⟩
      have happ : before ++ e' :: during = before ++ [e'] ++ during := by simp
      rw [run_append, happ, run_append r (before ++ [e'])] at h
      exact h
    · have hoff : saysOn n (r.run es) = false := Bool.eq_false_iff.2 hbefore
      exact ⟨es, e, [], rfl, hoff, h⟩

/-- The mark of the last switching on is set when a status comes on, and stays while it says on. -/
theorem step_onSince (hw : r.WellFormed) (hd : r.drivers.get? n = some d)
    (hd' : (r.step e).1.drivers.get? n = some d') (hon : d'.status.isOn = true) :
    d'.onSince = if d.status.isOn then d.onSince else some (r.step e).1.plant.clock.now := by
  rcases step_part hw hd e with ⟨-, hn⟩ | ⟨o, ho, hlive⟩
  · cases hn.symm.trans hd'
  cases hlive.symm.trans hd'
  obtain ⟨written, hm⟩ := ho.turn.marks
  have hs := hm.onSince hon
  by_cases hinv : r.involves n d e = true
  · rwa [found_clock hd hinv] at hs
  · have hsame : o.driver = d := ho.driver_eq (Bool.eq_false_iff.2 hinv)
    rw [hsame] at hon ⊢
    rw [if_pos hon]

theorem throughout_onSince (hw : r.WellFormed) (h : r.throughout (saysOn n) es = true)
    (hd : r.drivers.get? n = some d) (hd' : (r.run es).drivers.get? n = some d') :
    d'.onSince = d.onSince := by
  induction es generalizing r d with
  | nil =>
    cases hd.symm.trans hd'
    rfl
  | cons e es ih =>
    obtain ⟨hfirst, h⟩ := Bool.and_eq_true_iff.1 h
    have hon : d.status.isOn = true := (saysOn_eq hd).symm.trans hfirst
    obtain ⟨d₁, hd₁, hon₁⟩ := saysOn_eq_true_iff.1 (throughout_first h)
    have hm := step_onSince hw hd hd₁ hon₁
    rw [if_pos hon] at hm
    rw [ih (hw.step e) h hd₁ hd', hm]

/-- The mark of the last switching on is the time at which the status came on. -/
theorem CameOn.onSince_eq (hw : r.WellFormed) (h : r.CameOn n before e during)
    (hd : (r.run (before ++ e :: during)).drivers.get? n = some d) :
    d.onSince = some (r.run (before ++ [e])).plant.clock.now := by
  have happ : before ++ e :: during = before ++ [e] ++ during := by simp
  have hw₁ := run_wellFormed hw before
  have hw₂ := run_wellFormed hw (before ++ [e])
  have hstep : r.run (before ++ [e]) = ((r.run before).step e).1 := run_append ..
  obtain ⟨d₂, hd₂, hon₂⟩ := saysOn_eq_true_iff.1 (throughout_first h.on)
  rw [happ, run_append] at hd
  rw [throughout_onSince hw₂ h.on hd₂ hd]
  rw [hstep] at hd₂ ⊢
  cases hd₁ : (r.run before).drivers.get? n with
  | none =>
    -- A driver that has just been made is not on.
    rw [(step_born hw₁ hd₁ hd₂).1.idle] at hon₂
    cases hon₂
  | some d₁ =>
    have hoff : d₁.status.isOn = false := (saysOn_eq hd₁).symm.trans h.off
    have hm := step_onSince hw₁ hd₁ hd₂ hon₂
    rw [hoff] at hm
    exact hm

end Rig

end Switchboard
