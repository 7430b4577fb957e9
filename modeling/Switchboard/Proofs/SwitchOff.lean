import Switchboard.Proofs.Parts
import Switchboard.Proofs.Truthful

/-!
# Two ways to switch off

An output is switched off by a command, or shut down. Both write the same level and then settle in the same
way, so where the command would be carried out nothing tells them apart but the lockout: a command clears
one that is not latched (`Status.relent`), and a shutdown leaves whatever is shown (`shutdown_eq_set`).

What is shown is a reason or nothing (`Status.Shows`). So the two ways leave the same rig exactly where the
driver shows no reason or a latched one (`run_shutdown`).
-/

namespace Switchboard

open Output (Driver Outcome Status Lockout Deed)

/-! ## What a status shows -/

namespace Output.Status

variable {s : Status} {r : Lockout}

/-- A status is locked out where it gives a reason, and only there. -/
def Shows (s : Status) : Prop :=
  s.lockout = s.reason.isSome

/-- Some reason is shown that a command clears. -/
def isPassing (s : Status) : Bool :=
  s.reason.any (!·.isLatched)

/-- The status with the lockout of another. -/
def showing (s s' : Status) : Status :=
  { s with lockout := s'.lockout, reason := s'.reason }

theorem lock_shows : (s.lock r).Shows := rfl

theorem unlock_shows : s.unlock.Shows := rfl

theorem refuse_shows (h : s.Shows) : (s.refuse r).Shows := by
  unfold refuse
  split
  · exact lock_shows
  · exact h

theorem relent_shows (h : s.Shows) : s.relent.Shows := by
  unfold relent
  split
  · exact unlock_shows
  · exact h

theorem relent_showing (s : Status) : s.relent.showing s = s := by
  unfold relent
  split <;> rfl

theorem showing_eq_self {s' : Status} (hl : s'.lockout = s.lockout) (hr : s'.reason = s.reason) :
    s.showing s' = s := by
  unfold showing
  rw [hl, hr]

/-- A status has no latched reason where it shows none or a passing one. -/
theorem latched?_eq_none_iff (h : s.Shows) : s.latched? = none ↔ s.reason = none ∨ s.isPassing = true := by
  unfold Shows at h
  unfold latched? isPassing
  cases hr : s.reason with
  | none => simp
  | some r =>
    rw [hr] at h
    simp [h]

/-- A command that is carried out leaves what is shown, unless that is a passing reason. -/
theorem relent_eq_self_iff (h : s.Shows) : s.relent = s ↔ s.isPassing = false := by
  unfold relent
  cases hl : s.latched? with
  | some r =>
    obtain ⟨-, hr, hlatched⟩ := latched?_eq_some_iff.1 hl
    simp [isPassing, hr, hlatched]
  | none =>
    rcases (latched?_eq_none_iff h).1 hl with hr | hp
    · have hs : s.lockout = false := by rw [h, hr]; rfl
      have hu : s.unlock = s := by
        unfold unlock
        rw [← hr, ← hs]
      simp [isPassing, hr, hu]
    · have hne : s.unlock ≠ s := by
        intro hu
        rw [← hu] at hp
        cases hp
      simp [hp, hne]

end Output.Status

namespace Output.Driver

variable {may : Command → Prop} {d d' : Driver} {p p' : Plant} {on : Bool} {duty : Single}

/-- The driver with the lockout of a status. -/
def showing (d : Driver) (s : Status) : Driver :=
  { d with status := d.status.showing s }

/-- To settle does not look at the lockout. -/
theorem settle_showing (d : Driver) (s : Status) (p : Plant) (on : Bool) (duty : Single) :
    (d.showing s).settle p on duty =
      ⟨.ok (), (d.settle p on duty).driver.showing s, (d.settle p on duty).plant,
        ((d.showing s).settle p on duty).wreck⟩ := by
  unfold settle transit showing Status.showing
  cases on <;> cases hs : d.status.isOn <;> cases d.onSince <;>
    simp_all [Status.isOn, Status.countCycle, Status.addOnTime, note, name]

/-- To settle does not look at the pulse. -/
theorem settle_dropPulse (d : Driver) (p : Plant) (on : Bool) (duty : Single) :
    d.dropPulse.settle p on duty =
      ⟨.ok (), (d.settle p on duty).driver.dropPulse, (d.settle p on duty).plant,
        (d.dropPulse.settle p on duty).wreck⟩ := by
  unfold settle transit dropPulse
  cases on <;> cases d.status.isOn <;> cases d.onSince <;> simp <;> rfl

@[simp] theorem settle_lockout : (d.settle p on duty).driver.status.lockout = d.status.lockout := by
  unfold settle transit
  cases on <;> cases d.status.isOn <;> cases d.onSince <;> rfl

@[simp] theorem settle_reason : (d.settle p on duty).driver.status.reason = d.status.reason := by
  unfold settle transit
  cases on <;> cases d.status.isOn <;> cases d.onSince <;> rfl

theorem settle_shows (h : d.status.Shows) : (d.settle p on duty).driver.status.Shows := by
  unfold Status.Shows
  rw [settle_lockout, settle_reason]
  exact h

/-- Every deed leaves the lockout and its reason in accord. -/
theorem shows_of_deed (h : Deed may d p d' p') (hs : d.status.Shows) : d'.status.Shows := by
  cases h with
  | @apply on duty asked =>
    have hc := d.apply_cases p on duty
    generalize d.apply p on duty = o at hc ⊢
    cases hc with
    | refused gate alike => exact Status.refuse_shows hs
    | failed gate pass write alike => exact hs
    | done gate pass write clock_eq alike => exact settle_shows (Status.relent_shows hs)
  | @force reason compelled =>
    have hst : (d.stopped reason).status.Shows := by
      cases reason with
      | none => exact hs
      | some r => exact Status.lock_shows
    have hc := d.forceOff_cases p reason
    generalize d.forceOff p reason = o at hc ⊢
    cases hc with
    | failed write alike => exact hst
    | done write clock_eq alike => exact settle_shows hst
  | unlock told => exact Status.unlock_shows
  | note alike => exact hs
  | restore told => exact hs
  | dropPulse => exact hs
  | cancelPulse serial => exact hs
  | beginPulse q number isOn => exact hs

/-! ## The two ways at a driver -/

/-- To shut down does what the command to switch off does, where that is carried out, but for the lockout:
it stays as it was. -/
theorem shutdown_eq_set (h : (d.set p false).result = .ok ()) :
    d.shutdown p = ⟨.ok (), (d.set p false).driver.showing d.status, (d.set p false).plant, (d.shutdown p).wreck⟩ := by
  unfold set command apply at h ⊢
  unfold shutdown
  rw [forceOff_eq]
  cases hg : d.refusal? p.clock.now false with
  | some r =>
    rw [hg] at h
    cases h
  | none =>
    simp only [hg, Bool.false_eq_true, if_false] at h ⊢
    rcases hw : p.write d.config.pin (d.config.level false) with ⟨result, q⟩
    cases result with
    | error e =>
      rw [hw] at h
      cases h
    | ok u =>
      -- Both settle, from statuses that differ in the lockout at most.
      have hd : d.stopped none =
          (Driver.dropPulse { d with status := d.status.relent }).showing d.status := by
        unfold showing dropPulse
        rw [Status.relent_showing]
        rfl
      dsimp only [settle_result]
      rw [hd, settle_showing, settle_dropPulse]
      rfl

/-- What the command to switch off leaves where it is carried out: no pulse, and of the lockout only what
is latched. -/
theorem set_off (h : (d.set p false).result = .ok ()) :
    (d.set p false).driver.pulse = none ∧
      (d.set p false).driver.status.lockout = d.status.relent.lockout ∧
      (d.set p false).driver.status.reason = d.status.relent.reason := by
  unfold set command at h ⊢
  have hc := d.apply_cases p false (d.config.fullDuty false)
  generalize d.apply p false (d.config.fullDuty false) = o at hc h ⊢
  cases hc with
  | refused gate alike => cases h
  | failed gate pass write alike => cases h
  | done gate pass write clock_eq alike => exact ⟨rfl, settle_lockout, settle_reason⟩

/-- So the two ways leave the same driver where the command clears nothing. -/
theorem shutdown_eq_set_iff (h : (d.set p false).result = .ok ()) :
    (d.shutdown p).driver = (d.set p false).driver ↔ d.status.relent = d.status := by
  obtain ⟨-, hl, hr⟩ := set_off h
  rw [shutdown_eq_set h]
  constructor
  · intro he
    have hl' : d.status.lockout = d.status.relent.lockout :=
      (congrArg (·.status.lockout) he).trans hl
    have hr' : d.status.reason = d.status.relent.reason := (congrArg (·.status.reason) he).trans hr
    exact (Status.showing_eq_self hl' hr').symm.trans (Status.relent_showing _)
  · intro he
    rw [he] at hl hr
    unfold showing
    rw [Status.showing_eq_self hl.symm hr.symm]

end Output.Driver

/-! ## The two ways in a run -/

namespace Rig

variable {r : Rig} {n : Nat} {d : Driver}

/-- The rig where the driver with a serial has the lockout of a status. -/
def showing (r : Rig) (n : Nat) (s : Status) : Rig :=
  { r with drivers := r.drivers.modify n (·.showing s) }

theorem run_shows (s : Setup) (es : List Event) (hd : (s.rig.run es).drivers.get? n = some d) :
    d.status.Shows :=
  run_everyDriver (fun _ _ => rfl) Driver.shows_of_deed (setup_wellFormed s) nofun es hd

/-- Where a driver would carry out the command to switch off, it can be shut down instead. That leaves the
rig that the command leaves, except that the driver shows the lockout that it showed before, while the
command clears a passing one: so the two differ where there is one, and nowhere else. -/
theorem run_shutdown (s : Setup) {es : List Event} {n : Nat} {d : Driver}
    (hd : (s.rig.run es).drivers.get? n = some d)
    (hoff : ((s.rig.run es).step (.command n (.set false))).2 = .done) :
    ((s.rig.run es).step (.command n .shutdown)).2 = .done ∧
      ((s.rig.run es).step (.command n .shutdown)).1 =
        ((s.rig.run es).step (.command n (.set false))).1.showing n d.status ∧
      (∃ d', ((s.rig.run es).step (.command n (.set false))).1.drivers.get? n = some d' ∧
        d'.pulse = none ∧ d'.status.lockout = d.status.relent.lockout ∧
        d'.status.reason = d.status.relent.reason) ∧
      (((s.rig.run es).step (.command n .shutdown)).1 =
          ((s.rig.run es).step (.command n (.set false))).1 ↔ d.status.isPassing = false) := by
  have hs := run_shows s es hd
  generalize s.rig.run es = r at hd hoff ⊢
  have hset : r.step (.command n (.set false)) =
      (r.keep n (d.set r.plant false), outputReply (d.set r.plant false).result) := by
    simp only [step, tell, hd]
    rfl
  have hshut : r.step (.command n .shutdown) =
      (r.keep n (d.shutdown r.plant), outputReply (d.shutdown r.plant).result) := by
    simp only [step, tell, hd]
    rfl
  rw [hset] at hoff ⊢
  have hok : (d.set r.plant false).result = .ok () := outputReply_eq_done_iff.1 hoff
  obtain ⟨hpulse, hshown⟩ := Driver.set_off hok
  have heq := Driver.shutdown_eq_set hok
  rw [hshut]
  refine ⟨by rw [heq]; rfl, ?_, ⟨_, Table.get?_insert_self, hpulse, hshown⟩, ?_⟩
  · rw [heq]
    unfold keep showing
    rw [Table.modify_insert]
  · rw [← Status.relent_eq_self_iff hs, ← Driver.shutdown_eq_set_iff hok]
    constructor
    · intro he
      have hget := congrArg (fun r : Rig => r.drivers.get? n) he
      simpa only [keep, Table.get?_insert_self, Option.some.injEq] using hget
    · intro he
      unfold keep
      rw [he, heq]

/-- An output that stays on for half a second at least. It was told to go off too early, and has been on for
long enough since. -/
def held : List Event :=
  [.create { Output.Config.plain 1 "valve" .relay 17 with minOn := 500 }, .command 0 (.set true),
    .command 0 (.set false), .drift 500000000]

/-- It can be switched off, and shut down instead. -/
theorem held_shutdown :
    ∃ d, (Setup.plain.rig.run held).drivers.get? 0 = some d ∧
      ((Setup.plain.rig.run held).step (.command 0 (.set false))).2 = .done ∧
      ((Setup.plain.rig.run held).step (.command 0 .shutdown)).2 = .done ∧
      ((Setup.plain.rig.run held).step (.command 0 .shutdown)).1 =
        ((Setup.plain.rig.run held).step (.command 0 (.set false))).1.showing 0 d.status := by
  obtain ⟨d, hd⟩ : ∃ d, (Setup.plain.rig.run held).drivers.get? 0 = some d :=
    Option.isSome_iff_exists.1 (by decide +kernel)
  have hoff : ((Setup.plain.rig.run held).step (.command 0 (.set false))).2 = .done := by rfl
  obtain ⟨hdone, heq, -⟩ := run_shutdown Setup.plain hd hoff
  exact ⟨d, hd, hoff, hdone, heq⟩

/-- The command leaves no lockout. The shutdown leaves the refusal, of an output that is off, as if it were
still on for too short a time. -/
theorem held_stays_locked :
    ((Setup.plain.rig.run held).step (.command 0 (.set false))).2 = .done ∧
      (((Setup.plain.rig.run held).step (.command 0 (.set false))).1.drivers.get? 0).map
        (fun d => (d.status.state, d.status.lockout, d.status.reason)) = some (.off, false, none) ∧
      (((Setup.plain.rig.run held).step (.command 0 .shutdown)).1.drivers.get? 0).map
        (fun d => (d.status.state, d.status.lockout, d.status.reason)) =
          some (.off, true, some .minOnTime) := by
  refine ⟨by rfl, ?_, ?_⟩
  all_goals decide +kernel

end Rig

end Switchboard
