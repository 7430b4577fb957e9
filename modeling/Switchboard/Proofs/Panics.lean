import Switchboard.Checked
import Switchboard.Proofs.Counters

/-!
# Operations that panic

Where additions are checked an operation panics if and only if it would end a stretch of time on that the total
has no room for. It has switched the output off by then, the plant is what it would be without the panic, and the
accounts of the driver are what they were before (`Driver.Guards`, `obey_guards`, `finishPulse_guards`). To begin
a pulse never panics (`startPulse_wreck`).

A run in which nothing panics is the same whether additions are checked or not (`run_eq_of_calm`).
-/

namespace Switchboard

open Output (Driver Outcome Pulse Wreck)

/-! ## Operations -/

namespace Output.Driver

/-- What an operation that panics leaves of a driver and its plant. The output is off, and the driver has not
accounted for it. -/
structure Halfway (d : Driver) (o : Outcome) (w : Wreck) : Prop where
  serial_eq : w.driver.serial = d.serial
  config_eq : w.driver.config = d.config
  account_eq : w.driver.account = d.account
  isOn : d.status.isOn = true
  level_eq : w.plant.board.bench.level? d.config.pin = some (d.config.level false)
  alike : w.plant.Alike o.plant

/-- An operation panics if and only if the total has no room for what is added to it. -/
structure Guards (d : Driver) (acts : List Act) (o : Outcome) : Prop where
  wreck_iff : o.wreck.isSome = true ↔ 2 ^ 64 ≤ d.account.total.toNat + d.account.credits acts
  halfway : ∀ {w}, o.wreck = some w → d.Halfway o w

variable {d : Driver} {p p' : Plant} {o o' : Outcome} {on : Bool} {duty : Single} {w : Wreck}

/-- An operation that ends no stretch does not panic. -/
theorem Guards.of_none (hw : o.wreck = none) (he : (Act.of d p o).ends = false) :
    d.Guards [.of d p o] o where
  wreck_iff := by
    have hlt := d.account.total.toNat_lt
    simp [hw, Account.credits, Account.credit, he, hlt]
  halfway h := by cases hw.symm.trans h

theorem Guards.of_failed (hw : o.wreck = none) (hr : o.result.isOk = false) : d.Guards [.of d p o] o :=
  .of_none hw (by simp [Act.of, Act.ends, hr])

/-- Entries in the log before and afterwards and what becomes of the pulse make no difference. -/
theorem Guards.of_alike (h : d.Guards [.of d p o] o) (hw : o'.wreck = o.wreck)
    (hs : o'.driver.status = o.driver.status) (hr : o'.result.isOk = o.result.isOk)
    (hc : p'.clock = p.clock) (ha : o.plant.Alike o'.plant) : d.Guards [.of d p' o'] o' where
  wreck_iff := by
    have hact : Act.of d p' o' = Act.of d p o := by simp only [Act.of, hs, hr, hc]
    rw [hw, hact]
    exact h.wreck_iff
  halfway he := by
    have hh := h.halfway (hw ▸ he)
    exact { hh with alike := hh.alike.trans ha }

/-- To settle panics if and only if it ends a stretch that the total has no room for. -/
theorem settle_wreck_iff : (d.settle p on duty).wreck.isSome = true ↔
    2 ^ 64 ≤ d.account.total.toNat + d.account.credits [⟨d.status.isOn, on, true, p.clock.now⟩] := by
  have hlt := d.status.total.toNat_lt
  unfold settle wreck? Status.overflows Account.credits Account.credit Act.ends account
  cases on <;> cases hon : d.status.isOn <;> cases ht : d.onSince <;> simp [hlt, Account.credits]

theorem settle_wreck (h : (d.settle p on duty).wreck = some w) :
    on = false ∧ d.status.isOn = true ∧ w = ⟨{ d with status := { d.status with duty } }, p⟩ := by
  have he : (d.settle p on duty).wreck =
      if (on != d.status.isOn) = true then wreck? { d with status := { d.status with duty } } p on
      else none := rfl
  rw [he] at h
  split at h
  · rename_i hchanged
    unfold wreck? at h
    split at h
    · split at h
      · cases h
        exact ⟨rfl, by simpa using hchanged, rfl⟩
      · cases h
    · cases h
  · cases h

theorem apply_guards (d : Driver) (p : Plant) (on : Bool) (duty : Single) :
    d.Guards [.of d p (d.apply p on duty)] (d.apply p on duty) := by
  have hc := d.apply_cases p on duty
  generalize d.apply p on duty = o at hc ⊢
  cases hc with
  | refused gate alike => exact .of_failed rfl rfl
  | failed gate pass write alike => exact .of_failed rfl rfl
  | @done p' gate pass write clock_eq alike =>
    refine ⟨?_, fun {w} h => ?_⟩
    · rw [settle_wreck_iff, relent_account]
      simp only [Act.of, settle_isOn, settle_result, Status.relent_isOn, clock_eq, Except.isOk,
        Except.toBool]
    · obtain ⟨rfl, hon, rfl⟩ := settle_wreck h
      have ha := settle_alike { d with status := d.status.relent } p' false duty
      refine ⟨rfl, rfl, relent_account d, Status.relent_isOn ▸ hon, ?_, ha⟩
      rw [← ha.board_eq, alike.board_eq]
      exact (Gpio.Board.write_level write).1

theorem forceOff_guards (d : Driver) (p : Plant) (reason : Option Lockout) :
    d.Guards [.of d p (d.forceOff p reason)] (d.forceOff p reason) := by
  have hc := d.forceOff_cases p reason
  generalize d.forceOff p reason = o at hc ⊢
  cases hc with
  | failed write alike => exact .of_failed rfl rfl
  | @done p' write clock_eq alike =>
    refine ⟨?_, fun {w} h => ?_⟩
    · rw [settle_wreck_iff, stopped_account]
      simp only [Act.of, settle_isOn, settle_result, stopped_isOn, clock_eq, Except.isOk, Except.toBool]
    · obtain ⟨-, hon, rfl⟩ := settle_wreck h
      have ha := settle_alike (d.stopped reason) p' false Duty.zero
      refine ⟨stopped_serial d reason, stopped_config d reason, stopped_account d reason,
        stopped_isOn d reason ▸ hon, ?_, ha⟩
      rw [← ha.board_eq, alike.board_eq]
      exact (Gpio.Board.write_level write).1

theorem command_guards (d : Driver) (p : Plant) (on : Bool) (duty : Single) :
    d.Guards [.of d p (d.command p on duty)] (d.command p on duty) := by
  have h := d.apply_guards p on duty
  unfold command
  dsimp only
  split
  · exact h.of_alike rfl rfl rfl rfl (.refl _)
  · exact h

theorem setDuty_guards (d : Driver) (p : Plant) (x : Single) :
    d.Guards [.of d p (d.setDuty p x)] (d.setDuty p x) := by
  by_cases hx : x.isFinite = true
  · obtain ⟨duty, he⟩ := d.setDuty_eq_command p hx
    rw [he]
    exact d.command_guards p _ duty
  · rw [setDuty_of_not_isFinite (Bool.eq_false_iff.2 hx)]
    exact .of_failed rfl rfl

theorem process_guards (d : Driver) (p : Plant) : d.Guards [.of d p (d.process p)] (d.process p) := by
  by_cases h : d.overdue? p.clock.now = none
  · have he : d.process p = ⟨.ok (), d, p, none⟩ := by
      unfold process
      rw [h]
    rw [he]
    exact .of_none rfl (by simp [Act.of, Act.ends])
  · obtain ⟨q, hq, he⟩ := process_of_overdue h
    rw [he]
    exact (d.forceOff_guards q _).of_alike rfl rfl rfl hq.clock_eq.symm (.refl _)

theorem emergencyStop_guards (d : Driver) (p : Plant) :
    d.Guards [.of d p (d.emergencyStop p)] (d.emergencyStop p) :=
  d.forceOff_guards (d.note p .warn "emergency stop") (some .emergencyStop)

/-- To switch on adds nothing to the total, before or afterwards. -/
theorem set_on_account (d : Driver) (p : Plant) (rest : List Act) :
    (d.set p true).driver.account.total = d.account.total ∧
      d.account.credits (.of d p (d.set p true) :: rest) = (d.set p true).driver.account.credits rest := by
  have ha : (d.set p true).driver.account = d.account.enter (.of d p (d.set p true)) :=
    d.command_account p true _
  have hends := d.set_on_ends p
  constructor
  · rw [ha]
    simp [Account.enter, hends]
  · rw [Account.credits, ← ha]
    simp [Account.credit, hends]

/-- An output that is on stays as it is, and one that was not is on since then. -/
theorem set_on_since (h : (d.set p true).result = .ok ()) :
    (d.status.isOn = true → (d.set p true).driver.account = d.account) ∧
      (d.status.isOn = false → (d.set p true).driver.account.onSince = some p.clock.now) := by
  have ha : (d.set p true).driver.account = d.account.enter (.of d p (d.set p true)) :=
    d.command_account p true _
  have hon : (d.set p true).driver.status.isOn = true := command_isOn h
  rw [ha]
  refine ⟨fun hd => ?_, fun hd => ?_⟩
  · simp [Account.enter, Act.of, Act.begins, Act.ends, Act.switches, hon, hd, account]
  · simp [Account.enter, Act.of, Act.begins, hon, hd]

/-- To pulse at once panics if the second of its operations does. The output was on before the first then: one
that came on at the same moment adds nothing. -/
theorem pulseNow_guards (d : Driver) (p : Plant) : d.Guards (d.acts p .pulseNow) (d.pulseNow p) := by
  have h₁ : d.Guards [.of d p (d.set p true)] (d.set p true) := d.command_guards p true _
  have ht : Turn (fun _ => True) d p (d.set p true) := .tell (.set true) trivial
  have hf : Frame d p (d.set p true).driver (d.set p true).plant := Frame.of_turn ht
  unfold acts
  cases hr : (d.set p true).result with
  | error e =>
    rw [pulseNow_of_error hr]
    simpa only [hr, Except.isOk, Except.toBool, Bool.false_eq_true, if_false] using h₁
  | ok u =>
    obtain ⟨htotal, hcredits⟩ := d.set_on_account p
      [.of (d.set p true).driver (d.set p true).plant
        ((d.set p true).driver.set (d.set p true).plant false)]
    obtain ⟨hstays, hrises⟩ := set_on_since hr
    rw [pulseNow_of_ok hr]
    simp only [hr, Except.isOk, Except.toBool, if_true]
    generalize d.set p true = o₁ at *
    have h₂ : o₁.driver.Guards [.of o₁.driver o₁.plant (o₁.driver.set o₁.plant false)]
        (o₁.driver.set o₁.plant false) := o₁.driver.command_guards o₁.plant false _
    refine ⟨?_, fun {w} he => ?_⟩
    · rw [h₂.wreck_iff, hcredits, htotal]
    · have hh := h₂.halfway he
      have hon : d.status.isOn = true := by
        by_contra hoff
        have hover := h₂.wreck_iff.1 (Option.isSome_iff_exists.2 ⟨w, he⟩)
        have hsince := hrises (Bool.eq_false_iff.2 hoff)
        have hlt := d.account.total.toNat_lt
        simp only [htotal, Account.credits, Account.credit, hsince, Option.elim_some, Act.of, hf.clock_eq,
          millisBetween, Nat.sub_self, Nat.zero_div, Nat.zero_min, ite_self, Nat.add_zero] at hover
        omega
      exact ⟨hh.serial_eq.trans hf.serial_eq, hh.config_eq.trans hf.config_eq,
        hh.account_eq.trans (hstays hon), hon, hf.config_eq ▸ hh.level_eq, hh.alike⟩

/-- What a driver is told panics if and only if the total has no room for it. -/
theorem obey_guards (d : Driver) (p : Plant) (c : Command) : d.Guards (d.acts p c) (Rig.obey d p c) := by
  cases c with
  | set on => exact d.command_guards p on _
  | toggle => exact d.command_guards p _ _
  | duty x => exact d.setDuty_guards p x
  | process => exact d.process_guards p
  | emergencyStop => exact d.emergencyStop_guards p
  | shutdown => exact d.forceOff_guards p none
  | resetLockout =>
    exact .of_none rfl (by simp [Act.of, Act.ends, Rig.obey, resetLockout, Status.unlock, Status.isOn])
  | restore total cycles =>
    refine ⟨?_, fun h => by cases h⟩
    have hlt := d.account.total.toNat_lt
    simp [Rig.obey, acts, Account.credits, hlt]
  | pulseNow => exact d.pulseNow_guards p

/-- The beginning of a pulse ends no stretch, and does not panic. -/
theorem startPulse_ends (d : Driver) (p : Plant) (serial timer : Nat) (millis : Option UInt32) :
    (Act.of d p (d.startPulse p serial timer millis)).ends = false := by
  have h := d.set_on_ends p
  unfold startPulse
  dsimp only
  split <;> exact h

theorem startPulse_wreck (d : Driver) (p : Plant) (serial timer : Nat) (millis : Option UInt32) :
    (d.startPulse p serial timer millis).wreck = none := by
  have hset : (d.set p true).wreck = none := by
    have hg := d.command_guards p true (d.config.fullDuty true)
    have hlt := d.account.total.toNat_lt
    have hnot : ¬(d.set p true).wreck.isSome = true := by
      rw [set, hg.wreck_iff, ← set]
      simpa [Account.credits, Account.credit, d.set_on_ends p] using hlt
    simpa using hnot
  unfold startPulse
  dsimp only
  split <;> exact hset

theorem finishPulse_guards (d : Driver) (p : Plant) (number : Nat) :
    d.Guards [.of d p (d.finishPulse p number)] (d.finishPulse p number) := by
  unfold finishPulse
  split
  · have ha := d.dropPulse.apply_guards p false Duty.zero
    have h : d.Guards [.of d p (d.dropPulse.apply p false Duty.zero)]
        (d.dropPulse.apply p false Duty.zero) := by
      refine ⟨ha.wreck_iff, fun he => ?_⟩
      have hh := ha.halfway he
      exact ⟨hh.serial_eq, hh.config_eq, hh.account_eq, hh.isOn, hh.level_eq, hh.alike⟩
    dsimp only
    split
    · exact h
    · rename_i e hr
      exact h.of_alike rfl rfl rfl rfl (Plant.note_alike ..)
  · exact .of_none rfl (by simp [Act.of, Act.ends])

end Output.Driver

/-! ## Steps -/

/-- Operations of drivers may panic at an event. -/
def Event.mayPanic : Event → Bool
  | .command .. | .advance _ | .ring .. => true
  | _ => false

namespace Rig

variable {r : Rig} {n : Nat} {d d' : Driver} {p : Plant}

/-- A driver may be replaced by one with its serial. -/
theorem WellFormed.replace (hw : r.WellFormed) (hd : r.drivers.get? n = some d) (hs : d'.serial = d.serial)
    (hg : p.groups = r.plant.groups) :
    ({ r with plant := p, drivers := r.drivers.insert n d' } : Rig).WellFormed where
  driver h := by
    rcases Table.get?_insert_eq_some_iff.1 h with ⟨rfl, rfl⟩ | ⟨-, h⟩
    · rw [hs]
      exact hw.driver hd
    · exact hw.driver h
  token h := hw.token h
  distinct h := by
    rcases Table.get?_insert_eq_some_iff.1 h with ⟨rfl, -⟩ | ⟨-, h⟩
    · exact hw.distinct hd
    · exact hw.distinct h
  owner hc hu := by
    rw [Table.contains_insert]
    exact (hw.owner (hg ▸ hc) hu).imp_left fun h => by rw [h, Bool.or_true]

theorem over?_eq_some_iff {m number : Nat} {q : Pulse} :
    r.over? m number = some q ↔ ∃ d, r.drivers.get? m = some d ∧ d.pulse = some q ∧
      q.number = number ∧ q.cancelled = false ∧ q.due ≤ r.timer := by
  unfold over?
  rw [Option.bind_eq_some_iff]
  refine exists_congr fun d => and_congr_right fun _ => ?_
  rw [Option.filter_eq_some_iff]
  simp [and_assoc]

end Rig

namespace Checked

/-- The ends of several pulses, one after another. -/
def finishAll (c : Checked) (l : List (Nat × Pulse)) : Checked :=
  l.foldl (fun c (serial, q) => c.finish serial q) c

/-- The plant that the driver with a serial finds at an event. -/
def found (c : Checked) (n : Nat) : Event → Plant
  | .advance millis =>
    let rig := c.rig.elapse millis
    ({ c with rig }.finishAll (rig.due.takeWhile fun x => x.1 != n)).rig.plant
  | _ => c.rig.plant

/-- How many operations of the driver with a serial have panicked. -/
def panicked (c : Checked) (n : Nat) : Nat :=
  c.panics.countP fun x => x.driver == n

variable {c c' : Checked} {e : Event} {n m : Nat} {d d' : Driver} {o : Outcome} {w : Wreck} {q : Pulse}

theorem step_of_safe (h : e.mayPanic = false) : (c.step e).1 = { c with rig := (c.rig.step e).1 } := by
  cases e with
  | command m command => cases h
  | advance millis => cases h
  | ring m number => cases h
  | _ => rfl

/-! ## The accounts -/

/-- At the other events nothing is added to the total of a driver. -/
theorem credits_of_safe {r : Rig} {p : Plant} (h : e.mayPanic = false) :
    d.account.credits (d.actsOn r n p e) = 0 := by
  cases e with
  | command m command => cases h
  | advance millis => cases h
  | ring m number => cases h
  | pulse m millis timed =>
    simp only [Driver.actsOn]
    split
    · simp [Account.credits, Account.credit, Driver.startPulse_ends]
    · rfl
  | _ => simp [Driver.actsOn, Rig.rings, Account.credits]

/-- From one state to another some operations of a driver were entered, or the last of them panicked and nothing
was. -/
inductive Deals (c : Checked) (n : Nat) (d : Driver) (acts : List Act) (c' : Checked) (d' : Driver) : Prop
  | returned (fits : d.account.total.toNat + d.account.credits acts < 2 ^ 64) (books : d.Books acts d')
      (panicked_eq : c'.panicked n = c.panicked n)
  | panicked (full : 2 ^ 64 ≤ d.account.total.toNat + d.account.credits acts)
      (account_eq : d'.account = d.account) (isOn : d.status.isOn = true)
      (panicked_eq : c'.panicked n = c.panicked n + 1)

theorem Deals.idle (h : c'.panicked n = c.panicked n) (ha : d'.account = d.account) :
    c.Deals n d [] c' d' :=
  .returned (by simpa [Account.credits] using d.account.total.toNat_lt) (.refl ha) h

theorem leave_panicked (c : Checked) (n : Nat) (pulse : Option Nat) (w : Wreck) (k : Nat) :
    (c.leave n pulse w).panicked k = c.panicked k + if n = k then 1 else 0 := by
  unfold panicked leave
  rw [List.countP_cons]
  simp

/-- What an operation of a driver leaves of it, and that nothing else panics. -/
theorem leave_deals {acts : List Act} (hg : d.Guards acts o) (hw : o.wreck = some w)
    (pulse : Option Nat) : c.Deals n d acts (c.leave n pulse w) w.driver := by
  have hh := hg.halfway hw
  refine .panicked (hg.wreck_iff.1 (by rw [hw]; rfl)) hh.account_eq hh.isOn ?_
  rw [leave_panicked, if_pos rfl]

theorem finish_deals (hd : c.rig.drivers.get? n = some d) (q : Pulse) :
    ∃ d', (c.finish n q).rig.drivers.get? n = some d' ∧
      c.Deals n d [.of d c.rig.plant (d.finishPulse c.rig.plant q.number)] (c.finish n q) d' := by
  have hg := d.finishPulse_guards c.rig.plant q.number
  unfold finish
  rw [hd, Option.bind_some]
  cases hw : (d.finishPulse c.rig.plant q.number).wreck with
  | some w => exact ⟨w.driver, Table.get?_insert_self, leave_deals hg hw _⟩
  | none =>
    refine ⟨(d.finishPulse c.rig.plant q.number).driver, ?_, .returned ?_ ?_ rfl⟩
    · dsimp only
      rw [(Rig.finish_eq hd q).2, Table.get?_insert_self]
    · rw [← Nat.not_le, ← hg.wreck_iff, hw]
      simp
    · exact .single (d.finishPulse_account c.rig.plant q.number)

theorem finish_of_ne (hne : m ≠ n) (q : Pulse) :
    (c.finish m q).rig.drivers.get? n = c.rig.drivers.get? n ∧
      (c.finish m q).panicked n = c.panicked n := by
  unfold finish
  split
  · refine ⟨Table.get?_insert_of_ne hne, ?_⟩
    rw [leave_panicked, if_neg hne, Nat.add_zero]
  · exact ⟨Rig.finish_get?_of_ne hne q, rfl⟩

theorem finishAll_of_not_mem {l : List (Nat × Pulse)} (h : n ∉ l.map Prod.fst) :
    (c.finishAll l).rig.drivers.get? n = c.rig.drivers.get? n ∧
      (c.finishAll l).panicked n = c.panicked n := by
  induction l generalizing c with
  | nil => exact ⟨rfl, rfl⟩
  | cons x rest ih =>
    rw [List.map_cons, List.mem_cons, not_or] at h
    obtain ⟨hne, hrest⟩ := h
    obtain ⟨hd, hp⟩ := finish_of_ne (c := c) (Ne.symm hne) x.2
    obtain ⟨hd', hp'⟩ := ih (c := c.finish x.1 x.2) hrest
    exact ⟨hd'.trans hd, hp'.trans hp⟩

theorem finishAll_append (c : Checked) (l l' : List (Nat × Pulse)) :
    c.finishAll (l ++ l') = (c.finishAll l).finishAll l' :=
  List.foldl_append

theorem Deals.of_panicked {c₁ c₂ : Checked} {acts : List Act} (h : c₁.Deals n d acts c₂ d')
    (h₁ : c₁.panicked n = c.panicked n) (h₂ : c'.panicked n = c₂.panicked n) : c.Deals n d acts c' d' := by
  cases h with
  | returned fits books panicked_eq => exact .returned fits books (by rw [h₂, panicked_eq, h₁])
  | panicked full account_eq isOn panicked_eq =>
    exact .panicked full account_eq isOn (by rw [h₂, panicked_eq, h₁])

theorem advance_deals (millis : Int) (hd : c.rig.drivers.get? n = some d) :
    ∃ d', (c.advance millis).rig.drivers.get? n = some d' ∧
      c.Deals n d (d.actsOn c.rig n (c.found n (.advance millis)) (.advance millis))
        (c.advance millis) d' := by
  have he : c.advance millis =
      { c with rig := c.rig.elapse millis }.finishAll (c.rig.elapse millis).due := rfl
  have hd₀ : (c.rig.elapse millis).drivers.get? n = some d := hd
  by_cases hmem : n ∈ (c.rig.elapse millis).due.map Prod.fst
  · obtain ⟨⟨n', q⟩, hx, rfl⟩ := List.mem_map.1 hmem
    obtain ⟨d', hd', hp, hk, hdue⟩ := Rig.mem_due.1 hx
    cases hd₀.symm.trans hd'
    obtain ⟨l, hl, hn⟩ := Rig.due_split hx
    have hr : c.rig.rings n' q (.advance millis) = true := decide_eq_true hdue
    rw [Rig.actsOn_of_rings hp hk hr, he, hl, finishAll_append]
    -- Those that are over before its own leave the driver alone, and so do those after.
    obtain ⟨hd₁, hp₁⟩ := finishAll_of_not_mem (c := { c with rig := c.rig.elapse millis })
      (Rig.not_mem_takeWhile (n := n') (c.rig.elapse millis).due)
    obtain ⟨d₂, hd₂, hdeals⟩ := finish_deals (hd₁.trans hd₀) q
    obtain ⟨hd₃, hp₃⟩ := finishAll_of_not_mem hn
    exact ⟨d₂, hd₃.trans hd₂, hdeals.of_panicked hp₁ hp₃⟩
  · obtain ⟨hd₁, hp₁⟩ := finishAll_of_not_mem (c := { c with rig := c.rig.elapse millis }) hmem
    rw [Rig.actsOn_of_apart (Rig.involves_advance_of_not_mem hd hmem)]
    exact ⟨d, hd₁.trans hd₀, .idle hp₁ rfl⟩

theorem ring_deals (m number : Nat) (hd : c.rig.drivers.get? n = some d) :
    ∃ d', (c.ring m number).rig.drivers.get? n = some d' ∧
      c.Deals n d (d.actsOn c.rig n c.rig.plant (.ring m number)) (c.ring m number) d' := by
  unfold ring
  split
  · rename_i q hq
    obtain ⟨d', hd', hp, rfl, hk, hdue⟩ := Rig.over?_eq_some_iff.1 hq
    by_cases hm : m = n
    · subst hm
      cases hd.symm.trans hd'
      have hr : c.rig.rings m q (.ring m q.number) = true := by simpa [Rig.rings] using hdue
      rw [Rig.actsOn_of_rings hp hk hr]
      exact finish_deals hd q
    · have hnone : c.rig.involves n d (.ring m q.number) = false := by
        cases hp : d.pulse <;> simp [Rig.involves, Rig.rings, hp, hm]
      rw [Rig.actsOn_of_apart hnone]
      obtain ⟨hd₁, hp₁⟩ := finish_of_ne (c := c) hm q
      exact ⟨d, hd₁.trans hd, .idle hp₁ rfl⟩
  · rename_i hq
    -- Where no pulse is over nothing is done to a driver.
    obtain ⟨o, ho, hlive⟩ := Rig.ring_part m number hd
    cases ho with
    | @finish _ q pending kept rings =>
      have hr : (m = n ∧ number = q.number) ∧ q.due ≤ c.rig.timer := by simpa [Rig.rings] using rings
      obtain ⟨⟨rfl, rfl⟩, hdue⟩ := hr
      cases hq.symm.trans (Rig.over?_eq_some_iff.2 ⟨d, hd, pending, rfl, kept, hdue⟩)
    | none apart =>
      rw [Rig.actsOn_of_apart apart]
      exact ⟨d, hlive, .idle rfl rfl⟩

theorem tell_deals (command : Command) (hd : c.rig.drivers.get? n = some d)
    (hc : ∀ total cycles, command ≠ .restore total cycles) :
    ∃ d', (c.tell n command).1.rig.drivers.get? n = some d' ∧
      c.Deals n d (d.acts c.rig.plant command) (c.tell n command).1 d' := by
  have hg := d.obey_guards c.rig.plant command
  unfold tell
  rw [hd, Option.bind_some]
  cases hw : (Rig.obey d c.rig.plant command).wreck with
  | some w => exact ⟨w.driver, Table.get?_insert_self, leave_deals hg hw _⟩
  | none =>
    refine ⟨(Rig.obey d c.rig.plant command).driver, ?_, .returned ?_ (d.obey_books _ hc) rfl⟩
    · simp only [Rig.tell, hd]
      exact Table.get?_insert_self
    · rw [← Nat.not_le, ← hg.wreck_iff, hw]
      simp

theorem tell_of_ne (hne : m ≠ n) (command : Command) :
    (c.tell m command).1.rig.drivers.get? n = c.rig.drivers.get? n ∧
      (c.tell m command).1.panicked n = c.panicked n := by
  unfold tell
  split
  · refine ⟨Table.get?_insert_of_ne hne, ?_⟩
    rw [leave_panicked, if_neg hne, Nat.add_zero]
  · refine ⟨?_, rfl⟩
    simp only [Rig.tell]
    split
    · rfl
    · exact Table.get?_insert_of_ne hne

/-- At a step a driver whose counters are not restored enters its operations if the total has room for them, and
panics otherwise. -/
theorem step_deals (hw : c.rig.WellFormed) (hd : c.rig.drivers.get? n = some d)
    (hd' : (c.step e).1.rig.drivers.get? n = some d')
    (hr : ∀ total cycles, e ≠ .command n (.restore total cycles)) :
    c.Deals n d (d.actsOn c.rig n (c.found n e) e) (c.step e).1 d' := by
  cases e with
  | command m command =>
    by_cases hm : m = n
    · subst hm
      have hc : ∀ total cycles, command ≠ .restore total cycles := by
        rintro total cycles rfl
        exact hr total cycles rfl
      obtain ⟨d₁, hd₁, h⟩ := tell_deals command hd hc
      cases hd'.symm.trans hd₁
      have hacts : d.actsOn c.rig m (c.found m (.command m command)) (.command m command) =
          d.acts c.rig.plant command := if_pos rfl
      rw [hacts]
      exact h
    · obtain ⟨hd₁, hp⟩ := tell_of_ne (c := c) hm command
      cases hd'.symm.trans (hd₁.trans hd)
      rw [Rig.actsOn_of_apart (by simp [Rig.involves, hm])]
      exact .idle hp rfl
  | advance millis =>
    obtain ⟨d₁, hd₁, h⟩ := advance_deals millis hd
    cases hd'.symm.trans hd₁
    exact h
  | ring m number =>
    obtain ⟨d₁, hd₁, h⟩ := ring_deals m number hd
    cases hd'.symm.trans hd₁
    exact h
  | _ =>
    rw [step_of_safe rfl] at hd' ⊢
    have hlt := d.account.total.toNat_lt
    refine .returned ?_ (Rig.step_books hw hd hd' hr) rfl
    rw [credits_of_safe rfl]
    exact hlt

/-! ## Without a panic -/

/-- What has panicked is not forgotten, and if nothing has since, the rig is what it is where additions are not
checked. -/
structure Follows (c c' : Checked) (rig : Rig) : Prop where
  le : c.panics.length ≤ c'.panics.length
  eq_of_calm : c'.panics.length = c.panics.length → c' = { c with rig }

theorem Follows.refl (c : Checked) (rig : Rig) : c.Follows { c with rig } rig :=
  ⟨Nat.le_refl _, fun _ => rfl⟩

theorem Follows.then {c₁ c₂ : Checked} {rig : Rig} {f : Rig → Rig} (h : c.Follows c₁ rig)
    (h' : c₁.Follows c₂ (f c₁.rig)) : c.Follows c₂ (f rig) where
  le := Nat.le_trans h.le h'.le
  eq_of_calm he := by
    have hle := h.le
    have hle' := h'.le
    have h₁ : c₁ = { c with rig } := h.eq_of_calm (by omega)
    rw [h'.eq_of_calm (by omega), h₁]

theorem leave_follows (c : Checked) (n : Nat) (pulse : Option Nat) (w : Wreck) (rig : Rig) :
    c.Follows (c.leave n pulse w) rig :=
  ⟨Nat.le_succ _, fun h => absurd h (Nat.succ_ne_self _)⟩

theorem finish_follows (c : Checked) (n : Nat) (q : Pulse) :
    c.Follows (c.finish n q) (c.rig.finish n q) := by
  unfold finish
  split
  · exact c.leave_follows ..
  · exact .refl c _

theorem finishAll_follows (c : Checked) (l : List (Nat × Pulse)) :
    c.Follows (c.finishAll l) (c.rig.finishAll l) := by
  induction l generalizing c with
  | nil => exact .refl c _
  | cons x rest ih => exact (c.finish_follows x.1 x.2).then (f := (·.finishAll rest)) (ih _)

theorem step_follows (c : Checked) (e : Event) : c.Follows (c.step e).1 (c.rig.step e).1 := by
  cases e with
  | command m command =>
    simp only [step, tell]
    split
    · exact c.leave_follows ..
    · exact .refl c _
  | advance millis =>
    have h := finishAll_follows { c with rig := c.rig.elapse millis } (c.rig.elapse millis).due
    exact ⟨h.le, h.eq_of_calm⟩
  | ring m number =>
    simp only [step, ring]
    split
    · rename_i q hq
      obtain ⟨d, hd, hp, hnum, hk, hdue⟩ := Rig.over?_eq_some_iff.1 hq
      rw [Rig.step, Rig.ring_of_over hd hp hnum hk hdue]
      exact c.finish_follows m q
    · exact .refl c _
  | _ =>
    rw [step_of_safe rfl]
    exact .refl c _

theorem run_follows (c : Checked) (es : List Event) : c.Follows (c.run es) (c.rig.run es) := by
  induction es generalizing c with
  | nil => exact .refl c _
  | cons e es ih => exact (c.step_follows e).then (f := (·.run es)) (ih _)

/-- A run in which nothing panics is the same whether additions are checked or not. -/
theorem run_eq_of_calm {es : List Event} (h : (c.run es).panics = c.panics) :
    c.run es = { c with rig := c.rig.run es } :=
  (c.run_follows es).eq_of_calm (congrArg List.length h)

end Checked

end Switchboard
