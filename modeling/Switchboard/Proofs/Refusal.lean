import Switchboard.Proofs.LatchedStop
import Switchboard.Proofs.Parts

/-!
# Commands that come to nothing

A command that is refused or fails leaves its trace in the status of the driver that was told, and nowhere
else (`Rig.Foiled`, `run_spurned`): no pin, no claim and no other driver can tell that it was tried, and a
pulse that was pending is pending still.

The step where this could go wrong is the rollback. A driver that passed the gate of its group reserved its
claim, and gives the reservation back when the write fails. Had it come with a reservation of its own, that
one would be gone as well. It never does: between events only tokens that are no driver's have reservations
(`Rig.Settled`), so what the driver gives back is what it has just taken.
-/

namespace Switchboard

open Output (Driver Outcome Lockout Pulse Deed)

/-! ## Reservations -/

namespace Interlock.Groups

variable {g : Groups} {group group' : Group} {t u : Token}

/-- A change of one claim that makes no reservation leaves those that there were, at most. -/
theorem reserved_of_modify {f : Claim → Claim} (hf : ∀ c, f c = .reserved u → c = .reserved u)
    (h : (g.claims.modify group f).get? group' = some (.reserved u)) :
    g.claims.get? group' = some (.reserved u) := by
  rw [Table.get?_modify] at h
  split at h
  · obtain ⟨c, hc, he⟩ := Option.map_eq_some_iff.1 h
    rw [hc, hf c he]
  · exact h

theorem reserved_of_hold (h : (g.hold group t).claims.get? group' = some (.reserved u)) :
    g.claims.get? group' = some (.reserved u) := by
  refine reserved_of_modify (fun c hc => ?_) h
  cases hc

theorem reserved_of_release (h : (g.release group t).claims.get? group' = some (.reserved u)) :
    g.claims.get? group' = some (.reserved u) := by
  refine reserved_of_modify (fun c hc => ?_) h
  split at hc
  · cases hc
  · exact hc

end Interlock.Groups

namespace Output.Driver

/-- No claim is reserved for the driver. -/
def Unreserved (d : Driver) (p : Plant) : Prop :=
  ∀ group u, p.groups.claims.get? group = some (.reserved u) → u.serial ≠ d.serial

variable {may : Command → Prop} {d d' : Driver} {p p' : Plant} {on : Bool} {duty : Single}

theorem Unreserved.of_alike (h : d.Unreserved p) (ha : p.Alike p') (hs : d'.serial = d.serial) :
    d'.Unreserved p' := by
  intro group u hg
  rw [ha.groups_eq] at hg
  rw [hs]
  exact h _ _ hg

theorem Unreserved.abandon_groups_eq (h : d.Unreserved p) : (d.abandon p).groups = p.groups := by
  unfold Driver.abandon
  cases d.config.group with
  | none => rfl
  | some group => exact Interlock.Groups.abandon_eq_self fun u hu => h _ _ hu

theorem Unreserved.hold (h : d.Unreserved p) (hp : p'.groups = d.hold p.groups) : d.Unreserved p' := by
  intro group u hg
  rw [hp] at hg
  unfold Driver.hold at hg
  cases hc : d.config.group with
  | none =>
    simp only [hc] at hg
    exact h _ _ hg
  | some own =>
    simp only [hc] at hg
    exact h _ _ (Interlock.Groups.reserved_of_hold hg)

theorem Unreserved.free (h : d.Unreserved p) (hp : p'.groups = (d.free p).groups) : d.Unreserved p' := by
  intro group u hg
  rw [hp] at hg
  unfold Driver.free at hg
  cases hc : d.config.group with
  | none =>
    simp only [hc] at hg
    exact h _ _ hg
  | some own =>
    simp only [hc] at hg
    exact h _ _ (Interlock.Groups.reserved_of_release hg)

/-- No deed of a driver ends with a reservation. -/
theorem Unreserved.deed (hd : Deed may d p d' p') (h : d.Unreserved p) : d'.Unreserved p' := by
  have hs : d'.serial = d.serial := (Frame.of_deed hd).serial_eq
  suffices hu : d.Unreserved p' by
    intro group u hg
    rw [hs]
    exact hu _ _ hg
  cases hd with
  | note alike => exact h.of_alike alike rfl
  | @apply on duty asked =>
    have hc := d.apply_cases p on duty
    generalize d.apply p on duty = o at hc ⊢
    cases hc with
    | refused gate alike => exact h.of_alike alike rfl
    | failed gate pass write alike =>
      cases on with
      | false => exact h.of_alike alike rfl
      | true =>
        intro group u hg
        rw [alike.groups_eq] at hg
        exact h _ _ (h.abandon_groups_eq ▸ hg)
    | done gate pass write clock_eq alike =>
      cases on with
      | false => exact h.free alike.groups_eq
      | true => exact h.hold alike.groups_eq
  | @force reason compelled =>
    have hc := d.forceOff_cases p reason
    generalize d.forceOff p reason = o at hc ⊢
    cases hc with
    | failed write alike => exact h.of_alike alike rfl
    | done write clock_eq alike => exact h.free alike.groups_eq
  | unlock told => exact h
  | restore told => exact h
  | dropPulse => exact h
  | cancelPulse serial => exact h
  | beginPulse q number isOn => exact h

end Output.Driver

namespace Rig

/-- Only tokens that are no driver's have reservations. -/
def Settled (r : Rig) : Prop :=
  ∀ group u, r.plant.groups.claims.get? group = some (.reserved u) → r.drivers.get? u.serial = none

variable {r r' : Rig} {e : Event} {n : Nat} {d : Driver}

theorem Settled.unreserved (h : r.Settled) (hw : r.WellFormed) (hd : r.drivers.get? n = some d) :
    d.Unreserved r.plant := by
  intro group u hg hs
  have hu : u.serial = n := hs.trans (hw.driver hd).1
  cases (hu ▸ h _ _ hg).symm.trans hd

theorem Settled.of_eq (h : r.Settled) (hg : r'.plant.groups = r.plant.groups)
    (hd : r'.drivers = r.drivers) : r'.Settled := by
  intro group u hu
  rw [hg] at hu
  rw [hd]
  exact h _ _ hu

/-- Every move leaves reservations to tokens that are no driver's. -/
theorem Settled.move (h : r.Settled) (hw : r.WellFormed) (hm : Move e r r') : r'.Settled := by
  cases hm with
  | quiet quiet => exact h.of_eq quiet.groups_eq quiet.drivers_eq
  | @turn _ n d o live turn alike drivers_eq tokens_eq next_le =>
    intro group u hg
    rw [alike.groups_eq] at hg
    have hf := Frame.of_turn turn
    have hown : u.serial ≠ o.driver.serial :=
      (turn.deeds).keeps (J := Driver.Unreserved) Driver.Unreserved.deed (h.unreserved hw live) _ _ hg
    rw [hf.serial_eq, (hw.driver live).1] at hown
    -- The driver has none itself, and those of others it found.
    rw [drivers_eq, Table.get?_insert_of_ne (Ne.symm hown)]
    rcases hf.groups.owner hg rfl with hg' | hs
    · exact h _ _ hg'
    · exact absurd (hs.trans (hw.driver live).1) hown
  | @made _ c told drivers_eq tokens_eq next_eq clock_eq configured groups_eq =>
    intro group u hg
    have hg' : r.plant.groups.claims.get? group = some (.reserved u) := by
      rw [groups_eq] at hg
      cases hc : c.group with
      | none => simpa only [hc] using hg
      | some own =>
        simp only [hc] at hg
        exact (Interlock.Groups.register_claim hg).resolve_right (by simp)
    -- The new driver has a serial that no token had.
    have hlt : u.serial < r.next := hw.owner_lt hg' rfl
    rw [drivers_eq, Table.get?_insert_of_ne (Nat.ne_of_gt hlt)]
    exact h _ _ hg'
  | @closed _ n d told live drivers_eq tokens_eq next_eq clock_eq board groups_eq =>
    intro group u hg
    rw [groups_eq] at hg
    obtain ⟨hg', hne⟩ := Interlock.Groups.forget_owner hg rfl
    rw [drivers_eq, Table.get?_erase]
    split
    · rfl
    · exact h _ _ (((Frame.free_groups d r.plant).owner hg' rfl).resolve_right hne)
  | placed told alike drivers_eq tokens_eq next_eq =>
    intro group u hg
    rw [alike.groups_eq] at hg
    rw [drivers_eq]
    exact h _ _ ((Interlock.Groups.register_claim hg).resolve_right (by simp))
  | @claimed _ s t own groups told live frame alike drivers_eq tokens_eq next_eq =>
    intro group u hg
    rw [alike.groups_eq] at hg
    rw [drivers_eq]
    rcases frame.owner hg rfl with hg' | hs
    · exact h _ _ hg'
    · -- The token is alive, and no driver has its serial.
      cases hd : r.drivers.get? u.serial with
      | none => rfl
      | some d =>
        have ht : r.tokens.get? u.serial = some t := by
          rw [hs, (hw.token live).1]
          exact live
        cases (hw.distinct hd).symm.trans ht
  | minted id name => exact h.of_eq rfl rfl
  | dropped told live =>
    intro group u hg
    exact h _ _ (Interlock.Groups.forget_owner hg rfl).1

theorem Settled.step (h : r.Settled) (hw : r.WellFormed) (e : Event) : (r.step e).1.Settled :=
  (step_of_moves (J := fun r => r.WellFormed ∧ r.Settled)
    (fun hm ⟨hw, h⟩ => ⟨hw.move hm, h.move hw hm⟩) ⟨hw, h⟩).2

theorem run_settled (s : Setup) (es : List Event) : (s.rig.run es).Settled :=
  run_of_steps (fun e hw h => h.step hw e) (setup_wellFormed s) (fun _ _ hg => by cases hg) es

end Rig

/-! ## What a driver keeps of it -/

namespace Output.Driver

/-- The driver after an operation that came to nothing. A refusal shows its reason, unless a latched one is
shown; a failed write is an error of the state. -/
def foiled (d : Driver) : Error → Driver
  | .refused reason =>
    if d.status.latched?.isSome then d
    else { d with status := { d.status with lockout := true, reason := some reason } }
  | .gpio _ => { d with status := { d.status with state := .error } }
  | _ => d

/-- An operation past the gates came to nothing: it was refused, or its write failed. -/
structure Foiled (d : Driver) (p : Plant) (err : Error) (o : Outcome) : Prop where
  cause : (∃ reason, err = .refused reason) ∨ ∃ e, err = .gpio e
  driver_eq : o.driver = d.foiled err
  alike : p.Alike o.plant

variable {d : Driver} {p p' : Plant} {on : Bool} {duty : Single} {err : Error}

theorem refuse_eq_foiled (d : Driver) (reason : Lockout) :
    { d with status := d.status.refuse reason } = d.foiled (.refused reason) := by
  unfold Status.refuse foiled
  cases d.status.latched? <;> rfl

theorem foiled_pulse (d : Driver) (err : Error) : (d.foiled err).pulse = d.pulse := by
  cases err with
  | refused reason =>
    unfold foiled
    dsimp only
    split <;> rfl
  | gpio _ | invalid _ | wrongChip _ _ _ | notFinite _ _ | noTimer => rfl

/-- Switching past the gates leaves the plant as it was, but for the log, unless it is carried out. -/
theorem Unreserved.apply_foiled (h : d.Unreserved p) (he : (d.apply p on duty).result = .error err) :
    d.Foiled p err (d.apply p on duty) := by
  have hc := d.apply_cases p on duty
  revert he
  generalize d.apply p on duty = o at hc ⊢
  intro he
  cases hc with
  | refused gate alike =>
    cases he
    exact ⟨.inl ⟨_, rfl⟩, d.refuse_eq_foiled _, alike⟩
  | failed gate pass write alike =>
    cases he
    refine ⟨.inr ⟨_, rfl⟩, rfl, ?_⟩
    cases on with
    | false => exact alike
    | true =>
      -- What is given back is the reservation just made, since there was no other.
      exact ⟨alike.board_eq, alike.groups_eq.trans h.abandon_groups_eq, alike.clock_eq⟩
  | done gate pass write clock_eq alike => cases he

theorem command_of_error (he : (d.command p on duty).result = .error err) :
    d.command p on duty = d.apply p on duty := by
  unfold command at he ⊢
  cases hr : (d.apply p on duty).result with
  | ok u => simp [hr] at he
  | error e => simp only [hr]

theorem Unreserved.command_foiled (h : d.Unreserved p)
    (he : (d.command p on duty).result = .error err) : d.Foiled p err (d.command p on duty) := by
  have hc := command_of_error he
  rw [hc] at he ⊢
  exact h.apply_foiled he

/-- The end of a pulse is an attempt to switch off without it. -/
theorem Unreserved.finishPulse_foiled (h : d.Unreserved p) {q : Pulse} (hq : d.pulse = some q)
    (he : (d.finishPulse p q.number).result = .error err) :
    d.dropPulse.Foiled p err (d.finishPulse p q.number) := by
  have hany : d.pulse.any (·.number == q.number) = true := by simp [hq]
  unfold finishPulse at he ⊢
  rw [if_pos hany] at he ⊢
  cases hr : (d.dropPulse.apply p false Duty.zero).result with
  | ok u => simp [hr] at he
  | error e =>
    have hf := Unreserved.apply_foiled (d := d.dropPulse) h hr
    simp only [hr, Except.error.injEq] at he ⊢
    subst he
    exact ⟨hf.cause, hf.driver_eq, hf.alike.trans (Plant.note_alike ..)⟩

end Output.Driver

/-! ## What the rig keeps of it -/

/-- A command to switch that passes the gates. -/
def Command.isGated : Command → Bool
  | .set _ | .toggle | .duty _ => true
  | _ => false

namespace Rig

/-- An operation of a driver came to nothing. Only the log and the driver show it, where the driver after
it is the one given. -/
structure Foiled (r : Rig) (n : Nat) (d : Driver) (r' : Rig) : Prop where
  /-- Nothing was written, no claim changed hands or came to be held, and no time passed. -/
  alike : r.plant.Alike r'.plant
  drivers_eq : r'.drivers = r.drivers.insert n d
  timer_eq : r'.timer = r.timer
  tokens_eq : r'.tokens = r.tokens
  subscriptions_eq : r'.subscriptions = r.subscriptions

/-- What happens to the pulses and their clocks when time passes: the clocks move, the timer moves, and it
gets to the pulses that are over, one after another. -/
def passing (r : Rig) (millis : Int) : List Event :=
  .drift (millis * Clock.perMilli) :: .lapse millis.toNat ::
    (r.elapse millis).due.map fun x => .ring x.1 x.2.number

variable {r : Rig} {n : Nat} {d : Driver} {err : Output.Error} {q : Pulse}

theorem isPending_insert {d' : Driver} {r' : Rig} (hd : r.drivers.get? n = some d)
    (hdr : r'.drivers = r.drivers.insert n d') (hst : r'.started = r.started)
    (hp : d'.pulse = d.pulse) (pulse : Nat) : r'.isPending pulse = r.isPending pulse := by
  unfold isPending
  rw [hst, hdr]
  congr 1
  funext s
  by_cases hs : n = s.driver
  · subst hs
    simp only [Table.get?_insert_self, hd, Option.any_some, Driver.awaits, hp]
  · rw [Table.get?_insert_of_ne hs]

theorem outputReply_eq_outputFailed_iff {result : Except Output.Error Unit} :
    outputReply result = .outputFailed err ↔ result = .error err := by
  cases result <;> simp [outputReply]

/-- What a driver does at a command to switch that comes to nothing. -/
theorem obey_foiled {p : Plant} {c : Command} (hu : d.Unreserved p) (hc : c.isGated = true)
    (he : (obey d p c).result = .error err) :
    d.Foiled p err (obey d p c) ∨
      (∃ x, err = .notFinite d.name x) ∧ obey d p c = ⟨.error err, d, p, none⟩ := by
  cases c with
  | set on => exact .inl (hu.command_foiled he)
  | toggle => exact .inl (hu.command_foiled he)
  | duty x =>
    by_cases hx : x.isFinite = true
    · obtain ⟨duty, hcmd⟩ := d.setDuty_eq_command p hx
      simp only [obey, hcmd] at he ⊢
      exact .inl (hu.command_foiled he)
    · have hset := Driver.setDuty_of_not_isFinite (d := d) (p := p) (Bool.eq_false_iff.2 hx)
      simp only [obey, hset, Except.error.injEq] at he ⊢
      exact .inr ⟨⟨x, he.symm⟩, by rw [he]⟩
  | process | emergencyStop | shutdown | resetLockout | restore _ _ | pulseNow => cases hc

theorem keep_foiled {o : Outcome} (hf : d.Foiled r.plant err o) :
    r.Foiled n (d.foiled err) (r.keep n o) :=
  ⟨hf.alike, by simp only [keep, hf.driver_eq], rfl, rfl, rfl⟩

theorem foiled_refl (hd : r.drivers.get? n = some d) : r.Foiled n d r :=
  ⟨.refl _, (Table.insert_eq_self hd).symm, rfl, rfl, rfl⟩

/-- What it comes to that a driver which was asked to switch did not: the answer is one of a few, what was
left of the driver is as it was, and so is what is pending. -/
structure Spurned (r : Rig) (n : Nat) (d : Driver) (err : Output.Error) (r' : Rig) : Prop where
  foiled : r.Foiled n (d.foiled err) r'
  pending : ∀ pulse, r'.isPending pulse = r.isPending pulse
  cause : (∃ reason, err = .refused reason) ∨ (∃ e, err = .gpio e) ∨
    (err = .noTimer ∨ ∃ x, err = .notFinite d.name x) ∧ r' = r

theorem tell_spurned {c : Command} (hu : d.Unreserved r.plant) (hd : r.drivers.get? n = some d)
    (hc : c.isGated = true) (he : (r.step (.command n c)).2 = .outputFailed err) :
    r.Spurned n d err (r.step (.command n c)).1 := by
  simp only [step, tell, hd] at he ⊢
  have hresult : (obey d r.plant c).result = .error err := outputReply_eq_outputFailed_iff.1 he
  rcases obey_foiled hu hc hresult with hf | ⟨⟨x, hx⟩, hsame⟩
  · have hk : r.Foiled n (d.foiled err) (r.keep n (obey d r.plant c)) := keep_foiled hf
    refine ⟨hk, isPending_insert hd hk.drivers_eq rfl (d.foiled_pulse err), ?_⟩
    exact hf.cause.imp_right Or.inl
  · rw [hsame, keep_self hd]
    subst hx
    exact ⟨foiled_refl hd, fun _ => rfl, .inr (.inr ⟨.inr ⟨x, rfl⟩, rfl⟩)⟩

theorem pulse_spurned {millis : Option UInt32} {timed : Bool} (hu : d.Unreserved r.plant)
    (hd : r.drivers.get? n = some d)
    (he : (r.step (.pulse n millis timed)).2 = .outputFailed err) :
    r.Spurned n d err (r.step (.pulse n millis timed)).1 := by
  cases timed with
  | false =>
    simp only [step, Rig.pulse, hd, Bool.not_false, if_true, Reply.outputFailed.injEq] at he ⊢
    subst he
    exact ⟨foiled_refl hd, fun _ => rfl, .inr (.inr ⟨.inl rfl, rfl⟩)⟩
  | true =>
    have hset {e : Output.Error} (h : (d.set r.plant true).result = .error e) :
        d.startPulse r.plant r.next r.timer millis = d.set r.plant true :=
      Driver.startPulse_of_error h
    simp only [step, Rig.pulse, fresh, hd, Bool.not_true, Bool.false_eq_true, if_false] at he ⊢
    cases hr : (d.startPulse r.plant r.next r.timer millis).result with
    | ok u => simp [hr] at he
    | error e =>
      obtain rfl : e = err := by simpa [hr] using he
      -- Nothing was begun: the switching on itself failed.
      have hon : (d.set r.plant true).result = .error e := by
        cases hs : (d.set r.plant true).result with
        | ok u => simp [Driver.startPulse, hs] at hr
        | error e' =>
          rw [hset hs, hs] at hr
          exact hr
      have hf : d.Foiled r.plant e (d.startPulse r.plant r.next r.timer millis) := by
        rw [hset hon]
        exact hu.command_foiled hon
      have hk := keep_foiled (r := { r with next := r.next + 1 }) (n := n) hf
      refine ⟨⟨hk.alike, hk.drivers_eq, rfl, rfl, rfl⟩, ?_, hf.cause.imp_right Or.inl⟩
      exact isPending_insert hd hk.drivers_eq rfl (d.foiled_pulse e)

/-- What it comes to that the switch-off of a pulse was tried and failed: the pulse is used up, and whoever
asks for its end is told so. -/
structure Fizzled (r : Rig) (n : Nat) (d : Driver) (q : Pulse) (err : Output.Error) (r' : Rig) : Prop where
  foiled : r.Foiled n (d.dropPulse.foiled err) r'
  pending : ∀ pulse, pulse ≠ q.serial → r'.isPending pulse = r.isPending pulse
  started_eq : r'.started = r.started.modify q.serial ({ · with ended := some (.error err) })
  cause : (∃ reason, err = .refused reason) ∨ ∃ e, err = .gpio e

theorem ring_fizzled (hu : d.Unreserved r.plant) (hd : r.drivers.get? n = some d)
    (hq : d.pulse = some q) (hk : q.cancelled = false) (hdue : q.due ≤ r.timer)
    (he : (d.finishPulse r.plant q.number).result = .error err) :
    r.Fizzled n d q err (r.step (.ring n q.number)).1 := by
  have hf := hu.finishPulse_foiled hq he
  have hstep : (r.step (.ring n q.number)).1 = r.finish n q := by
    simp only [step, ring, hd, hq, Option.filter_some, BEq.rfl, if_true, hk, Bool.not_false,
      hdue, decide_true, Bool.and_self]
  have hfin : r.finish n q =
      { r.keep n (d.finishPulse r.plant q.number) with
        started := r.started.modify q.serial ({ · with ended := some (.error err) }) } := by
    simp only [finish, hd, he]
    rfl
  have hkeep := keep_foiled (n := n) hf
  rw [hstep, hfin]
  refine ⟨⟨hkeep.alike, hkeep.drivers_eq, rfl, rfl, rfl⟩, fun pulse hne => ?_, rfl, hf.cause⟩
  unfold isPending
  dsimp only
  rw [Table.get?_modify_of_ne (Ne.symm hne), hkeep.drivers_eq]
  congr 1
  funext s
  by_cases hs : n = s.driver
  · subst hs
    have hdrop : (d.dropPulse.foiled err).pulse = none := Driver.foiled_pulse _ err
    have hother : (q.serial == pulse) = false := by simpa using Ne.symm hne
    simp [hd, Driver.awaits, hdrop, hq, hother]
  · rw [Table.get?_insert_of_ne hs]

/-! ## Pulses that end while time passes -/

theorem finish_timer (m : Nat) (q : Pulse) : (r.finish m q).timer = r.timer := by
  unfold finish
  split <;> rfl

/-- To get to pulses that are over, each of another driver, is to end them. -/
theorem run_rings (l : List (Nat × Pulse)) (hl : (l.map Prod.fst).Nodup)
    (hdue : ∀ m q, (m, q) ∈ l → ∃ d, r.drivers.get? m = some d ∧ d.pulse = some q ∧
      q.cancelled = false ∧ q.due ≤ r.timer) :
    r.run (l.map fun x => .ring x.1 x.2.number) = r.finishAll l := by
  induction l generalizing r with
  | nil => rfl
  | cons x rest ih =>
    obtain ⟨m, q⟩ := x
    rw [List.map_cons, List.nodup_cons] at hl
    obtain ⟨hm, hrest⟩ := hl
    obtain ⟨d, hd, hq, hk, hle⟩ := hdue m q (List.mem_cons_self ..)
    have hring : r.ring m q.number = r.finish m q := by
      simp only [ring, hd, hq, Option.filter_some, BEq.rfl, if_true, hk, Bool.not_false, hle,
        decide_true, Bool.and_self]
    rw [List.map_cons, run_cons, finishAll_cons]
    simp only [step, hring]
    refine ih hrest ?_
    intro m' q' hmem
    obtain ⟨d', hd', hq', hk', hle'⟩ := hdue m' q' (List.mem_cons_of_mem _ hmem)
    have hm' : m' ∈ rest.map Prod.fst := List.mem_map_of_mem (f := Prod.fst) hmem
    have hne : m ≠ m' := fun h => hm (h ▸ hm')
    exact ⟨d', (finish_get?_of_ne hne q).trans hd', hq', hk', by rwa [finish_timer]⟩

/-- The passing of time is a run: the clocks move, and the timer gets to each pulse that is over. -/
theorem advance_eq_run (r : Rig) (millis : Int) : r.advance millis = r.run (r.passing millis) := by
  have hrings : (r.elapse millis).run ((r.elapse millis).due.map fun x => .ring x.1 x.2.number) =
      (r.elapse millis).finishAll (r.elapse millis).due :=
    run_rings _ (due_nodup _) fun _ _ hmem => mem_due.1 hmem
  exact hrings.symm

/-- In every reached state, who is asked to switch and refuses or fails leaves no trace but in its own
status, and neither does a pulse that is over and fails to switch off. Pulses that end while time passes
are no exception, since the timer gets to them one after another. -/
theorem run_spurned (s : Setup) {es : List Event} {n : Nat} {d : Driver}
    (hd : (s.rig.run es).drivers.get? n = some d) {err : Output.Error} :
    (∀ {c}, c.isGated = true → ((s.rig.run es).step (.command n c)).2 = .outputFailed err →
        (s.rig.run es).Spurned n d err ((s.rig.run es).step (.command n c)).1) ∧
      (∀ {millis timed}, ((s.rig.run es).step (.pulse n millis timed)).2 = .outputFailed err →
        (s.rig.run es).Spurned n d err ((s.rig.run es).step (.pulse n millis timed)).1) ∧
      (∀ {q}, d.pulse = some q → q.cancelled = false → q.due ≤ (s.rig.run es).timer →
        (d.finishPulse (s.rig.run es).plant q.number).result = .error err →
        (s.rig.run es).Fizzled n d q err ((s.rig.run es).step (.ring n q.number)).1) ∧
      ∀ millis, ((s.rig.run es).step (.advance millis)).1 =
        (s.rig.run es).run ((s.rig.run es).passing millis) := by
  have hw := run_wellFormed (setup_wellFormed s) es
  have hu : d.Unreserved (s.rig.run es).plant := (run_settled s es).unreserved hw hd
  refine ⟨fun hc he => tell_spurned hu hd hc he, fun he => pulse_spurned hu hd he, ?_, ?_⟩
  · intro q hq hk hdue he
    exact ring_fizzled hu hd hq hk hdue he
  · intro millis
    exact advance_eq_run _ millis

/-- An output that stays on for a second at least, and has just been switched on. -/
def hasty : List Event :=
  [.create { Output.Config.plain 1 "valve" .relay 17 with minOn := 1000 }, .command 0 (.set true)]

/-- To switch it off is refused. -/
theorem hasty_spurned :
    ∃ d, (Setup.plain.rig.run hasty).drivers.get? 0 = some d ∧
      ((Setup.plain.rig.run hasty).step (.command 0 (.set false))).2 =
        .outputFailed (.refused .minOnTime) ∧
      (Setup.plain.rig.run hasty).Spurned 0 d (.refused .minOnTime)
        ((Setup.plain.rig.run hasty).step (.command 0 (.set false))).1 := by
  obtain ⟨d, hd⟩ : ∃ d, (Setup.plain.rig.run hasty).drivers.get? 0 = some d :=
    Option.isSome_iff_exists.1 (by decide +kernel)
  have he : ((Setup.plain.rig.run hasty).step (.command 0 (.set false))).2 =
      .outputFailed (.refused .minOnTime) := by rfl
  exact ⟨d, hd, he, (run_spurned Setup.plain hd).1 rfl he⟩

end Rig

end Switchboard
