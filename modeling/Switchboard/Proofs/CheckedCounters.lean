import Switchboard.Proofs.Panics

/-!
# Counters where additions are checked

Where additions are checked no counter of an output ever goes down: the cycles stop at their bound, and the
total stays where it is when it has no room for a stretch. The price is that the operation which ends such a
stretch panics, and whether it does is told from the history of the driver alone: it panics if and only if what
the total began with and all that was counted since, with the stretch that it ends, do not fit (`run_counters`).
What it leaves says on still while the output is off, with both counters as they were.

To the history belong only the operations that were carried through. So the total is at any time what it began
with and what the history counts, exactly (`run_total`).
-/

namespace Switchboard

open Output (Driver Outcome Pulse Wreck)

/-- A rig before its board is started, where additions are checked. -/
def Setup.checked (s : Setup) : Checked := ⟨s.cold, []⟩

namespace Checked

/-- At an event an operation of the driver with a serial panics. -/
def panicsAt (c : Checked) (n : Nat) (e : Event) : Bool :=
  c.panicked n < (c.step e).1.panicked n

/-- What the driver with a serial does at an event and carries through. -/
def actsAt (c : Checked) (n : Nat) (d : Driver) (e : Event) : List Act :=
  if c.panicsAt n e then [] else d.actsOn c.rig n (c.found n e) e

/-- The operations of the driver with a serial that a run carries through. -/
def history (c : Checked) (n : Nat) : List Event → List Act
  | [] => []
  | e :: es => (c.rig.drivers.get? n).elim [] (fun d => c.actsAt n d e) ++ (c.step e).1.history n es

variable {c : Checked} {r r' r'' : Rig} {e : Event} {es : List Event} {n : Nat} {d d' : Driver}

/-! ## Which drivers there are -/

/-- From one rig to another no driver is made. -/
structure NoneMade (r r' : Rig) : Prop where
  wellFormed : r'.WellFormed
  absent : ∀ {n}, r.drivers.get? n = none → r'.drivers.get? n = none
  next_le : r.next ≤ r'.next

theorem NoneMade.refl (hw : r.WellFormed) : NoneMade r r :=
  ⟨hw, id, Nat.le_refl _⟩

theorem NoneMade.trans (h : NoneMade r r') (h' : NoneMade r' r'') : NoneMade r r'' :=
  ⟨h'.wellFormed, fun hn => h'.absent (h.absent hn), Nat.le_trans h.next_le h'.next_le⟩

/-- A rig is in order after an operation that panicked as it is after one that was carried through. -/
theorem leave_noneMade {may : Command → Prop} {o : Outcome} {w : Wreck} (hw : c.rig.WellFormed)
    (hd : c.rig.drivers.get? n = some d) (ht : Turn may d c.rig.plant o) (hh : d.Halfway o w)
    (pulse : Option Nat) : NoneMade c.rig (c.leave n pulse w).rig where
  wellFormed := by
    have hkept : (c.rig.keep n o).WellFormed := hw.turn hd ht (.refl _) rfl rfl (Nat.le_refl _)
    have hs : w.driver.serial = o.driver.serial :=
      hh.serial_eq.trans (Frame.of_turn ht).serial_eq.symm
    have h := hkept.replace Table.get?_insert_self hs hh.alike.groups_eq.symm
    rwa [Rig.keep, Table.insert_insert] at h
  absent {m} hm := by
    have hne : n ≠ m := by
      rintro rfl
      cases hm.symm.trans hd
    exact (Table.get?_insert_of_ne hne).trans hm
  next_le := Nat.le_refl _

theorem finish_noneMade (hw : c.rig.WellFormed) (m : Nat) (q : Pulse) :
    NoneMade c.rig (c.finish m q).rig := by
  unfold finish
  split
  · rename_i w hwreck
    obtain ⟨d, hd, hwreck⟩ := Option.bind_eq_some_iff.1 hwreck
    have ht : Turn (fun _ => False) d c.rig.plant (d.finishPulse c.rig.plant q.number) := .finish q.number
    exact leave_noneMade hw hd ht ((d.finishPulse_guards c.rig.plant q.number).halfway hwreck) _
  · refine ⟨hw.finishAll [(m, q)], fun hn => Rig.finish_absent hn m q, ?_⟩
    unfold Rig.finish
    split <;> exact Nat.le_refl _

theorem finishAll_noneMade (hw : c.rig.WellFormed) (l : List (Nat × Pulse)) :
    NoneMade c.rig (c.finishAll l).rig := by
  induction l generalizing c with
  | nil => exact .refl hw
  | cons x rest ih =>
    have h := finish_noneMade hw x.1 x.2
    exact h.trans (ih h.wellFormed)

/-- At an event at which operations may panic no driver is made. -/
theorem step_noneMade (hw : c.rig.WellFormed) (he : e.mayPanic = true) :
    NoneMade c.rig (c.step e).1.rig := by
  have hstep : NoneMade c.rig (c.rig.step e).1 := by
    refine ⟨hw.step e, fun hn => Rig.step_absent hn ?_, Rig.step_next_le _ e⟩
    rintro config rfl
    cases he
  cases e with
  | command m command =>
    simp only [step, tell]
    split
    · rename_i w hwreck
      obtain ⟨d, hd, hwreck⟩ := Option.bind_eq_some_iff.1 hwreck
      have ht : Turn (fun _ => True) d c.rig.plant (Rig.obey d c.rig.plant command) := .tell command trivial
      exact leave_noneMade hw hd ht ((d.obey_guards c.rig.plant command).halfway hwreck) _
    · exact hstep
  | advance millis =>
    have helapse : NoneMade c.rig (c.rig.elapse millis) :=
      ⟨hw.quiet (Rig.elapse_quiet c.rig millis), id, Nat.le_refl _⟩
    exact helapse.trans
      (finishAll_noneMade (c := { c with rig := c.rig.elapse millis }) helapse.wellFormed _)
  | ring m number =>
    simp only [step, ring]
    split
    · exact finish_noneMade hw m _
    · exact hstep
  | _ => cases he

theorem step_wellFormed (hw : c.rig.WellFormed) (e : Event) : (c.step e).1.rig.WellFormed := by
  cases he : e.mayPanic with
  | true => exact (step_noneMade hw he).wellFormed
  | false =>
    rw [step_of_safe he]
    exact hw.step e

/-- A driver that a step makes is off, and was given the next serial. -/
theorem step_born (hw : c.rig.WellFormed) (hn : c.rig.drivers.get? n = none)
    (hd : (c.step e).1.rig.drivers.get? n = some d) : d.status.isOn = false ∧ n = c.rig.next := by
  cases he : e.mayPanic with
  | true => cases ((step_noneMade hw he).absent hn).symm.trans hd
  | false =>
    rw [step_of_safe he] at hd
    obtain ⟨hborn, hnext⟩ := Rig.step_born hw hn hd
    rw [hborn.idle]
    exact ⟨rfl, hnext⟩

theorem step_next_le (hw : c.rig.WellFormed) (e : Event) : c.rig.next ≤ (c.step e).1.rig.next := by
  cases he : e.mayPanic with
  | true => exact (step_noneMade hw he).next_le
  | false =>
    rw [step_of_safe he]
    exact Rig.step_next_le c.rig e

@[simp] theorem run_cons (c : Checked) (e : Event) (es : List Event) :
    c.run (e :: es) = (c.step e).1.run es := rfl

theorem run_append (c : Checked) (es es' : List Event) : c.run (es ++ es') = (c.run es).run es' :=
  List.foldl_append

theorem run_wellFormed (hw : c.rig.WellFormed) (es : List Event) : (c.run es).rig.WellFormed := by
  induction es generalizing c with
  | nil => exact hw
  | cons e es ih => exact ih (step_wellFormed hw e)

/-- A driver that was given up does not come back. -/
theorem run_absent (hw : c.rig.WellFormed) (hlt : n < c.rig.next) (hn : c.rig.drivers.get? n = none)
    (es : List Event) : (c.run es).rig.drivers.get? n = none := by
  induction es generalizing c with
  | nil => exact hn
  | cons e es ih =>
    refine ih (step_wellFormed hw e) (Nat.lt_of_lt_of_le hlt (step_next_le hw e)) ?_
    cases hd : (c.step e).1.rig.drivers.get? n with
    | none => rfl
    | some d => exact absurd (step_born hw hn hd).2 (Nat.ne_of_lt hlt)

/-- A driver that is there before an event and at the end of a run is there after the event. -/
theorem live_after (hw : c.rig.WellFormed) (hd : c.rig.drivers.get? n = some d)
    (hd' : (c.run (e :: es)).rig.drivers.get? n = some d') :
    ∃ d₁, (c.step e).1.rig.drivers.get? n = some d₁ := by
  cases hn : (c.step e).1.rig.drivers.get? n with
  | some d₁ => exact ⟨d₁, rfl⟩
  | none =>
    have hlt : n < (c.step e).1.rig.next := Nat.lt_of_lt_of_le (hw.driver hd).2 (step_next_le hw e)
    cases (run_absent (step_wellFormed hw e) hlt hn es).symm.trans hd'

/-! ## The history -/

theorem history_cons (hd : c.rig.drivers.get? n = some d) (e : Event) (es : List Event) :
    c.history n (e :: es) = c.actsAt n d e ++ (c.step e).1.history n es := by
  simp only [history, hd, Option.elim_some]

theorem history_append (c : Checked) (n : Nat) (es es' : List Event) :
    c.history n (es ++ es') = c.history n es ++ (c.run es).history n es' := by
  induction es generalizing c with
  | nil => rfl
  | cons e es ih => simp only [List.cons_append, history, ih, run_cons, List.append_assoc]

/-- An event panics if and only if the total has no room for what is done at it. -/
theorem Deals.panicsAt_iff (h : c.Deals n d (d.actsOn c.rig n (c.found n e) e) (c.step e).1 d') :
    c.panicsAt n e = true ↔
      2 ^ 64 ≤ d.account.total.toNat + d.account.credits (d.actsOn c.rig n (c.found n e) e) := by
  unfold panicsAt
  rw [decide_eq_true_iff]
  cases h with
  | returned fits books panicked_eq => omega
  | panicked full account_eq isOn panicked_eq => omega

/-- What is carried through at an event is entered, and the total has room for it. -/
theorem Deals.enters (h : c.Deals n d (d.actsOn c.rig n (c.found n e) e) (c.step e).1 d') :
    d.Books (c.actsAt n d e) d' ∧ d.account.total.toNat + d.account.credits (c.actsAt n d e) < 2 ^ 64 := by
  have hp := h.panicsAt_iff
  have hlt := d.account.total.toNat_lt
  unfold actsAt
  cases h with
  | returned fits books panicked_eq =>
    rw [if_neg (by rw [hp]; omega)]
    exact ⟨books, fits⟩
  | panicked full account_eq isOn panicked_eq =>
    rw [if_pos (hp.2 full)]
    exact ⟨.refl account_eq, by simpa [Account.credits] using hlt⟩

/-- What panics at an event leaves the output saying on, and with the accounts that it had. -/
theorem Deals.of_panicsAt (h : c.Deals n d (d.actsOn c.rig n (c.found n e) e) (c.step e).1 d')
    (hp : c.panicsAt n e = true) : d.status.isOn = true ∧ d'.account = d.account := by
  have hfull := h.panicsAt_iff.1 hp
  cases h with
  | returned fits books panicked_eq => exact absurd hfull (Nat.not_le.2 fits)
  | panicked full account_eq isOn panicked_eq => exact ⟨isOn, account_eq⟩

/-- The total is what is carried through at an event adds to it. -/
theorem Deals.total_eq (h : c.Deals n d (d.actsOn c.rig n (c.found n e) e) (c.step e).1 d') :
    d'.account.total.toNat = d.account.total.toNat + d.account.credits (c.actsAt n d e) := by
  obtain ⟨hb, hfits⟩ := h.enters
  rw [hb.account_eq, Account.entries_total, Nat.mod_eq_of_lt hfits]

/-- At no event does a counter go down. -/
theorem Deals.rises (h : c.Deals n d (d.actsOn c.rig n (c.found n e) e) (c.step e).1 d') :
    d.status.total ≤ d'.status.total ∧ d.status.cycles ≤ d'.status.cycles := by
  have htotal : d'.status.total.toNat = d.status.total.toNat + d.account.credits (c.actsAt n d e) :=
    h.total_eq
  have hcycles : d'.status.cycles = ((c.actsAt n d e).foldl Account.enter d.account).cycles :=
    congrArg Account.cycles h.enters.1.account_eq
  rw [UInt64.le_iff_toNat_le, UInt32.le_iff_toNat_le, htotal, hcycles]
  exact ⟨Nat.le_add_right _ _, d.account.cycles_le_entries _⟩

/-- What a driver that is told something does where additions are checked. -/
theorem step_command (hd : c.rig.drivers.get? n = some d) (k : Command) :
    c.step (.command n k) =
      (Rig.obey d c.rig.plant k).wreck.elim
        ({ c with rig := (c.rig.tell n k).1 }, some (c.rig.tell n k).2)
        fun w => (c.leave n none w, none) := by
  cases hw : (Rig.obey d c.rig.plant k).wreck <;> simp [step, tell, hd, hw]

/-- At a step the mark stays at the time at which the status came on. -/
theorem step_open {past : List Act} (hw : c.rig.WellFormed) (hd : c.rig.drivers.get? n = some d)
    (hd' : (c.step e).1.rig.drivers.get? n = some d') (h : d.account.Open past) :
    d'.account.Open (past ++ c.actsAt n d e) := by
  by_cases hr : ∃ total cycles, e = .command n (.restore total cycles)
  · obtain ⟨total, cycles, rfl⟩ := hr
    have hstep : (c.step (.command n (.restore total cycles))).1 =
        { c with rig := (c.rig.step (.command n (.restore total cycles))).1 } := by
      rw [step_command hd]
      rfl
    have hacts : c.actsAt n d (.command n (.restore total cycles)) = [] := by
      have hdriver : d.actsOn c.rig n (c.found n (.command n (.restore total cycles)))
          (.command n (.restore total cycles)) = [] := by
        simp [Driver.actsOn, Driver.acts]
      rw [actsAt, hdriver, ite_self]
    rw [hstep] at hd'
    have h' := Rig.step_open hw hd hd' h
    rwa [Rig.actsAt_restore, ← hacts] at h'
  · have hdeals := step_deals hw hd hd' fun total cycles he => hr ⟨total, cycles, he⟩
    obtain ⟨hb, -⟩ := hdeals.enters
    rw [hb.account_eq]
    exact h.entries hb.linked

theorem run_open {past : List Act} (hw : c.rig.WellFormed)
    (h : ∀ d, c.rig.drivers.get? n = some d → d.account.Open past)
    (hd' : (c.run es).rig.drivers.get? n = some d') : d'.account.Open (past ++ c.history n es) := by
  induction es generalizing c past with
  | nil => simpa [history] using h d' hd'
  | cons e es ih =>
    cases hd : c.rig.drivers.get? n with
    | some d =>
      rw [history_cons hd, ← List.append_assoc]
      exact ih (step_wellFormed hw e) (fun d₁ hd₁ => step_open hw hd hd₁ (h d hd)) hd'
    | none =>
      simp only [history, hd, Option.elim_none, List.nil_append]
      refine ih (step_wellFormed hw e) (fun d₁ hd₁ hon => ?_) hd'
      cases (step_born hw hd hd₁).1.symm.trans hon

theorem setup_open (s : Setup) (hd : (s.checked.run es).rig.drivers.get? n = some d) :
    d.account.Open (s.checked.history n es) := by
  have hborn : ∀ d, s.checked.rig.drivers.get? n = some d → d.account.Open [] := by
    intro d hd
    cases hd
  have h := run_open (c := s.checked) (Rig.cold_wellFormed s) hborn hd
  rwa [List.nil_append] at h

/-- A command gets no answer if and only if it panics, and then the output is off. -/
theorem command_panics (hd : c.rig.drivers.get? n = some d) (k : Command) :
    ((c.step (.command n k)).2 = none ↔ c.panicsAt n (.command n k) = true) ∧
      (c.panicsAt n (.command n k) = true →
        (c.step (.command n k)).1.rig.plant.board.bench.level? d.config.pin =
          some (d.config.level false)) := by
  unfold panicsAt
  rw [step_command hd]
  cases hw : (Rig.obey d c.rig.plant k).wreck with
  | some w =>
    have hh := (d.obey_guards c.rig.plant k).halfway hw
    exact ⟨by simp [leave_panicked], fun _ => hh.level_eq⟩
  | none => exact ⟨by simp [panicked], by simp [panicked]⟩

/-- The total is what it was and what the history counts since. -/
theorem run_total {past : List Act} {start : Nat} (hw : c.rig.WellFormed)
    (hd : c.rig.drivers.get? n = some d) (hd' : (c.run es).rig.drivers.get? n = some d')
    (hr : ∀ total cycles, Event.command n (.restore total cycles) ∉ es) (hopen : d.account.Open past)
    (hstart : start ≤ past.length) :
    d'.account.total.toNat + timeCounted past start =
      d.account.total.toNat + timeCounted (past ++ c.history n es) start := by
  induction es generalizing c d past with
  | nil =>
    cases hd.symm.trans hd'
    simp [history]
  | cons e es ih =>
    obtain ⟨d₁, hd₁⟩ := live_after hw hd hd'
    have hdeals := step_deals hw hd hd₁ fun total cycles he =>
      hr total cycles (he ▸ List.mem_cons_self ..)
    have htotal := hdeals.total_eq
    have hlen : start ≤ (past ++ c.actsAt n d e).length := by
      rw [List.length_append]
      exact Nat.le_add_right_of_le hstart
    have hcounted := Account.timeCounted_append hopen hdeals.enters.1.linked hstart
    have hrest := ih (step_wellFormed hw e) hd₁ hd'
      (fun total cycles hm => hr total cycles (List.mem_cons_of_mem _ hm)) (step_open hw hd hd₁ hopen) hlen
    rw [history_cons hd, ← List.append_assoc]
    omega

/-- Where additions are checked neither counter of a driver ever goes down, from any state of a run in which it
has some counters, as long as they are not restored again. The total is at any time what it was and what the
history counts since. An event at which that does not fit panics: the driver says on still then and has the
counters that it had, and a command gets no answer, though it has put the pin at its off level. -/
theorem run_counters (s : Setup) {before after : List Event} {e : Event} {n : Nat} {d d₁ d₂ : Driver}
    (hd : (s.checked.run before).rig.drivers.get? n = some d)
    (hd₁ : (s.checked.run (before ++ after)).rig.drivers.get? n = some d₁)
    (hd₂ : (s.checked.run (before ++ after ++ [e])).rig.drivers.get? n = some d₂)
    (hr : ∀ total cycles, Event.command n (.restore total cycles) ∉ after ++ [e]) :
    let c := s.checked.run (before ++ after)
    let past := s.checked.history n (before ++ after)
    let start := (s.checked.history n before).length
    let acts := d₁.actsOn c.rig n (c.found n e) e
    d₁.status.total ≤ d₂.status.total ∧ d₁.status.cycles ≤ d₂.status.cycles ∧
      d₁.status.total.toNat = d.status.total.toNat + timeCounted past start ∧
      (c.panicsAt n e = true ↔ 2 ^ 64 ≤ d.status.total.toNat + timeCounted (past ++ acts) start) ∧
      (c.panicsAt n e = true → d₁.status.isOn = true ∧ d₂.account = d₁.account) ∧
      ∀ k, e = .command n k → ((c.step e).2 = none ↔ c.panicsAt n e = true) ∧
        (c.panicsAt n e = true →
          (c.step e).1.rig.plant.board.bench.level? d₁.config.pin = some (d₁.config.level false)) := by
  intro c past start acts
  have hwell : s.checked.rig.WellFormed := Rig.cold_wellFormed s
  have hw : (s.checked.run before).rig.WellFormed := run_wellFormed hwell before
  have hw₁ : c.rig.WellFormed := run_wellFormed hwell (before ++ after)
  have hopen := setup_open s hd
  have hopen₁ := setup_open s hd₁
  have hpast : past = s.checked.history n before ++ (s.checked.run before).history n after :=
    history_append ..
  have hle : start ≤ past.length := by
    rw [hpast, List.length_append]
    exact Nat.le_add_right _ _
  have htotal : d₁.account.total.toNat = d.account.total.toNat + timeCounted past start := by
    rw [run_append] at hd₁
    have h := run_total hw hd hd₁ (fun total cycles hm => hr total cycles (List.mem_append_left _ hm))
      hopen (Nat.le_refl _)
    have hnone : timeCounted (s.checked.history n before) start = 0 := overSpans_self _ _
    rwa [← hpast, hnone, Nat.add_zero] at h
  have hdeals : c.Deals n d₁ acts (c.step e).1 d₂ := by
    rw [run_append] at hd₂
    exact step_deals hw₁ hd₁ hd₂ fun total cycles he => hr total cycles (by simp [he])
  have hpanics : c.panicsAt n e = true ↔
      2 ^ 64 ≤ d.account.total.toNat + timeCounted (past ++ acts) start := by
    rw [hdeals.panicsAt_iff, htotal,
      Account.timeCounted_append hopen₁ (Driver.actsOn_linked d₁ c.rig n _ e) hle, Nat.add_assoc]
  obtain ⟨htotal_le, hcycles_le⟩ := hdeals.rises
  refine ⟨htotal_le, hcycles_le, htotal, hpanics, hdeals.of_panicsAt, ?_⟩
  rintro k rfl
  exact command_panics hd₁ k

/-- An output whose counters are restored with little room left. -/
def brimming (total : UInt64) : List Event :=
  [.pin .init, .create (Output.Config.plain 1 "pump" .relay 17), .command 0 (.restore total 0xFFFFFFFE)]

/-- It is on for five milliseconds. -/
def overflowing : List Event :=
  [.command 0 (.set true), .drift 5000000]

/-- Where there is room for them the switch-off does not panic, and both counters come to their bounds. -/
theorem brimming_counters :
    let c := Setup.plain.checked.run (brimming 0xFFFFFFFFFFFFFFFA ++ overflowing)
    c.panicsAt 0 (.command 0 (.set false)) = false ∧
      (c.step (.command 0 (.set false))).2.isSome = true ∧
      ∃ d, (Setup.plain.checked.run (brimming 0xFFFFFFFFFFFFFFFA ++ overflowing ++
          [.command 0 (.set false)])).rig.drivers.get? 0 = some d ∧
        0xFFFFFFFFFFFFFFFA ≤ d.status.total ∧ 0xFFFFFFFF ≤ d.status.cycles := by
  intro c
  obtain ⟨d, hd⟩ : ∃ d,
      (Setup.plain.checked.run (brimming 0xFFFFFFFFFFFFFFFA)).rig.drivers.get? 0 = some d :=
    Option.isSome_iff_exists.1 (by decide +kernel)
  obtain ⟨d₁, hd₁⟩ : ∃ d₁, c.rig.drivers.get? 0 = some d₁ :=
    Option.isSome_iff_exists.1 (by decide +kernel)
  obtain ⟨d₂, hd₂⟩ : ∃ d₂, (Setup.plain.checked.run (brimming 0xFFFFFFFFFFFFFFFA ++ overflowing ++
      [.command 0 (.set false)])).rig.drivers.get? 0 = some d₂ :=
    Option.isSome_iff_exists.1 (by decide +kernel)
  have htotal : d.status.total = 0xFFFFFFFFFFFFFFFA := by
    have h : ((Setup.plain.checked.run (brimming 0xFFFFFFFFFFFFFFFA)).rig.drivers.get? 0).map
        (·.status.total) = some 0xFFFFFFFFFFFFFFFA := by
      decide +kernel
    simpa [hd] using h
  have hcounters : d₁.status.total = 0xFFFFFFFFFFFFFFFA ∧ d₁.status.cycles = 0xFFFFFFFF := by
    have h : (c.rig.drivers.get? 0).map (fun d => (d.status.total, d.status.cycles)) =
        some (0xFFFFFFFFFFFFFFFA, 0xFFFFFFFF) := by
      decide +kernel
    simpa [hd₁] using h
  have hacts : timeCounted
      (Setup.plain.checked.history 0 (brimming 0xFFFFFFFFFFFFFFFA ++ overflowing) ++
        d₁.actsOn c.rig 0 (c.found 0 (.command 0 (.set false))) (.command 0 (.set false)))
      (Setup.plain.checked.history 0 (brimming 0xFFFFFFFFFFFFFFFA)).length = 5 := by
    have h : (c.rig.drivers.get? 0).map (fun d => timeCounted
        (Setup.plain.checked.history 0 (brimming 0xFFFFFFFFFFFFFFFA ++ overflowing) ++
          d.actsOn c.rig 0 (c.found 0 (.command 0 (.set false))) (.command 0 (.set false)))
        (Setup.plain.checked.history 0 (brimming 0xFFFFFFFFFFFFFFFA)).length) = some 5 := by
      decide +kernel
    simpa [hd₁] using h
  have hno : ∀ total cycles,
      Event.command 0 (.restore total cycles) ∉ overflowing ++ [.command 0 (.set false)] := by
    simp [overflowing]
  obtain ⟨ht, hc, -, hpanics, -, hanswer⟩ := run_counters Setup.plain hd hd₁ hd₂ hno
  have hcalm : c.panicsAt 0 (.command 0 (.set false)) = false := by
    rw [← Bool.not_eq_true, hpanics, hacts, htotal]
    decide
  refine ⟨hcalm, ?_, d₂, hd₂, hcounters.1 ▸ ht, hcounters.2 ▸ hc⟩
  rw [Option.isSome_iff_ne_none, Ne, (hanswer _ rfl).1, hcalm]
  decide

/-- A switch-off that the total has no room for panics. The command gets no answer, and though the pin is at its
off level the output says on still. -/
theorem brimming_panics :
    let c := Setup.plain.checked.run (brimming 0xFFFFFFFFFFFFFFFF ++ overflowing)
    let after := c.step (.command 0 (.set false))
    after.2 = none ∧ after.1.rig.plant.board.bench.level? 17 = some false ∧
      (after.1.rig.drivers.get? 0).map (fun d => (d.status.isOn, d.status.total)) =
        some (true, 0xFFFFFFFFFFFFFFFF) := by
  decide +kernel

end Checked

end Switchboard
