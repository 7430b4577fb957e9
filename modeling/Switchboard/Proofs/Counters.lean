import Switchboard.Proofs.Accounts

/-!
# Counters that go up

Two counters of an output are kept with different arithmetic. The cycles stop at their bound, so they never
go down. The total of the time on is a count modulo its size: it goes down at an operation exactly if the
stretch that the operation ends does not fit any more (`enter_total`). Over a run it goes up as long as what
it began with and all that was counted since fit into it, and no longer (`run_rises_iff`). What was counted is
told from the history of the driver as in the accounts of the output, each stretch for no more than
sixty-four bits hold (`timeCounted`).

This is what the output does where additions are not checked. Where they are, the operation that would take the
total down panics instead.
-/

namespace Switchboard

open Output (Driver)

/-- The time on that is counted in a history, over all stretches that end at an operation with some number or
later. -/
def timeCounted (acts : List Act) (start : Nat) : Nat :=
  overSpans (min · (2 ^ 64 - 1)) acts start

namespace Account

variable {x : Account} {a : Act} {acts past : List Act} {start : Nat}

/-- What an operation adds to the total. -/
def credit (x : Account) (a : Act) : Nat :=
  if a.ends then x.onSince.elim 0 (millisBetween · a.time) else 0

/-- What operations add to the total, one after another. -/
def credits (x : Account) : List Act → Nat
  | [] => 0
  | a :: rest => x.credit a + (x.enter a).credits rest

theorem credit_lt (x : Account) (a : Act) : x.credit a < 2 ^ 64 := by
  unfold credit
  split
  · cases x.onSince with
    | none => simp
    | some t =>
      simp only [Option.elim_some, millisBetween]
      omega
  · exact Nat.two_pow_pos 64

theorem enter_total (x : Account) (a : Act) :
    (x.enter a).total.toNat = (x.total.toNat + x.credit a) % 2 ^ 64 := by
  have hx := x.total.toNat_lt
  unfold enter credit
  cases a.ends with
  | false => simp [Nat.mod_eq_of_lt hx]
  | true => simp [UInt64.toNat_add]

theorem credits_single_lt (x : Account) (a : Act) : x.credits [a] < 2 ^ 64 := by
  simpa [credits] using x.credit_lt a

theorem credits_append (x : Account) (acts acts' : List Act) :
    x.credits (acts ++ acts') = x.credits acts + (acts.foldl enter x).credits acts' := by
  induction acts generalizing x with
  | nil => simp [credits]
  | cons a rest ih => simp only [List.cons_append, credits, ih, List.foldl_cons, Nat.add_assoc]

theorem entries_total (x : Account) (acts : List Act) :
    (acts.foldl enter x).total.toNat = (x.total.toNat + x.credits acts) % 2 ^ 64 := by
  induction acts generalizing x with
  | nil => simp [credits, Nat.mod_eq_of_lt x.total.toNat_lt]
  | cons a rest ih =>
    rw [List.foldl_cons, ih, enter_total, credits, Nat.mod_add_mod, Nat.add_assoc]

theorem cycles_le_enter (x : Account) (a : Act) : x.cycles.toNat ≤ (x.enter a).cycles.toNat := by
  have h := toNat_succ_cycles (c := x.cycles) (m := x.cycles.toNat) (by have := x.cycles.toNat_lt; omega)
  have hlt := x.cycles.toNat_lt
  unfold enter
  cases a.switches with
  | false => simp
  | true =>
    simp only [Bool.true_and]
    omega

theorem cycles_le_entries (x : Account) (acts : List Act) :
    x.cycles.toNat ≤ (acts.foldl enter x).cycles.toNat := by
  induction acts generalizing x with
  | nil => exact Nat.le_refl _
  | cons a rest ih => exact Nat.le_trans (x.cycles_le_enter a) (ih _)

/-- What operations add is what the history has more of with them. -/
theorem timeCounted_append (h : x.Open past) (hl : Linked x.isOn acts) (hstart : start ≤ past.length) :
    timeCounted (past ++ acts) start = timeCounted past start + x.credits acts := by
  induction acts generalizing x past with
  | nil => simp [credits]
  | cons a rest ih =>
    have happ : past ++ a :: rest = past ++ [a] ++ rest := by simp
    have hstart' : start ≤ (past ++ [a]).length := by
      rw [List.length_append]
      exact Nat.le_add_right_of_le hstart
    rw [happ, ih (h.enter hl.1) hl.2 hstart', timeCounted, overSpans_concat _ h hl.1 hstart, credits,
      ← timeCounted, Nat.add_assoc]
    rfl

end Account

/-! ## The operations of one event -/

namespace Output.Driver

variable {d : Driver} {p : Plant}

/-- To switch on ends no stretch. -/
theorem set_on_ends (d : Driver) (p : Plant) : (Act.of d p (d.set p true)).ends = false := by
  have hends := d.command_ends p true (d.config.fullDuty true)
  unfold Act.of Act.ends set Status.isOn
  rcases hends with ⟨hr, hs⟩ | ⟨r, hr, -⟩ | ⟨e, hr, -⟩
  · simp [hr, hs]
  · simp [hr, Except.isOk, Except.toBool]
  · simp [hr, Except.isOk, Except.toBool]

/-- What a driver is told ends one stretch at most. -/
theorem acts_credits_lt (d : Driver) (p : Plant) (c : Command) :
    d.account.credits (d.acts p c) < 2 ^ 64 := by
  cases c with
  | restore total cycles => exact Nat.two_pow_pos 64
  | pulseNow =>
    -- Of the two commands only the one to switch off can end a stretch.
    simp only [acts, Account.credits, Account.credit, set_on_ends, Bool.false_eq_true, if_false,
      Nat.zero_add]
    split
    · exact Account.credits_single_lt _ _
    · exact Nat.two_pow_pos 64
  | _ => exact d.account.credits_single_lt _

/-- At one event a driver ends one stretch at most. -/
theorem actsOn_credits_lt (d : Driver) (r : Rig) (n : Nat) (p : Plant) (e : Event) :
    d.account.credits (d.actsOn r n p e) < 2 ^ 64 := by
  cases e with
  | command m c =>
    simp only [actsOn]
    split
    · exact d.acts_credits_lt p c
    · exact Nat.two_pow_pos 64
  | pulse m millis timed =>
    simp only [actsOn]
    split
    · exact d.account.credits_single_lt _
    · exact Nat.two_pow_pos 64
  | _ =>
    simp only [actsOn]
    generalize d.pulse.filter _ = q
    cases q with
    | none => exact Nat.two_pow_pos 64
    | some q => exact d.account.credits_single_lt _

end Output.Driver

/-! ## Runs -/

namespace Rig

variable {r : Rig} {e : Event} {es : List Event} {n : Nat} {d d' : Driver} {past : List Act} {start : Nat}

/-- A figure of the driver with a serial goes down at no event of a run, as long as the driver is there. -/
def Rises (figure : Output.Status → Nat) (n : Nat) (r : Rig) : List Event → Prop
  | [] => True
  | e :: es =>
    (∀ {d d'}, r.drivers.get? n = some d → (r.step e).1.drivers.get? n = some d' →
      figure d.status ≤ figure d'.status) ∧ Rises figure n (r.step e).1 es

theorem rises_cons_iff {figure : Output.Status → Nat} (hd : r.drivers.get? n = some d)
    (hd' : (r.step e).1.drivers.get? n = some d') :
    r.Rises figure n (e :: es) ↔
      figure d.status ≤ figure d'.status ∧ (r.step e).1.Rises figure n es := by
  simp only [Rises, hd, hd', Option.some.injEq]
  constructor
  · rintro ⟨h, hes⟩
    exact ⟨h rfl rfl, hes⟩
  · rintro ⟨h, hes⟩
    refine ⟨?_, hes⟩
    rintro _ _ rfl rfl
    exact h

/-- A driver that was given up has neither a history nor figures. -/
theorem history_of_absent (hw : r.WellFormed) (hlt : n < r.next) (hn : r.drivers.get? n = none)
    (es : List Event) : r.history n es = [] ∧ ∀ figure, r.Rises figure n es := by
  induction es generalizing r with
  | nil => exact ⟨rfl, fun _ => trivial⟩
  | cons e es ih =>
    have hn' : (r.step e).1.drivers.get? n = none := run_absent hw hlt hn [e]
    obtain ⟨hh, hr⟩ := ih (hw.step e) (Nat.lt_of_lt_of_le hlt (step_next_le r e)) hn'
    refine ⟨?_, fun figure => ⟨fun hd => ?_, hr figure⟩⟩
    · simp only [history, hn, Option.elim_none, List.nil_append, hh]
    · cases hn.symm.trans hd

/-- To be given up is no operation, and there is none afterwards. -/
theorem history_of_closed (hw : r.WellFormed) (hd : r.drivers.get? n = some d)
    (hn : (r.step e).1.drivers.get? n = none) (es : List Event) :
    r.history n (e :: es) = [] ∧ ∀ figure, r.Rises figure n (e :: es) := by
  have hlt : n < (r.step e).1.next := Nat.lt_of_lt_of_le (hw.driver hd).2 (step_next_le r e)
  obtain ⟨hh, hr⟩ := history_of_absent (hw.step e) hlt hn es
  refine ⟨?_, fun figure => ⟨fun {_ d'} _ hd' => ?_, hr figure⟩⟩
  · rw [history_cons hd, hh, List.append_nil]
    rcases step_part hw hd e with ⟨rfl, -⟩ | ⟨o, -, hlive⟩
    · simp [Driver.actsAt, Driver.actsOn, rings]
    · cases hn.symm.trans hlive
  · cases hn.symm.trans hd'

/-- The cycles go up throughout a run in which they are not restored. -/
theorem rises_cycles (hw : r.WellFormed)
    (hr : ∀ total cycles, Event.command n (.restore total cycles) ∉ es) :
    r.Rises (·.cycles.toNat) n es := by
  induction es generalizing r with
  | nil => trivial
  | cons e es ih =>
    refine ⟨fun {d d'} hd hd' => ?_, ih (hw.step e) fun total cycles hm =>
      hr total cycles (List.mem_cons_of_mem _ hm)⟩
    have hb : d.Books (d.actsAt r n e) d' := step_books hw hd hd' fun total cycles he =>
      hr total cycles (he ▸ List.mem_cons_self ..)
    have hc : d'.status.cycles = ((d.actsAt r n e).foldl Account.enter d.account).cycles :=
      congrArg Account.cycles hb.account_eq
    simp only [hc]
    exact d.account.cycles_le_entries _

/-- The total goes up throughout a run in which it is not restored if and only if all that is counted in it
fits. -/
theorem rises_total_iff (hw : r.WellFormed) (hd : r.drivers.get? n = some d)
    (hr : ∀ total cycles, Event.command n (.restore total cycles) ∉ es) :
    r.Rises (·.total.toNat) n es ↔
      d.status.total.toNat + d.account.credits (r.history n es) < 2 ^ 64 := by
  induction es generalizing r d with
  | nil => simpa [Rises, history, Account.credits] using d.status.total.toNat_lt
  | cons e es ih =>
    have hx := d.status.total.toNat_lt
    cases hd₁ : (r.step e).1.drivers.get? n with
    | none =>
      obtain ⟨hh, hrise⟩ := history_of_closed hw hd hd₁ es
      rw [hh]
      exact iff_of_true (hrise _) hx
    | some d₁ =>
      have hb : d.Books (d.actsAt r n e) d₁ := step_books hw hd hd₁ fun total cycles he =>
        hr total cycles (he ▸ List.mem_cons_self ..)
      have htotal : d₁.status.total.toNat =
          (d.status.total.toNat + d.account.credits (d.actsAt r n e)) % 2 ^ 64 := by
        have h : d₁.status.total = ((d.actsAt r n e).foldl Account.enter d.account).total :=
          congrArg Account.total hb.account_eq
        rw [h, Account.entries_total]
        rfl
      have hrest := ih (hw.step e) hd₁ fun total cycles hm => hr total cycles (List.mem_cons_of_mem _ hm)
      rw [hb.account_eq] at hrest
      -- One event adds less than the counter holds, so that a total that has wrapped is less than it was.
      have hc := d.actsOn_credits_lt r n (r.found n e) e
      rw [history_cons hd, Account.credits_append, rises_cons_iff hd hd₁, hrest, htotal]
      unfold Driver.actsAt
      omega

/-- What the history of a run counts is what its operations add to the total. -/
theorem history_counted (hw : r.WellFormed) (hd : r.drivers.get? n = some d)
    (hr : ∀ total cycles, Event.command n (.restore total cycles) ∉ es)
    (hopen : d.account.Open past) (hstart : start ≤ past.length) :
    timeCounted (past ++ r.history n es) start =
      timeCounted past start + d.account.credits (r.history n es) := by
  induction es generalizing r d past with
  | nil => simp [history, Account.credits]
  | cons e es ih =>
    cases hd₁ : (r.step e).1.drivers.get? n with
    | none =>
      obtain ⟨hh, -⟩ := history_of_closed hw hd hd₁ es
      simp only [hh, List.append_nil, Account.credits, Nat.add_zero]
    | some d₁ =>
      have hb : d.Books (d.actsAt r n e) d₁ := step_books hw hd hd₁ fun total cycles he =>
        hr total cycles (he ▸ List.mem_cons_self ..)
      have hlen : start ≤ (past ++ d.actsAt r n e).length := by
        rw [List.length_append]
        exact Nat.le_add_right_of_le hstart
      have hrest := ih (hw.step e) hd₁
        (fun total cycles hm => hr total cycles (List.mem_cons_of_mem _ hm))
        (step_open hw hd hd₁ hopen) hlen
      rw [history_cons hd, ← List.append_assoc, hrest, hb.account_eq,
        Account.timeCounted_append hopen hb.linked hstart, Account.credits_append, Nat.add_assoc]

/-- From any state of a run in which a driver has some counters, as long as they are not restored again, the
cycles never go down, and the total goes down at no event if and only if it has room for all that is counted
since. -/
theorem run_rises_iff (s : Setup) {before after : List Event} {n : Nat} {d : Driver}
    (hd : (s.cold.run before).drivers.get? n = some d)
    (hr : ∀ total cycles, Event.command n (.restore total cycles) ∉ after) :
    let acts := s.cold.history n (before ++ after)
    let start := (s.cold.history n before).length
    (s.cold.run before).Rises (·.cycles.toNat) n after ∧
      ((s.cold.run before).Rises (·.total.toNat) n after ↔
        d.status.total.toNat + timeCounted acts start < 2 ^ 64) := by
  intro acts start
  have hw := run_wellFormed (cold_wellFormed s) before
  have hopen : d.account.Open (s.cold.history n before) := by
    have h : d.account.Open ([] ++ s.cold.history n before) :=
      run_open (cold_wellFormed s) (fun d hd => by cases hd) hd
    rwa [List.nil_append] at h
  refine ⟨rises_cycles hw hr, ?_⟩
  have hcounted := history_counted hw hd hr hopen (Nat.le_refl _)
  rw [← history_append] at hcounted
  have hstart : timeCounted (s.cold.history n before) start = 0 := overSpans_self _ _
  rw [rises_total_iff hw hd hr, hcounted, hstart, Nat.zero_add]

end Rig

end Switchboard
