import Mathlib.Logic.Equiv.Basic
import Switchboard.Proofs.Locality
import Switchboard.Proofs.PendingPulse

/-!
# Drivers leave each other alone

What is done with one driver (`Operation`) does not touch a driver on another pin (`Untouched`): not its
status, marks or pulse, not its pin, and none of its claims. If the two have no group in common either, it
makes no difference which of them is first (`Commutes`), since each operation looks only at its own place
and changes nothing elsewhere (see `Plant.Near` and `Plant.Away`).

One thing tells the two orders apart: where both operations begin a pulse, the pulses get their serials in
the order in which they were begun. So the final rigs are compared up to an exchange of these two serials
(`crossing`), and of the logs only the order may differ.
-/

namespace Switchboard

open Output (Driver Outcome Pulse Deeds)

/-- Something that is done with one driver. -/
inductive Operation where
  | tell (c : Command)
  /-- A pulse is begun, where a timer may be missing. -/
  | pulse (millis : Option UInt32) (timed : Bool)
  /-- The timer gets to the pulse with a number. -/
  | ring (number : Nat)

namespace Operation

def event (n : Nat) : Operation → Event
  | tell c => .command n c
  | pulse millis timed => .pulse n millis timed
  | ring number => .ring n number

/-- It takes a serial for a new pulse, whether the pulse is carried out or not. -/
def begins : Operation → Bool
  | pulse _ timed => timed
  | _ => false

/-- The pulse of the driver that it ends, if it ends one. -/
def over? (d : Driver) (timer : Nat) : Operation → Option Pulse
  | ring number => d.pulse.filter fun q => q.number == number && (!q.cancelled && q.due ≤ timer)
  | _ => none

/-- What it does at its driver, by the reading of the timer and the serial for a new pulse. -/
def perform (d : Driver) (timer serial : Nat) (p : Plant) : Operation → Outcome
  | tell c => Rig.obey d p c
  | pulse millis timed =>
    if timed then d.startPulse p serial timer millis else ⟨.error .noTimer, d, p, none⟩
  | ring number =>
    -- A pulse that was replaced finds so out.
    if d.pulse.all fun q => q.number != number || (!q.cancelled && q.due ≤ timer) then
      d.finishPulse p number
    else ⟨.ok (), d, p, none⟩

/-- What it does with the handles of pulses, by its result. -/
def enter (n : Nat) (d : Driver) (timer serial : Nat) (result : Except Output.Error Unit)
    (t : Table Nat Started) (a : Operation) : Table Nat Started :=
  match a.over? d timer with
  | some q => t.modify q.serial fun s => { s with ended := some result }
  | none => if a.begins && result.isOk then t.insert serial ⟨d.name, n, none⟩ else t

/-- What it answers, by its result. -/
def reply (serial : Nat) (result : Except Output.Error Unit) : Operation → Reply
  | ring _ => .done
  | pulse _ true =>
    match result with
    | .ok () => .serial serial
    | .error e => .outputFailed e
  | _ => Rig.outputReply result

end Operation

/-- The answer where a new pulse has another serial. -/
def Reply.renamed (σ : Nat → Nat) : Reply → Reply
  | .serial k => .serial (σ k)
  | answer => answer

namespace Output.Driver

variable {d : Driver} {p : Plant} {σ : Nat → Nat}

/-- The driver where its pulse has another serial. -/
def renamed (σ : Nat → Nat) (d : Driver) : Driver :=
  { d with pulse := d.pulse.map fun q => { q with serial := σ q.serial } }

theorem renamed_eq_self (h : ∀ q, d.pulse = some q → σ q.serial = q.serial) : d.renamed σ = d := by
  unfold renamed
  cases hp : d.pulse with
  | none => rw [Option.map_none, ← hp]
  | some q => rw [Option.map_some, h q hp, ← hp]

theorem finishPulse_pulse (number : Nat) :
    (d.finishPulse p number).driver.pulse = none ∨ (d.finishPulse p number).driver.pulse = d.pulse := by
  have ha : (d.dropPulse.apply p false Duty.zero).driver.pulse = none :=
    d.dropPulse.apply_pulse p false Duty.zero
  unfold finishPulse
  split
  · dsimp only
    split <;> exact .inl ha
  · exact .inr rfl

end Output.Driver

namespace Operation

variable {d : Driver} {l m : List Log.Entry} {p q : Plant} {timer serial : Nat}

theorem perform_near (h : d.Near l m p q) (a : Operation) :
    d.NearOutcome l m (a.perform d timer serial p) (a.perform d timer serial q) := by
  cases a with
  | tell c => exact Driver.obey_near h c
  | pulse millis timed =>
    cases timed with
    | false => exact ⟨rfl, rfl, h⟩
    | true => exact Driver.startPulse_near h ..
  | ring number =>
    unfold perform
    dsimp only
    split
    · exact Driver.finishPulse_near h number
    · exact ⟨rfl, rfl, h⟩

theorem perform_deeds (a : Operation) :
    Deeds (fun _ => True) d p (a.perform d timer serial p).driver (a.perform d timer serial p).plant := by
  cases a with
  | tell c => exact obey_deeds c trivial
  | pulse millis timed =>
    cases timed with
    | false => exact .refl
    | true => exact startPulse_deeds
  | ring number =>
    unfold perform
    dsimp only
    split
    · exact finishPulse_deeds
    · exact .refl

/-- The serial for a new pulse goes into that pulse, and nowhere else. -/
theorem perform_renamed {σ : Nat → Nat} {serial' : Nat} (a : Operation)
    (hs : a.begins = true → σ serial = serial')
    (hp : ∀ q, d.pulse = some q → σ q.serial = q.serial) :
    a.perform d timer serial' p =
      { a.perform d timer serial p with driver := (a.perform d timer serial p).driver.renamed σ } := by
  -- A driver without a new pulse has the old one or none.
  have hold : ∀ {d' : Driver}, d'.pulse = none ∨ d'.pulse = d.pulse → d'.renamed σ = d' := by
    intro d' hd'
    refine Driver.renamed_eq_self fun q hq => ?_
    rcases hd' with hd' | hd'
    · cases hd'.symm.trans hq
    · exact hp q (hd'.symm.trans hq)
  cases a with
  | tell c =>
    have hobey := d.obey_pulse p c
    have hd' : (Rig.obey d p c).driver.pulse = none ∨ (Rig.obey d p c).driver.pulse = d.pulse := by
      rw [hobey]
      split
      · exact .inl rfl
      · exact .inr rfl
    simp only [perform, hold hd']
  | pulse millis timed =>
    cases timed with
    | false => simp only [perform, Bool.false_eq_true, if_false, hold (.inr rfl)]
    | true =>
      have hset : (d.set p true).driver.pulse = if (d.set p true).result.isOk then none else d.pulse :=
        d.command_pulse p true _
      cases hr : (d.set p true).result with
      | error e =>
        rw [hr] at hset
        simp only [perform, if_true, Driver.startPulse_of_error hr, hold (.inr hset)]
      | ok u =>
        simp only [perform, if_true, Driver.startPulse, hr, Driver.renamed, Option.map_some, hs rfl]
  | ring number =>
    unfold perform
    dsimp only
    split
    · rw [hold (Driver.finishPulse_pulse number)]
    · rw [hold (.inr rfl)]

/-- On plants that are the same at its driver's place an operation comes out the same, but for the serial of
a new pulse. -/
theorem perform_same {σ : Nat → Nat} {serial' : Nat} (h : d.Near l m p q) (a : Operation)
    (hs : a.begins = true → σ serial = serial')
    (hp : ∀ q, d.pulse = some q → σ q.serial = q.serial) :
    (a.perform d timer serial' q).result = (a.perform d timer serial p).result ∧
      (a.perform d timer serial' q).driver = (a.perform d timer serial p).driver.renamed σ ∧
      d.Near l m (a.perform d timer serial p).plant (a.perform d timer serial' q).plant := by
  have hn : d.NearOutcome l m (a.perform d timer serial' p) (a.perform d timer serial' q) :=
    a.perform_near h
  rw [a.perform_renamed hs hp] at hn
  exact ⟨hn.result_eq, hn.driver_eq, hn.plant⟩

/-! ## Handles -/

variable {n n' : Nat} {d' : Driver} {a b : Operation} {t t' : Table Nat Started}
  {result result' : Except Output.Error Unit}

theorem pulse_of_over? {q : Pulse} (h : a.over? d timer = some q) : d.pulse = some q := by
  cases a with
  | ring number => exact (Option.filter_eq_some_iff.1 h).1
  | _ => cases h

/-- The handles of other drivers' pulses are as before. -/
theorem enter_get? {k : Nat} {s : Started} (hs : t.get? k = some s) (hk : k ≠ serial)
    (hp : ∀ q, d.pulse = some q → q.serial ≠ k) :
    (a.enter n d timer serial result t).get? k = some s := by
  unfold enter
  cases hover : a.over? d timer with
  | some q => exact (Table.get?_modify_of_ne (hp q (pulse_of_over? hover))).trans hs
  | none =>
    dsimp only
    split
    · exact (Table.get?_insert_of_ne (Ne.symm hk)).trans hs
    · exact hs

/-- Serials may be exchanged before or after. -/
theorem enter_renamed {σ : Equiv.Perm Nat} {serial' : Nat} (hs : a.begins = true → σ serial = serial')
    (hp : ∀ q, d.pulse = some q → σ q.serial = q.serial) (ht : ∀ k, t'.get? (σ k) = t.get? k) (k : Nat) :
    (a.enter n d timer serial' result t').get? (σ k) = (a.enter n d timer serial result t).get? k := by
  unfold enter
  cases hover : a.over? d timer with
  | some q =>
    have hq := hp q (pulse_of_over? hover)
    dsimp only
    by_cases hk : k = q.serial
    · subst hk
      have hself := ht q.serial
      rw [hq] at hself ⊢
      rw [Table.get?_modify_self, Table.get?_modify_self, hself]
    · have hne : q.serial ≠ σ k := fun he => hk (σ.injective (he.symm.trans hq.symm))
      rw [Table.get?_modify_of_ne hne, Table.get?_modify_of_ne (Ne.symm hk), ht]
  | none =>
    dsimp only
    split
    · rename_i hok
      rw [← hs (Bool.and_eq_true_iff.1 hok).1]
      by_cases hk : k = serial
      · subst hk
        rw [Table.get?_insert_self, Table.get?_insert_self]
      · rw [Table.get?_insert_of_ne fun he => hk (σ.injective he.symm),
          Table.get?_insert_of_ne (Ne.symm hk), ht]
    · exact ht k

theorem reply_renamed {σ : Nat → Nat} {serial' : Nat} (hs : a.begins = true → σ serial = serial') :
    a.reply serial' result = (a.reply serial result).renamed σ := by
  cases a with
  | tell c => cases result <;> rfl
  | pulse millis timed =>
    cases timed with
    | false => cases result <;> rfl
    | true =>
      rw [← hs rfl]
      cases result <;> rfl
  | ring number => rfl

/-- What two operations do with the handles they do in either order, if the pulses are different ones. -/
theorem enter_comm {serial' : Nat} (hnew : a.begins = true → b.begins = true → serial ≠ serial')
    (hp : ∀ q, d.pulse = some q → q.serial ≠ serial') (hp' : ∀ q, d'.pulse = some q → q.serial ≠ serial)
    (hpp : ∀ q q', d.pulse = some q → d'.pulse = some q' → q.serial = q'.serial →
      t.get? q.serial = none) :
    a.enter n d timer serial result (b.enter n' d' timer serial' result' t) =
      b.enter n' d' timer serial' result' (a.enter n d timer serial result t) := by
  unfold enter
  cases ha : a.over? d timer with
  | some q =>
    have hq := pulse_of_over? ha
    dsimp only
    cases hb : b.over? d' timer with
    | some q' =>
      dsimp only
      by_cases hqq : q.serial = q'.serial
      · have hnone := hpp q q' hq (pulse_of_over? hb) hqq
        have hself : ∀ f : Started → Started, t.modify q.serial f = t := fun f =>
          Table.modify_eq_self fun s hs => by cases hnone.symm.trans hs
        rw [← hqq, hself, hself, hself]
      · exact (Table.modify_comm hqq).symm
    | none =>
      dsimp only
      split
      · exact Table.insert_modify_comm (Ne.symm (hp q hq))
      · rfl
  | none =>
    dsimp only
    cases hb : b.over? d' timer with
    | some q' =>
      dsimp only
      split
      · exact (Table.insert_modify_comm (Ne.symm (hp' q' (pulse_of_over? hb)))).symm
      · rfl
    | none =>
      dsimp only
      split
      · rename_i hoka
        split
        · rename_i hokb
          exact (Table.insert_comm (hnew (Bool.and_eq_true_iff.1 hoka).1 (Bool.and_eq_true_iff.1 hokb).1)).symm
        · rfl
      · rfl

end Operation

/-! ## Operations as events -/

namespace Rig

/-- What an operation does at its driver. -/
def alone (r : Rig) (d : Driver) (a : Operation) : Outcome :=
  a.perform d r.timer r.next r.plant

/-- The serial that is next after an operation. -/
def serialAfter (r : Rig) (a : Operation) : Nat :=
  if a.begins then r.next + 1 else r.next

/-- What an operation does at its driver after one at another driver. -/
def after (r : Rig) (d : Driver) (a : Operation) (d' : Driver) (b : Operation) : Outcome :=
  b.perform d' r.timer (r.serialAfter a) (r.alone d a).plant

variable {r : Rig} {n m : Nat} {d d' : Driver} {a b : Operation}

/-- What an operation does to a rig. -/
theorem step_event (hd : r.drivers.get? n = some d) (a : Operation) :
    r.step (a.event n) =
      ({ r with
          plant := (r.alone d a).plant
          drivers := r.drivers.insert n (r.alone d a).driver
          started := a.enter n d r.timer r.next (r.alone d a).result r.started
          next := r.serialAfter a },
        a.reply r.next (r.alone d a).result) := by
  unfold alone serialAfter
  have hsame : r.drivers.insert n d = r.drivers := Table.insert_eq_self hd
  cases a with
  | tell c =>
    simp only [Operation.event, step, tell, hd]
    rfl
  | pulse millis timed =>
    simp only [Operation.event, step, Rig.pulse, fresh, hd]
    cases timed with
    | false => simp [Operation.perform, Operation.enter, Operation.over?, Operation.reply,
        Operation.begins, outputReply, hsame]
    | true =>
      simp only [Bool.not_true, Bool.false_eq_true, if_false, Operation.perform, if_true,
        Operation.enter, Operation.over?, Operation.begins, Operation.reply, Bool.true_and]
      cases (d.startPulse r.plant r.next r.timer millis).result with
      | ok u => rfl
      | error e => rfl
  | ring number =>
    simp only [Operation.event, step, ring, hd]
    cases hp : d.pulse with
    | none =>
      have hover : (Operation.ring number).over? d r.timer = none := by simp [Operation.over?, hp]
      simp only [Operation.perform, Operation.enter, hover, hp]
      rfl
    | some q =>
      by_cases hnum : q.number = number
      · subst hnum
        by_cases hk : (!q.cancelled && decide (q.due ≤ r.timer)) = true
        · have hover : (Operation.ring q.number).over? d r.timer = some q := by
            simp only [Operation.over?, hp, Option.filter_some, beq_self_eq_true, hk, Bool.and_self, if_true]
          simp only [Operation.perform, Operation.enter, hover, hp, Option.filter_some, Option.all_some,
            beq_self_eq_true, hk, Bool.or_true, if_true, finish, hd]
          rfl
        · have hover : (Operation.ring q.number).over? d r.timer = none := by
            simp only [Operation.over?, hp, Option.filter_some, hk, Bool.and_false, Bool.false_eq_true, if_false]
          simp only [Operation.perform, Operation.enter, hover, hp, Option.filter_some, Option.all_some,
            beq_self_eq_true, hk, bne_self_eq_false, Bool.or_false, Bool.false_eq_true, if_true, if_false,
            Operation.begins, Bool.false_and, hsame]
          rfl
      · have hne : (q.number == number) = false := by simpa using hnum
        have hover : (Operation.ring number).over? d r.timer = none := by simp [Operation.over?, hp, hnum]
        simp only [Operation.perform, Operation.enter, hover, hp, Option.filter_some, Option.all_some, hne,
          bne, Bool.not_false, Bool.true_or, Bool.false_eq_true, if_true, if_false, Operation.begins,
          Bool.false_and]
        rfl

/-! ## Serials -/

/-- Every pulse has a serial that was given, its handle is its driver's, and so is every handle. -/
structure Dealt (r : Rig) : Prop where
  begun : ∀ {n d q}, r.drivers.get? n = some d → d.pulse = some q → r.Begun n q
  handle_lt : ∀ {k s}, r.started.get? k = some s → k < r.next

/-- The pulse of a driver after its part is the one before, or one that has just begun. -/
theorem Part.pulse_cases {e : Event} {o : Outcome} {q : Pulse} (h : r.Part n d e o)
    (hd : r.drivers.get? n = some d) (hq : o.driver.pulse = some q) :
    (∃ q₀, d.pulse = some q₀ ∧ q₀.serial = q.serial) ∨
      ∃ millis, e = .pulse n millis true ∧ r.accepts n e = true ∧ q = r.pulseOf d millis := by
  cases h with
  | told c =>
    have hobey := d.obey_pulse r.plant c
    split at hobey
    · cases hobey.symm.trans hq
    · exact .inl ⟨q, hobey.symm.trans hq, rfl⟩
  | pulse millis =>
    have hp := d.startPulse_pulse r.plant r.next r.timer millis
    cases hok : (d.set r.plant true).result.isOk with
    | false =>
      rw [hok] at hp
      exact .inl ⟨q, hp.symm.trans hq, rfl⟩
    | true =>
      rw [hok, if_pos rfl] at hp
      refine .inr ⟨millis, rfl, (accepts_pulse hd millis).trans hok, ?_⟩
      exact (Option.some.inj (hp.symm.trans hq)).symm
  | cancel handle mine =>
    obtain ⟨q₀, hq₀, rfl⟩ := Option.map_eq_some_iff.1 hq
    refine .inl ⟨q₀, hq₀, ?_⟩
    split <;> rfl
  | finish pending kept rings =>
    rcases Driver.finishPulse_pulse _ with hp | hp
    · cases hp.symm.trans hq
    · exact .inl ⟨q, hp.symm.trans hq, rfl⟩
  | none apart => exact .inl ⟨q, hq, rfl⟩

/-- A handle is an old one, unless it was given the serial that was next. -/
theorem step_handle_cases {k : Nat} {s : Started} (e : Event)
    (h : (r.step e).1.started.get? k = some s) :
    (∃ s', r.started.get? k = some s') ∨ k < (r.step e).1.next := by
  cases e with
  | create c =>
    simp only [step, create, fresh] at h
    split at h <;> exact .inl ⟨s, h⟩
  | close m =>
    simp only [step, close] at h
    split at h <;> exact .inl ⟨s, h⟩
  | command m c =>
    simp only [step, tell] at h
    split at h <;> exact .inl ⟨s, h⟩
  | pulse m millis timed =>
    cases hm : r.drivers.get? m with
    | none =>
      simp only [step, Rig.pulse, hm] at h
      exact .inl ⟨s, h⟩
    | some d =>
      have he := step_event hm (.pulse millis timed)
      rw [Operation.event] at he
      rw [he] at h ⊢
      simp only [Operation.enter, Operation.over?] at h ⊢
      by_cases hok : ((Operation.pulse millis timed).begins &&
          (r.alone d (.pulse millis timed)).result.isOk) = true
      · rw [if_pos hok] at h
        rcases Table.get?_insert_eq_some_iff.1 h with ⟨rfl, -⟩ | ⟨-, h⟩
        · rw [serialAfter, if_pos (Bool.and_eq_true_iff.1 hok).1]
          exact .inr (Nat.lt_succ_self _)
        · exact .inl ⟨s, h⟩
      · rw [if_neg hok] at h
        exact .inl ⟨s, h⟩
  | cancelPulse serial' =>
    simp only [step, cancelPulse] at h
    split at h <;> exact .inl ⟨s, h⟩
  | awaitPulse serial' =>
    simp only [step, awaitPulse] at h
    split at h
    · exact .inl ⟨s, h⟩
    · exact .inl ⟨s, (Table.get?_erase_eq_some_iff.1 h).2⟩
  | advance millis =>
    obtain ⟨s', hs', -⟩ := finishAll_handle (r := r.elapse millis) _ h
    exact .inl ⟨s', hs'⟩
  | ring m number =>
    simp only [step, ring] at h
    split at h
    · exact .inl ⟨s, h⟩
    · split at h
      · exact .inl ⟨s, h⟩
      · split at h
        · obtain ⟨s', hs', -⟩ := finish_handle h
          exact .inl ⟨s', hs'⟩
        · exact .inl ⟨s, h⟩
  | _ =>
    rw [(step_beside rfl).started_eq] at h
    exact .inl ⟨s, h⟩

theorem Dealt.step (h : r.Dealt) (hw : r.WellFormed) (e : Event) : (r.step e).1.Dealt where
  begun {n d' q} hd' hq := by
    cases hd : r.drivers.get? n with
    | none =>
      rw [(step_born hw hd hd').1.idle] at hq
      cases hq
    | some d =>
      rcases step_part hw hd e with ⟨-, hn⟩ | ⟨o, ho, hlive⟩
      · cases hn.symm.trans hd'
      · cases hlive.symm.trans hd'
        rcases ho.pulse_cases hd hq with ⟨q₀, hq₀, hs⟩ | ⟨millis, rfl, hacc, rfl⟩
        · have hb := (h.begun hd hq₀).step e
          exact ⟨hs ▸ hb.serial_lt, hs ▸ hb.handle⟩
        · exact (pulse_begun hd hacc).1
  handle_lt hs := by
    rcases step_handle_cases e hs with ⟨s', hs'⟩ | hlt
    · exact Nat.lt_of_lt_of_le (h.handle_lt hs') (step_next_le r e)
    · exact hlt

theorem run_dealt (s : Setup) (es : List Event) : (s.rig.run es).Dealt :=
  run_of_steps (fun e hw h => h.step hw e) (setup_wellFormed s) ⟨nofun, nofun⟩ es

/-! ## Drivers that are let alone -/

/-- A driver is as before, and so are the handles of its pulses, everything at its pin and its claims. -/
structure Untouched (r : Rig) (m : Nat) (d : Driver) (r' : Rig) : Prop where
  live : r'.drivers.get? m = some d
  handle : ∀ {k s}, r.started.get? k = some s → s.driver = m → r'.started.get? k = some s
  pin : r.plant.board.Near d.config.pin r'.plant.board
  claim_iff : ∀ {group c}, c.belongsTo m →
    (r'.plant.groups.claims.get? group = some c ↔ r.plant.groups.claims.get? group = some c)

/-- What is done with one driver leaves a driver on another pin alone. -/
theorem Dealt.untouched (h : r.Dealt) (hw : r.WellFormed)
    (hd : r.drivers.get? n = some d) (hd' : r.drivers.get? m = some d')
    (hp : d.config.pin ≠ d'.config.pin) (a : Operation) : r.Untouched m d' (r.step (a.event n)).1 := by
  have hne : n ≠ m := by
    rintro rfl
    cases hd.symm.trans hd'
    exact hp rfl
  have hdeeds : Deeds (fun _ => True) d r.plant (r.alone d a).driver (r.alone d a).plant :=
    a.perform_deeds
  have haway := Driver.away_of_deeds hdeeds
  have hframe := Frame.of_deeds hdeeds
  rw [step_event hd]
  refine ⟨?_, ?_, ?_, ?_⟩
  · exact (Table.get?_insert_of_ne hne).trans hd'
  · intro k s hs hm
    refine Operation.enter_get? hs (Nat.ne_of_lt (h.handle_lt hs)) fun q hq hk => ?_
    subst hk
    exact hne (((h.begun hd hq).handle s hs).symm.trans hm)
  · exact haway.board.near (Ne.symm hp)
  · refine (hframe.groups.spares ?_).claim_iff
    rw [Driver.token, (hw.driver hd).1]
    exact Ne.symm hne

/-! ## Drivers with nothing in common -/

/-- The exchange of the two serials that are next, if two operations both begin a pulse. -/
def crossing (r : Rig) (a b : Operation) : Equiv.Perm Nat :=
  if a.begins && b.begins then Equiv.swap r.next (r.next + 1) else .refl Nat

/-- Two rigs differ in the order of the entries in their logs and in the serials of their pulses at most. -/
structure Renamed (σ : Equiv.Perm Nat) (r r' : Rig) : Prop where
  plant : r.plant.Shuffled r'.plant
  timer_eq : r'.timer = r.timer
  drivers : ∀ k, r'.drivers.get? k = (r.drivers.get? k).map (·.renamed σ)
  tokens_eq : r'.tokens = r.tokens
  subscriptions_eq : r'.subscriptions = r.subscriptions
  started : ∀ k, r'.started.get? (σ k) = r.started.get? k
  next_eq : r'.next = r.next

/-- Two events may be exchanged: each is answered as before, and they leave the same rig, up to the names of
pulses and the order in the log. -/
structure Commutes (r : Rig) (e e' : Event) (σ : Equiv.Perm Nat) : Prop where
  first : ((r.step e').1.step e).2 = (r.step e).2.renamed σ
  second : (r.step e').2 = ((r.step e).1.step e').2.renamed σ
  state : ((r.step e).1.step e').1.Renamed σ ((r.step e').1.step e).1

/-- Serials that were given before are not exchanged. -/
theorem crossing_of_lt {k : Nat} (hk : k < r.next) : r.crossing a b k = k := by
  unfold crossing
  split
  · exact Equiv.swap_apply_of_ne_of_ne (Nat.ne_of_lt hk) (Nat.ne_of_lt (Nat.lt_succ_of_lt hk))
  · rfl

/-- What an operation takes as its serial when it is first goes to what it takes when it is second. -/
theorem crossing_first (ha : a.begins = true) : r.crossing a b r.next = r.serialAfter b := by
  unfold crossing serialAfter
  rw [ha]
  cases b.begins with
  | true => exact Equiv.swap_apply_left ..
  | false => rfl

theorem crossing_second (hb : b.begins = true) : r.crossing a b (r.serialAfter a) = r.next := by
  unfold crossing serialAfter
  rw [hb]
  cases a.begins with
  | true => exact Equiv.swap_apply_right ..
  | false => rfl

/-- Handles stay where they are when serials are exchanged that nothing has. -/
theorem Dealt.started_crossing (h : r.Dealt) (a b : Operation) (k : Nat) :
    r.started.get? (r.crossing a b k) = r.started.get? k := by
  by_cases hk : k < r.next
  · rw [crossing_of_lt hk]
  · have hnone : ∀ i, ¬i < r.next → r.started.get? i = none := by
      intro i hi
      cases hs : r.started.get? i with
      | none => rfl
      | some s => exact absurd (h.handle_lt hs) hi
    have hcross : ¬r.crossing a b k < r.next := by
      intro hlt
      have hself := crossing_of_lt (a := a) (b := b) hlt
      exact hk ((r.crossing a b).injective hself ▸ hlt)
    rw [hnone k hk, hnone _ hcross]

/-- What two operations do one after the other, each at its own driver. -/
theorem step_step (hd : r.drivers.get? n = some d) (hd' : r.drivers.get? m = some d') (hne : n ≠ m)
    (a b : Operation) :
    (r.step (a.event n)).1.step (b.event m) =
      ({ r with
          plant := (r.after d a d' b).plant
          drivers := (r.drivers.insert n (r.alone d a).driver).insert m (r.after d a d' b).driver
          started := b.enter m d' r.timer (r.serialAfter a) (r.after d a d' b).result
            (a.enter n d r.timer r.next (r.alone d a).result r.started)
          next := if b.begins then r.serialAfter a + 1 else r.serialAfter a },
        b.reply (r.serialAfter a) (r.after d a d' b).result) := by
  have hdm : (r.step (a.event n)).1.drivers.get? m = some d' := by
    rw [step_event hd]
    exact (Table.get?_insert_of_ne hne).trans hd'
  rw [step_event hd] at hdm ⊢
  exact step_event hdm b

theorem alone_away (r : Rig) (d : Driver) (a : Operation) :
    r.plant.Away d.config.pin d.config.group (r.alone d a).plant :=
  Driver.away_of_deeds a.perform_deeds

theorem after_away (r : Rig) (d : Driver) (a : Operation) (d' : Driver) (b : Operation) :
    (r.alone d a).plant.Away d'.config.pin d'.config.group (r.after d a d' b).plant :=
  Driver.away_of_deeds b.perform_deeds

section Apart

variable (h : r.Dealt) (hd : r.drivers.get? n = some d) (hd' : r.drivers.get? m = some d')
  (hp : d.config.pin ≠ d'.config.pin)
  (hg : ∀ group, d.config.group = some group → d'.config.group ≠ some group)

include h hd in
theorem Dealt.serial_crossing {q : Pulse} (hq : d.pulse = some q) :
    r.crossing a b q.serial = q.serial :=
  crossing_of_lt (h.begun hd hq).serial_lt

include h hd hp hg in
/-- An operation comes out after another as it does before, up to the exchange of serials. -/
theorem Dealt.after_first :
    (r.after d' b d a).result = (r.alone d a).result ∧
      (r.after d' b d a).driver = (r.alone d a).driver.renamed (r.crossing a b) ∧
      d.Near r.plant.log (r.alone d' b).plant.log (r.alone d a).plant (r.after d' b d a).plant :=
  a.perform_same ((r.alone_away d' b).near hp fun group hm hm' => hg group hm hm') crossing_first
    fun _ => h.serial_crossing hd

include h hd' hp hg in
theorem Dealt.after_second :
    (r.alone d' b).result = (r.after d a d' b).result ∧
      (r.alone d' b).driver = (r.after d a d' b).driver.renamed (r.crossing a b) ∧
      d'.Near (r.alone d a).plant.log r.plant.log (r.after d a d' b).plant (r.alone d' b).plant :=
  b.perform_same ((r.alone_away d a).near (Ne.symm hp) fun group hm hm' => hg group hm' hm).symm
    crossing_second fun _ => h.serial_crossing hd'

include h hd hd' in
/-- The handles are the same in either order, up to the exchange of serials. -/
theorem Dealt.enter_crossing (hne : n ≠ m) (result result' : Except Output.Error Unit) (k : Nat) :
    (a.enter n d r.timer (r.serialAfter b) result
        (b.enter m d' r.timer r.next result' r.started)).get? (r.crossing a b k) =
      (b.enter m d' r.timer (r.serialAfter a) result'
        (a.enter n d r.timer r.next result r.started)).get? k := by
  have hle : r.next ≤ r.serialAfter a := by
    unfold serialAfter
    split <;> omega
  have hcomm : a.enter n d r.timer r.next result
        (b.enter m d' r.timer (r.serialAfter a) result' r.started) =
      b.enter m d' r.timer (r.serialAfter a) result' (a.enter n d r.timer r.next result r.started) := by
    refine Operation.enter_comm ?_ ?_ ?_ ?_
    · intro ha _
      rw [serialAfter, if_pos ha]
      exact Nat.ne_of_lt (Nat.lt_succ_self _)
    · exact fun q hq => Nat.ne_of_lt (Nat.lt_of_lt_of_le (h.begun hd hq).serial_lt hle)
    · exact fun q hq => Nat.ne_of_lt (h.begun hd' hq).serial_lt
    · intro q q' hq hq' hqq
      cases hs : r.started.get? q.serial with
      | none => rfl
      | some s =>
        have hn := (h.begun hd hq).handle s hs
        have hm := (h.begun hd' hq').handle s (hqq ▸ hs)
        exact absurd (hn.symm.trans hm) hne
  rw [← hcomm]
  exact Operation.enter_renamed crossing_first (fun _ => h.serial_crossing hd)
    (Operation.enter_renamed crossing_second (fun _ => h.serial_crossing hd') (h.started_crossing a b)) k

include h hd hd' hp hg in
/-- What is done with two drivers that have neither pin nor group in common may be done in either order. -/
theorem Dealt.commutes : r.Commutes (a.event n) (b.event m) (r.crossing a b) := by
  have hne : n ≠ m := by
    rintro rfl
    cases hd.symm.trans hd'
    exact hp rfl
  obtain ⟨hra, hda, hna⟩ := h.after_first hd hp hg (a := a) (b := b)
  obtain ⟨hrb, hdb, hnb⟩ := h.after_second hd' hp hg (a := a) (b := b)
  refine ⟨?_, ?_, ?_⟩
  · rw [step_step hd' hd (Ne.symm hne), step_event hd, hra]
    exact Operation.reply_renamed crossing_first
  · rw [step_step hd hd' hne, step_event hd', ← hrb]
    exact Operation.reply_renamed crossing_second
  · rw [step_step hd hd' hne, step_step hd' hd (Ne.symm hne)]
    refine ⟨?_, rfl, ?_, rfl, rfl, ?_, ?_⟩
    · exact Plant.shuffled_of_away hp hg (r.alone_away d a) (r.after_away d a d' b)
        (r.alone_away d' b) (r.after_away d' b d a) hna hnb.symm
    · intro k
      dsimp only
      by_cases hn : n = k
      · subst hn
        rw [Table.get?_insert_self, Table.get?_insert_of_ne (Ne.symm hne), Table.get?_insert_self, hda]
        rfl
      · by_cases hm : m = k
        · subst hm
          rw [Table.get?_insert_of_ne hne, Table.get?_insert_self, Table.get?_insert_self, hdb]
          rfl
        · rw [Table.get?_insert_of_ne hn, Table.get?_insert_of_ne hm, Table.get?_insert_of_ne hm,
            Table.get?_insert_of_ne hn]
          cases hk : r.drivers.get? k with
          | none => rfl
          | some d₀ =>
            rw [Option.map_some, Driver.renamed_eq_self fun _ => h.serial_crossing hk]
    · intro k
      dsimp only
      rw [hra, hrb]
      exact h.enter_crossing hd hd' hne _ _ k
    · dsimp only [serialAfter]
      cases a.begins <;> cases b.begins <;> rfl

end Apart

/-! ## In every reached state -/

/-- What is done with one driver leaves a driver on another pin alone. If they have no group in common
either, whatever is done with the two may be done in either order. -/
theorem run_independent (s : Setup) {es : List Event} {n m : Nat} {d d' : Driver}
    (hd : (s.rig.run es).drivers.get? n = some d) (hd' : (s.rig.run es).drivers.get? m = some d')
    (hp : d.config.pin ≠ d'.config.pin) (a : Operation) :
    (s.rig.run es).Untouched m d' ((s.rig.run es).step (a.event n)).1 ∧
      ((∀ group, d.config.group = some group → d'.config.group ≠ some group) → ∀ b : Operation,
        (s.rig.run es).Commutes (a.event n) (b.event m) ((s.rig.run es).crossing a b)) := by
  have hdealt := run_dealt s es
  refine ⟨hdealt.untouched (run_wellFormed (setup_wellFormed s) es) hd hd' hp a, ?_⟩
  intro hg b
  exact hdealt.commutes hd hd' hp hg

/-- Two outputs on two pins, each in a group of its own. One is on, and the other in the middle of a pulse. -/
def neighbours : List Event :=
  [.create { Output.Config.plain 1 "valve" .relay 17 with group := some 1 },
    .create { Output.Config.plain 2 "pump" .momentary 18 with group := some 2 },
    .command 0 (.set true), .pulse 1 (some 100) true]

/-- An emergency stop of the one and a new pulse of the other may be exchanged. -/
theorem neighbours_independent :
    ∃ d d', (Setup.plain.rig.run neighbours).drivers.get? 0 = some d ∧
      (Setup.plain.rig.run neighbours).drivers.get? 1 = some d' ∧ d.config.pin ≠ d'.config.pin ∧
      (Setup.plain.rig.run neighbours).Untouched 1 d'
        ((Setup.plain.rig.run neighbours).step (.command 0 .emergencyStop)).1 ∧
      (Setup.plain.rig.run neighbours).Commutes (.command 0 .emergencyStop) (.pulse 1 none true)
        (.refl Nat) := by
  obtain ⟨d, hd⟩ : ∃ d, (Setup.plain.rig.run neighbours).drivers.get? 0 = some d :=
    Option.isSome_iff_exists.1 (by decide +kernel)
  obtain ⟨d', hd'⟩ : ∃ d', (Setup.plain.rig.run neighbours).drivers.get? 1 = some d' :=
    Option.isSome_iff_exists.1 (by decide +kernel)
  have hfacts : ((Setup.plain.rig.run neighbours).drivers.get? 0).map
      (fun d => (d.config.pin, d.config.group)) = some (17, some 1) := by decide +kernel
  have hfacts' : ((Setup.plain.rig.run neighbours).drivers.get? 1).map
      (fun d => (d.config.pin, d.config.group)) = some (18, some 2) := by decide +kernel
  simp only [hd, Option.map_some, Option.some.injEq, Prod.mk.injEq] at hfacts
  simp only [hd', Option.map_some, Option.some.injEq, Prod.mk.injEq] at hfacts'
  have hp : d.config.pin ≠ d'.config.pin := by
    rw [hfacts.1, hfacts'.1]
    decide
  obtain ⟨huntouched, hcommutes⟩ :=
    run_independent Setup.plain hd hd' hp (.tell .emergencyStop)
  refine ⟨d, d', hd, hd', hp, huntouched, hcommutes ?_ (.pulse none true)⟩
  intro group hg hg'
  rw [hfacts.2] at hg
  rw [hfacts'.2] at hg'
  cases hg
  cases hg'

end Rig

end Switchboard
