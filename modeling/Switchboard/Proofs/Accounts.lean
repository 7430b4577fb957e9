import Mathlib.Algebra.BigOperators.Intervals
import Switchboard.Proofs.Parts

/-!
# The accounts of an output

A status counts the time that its output was on and the times that it was switched. What it should count is
said by the history of the driver, the list of its operations (`Rig.history`): a stretch of time on begins
with an operation that enters the state on, ends with one that was carried out and leaves it, and the status
says on at every operation in between (`spans`). The total is the sum of all such stretches, each in whole
milliseconds, and the cycles are the operations that were carried out and changed the state
(`run_accounts`). An output that an error took out of on is not counted, nor is it counted later.

The driver itself keeps no history. It enters one operation after another (`Account.enter`), and measures a
stretch from the mark of the last switching on, which no operation ever clears. That the mark is the
beginning of the stretch that ends is the invariant here (`Account.Open`).
-/

namespace Switchboard

open Output (Driver Outcome Lockout Pulse)

/-! ## Histories -/

/-- An operation of a driver, as far as the accounts are concerned. -/
structure Act where
  /-- The status said on before. -/
  before : Bool
  /-- The status said on afterwards. -/
  after : Bool
  /-- It was carried out. -/
  done : Bool
  /-- The reading of the steady clock. -/
  time : Nat
  deriving DecidableEq, Repr

namespace Act

def of (d : Driver) (p : Plant) (o : Outcome) : Act :=
  ⟨d.status.isOn, o.driver.status.isOn, o.result.isOk, p.clock.now⟩

def begins (a : Act) : Bool :=
  !a.before && a.after

def stays (a : Act) : Bool :=
  a.before && a.after

def ends (a : Act) : Bool :=
  a.done && a.before && !a.after

def switches (a : Act) : Bool :=
  a.done && a.before != a.after

end Act

/-- In a history the status said on from one operation to another, and the other was a switch-off that was
carried out. -/
def spans (acts : List Act) (i j : Nat) : Bool :=
  decide (i < j) && acts[i]?.any Act.begins && acts[j]?.any Act.ends &&
    ((acts.take j).drop (i + 1)).all Act.stays

/-- Whole milliseconds on the steady clock from one operation to another. -/
def lasted (acts : List Act) (i j : Nat) : Nat :=
  (acts[j]?.elim 0 Act.time - acts[i]?.elim 0 Act.time) / Clock.perMilli

/-- The time on in a history, over all stretches that end at an operation with some number or later. -/
def timeOn (acts : List Act) (start : Nat) : Nat :=
  ∑ j ∈ Finset.Ico start acts.length, ∑ i ∈ Finset.range j,
    if spans acts i j then lasted acts i j else 0

/-- The operations of a driver at a command. To restore counters is none. -/
def Output.Driver.acts (d : Driver) (p : Plant) : Command → List Act
  | .restore _ _ => []
  | .pulseNow =>
    let o := d.set p true
    .of d p o ::
      if o.result.isOk then [.of o.driver o.plant (o.driver.set o.plant false)] else []
  | c => [.of d p (Rig.obey d p c)]

/-- The operations of a driver at an event, on the plant that it finds: what it is told, pulses, and the ends of
pulses. -/
def Output.Driver.actsOn (d : Driver) (r : Rig) (n : Nat) (p : Plant) : Event → List Act
  | .command m c => if m = n then d.acts p c else []
  | .pulse m millis timed =>
    if m = n ∧ timed then [.of d p (d.startPulse p r.next r.timer millis)] else []
  | e =>
    (d.pulse.filter fun q => !q.cancelled && r.rings n q e).toList.map fun q =>
      .of d p (d.finishPulse p q.number)

def Output.Driver.actsAt (d : Driver) (r : Rig) (n : Nat) (e : Event) : List Act :=
  d.actsOn r n (r.found n e) e

/-- The operations of the driver with a serial in a run. -/
def Rig.history (r : Rig) (n : Nat) : List Event → List Act
  | [] => []
  | e :: es =>
    (r.drivers.get? n).elim [] (fun d => d.actsAt r n e) ++ (r.step e).1.history n es

/-! ## What is entered -/

/-- What the accounts of a driver go by. -/
structure Account where
  isOn : Bool
  onSince : Option Nat
  total : UInt64
  cycles : UInt32

/-- The accounts after an operation. -/
def Account.enter (x : Account) (a : Act) : Account where
  isOn := a.after
  onSince := if a.begins then some a.time else x.onSince
  total :=
    if a.ends then x.total + .ofNat (x.onSince.elim 0 fun t => millisBetween t a.time) else x.total
  cycles := if a.switches && x.cycles != 0xFFFFFFFF then x.cycles + 1 else x.cycles

/-- Each operation finds the state that the one before left. -/
def Linked (on : Bool) : List Act → Prop
  | [] => True
  | a :: rest => a.before = on ∧ Linked a.after rest

namespace Output.Driver

def account (d : Driver) : Account :=
  ⟨d.status.isOn, d.onSince, d.status.total, d.status.cycles⟩

/-- From one driver to another some operations were entered, and nothing else. -/
structure Books (d : Driver) (acts : List Act) (d' : Driver) : Prop where
  linked : Linked d.status.isOn acts
  account_eq : d'.account = acts.foldl Account.enter d.account

variable {d d' : Driver} {p p' : Plant} {on : Bool} {duty : Single}

theorem Books.refl (h : d'.account = d.account) : d.Books [] d' :=
  ⟨trivial, h⟩

theorem Books.single {o : Outcome} (h : o.driver.account = d.account.enter (.of d p o)) :
    d.Books [.of d p o] o.driver :=
  ⟨⟨rfl, trivial⟩, h⟩

/-- An operation that leaves what the accounts go by enters nothing. -/
theorem enter_idle {o : Outcome} (h : o.driver.account = d.account) :
    o.driver.account = d.account.enter (.of d p o) := by
  have hon : o.driver.status.isOn = d.status.isOn := congrArg Account.isOn h
  rw [h]
  simp [Account.enter, account, Act.of, Act.begins, Act.ends, Act.switches, hon]

theorem settle_account (d : Driver) (p : Plant) (on : Bool) (duty : Single) :
    (d.settle p on duty).driver.account = d.account.enter ⟨d.status.isOn, on, true, p.clock.now⟩ := by
  unfold settle transit Status.countCycle Status.addOnTime
  cases on <;> cases hon : d.status.isOn <;> cases ht : d.onSince <;>
    by_cases hc : d.status.cycles = 0xFFFFFFFF <;>
    simp [account, Account.enter, Act.begins, Act.ends, Act.switches, Status.isOn, ht, hc]

theorem stopped_account (d : Driver) (reason : Option Lockout) :
    (d.stopped reason).account = d.account := by
  cases reason <;> rfl

theorem refuse_account (d : Driver) (reason : Lockout) :
    account { d with status := d.status.refuse reason } = d.account := by
  unfold Status.refuse
  split <;> rfl

theorem relent_account (d : Driver) : account { d with status := d.status.relent } = d.account := by
  unfold Status.relent
  split <;> rfl

/-- A write that failed takes the status out of on, and nothing is entered for it. -/
theorem error_account (d : Driver) (time : Nat) :
    account { d with status := { d.status with state := .error } } =
      d.account.enter ⟨d.status.isOn, false, false, time⟩ := by
  simp [account, Account.enter, Act.begins, Act.ends, Act.switches, Status.isOn]

theorem apply_account (d : Driver) (p : Plant) (on : Bool) (duty : Single) :
    (d.apply p on duty).driver.account = d.account.enter (.of d p (d.apply p on duty)) := by
  have hc := d.apply_cases p on duty
  generalize d.apply p on duty = o at hc ⊢
  cases hc with
  | refused gate alike => exact enter_idle (d.refuse_account _)
  | failed gate pass write alike => exact d.error_account _
  | done gate pass write clock_eq alike =>
    rw [settle_account, relent_account]
    simp only [Act.of, settle_isOn, settle_result, Status.relent_isOn, clock_eq, Except.isOk, Except.toBool]

theorem forceOff_account (d : Driver) (p : Plant) (reason : Option Lockout) :
    (d.forceOff p reason).driver.account = d.account.enter (.of d p (d.forceOff p reason)) := by
  have hc := d.forceOff_cases p reason
  generalize d.forceOff p reason = o at hc ⊢
  cases hc with
  | failed write alike =>
    have h := (d.stopped reason).error_account p.clock.now
    rw [stopped_account, stopped_isOn] at h
    exact h
  | done write clock_eq alike =>
    rw [settle_account, stopped_account]
    simp only [Act.of, settle_isOn, settle_result, stopped_isOn, clock_eq, Except.isOk, Except.toBool]

/-- Entries in the log and what becomes of the pulse are no part of the accounts. -/
theorem enter_of_alike {o o' : Outcome} (h : o.driver.account = d.account.enter (.of d p o))
    (hd : o'.driver.account = o.driver.account) (hr : o'.result.isOk = o.result.isOk)
    (hp : p'.clock = p.clock) : o'.driver.account = d.account.enter (.of d p' o') := by
  have hon : o'.driver.status.isOn = o.driver.status.isOn := congrArg Account.isOn hd
  have ha : Act.of d p' o' = Act.of d p o := by simp only [Act.of, hon, hr, hp]
  rw [hd, h, ha]

theorem command_account (d : Driver) (p : Plant) (on : Bool) (duty : Single) :
    (d.command p on duty).driver.account = d.account.enter (.of d p (d.command p on duty)) := by
  refine enter_of_alike (d.apply_account p on duty) ?_ ?_ rfl
  · unfold command
    dsimp only
    split <;> rfl
  · unfold command
    dsimp only
    split <;> rfl

theorem process_account (d : Driver) (p : Plant) :
    (d.process p).driver.account = d.account.enter (.of d p (d.process p)) := by
  by_cases h : d.overdue? p.clock.now = none
  · refine enter_idle ?_
    unfold process
    rw [h]
  · obtain ⟨q, hq, he⟩ := process_of_overdue h
    rw [he]
    exact enter_of_alike (d.forceOff_account q _) rfl rfl hq.clock_eq.symm

theorem emergencyStop_account (d : Driver) (p : Plant) :
    (d.emergencyStop p).driver.account = d.account.enter (.of d p (d.emergencyStop p)) :=
  d.forceOff_account (d.note p .warn "emergency stop") (some .emergencyStop)

theorem setDuty_account (d : Driver) (p : Plant) (x : Single) :
    (d.setDuty p x).driver.account = d.account.enter (.of d p (d.setDuty p x)) := by
  by_cases hx : x.isFinite = true
  · obtain ⟨duty, he⟩ := d.setDuty_eq_command p hx
    rw [he]
    exact d.command_account p _ duty
  · refine enter_idle ?_
    rw [setDuty_of_not_isFinite (Bool.eq_false_iff.2 hx)]

/-- To pulse at once is two operations, or one that was not carried out. -/
theorem pulseNow_books (d : Driver) (p : Plant) :
    d.Books (d.acts p .pulseNow) (d.pulseNow p).driver := by
  have h₁ : (d.set p true).driver.account = d.account.enter (.of d p (d.set p true)) :=
    d.command_account p true _
  unfold acts
  cases hr : (d.set p true).result with
  | error e =>
    rw [pulseNow_of_error hr]
    simp only [hr, Except.isOk, Except.toBool, Bool.false_eq_true, if_false]
    exact .single h₁
  | ok u =>
    rw [pulseNow_of_ok hr]
    simp only [hr, Except.isOk, Except.toBool, if_true]
    refine ⟨⟨rfl, rfl, trivial⟩, ?_⟩
    rw [List.foldl_cons, ← h₁]
    exact (d.set p true).driver.command_account _ false _

theorem obey_books (d : Driver) (p : Plant) {c : Command} (hc : ∀ total cycles, c ≠ .restore total cycles) :
    d.Books (d.acts p c) (Rig.obey d p c).driver := by
  cases c with
  | set on => exact .single (d.command_account p on _)
  | toggle => exact .single (d.command_account p _ _)
  | duty x => exact .single (d.setDuty_account p x)
  | process => exact .single (d.process_account p)
  | emergencyStop => exact .single (d.emergencyStop_account p)
  | shutdown => exact .single (d.forceOff_account p none)
  | resetLockout => exact .single (o := d.resetLockout p) (enter_idle rfl)
  | restore total cycles => exact absurd rfl (hc total cycles)
  | pulseNow => exact d.pulseNow_books p

/-- Each operation at an event finds the state that the one before left. -/
theorem actsOn_linked (d : Driver) (r : Rig) (n : Nat) (p : Plant) (e : Event) :
    Linked d.status.isOn (d.actsOn r n p e) := by
  cases e with
  | command m c =>
    simp only [actsOn]
    split
    · cases c with
      | restore total cycles => trivial
      | pulseNow => exact (d.pulseNow_books p).linked
      | _ => exact ⟨rfl, trivial⟩
    · trivial
  | pulse m millis timed =>
    simp only [actsOn]
    split
    · exact ⟨rfl, trivial⟩
    · trivial
  | _ =>
    simp only [actsOn]
    generalize d.pulse.filter _ = q
    cases q with
    | none => trivial
    | some q => exact ⟨rfl, trivial⟩

theorem startPulse_account (d : Driver) (p : Plant) (serial timer : Nat) (millis : Option UInt32) :
    (d.startPulse p serial timer millis).driver.account =
      d.account.enter (.of d p (d.startPulse p serial timer millis)) := by
  refine enter_of_alike (d.command_account p true (d.config.fullDuty true)) ?_ ?_ rfl
  · unfold startPulse set
    dsimp only
    split <;> rfl
  · unfold startPulse set
    dsimp only
    split <;> rfl

theorem finishPulse_account (d : Driver) (p : Plant) (number : Nat) :
    (d.finishPulse p number).driver.account = d.account.enter (.of d p (d.finishPulse p number)) := by
  unfold finishPulse
  split
  · refine enter_of_alike (d.dropPulse.apply_account p false Duty.zero) ?_ ?_ rfl
    · dsimp only
      split <;> rfl
    · dsimp only
      split <;> simp_all
  · exact enter_idle rfl

end Output.Driver

namespace Rig

variable {r : Rig} {e : Event} {n : Nat} {d d' : Driver}

/-- When the timer gets to the pulse of a driver, that is its operation at the event. -/
theorem actsOn_of_rings {p : Plant} {q : Pulse} (hp : d.pulse = some q) (hk : q.cancelled = false)
    (hr : r.rings n q e = true) : d.actsOn r n p e = [.of d p (d.finishPulse p q.number)] := by
  cases e with
  | advance _ | ring _ _ => simp [Driver.actsOn, hp, hk, hr]
  | _ => cases hr

/-- At an event that a driver has no part in it has no operation. -/
theorem actsOn_of_apart {p : Plant} (h : r.involves n d e = false) : d.actsOn r n p e = [] := by
  cases e with
  | command m c =>
    have hne : m ≠ n := by simpa [involves] using h
    simp [Driver.actsOn, hne]
  | pulse m millis timed => simpa [involves, Driver.actsOn] using h
  | cancelPulse serial => simp [Driver.actsOn, rings]
  | _ =>
    cases hp : d.pulse with
    | none => simp [Driver.actsOn, hp]
    | some q => simpa [involves, Driver.actsOn, hp] using h

theorem Part.books {o : Outcome} (h : r.Part n d e o)
    (hr : ∀ total cycles, e ≠ .command n (.restore total cycles)) : d.Books (d.actsAt r n e) o.driver := by
  unfold Driver.actsAt
  cases h with
  | told c =>
    simp only [Driver.actsOn, if_true]
    exact d.obey_books r.plant fun total cycles hc => hr total cycles (by rw [hc])
  | pulse millis =>
    simp only [Driver.actsOn, and_self, if_true]
    exact .single (d.startPulse_account r.plant r.next r.timer millis)
  | @cancel serial s handle mine =>
    have hno : d.actsOn r n (r.found n (.cancelPulse serial)) (.cancelPulse serial) = [] := by
      simp [Driver.actsOn, rings]
    rw [hno]
    exact .refl rfl
  | @finish _ q pending kept rings =>
    rw [actsOn_of_rings pending kept rings]
    exact .single (d.finishPulse_account (r.found n e) q.number)
  | none apart =>
    rw [actsOn_of_apart apart]
    exact .refl rfl

theorem actsAt_restore (total : UInt64) (cycles : UInt32) :
    d.actsAt r n (.command n (.restore total cycles)) = [] := by
  simp [Driver.actsAt, Driver.actsOn, Driver.acts]

end Rig

/-! ## What the entries come to -/

variable {acts past : List Act} {a b : Act} {i j start : Nat} {x : Account}

/-- In a history the status came on at an operation, and says on ever since. -/
structure Opened (past : List Act) (i : Nat) (b : Act) : Prop where
  at_eq : past[i]? = some b
  begins : b.begins = true
  stays : ∀ k c, i < k → past[k]? = some c → c.stays = true

/-- Where the status says on, the mark is the time at which it came on. -/
def Account.Open (x : Account) (past : List Act) : Prop :=
  x.isOn = true → ∃ i b, Opened past i b ∧ x.onSince = some b.time

theorem Opened.unique {i' : Nat} {b' : Act} (h : Opened past i b) (h' : Opened past i' b') : i = i' := by
  -- An operation at which the status comes on is not one at which it stays on.
  have hne : ∀ {c : Act}, c.begins = true → c.stays = true → False := by
    intro c hb hs
    cases hc : c.before <;> simp [Act.begins, Act.stays, hc] at hb hs
  rcases Nat.lt_trichotomy i i' with hlt | heq | hgt
  · exact absurd (h.stays i' b' hlt h'.at_eq) (fun hs => hne h'.begins hs)
  · exact heq
  · exact absurd (h'.stays i b hgt h.at_eq) (fun hs => hne h.begins hs)

theorem Opened.lt (h : Opened past i b) : i < past.length :=
  (List.getElem?_eq_some_iff.1 h.at_eq).1

theorem Opened.concat (h : Opened past i b) (ha : a.stays = true) : Opened (past ++ [a]) i b where
  at_eq := by rw [List.getElem?_append_left h.lt, h.at_eq]
  begins := h.begins
  stays k c hk hc := by
    by_cases hlt : k < past.length
    · rw [List.getElem?_append_left hlt] at hc
      exact h.stays k c hk hc
    · rw [List.getElem?_append_right (Nat.le_of_not_lt hlt)] at hc
      obtain rfl : a = c := by
        have hmem := List.mem_of_getElem? hc
        rw [List.mem_singleton] at hmem
        exact hmem.symm
      exact ha

theorem opened_last (ha : a.begins = true) : Opened (past ++ [a]) past.length a where
  at_eq := by simp
  begins := ha
  stays k c hk hc := by
    have hlen := (List.getElem?_eq_some_iff.1 hc).1
    rw [List.length_append, List.length_singleton] at hlen
    omega

/-- Entering an operation keeps the mark at the time at which the status came on. -/
theorem Account.Open.enter (h : x.Open past) (ha : a.before = x.isOn) : (x.enter a).Open (past ++ [a]) := by
  intro hon
  have hon : a.after = true := hon
  cases hx : x.isOn with
  | false =>
    have hb : a.begins = true := by simp [Act.begins, ha, hx, hon]
    exact ⟨past.length, a, opened_last hb, by simp [Account.enter, hb]⟩
  | true =>
    have hs : a.stays = true := by simp [Act.stays, ha, hx, hon]
    have hb : a.begins = false := by simp [Act.begins, ha, hx]
    obtain ⟨i, b, hopen, hsince⟩ := h hx
    exact ⟨i, b, hopen.concat hs, by simp [Account.enter, hb, hsince]⟩

/-- A stretch that ends with the last operation is the one that was open before it. -/
theorem spans_last_iff :
    spans (past ++ [a]) i past.length = true ↔ a.ends = true ∧ ∃ b, Opened past i b := by
  have htake : (past ++ [a]).take past.length = past := List.take_left
  have hlast : (past ++ [a])[past.length]? = some a := by simp
  unfold spans
  rw [htake, hlast]
  simp only [Bool.and_eq_true, decide_eq_true_eq, Option.any_some, List.all_eq_true]
  constructor
  · rintro ⟨⟨⟨hlt, hb⟩, he⟩, hs⟩
    rw [List.getElem?_append_left hlt] at hb
    obtain ⟨b, hb, hbegins⟩ := (Option.any_eq_true _ _).1 hb
    refine ⟨he, b, hb, hbegins, fun k c hk hc => hs c ?_⟩
    refine List.mem_of_getElem? (i := k - (i + 1)) ?_
    rw [List.getElem?_drop, Nat.add_sub_of_le hk]
    exact hc
  · rintro ⟨he, b, hopen⟩
    refine ⟨⟨⟨hopen.lt, ?_⟩, he⟩, fun c hc => ?_⟩
    · rw [List.getElem?_append_left hopen.lt, hopen.at_eq]
      exact hopen.begins
    · obtain ⟨k, hk⟩ := List.mem_iff_getElem?.1 hc
      rw [List.getElem?_drop] at hk
      exact hopen.stays _ c (by omega) hk

theorem spans_concat (hi : i < j) (hj : j < past.length) :
    spans (past ++ [a]) i j = spans past i j ∧ lasted (past ++ [a]) i j = lasted past i j := by
  have hi' : (past ++ [a])[i]? = past[i]? := List.getElem?_append_left (Nat.lt_trans hi hj)
  have hj' : (past ++ [a])[j]? = past[j]? := List.getElem?_append_left hj
  unfold spans lasted
  rw [hi', hj', List.take_append_of_le_length (Nat.le_of_lt hj)]
  exact ⟨rfl, rfl⟩

/-- What the stretches in a history come to that end at an operation with some number or later, where each
counts for something by its length. -/
def overSpans (count : Nat → Nat) (acts : List Act) (start : Nat) : Nat :=
  ∑ j ∈ Finset.Ico start acts.length, ∑ i ∈ Finset.range j,
    if spans acts i j then count (lasted acts i j) else 0

theorem overSpans_self (count : Nat → Nat) (acts : List Act) : overSpans count acts acts.length = 0 := by
  simp [overSpans]

/-- One operation more adds the stretch that it ends, if it ends one. -/
theorem overSpans_concat (count : Nat → Nat) (h : x.Open past) (ha : a.before = x.isOn)
    (hstart : start ≤ past.length) :
    overSpans count (past ++ [a]) start = overSpans count past start +
      if a.ends then x.onSince.elim 0 fun t => count ((a.time - t) / Clock.perMilli) else 0 := by
  have hlen : (past ++ [a]).length = past.length + 1 := by simp
  unfold overSpans
  rw [hlen, Finset.sum_Ico_succ_top hstart]
  congr 1
  · -- The stretches that ended before are what they were.
    refine Finset.sum_congr rfl fun j hj => Finset.sum_congr rfl fun i hi => ?_
    obtain ⟨hs, hl⟩ := spans_concat (a := a) (Finset.mem_range.1 hi) (Finset.mem_Ico.1 hj).2
    rw [hs, hl]
  · cases he : a.ends with
    | false =>
      simp only [Bool.false_eq_true, if_false]
      refine Finset.sum_eq_zero fun i _ => if_neg fun hs => ?_
      cases he.symm.trans (spans_last_iff.1 hs).1
    | true =>
      -- The one that ends here began where the mark was made, and no other ends here.
      have hon : x.isOn = true := by
        simp only [Act.ends, Bool.and_eq_true] at he
        rw [← ha]
        exact he.1.2
      obtain ⟨i₀, b, hopen, hsince⟩ := h hon
      have hrange : i₀ ∈ Finset.range past.length := Finset.mem_range.2 hopen.lt
      rw [Finset.sum_eq_single_of_mem i₀ hrange, if_pos (spans_last_iff.2 ⟨he, b, hopen⟩)]
      · have hb : (past ++ [a])[i₀]? = some b := by
          rw [List.getElem?_append_left hopen.lt, hopen.at_eq]
        simp [lasted, hb, hsince]
      · intro i _ hne
        refine if_neg fun hs => ?_
        obtain ⟨-, b', hopen'⟩ := spans_last_iff.1 hs
        exact hne (hopen'.unique hopen)

/-- The time on is what the stretches come to if each counts for its length. -/
theorem timeOn_concat (h : x.Open past) (ha : a.before = x.isOn) (hstart : start ≤ past.length) :
    timeOn (past ++ [a]) start = timeOn past start +
      if a.ends then x.onSince.elim 0 fun t => (a.time - t) / Clock.perMilli else 0 :=
  overSpans_concat id h ha hstart

/-- The accounts are as the history says since some operation, counting from a total and from cycles. -/
structure Account.Right (x : Account) (total cycles start : Nat) (past : List Act) : Prop where
  start_le : start ≤ past.length
  total_eq : total + timeOn past start < 2 ^ 64 → x.total.toNat = total + timeOn past start
  cycles_eq : x.cycles.toNat = min (2 ^ 32 - 1) (cycles + (past.drop start).countP Act.switches)

variable {total cycles : Nat}

theorem toNat_add_millisBetween {c : UInt64} {since now : Nat}
    (h : c.toNat + (now - since) / Clock.perMilli < 2 ^ 64) :
    (c + .ofNat (millisBetween since now)).toNat = c.toNat + (now - since) / Clock.perMilli := by
  have hm : millisBetween since now = (now - since) / Clock.perMilli := by
    unfold millisBetween
    omega
  rw [UInt64.toNat_add, hm, UInt64.toNat_ofNat', Nat.mod_eq_of_lt (a := _ / _) (by omega), Nat.mod_eq_of_lt h]

theorem toNat_succ_cycles {c : UInt32} {m : Nat} (h : c.toNat = min (2 ^ 32 - 1) m) :
    (if c != 0xFFFFFFFF then c + 1 else c).toNat = min (2 ^ 32 - 1) (m + 1) := by
  by_cases hc : c = 0xFFFFFFFF
  · have hmax : c.toNat = 2 ^ 32 - 1 := by rw [hc]; rfl
    simp only [hc, bne_self_eq_false, Bool.false_eq_true, if_false]
    rw [← hc]
    omega
  · have hne : c.toNat ≠ 2 ^ 32 - 1 := fun hmax => hc (UInt32.toNat_inj.1 hmax)
    have hlt := c.toNat_lt
    have hone : (1 : UInt32).toNat = 1 := rfl
    rw [if_pos (bne_iff_ne.2 hc), UInt32.toNat_add, hone]
    omega

theorem Account.Right.enter (h : x.Right total cycles start past) (hopen : x.Open past)
    (ha : a.before = x.isOn) : (x.enter a).Right total cycles start (past ++ [a]) where
  start_le := by
    rw [List.length_append]
    exact Nat.le_add_right_of_le h.start_le
  total_eq hlt := by
    rw [timeOn_concat hopen ha h.start_le] at hlt ⊢
    have ht := h.total_eq (by omega)
    simp only [Account.enter]
    cases he : a.ends with
    | false => simpa using ht
    | true =>
      simp only [he, if_true] at hlt ⊢
      cases hs : x.onSince with
      | none => simpa using ht
      | some t =>
        simp only [hs, Option.elim_some] at hlt ⊢
        rw [toNat_add_millisBetween (by omega), ht, Nat.add_assoc]
  cycles_eq := by
    have hdrop : (past ++ [a]).drop start = past.drop start ++ [a] :=
      List.drop_append_of_le_length h.start_le
    rw [hdrop, List.countP_append, List.countP_singleton]
    simp only [Account.enter]
    cases hs : a.switches with
    | false => simpa using h.cycles_eq
    | true =>
      simp only [Bool.true_and, if_true]
      exact toNat_succ_cycles h.cycles_eq

theorem Account.Open.entries (h : x.Open past) (hl : Linked x.isOn acts) :
    (acts.foldl Account.enter x).Open (past ++ acts) := by
  induction acts generalizing x past with
  | nil => simpa using h
  | cons a rest ih =>
    have happ : past ++ a :: rest = past ++ [a] ++ rest := by simp
    rw [happ]
    exact ih (h.enter hl.1) hl.2

theorem Account.Right.entries (h : x.Right total cycles start past) (hopen : x.Open past)
    (hl : Linked x.isOn acts) : (acts.foldl Account.enter x).Right total cycles start (past ++ acts) := by
  induction acts generalizing x past with
  | nil => simpa using h
  | cons a rest ih =>
    have happ : past ++ a :: rest = past ++ [a] ++ rest := by simp
    rw [happ]
    exact ih (h.enter hopen hl.1) (hopen.enter hl.1) hl.2

/-! ## What a run comes to -/

namespace Rig

variable {r : Rig} {e : Event} {es : List Event} {n : Nat} {d d' : Driver}

theorem history_cons (hd : r.drivers.get? n = some d) (e : Event) (es : List Event) :
    r.history n (e :: es) = d.actsAt r n e ++ (r.step e).1.history n es := by
  simp only [history, hd, Option.elim_some]

theorem history_append (r : Rig) (n : Nat) (es es' : List Event) :
    r.history n (es ++ es') = r.history n es ++ (r.run es).history n es' := by
  induction es generalizing r with
  | nil => rfl
  | cons e es ih => simp only [List.cons_append, history, ih, run_cons, List.append_assoc]

theorem step_books (hw : r.WellFormed) (hd : r.drivers.get? n = some d)
    (hd' : (r.step e).1.drivers.get? n = some d')
    (hr : ∀ total cycles, e ≠ .command n (.restore total cycles)) : d.Books (d.actsAt r n e) d' := by
  rcases step_part hw hd e with ⟨-, hn⟩ | ⟨o, ho, hlive⟩
  · cases hn.symm.trans hd'
  · cases hlive.symm.trans hd'
    exact ho.books hr

/-- At a step the mark stays at the time at which the status came on. -/
theorem step_open (hw : r.WellFormed) (hd : r.drivers.get? n = some d)
    (hd' : (r.step e).1.drivers.get? n = some d') (h : d.account.Open past) :
    d'.account.Open (past ++ d.actsAt r n e) := by
  by_cases hr : ∃ total cycles, e = .command n (.restore total cycles)
  · obtain ⟨total, cycles, rfl⟩ := hr
    obtain rfl : d.restore total cycles = d' := by
      simpa only [step, tell, hd, keep, obey, Table.get?_insert_self, Option.some.injEq] using hd'
    rw [actsAt_restore, List.append_nil]
    exact h
  · have hb : d.Books (d.actsAt r n e) d' :=
      step_books hw hd hd' fun total cycles he => hr ⟨total, cycles, he⟩
    rw [hb.account_eq]
    exact h.entries hb.linked

theorem run_open (hw : r.WellFormed)
    (h : ∀ d, r.drivers.get? n = some d → d.account.Open past)
    (hd' : (r.run es).drivers.get? n = some d') : d'.account.Open (past ++ r.history n es) := by
  -- What is still to happen gets less, what has happened moves into `past`.
  induction es generalizing r past with
  | nil => simpa [history] using h d' hd'
  | cons e es ih =>
    cases hd : r.drivers.get? n with
    | some d =>
      rw [history_cons hd, ← List.append_assoc]
      exact ih (hw.step e) (fun d₁ hd₁ => step_open hw hd hd₁ (h d hd)) hd'
    | none =>
      simp only [history, hd, Option.elim_none, List.nil_append]
      refine ih (hw.step e) (fun d₁ hd₁ hon => ?_) hd'
      -- A driver that has just been made is not on.
      have hon : d₁.status.isOn = true := hon
      rw [(step_born hw hd hd₁).1.idle] at hon
      cases hon

theorem run_right (hw : r.WellFormed) (hd : r.drivers.get? n = some d)
    (hd' : (r.run es).drivers.get? n = some d')
    (hr : ∀ total cycles, Event.command n (.restore total cycles) ∉ es) {total cycles start : Nat}
    (hopen : d.account.Open past) (h : d.account.Right total cycles start past) :
    d'.account.Right total cycles start (past ++ r.history n es) := by
  induction es generalizing r d past with
  | nil =>
    cases hd.symm.trans hd'
    simpa [history] using h
  | cons e es ih =>
    obtain ⟨d₁, hd₁⟩ : ∃ d₁, (r.step e).1.drivers.get? n = some d₁ := live_between hw hd [e] es hd'
    have hb : d.Books (d.actsAt r n e) d₁ := by
      refine step_books hw hd hd₁ fun total cycles he => hr total cycles ?_
      rw [he]
      exact List.mem_cons_self ..
    rw [history_cons hd, ← List.append_assoc]
    refine ih (hw.step e) hd₁ hd' (fun total cycles hm => hr total cycles (List.mem_cons_of_mem _ hm)) ?_ ?_
    · exact step_open hw hd hd₁ hopen
    · rw [hb.account_eq]
      exact h.entries hopen hb.linked

/-- From any state of a run in which a driver has some counters, as long as they are not restored again,
its total grows by the whole milliseconds of every stretch that it was on and that a switch-off ended
since, each counted once, and its cycles grow by one for every operation that was carried out and changed
its state, up to their bound. -/
theorem run_accounts (s : Setup) {before after : List Event} {n : Nat} {d d' : Driver}
    (hd : (s.rig.run before).drivers.get? n = some d)
    (hd' : (s.rig.run (before ++ after)).drivers.get? n = some d')
    (hr : ∀ total cycles, Event.command n (.restore total cycles) ∉ after) :
    let acts := s.rig.history n (before ++ after)
    let start := (s.rig.history n before).length
    (d.status.total.toNat + timeOn acts start < 2 ^ 64 →
        d'.status.total.toNat = d.status.total.toNat + timeOn acts start) ∧
      d'.status.cycles.toNat =
        min (2 ^ 32 - 1) (d.status.cycles.toNat + (acts.drop start).countP Act.switches) := by
  intro acts start
  have hw := setup_wellFormed s
  have hborn : ∀ d, s.rig.drivers.get? n = some d → d.account.Open [] := by
    intro d hd
    cases hd
  have hopen : d.account.Open (s.rig.history n before) := by
    have h := run_open hw hborn hd
    rwa [List.nil_append] at h
  -- Nothing has been counted since the start yet.
  have hstart : d.account.Right d.status.total.toNat d.status.cycles.toNat start
      (s.rig.history n before) := by
    refine ⟨Nat.le_refl _, fun _ => ?_, ?_⟩
    · simp [timeOn, start, Driver.account]
    · have hlt := d.status.cycles.toNat_lt
      simp only [start, List.drop_length, List.countP_nil, Driver.account]
      omega
  rw [run_append] at hd'
  have hright := run_right (run_wellFormed hw before) hd hd' hr hopen hstart
  rw [← history_append] at hright
  exact ⟨hright.total_eq, hright.cycles_eq⟩

/-- An output that is on for two milliseconds when its counters are restored. -/
def metered : List Event :=
  [.create (Output.Config.plain 1 "pump" .relay 17), .command 0 (.set true), .drift 2000000,
    .command 0 (.restore 100 7)]

/-- Three milliseconds later it is switched off, and once more by force. -/
def unmetered : List Event :=
  [.drift 3000000, .command 0 (.set false), .drift 4000000, .command 0 .emergencyStop]

/-- The five milliseconds and the one switching are added to what was restored. -/
theorem metered_accounts :
    ∃ d d', (Setup.plain.rig.run metered).drivers.get? 0 = some d ∧ d.status.total = 100 ∧
      (Setup.plain.rig.run (metered ++ unmetered)).drivers.get? 0 = some d' ∧
      d'.status.total.toNat = 105 ∧ d'.status.cycles.toNat = 8 := by
  obtain ⟨d, hd⟩ : ∃ d, (Setup.plain.rig.run metered).drivers.get? 0 = some d :=
    Option.isSome_iff_exists.1 (by decide +kernel)
  obtain ⟨d', hd'⟩ : ∃ d', (Setup.plain.rig.run (metered ++ unmetered)).drivers.get? 0 = some d' :=
    Option.isSome_iff_exists.1 (by decide +kernel)
  have hcounters : d.status.total = 100 ∧ d.status.cycles = 7 := by
    have h : ((Setup.plain.rig.run metered).drivers.get? 0).map
        (fun d => (d.status.total, d.status.cycles)) = some (100, 7) := by
      decide +kernel
    simpa [hd] using h
  obtain ⟨htotal, hcycles⟩ := hcounters
  have hacts : timeOn (Setup.plain.rig.history 0 (metered ++ unmetered))
      (Setup.plain.rig.history 0 metered).length = 5 := by
    decide +kernel
  have hcount : ((Setup.plain.rig.history 0 (metered ++ unmetered)).drop
      (Setup.plain.rig.history 0 metered).length).countP Act.switches = 1 := by
    decide +kernel
  obtain ⟨ht, hc⟩ := run_accounts Setup.plain hd hd' (by simp [unmetered])
  rw [hacts, htotal] at ht
  rw [hcount, hcycles] at hc
  exact ⟨d, d', hd, htotal, hd', ht (by decide), hc⟩

end Rig

end Switchboard
