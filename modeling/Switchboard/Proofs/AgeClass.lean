import Switchboard.Report
import Switchboard.Proofs.Stored

/-!
# How old a report is

A report is too old above a greatest age, and getting old from where a warning is due. The warning is meant
for three quarters of the greatest age. What it is given at is three times a quarter that was cut to whole
seconds, which is as good as long as the greatest age is at most one more than a multiple of four; otherwise
one or two ages are called old too early (`IsHasty`, `warnAge_lt_iff`).

Cutting first is what keeps the product in range: in words of sixty-four bits nothing wraps around
(`toInt_warnAge`), and neither does the age of a report from the calendar (`ageSeconds_bounds`). Ages only
grow between moments that are regular (`ageSeconds_le`), and classes are in the order of ages
(`rank_ageClass_le`), so the class of a report never gets better.
-/

namespace Switchboard

/-! ## Time between moments -/

namespace Timestamp

variable {s t : Timestamp}

/-- A leap second that the moment is within is the end of a day, where there are leap seconds. -/
def IsRegular (t : Timestamp) : Prop :=
  t.isLeap = true → t.ofDay = 86399

theorem ofDay_lt (t : Timestamp) : t.ofDay < 86400 :=
  Int.emod_lt_of_pos t.second (by decide)

/-- Nothing is later in the day than the leap second at its end, so none is ever counted as one more. -/
theorem nanosTo_of_isRegular (hs : s.IsRegular) (ht : t.IsRegular) :
    s.nanosTo t = t.toNanos - s.toNanos := by
  have hsday := s.ofDay_lt
  have htday := t.ofDay_lt
  unfold nanosTo
  split
  · rename_i h
    have hend := hs h.1
    omega
  · split
    · rename_i h
      have hend := ht h.1
      omega
    · rfl

/-- Thirteen digits are enough for the seconds of the calendar. -/
theorem IsMoment.second_bounds (h : t.IsMoment) : -(10 ^ 13) < t.second ∧ t.second < 10 ^ 13 := by
  have hrange := h.inRange
  have hfirst : Date.toDays ⟨Date.firstYear, 1, 1⟩ = -96465292 := by decide
  have hlast : Date.toDays ⟨Date.lastYear, 12, 31⟩ = 95026236 := by decide
  simp only [Timestamp.inRange, hfirst, hlast, Bool.and_eq_true, decide_eq_true_eq] at hrange
  omega

end Timestamp

/-- Division toward zero is the division of the size, with its sign. -/
theorem tdiv_cases (n k : Int) : 0 ≤ n ∧ n.tdiv k = n / k ∨ n < 0 ∧ n.tdiv k = -(-n / k) := by
  by_cases hn : 0 ≤ n
  · exact .inl ⟨hn, Int.tdiv_eq_ediv_of_nonneg hn⟩
  · have hsize : (-n).tdiv k = -n / k := Int.tdiv_eq_ediv_of_nonneg (by omega)
    rw [Int.neg_tdiv] at hsize
    exact .inr (by omega)

namespace Report

variable {timestamp now later : Timestamp} {age age' greatest : Int}

/-! ## Ages -/

/-- The age of a report from the calendar fits into sixty-four bits. -/
theorem ageSeconds_bounds (ht : timestamp.IsMoment) (hn : now.IsMoment) :
    -2 ^ 63 ≤ ageSeconds timestamp now ∧ ageSeconds timestamp now < 2 ^ 63 := by
  have htsecond := ht.second_bounds
  have hnsecond := hn.second_bounds
  have htnano := ht.nano_lt
  have hnnano := hn.nano_lt
  have hnanos : -(3 * 10 ^ 22) < timestamp.nanosTo now ∧ timestamp.nanosTo now < 3 * 10 ^ 22 := by
    unfold Timestamp.nanosTo Timestamp.toNanos
    simp only [Timestamp.perSecond] at *
    split
    · omega
    · split <;> omega
  unfold ageSeconds
  rcases tdiv_cases (timestamp.nanosTo now) Timestamp.perSecond with ⟨-, h⟩ | ⟨-, h⟩ <;>
    · rw [h]
      simp only [Timestamp.perSecond]
      omega

/-- Between regular moments an age grows with the current time. -/
theorem ageSeconds_le (ht : timestamp.IsRegular) (hn : now.IsRegular) (hl : later.IsRegular)
    (h : now.toNanos ≤ later.toNanos) : ageSeconds timestamp now ≤ ageSeconds timestamp later := by
  unfold ageSeconds
  rw [Timestamp.nanosTo_of_isRegular ht hn, Timestamp.nanosTo_of_isRegular ht hl]
  exact Int.tdiv_le_tdiv (by decide) (by omega)

/-! ## Warnings -/

/-- A warning at an age is early: the age is above three times the whole part of a quarter of the greatest age,
but not above three quarters. Only a remainder of two or three leaves room for such ages. -/
def IsHasty (age greatest : Int) : Prop :=
  0 ≤ greatest ∧ greatest / 4 * 3 < age ∧ age < greatest / 4 * 3 + greatest % 4

theorem warnAge_cases (greatest : Int) :
    0 ≤ greatest ∧ warnAge greatest = greatest / 4 * 3 ∨
      greatest < 0 ∧ warnAge greatest = -(-greatest / 4) * 3 := by
  unfold warnAge
  rcases tdiv_cases greatest 4 with ⟨hsign, h⟩ | ⟨hsign, h⟩
  · exact .inl ⟨hsign, by rw [h]⟩
  · exact .inr ⟨hsign, by rw [h]⟩

/-- Up to the greatest age, a warning is given above three quarters of it, or early. -/
theorem warnAge_lt_iff (h : age ≤ greatest) :
    warnAge greatest < age ↔ 3 * greatest < 4 * age ∨ IsHasty age greatest := by
  unfold IsHasty
  rcases warnAge_cases greatest with ⟨hsign, hwarn⟩ | ⟨hsign, hwarn⟩ <;> omega

/-- In words of sixty-four bits the warning is due at the same age, and nothing wraps around. -/
theorem toInt_warnAge (greatest : Int64) : (greatest / 4 * 3).toInt = warnAge greatest.toInt := by
  have hlow := Int64.le_toInt greatest
  have hhigh := Int64.toInt_lt greatest
  have hquarter : (greatest / 4).toInt = greatest.toInt.tdiv 4 := by
    have hsmall := tdiv_cases greatest.toInt 4
    rw [Int64.toInt_div]
    exact Int.bmod_eq_of_le (by change -(2 ^ 64 / 2) ≤ greatest.toInt.tdiv 4; omega)
      (by change greatest.toInt.tdiv 4 < (2 ^ 64 + 1) / 2; omega)
  have hsmall := warnAge_cases greatest.toInt
  rw [Int64.toInt_mul, hquarter]
  exact Int.bmod_eq_of_le (by change -(2 ^ 64 / 2) ≤ warnAge greatest.toInt; omega)
    (by change warnAge greatest.toInt < (2 ^ 64 + 1) / 2; omega)

/-! ## Classes -/

theorem ageClass_eq_tooOld_iff : ageClass age greatest = .tooOld ↔ greatest < age := by
  unfold ageClass
  split
  · simp [*]
  · split <;> simp [*]

theorem ageClass_eq_gettingOld_iff :
    ageClass age greatest = .gettingOld ↔ age ≤ greatest ∧ warnAge greatest < age := by
  unfold ageClass
  split
  · rename_i hold
    simp [Int.not_le.2 hold]
  · rename_i hold
    split <;> simp [Int.not_lt.1 hold, *]

theorem ageClass_eq_good_iff :
    ageClass age greatest = .good ↔ age ≤ greatest ∧ age ≤ warnAge greatest := by
  unfold ageClass
  split
  · rename_i hold
    simp [Int.not_le.2 hold]
  · rename_i hold
    split
    · rename_i hwarn
      simp [Int.not_le.2 hwarn]
    · rename_i hwarn
      simp [Int.not_lt.1 hold, Int.not_lt.1 hwarn]

/-- How bad a class is. -/
def AgeClass.rank : AgeClass → Nat
  | good => 0
  | gettingOld => 1
  | tooOld => 2

/-- The classes are in the order of the ages. -/
theorem rank_ageClass_le (h : age ≤ age') :
    (ageClass age greatest).rank ≤ (ageClass age' greatest).rank := by
  unfold ageClass
  split
  · -- Who is older than one that is too old is too old.
    rename_i hold
    refine Nat.le_of_eq ?_
    rw [if_pos (Int.lt_of_lt_of_le hold h)]
  · split
    · rename_i hwarn
      rw [if_pos (Int.lt_of_lt_of_le hwarn h)]
      split <;> decide
    · exact Nat.zero_le _

/-- What the age of a report is called, against a greatest age in whole seconds. -/
structure Ages (timestamp : Timestamp) (greatest : Int64) : Prop where
  /-- The report is too old exactly above the greatest age. -/
  tooOld now :
    ageClass (ageSeconds timestamp now) greatest.toInt = .tooOld ↔
      greatest.toInt < ageSeconds timestamp now
  /-- Up to there it is getting old exactly above three quarters of the greatest age, or early. -/
  gettingOld now :
    ageClass (ageSeconds timestamp now) greatest.toInt = .gettingOld ↔
      ageSeconds timestamp now ≤ greatest.toInt ∧
        (3 * greatest.toInt < 4 * ageSeconds timestamp now ∨
          IsHasty (ageSeconds timestamp now) greatest.toInt)
  /-- Otherwise it is good. -/
  good now :
    ageClass (ageSeconds timestamp now) greatest.toInt = .good ↔
      ageSeconds timestamp now ≤ greatest.toInt ∧
        4 * ageSeconds timestamp now ≤ 3 * greatest.toInt ∧
          ¬IsHasty (ageSeconds timestamp now) greatest.toInt
  /-- The age that a warning is due above comes out the same in words of sixty-four bits. -/
  exact : (greatest / 4 * 3).toInt = warnAge greatest.toInt
  /-- Between times of the calendar the age is such a word. -/
  fits now : timestamp.IsMoment → now.IsMoment → ∃ age : Int64, age.toInt = ageSeconds timestamp now
  /-- As the current time grows, the class never gets better. -/
  worsens now later : timestamp.IsRegular → now.IsRegular → later.IsRegular →
    now.toNanos ≤ later.toNanos →
      (ageClass (ageSeconds timestamp now) greatest.toInt).rank ≤
        (ageClass (ageSeconds timestamp later) greatest.toInt).rank

/-- Every report is called too old and getting old where its greatest age says so, but for early warnings. -/
theorem report_ages (timestamp : Timestamp) (greatest : Int64) : Ages timestamp greatest where
  tooOld _ := ageClass_eq_tooOld_iff
  gettingOld _ := by
    rw [ageClass_eq_gettingOld_iff]
    exact and_congr_right warnAge_lt_iff
  good now := by
    rw [ageClass_eq_good_iff]
    refine and_congr_right fun h => ?_
    rw [← Int.not_lt, warnAge_lt_iff h, not_or, Int.not_lt]
  exact := toInt_warnAge greatest
  fits _ ht hn :=
    have h := ageSeconds_bounds ht hn
    ⟨.ofInt _, Int64.toInt_ofInt_of_le h.1 h.2⟩
  worsens _ _ ht hn hl h := rank_ageClass_le (ageSeconds_le ht hn hl h)

/-- A report that is one second old, of at most three, is called old, a third of the way. -/
theorem young_called_old :
    ¬(ageClass (ageSeconds ⟨1709294399, 0⟩ ⟨1709294400, 0⟩) 3 = .gettingOld ↔
      ageSeconds ⟨1709294399, 0⟩ ⟨1709294400, 0⟩ ≤ 3 ∧
        3 * 3 < 4 * ageSeconds ⟨1709294399, 0⟩ ⟨1709294400, 0⟩) := by
  decide

/-- A leap second at noon counts only until midnight, when a report of that second gets younger. -/
example :
    (ageClass (ageSeconds ⟨43259, 1500000000⟩ ⟨86400, 0⟩) 43139).rank <
      (ageClass (ageSeconds ⟨43259, 1500000000⟩ ⟨86399, 600000000⟩) 43139).rank := by
  decide

end Report

end Switchboard
