import Switchboard.Gpio.Waiting

/-!
# What a wait comes to

A wait outlasts a turn in which the line is in place, there is time left, and the poll brings nothing
(`Turn.IsIdle`). The first turn of another kind ends it: before its poll, with the line given up or the time
over (`Turn.Stops`), or by what the poll reports (`Poll.report?`). So a wait takes one of three courses over
the turns that it meets (`Course`), and `waitReady_course` goes turn by turn: an idle turn puts one more poll in
front of the course of the rest (`Course.cons`).

`Kept` is what any of the courses keeps to, whatever the clock shows, whenever the line is given up and however
the polls turn out. Nothing is asked of the clock, not even that it never goes back.
-/

namespace Switchboard.Gpio

/-! ## Turns -/

/-- What a poll ends a wait with, if it does. -/
def Poll.report? : Poll → Option (Except Error Unit)
  | .ready => some (.ok ())
  | .silent => none
  | .failed e => some (.error e)

theorem Poll.report?_eq_ok_iff {p : Poll} : p.report? = some (.ok ()) ↔ p = .ready := by
  cases p <;> simp [report?]

theorem Poll.report?_eq_error_iff {p : Poll} {e : Error} : p.report? = some (.error e) ↔ p = .failed e := by
  cases p <;> simp [report?]

namespace Turn

/-- How long the poll of a turn may take. -/
def slice (deadline : Nat) (t : Turn) : Nat :=
  min (deadline - t.now) longestSlice

/-- The turn gets to its poll: the line is in place and there is time left. -/
structure GetsToPoll (deadline : Nat) (t : Turn) : Prop where
  inPlace : t.retired = false
  early : t.now < deadline

/-- The wait outlasts the turn. -/
structure IsIdle (deadline : Nat) (t : Turn) : Prop extends t.GetsToPoll deadline where
  silent : t.poll = .silent

/-- What a turn ends a wait with before it gets to its poll. That the line was given up comes first. -/
def Stops (deadline : Nat) (t : Turn) (e : Error) : Prop :=
  t.retired = true ∧ e = .device .reconfigured ∨
    t.retired = false ∧ deadline ≤ t.now ∧ e = .timeout

variable {deadline : Nat} {t : Turn} {e e' : Error}

theorem GetsToPoll.slice_pos (h : t.GetsToPoll deadline) : 0 < t.slice deadline := by
  have hearly := h.early
  unfold slice longestSlice
  omega

theorem not_getsToPoll (h : t.retired = true ∨ deadline ≤ t.now) : ¬t.GetsToPoll deadline := by
  intro hpoll
  rcases h with hretired | hlate
  · cases hretired.symm.trans hpoll.inPlace
  · exact Nat.not_lt.2 hlate hpoll.early

theorem Stops.not_getsToPoll (h : t.Stops deadline e) : ¬t.GetsToPoll deadline :=
  Turn.not_getsToPoll (h.imp And.left fun hlate => hlate.2.1)

/-- A turn stops a wait with one error only. -/
theorem Stops.unique (h : t.Stops deadline e) (h' : t.Stops deadline e') : e = e' := by
  rcases h with ⟨hretired, rfl⟩ | ⟨hplace, -, rfl⟩ <;>
    rcases h' with ⟨hretired', rfl⟩ | ⟨hplace', -, rfl⟩
  · rfl
  · cases hretired.symm.trans hplace'
  · cases hretired'.symm.trans hplace
  · rfl

end Turn

/-! ## Courses -/

/-- The course of a wait over some turns. -/
inductive Course (deadline : Nat) : List Turn → Wait → Prop where
  | goesOn {turns : List Turn} (h : ∀ t ∈ turns, t.IsIdle deadline) :
    Course deadline turns ⟨none, turns.map (Turn.slice deadline)⟩
  | stops (before after : List Turn) {t : Turn} {e : Error} (h : ∀ u ∈ before, u.IsIdle deadline)
    (hstops : t.Stops deadline e) :
    Course deadline (before ++ t :: after) ⟨some (.error e), before.map (Turn.slice deadline)⟩
  | reports (before after : List Turn) {t : Turn} {r : Except Error Unit}
    (h : ∀ u ∈ before, u.IsIdle deadline) (hpoll : t.GetsToPoll deadline)
    (hreport : t.poll.report? = some r) :
    Course deadline (before ++ t :: after) ⟨some r, (before ++ [t]).map (Turn.slice deadline)⟩

variable {deadline : Nat} {t : Turn} {turns more before after : List Turn} {w : Wait} {p : Poll} {e : Error}
  {holds : Turn → Prop}

/-- An idle turn before a course. -/
theorem Course.cons (ht : t.IsIdle deadline) (h : Course deadline turns w) :
    Course deadline (t :: turns) { w with slices := t.slice deadline :: w.slices } := by
  have hcons {before : List Turn} (h : ∀ u ∈ before, u.IsIdle deadline) :
      ∀ u ∈ t :: before, u.IsIdle deadline :=
    List.forall_mem_cons.2 ⟨ht, h⟩
  cases h with
  | goesOn h => exact .goesOn (hcons h)
  | stops before after h hstops => exact .stops (t :: before) after (hcons h) hstops
  | reports before after h hpoll hreport => exact .reports (t :: before) after (hcons h) hpoll hreport

/-- Every wait takes a course. -/
theorem waitReady_course (deadline : Nat) (turns : List Turn) :
    Course deadline turns (waitReady deadline turns) := by
  induction turns with
  | nil => exact .goesOn (by simp)
  | cons t rest ih =>
    simp only [waitReady]
    split
    · rename_i hretired
      exact .stops [] rest (by simp) (.inl ⟨hretired, rfl⟩)
    · rename_i hretired
      have hplace := Bool.eq_false_iff.2 hretired
      split
      · rename_i hlate
        exact .stops [] rest (by simp) (.inr ⟨hplace, hlate, rfl⟩)
      · rename_i hlate
        have hpoll : t.GetsToPoll deadline := ⟨hplace, Nat.not_le.1 hlate⟩
        split
        · rename_i hready
          exact .reports [] rest (by simp) hpoll (by rw [hready]; rfl)
        · rename_i e hfailed
          exact .reports [] rest (by simp) hpoll (by rw [hfailed]; rfl)
        · rename_i hsilent
          exact ih.cons ⟨hpoll, hsilent⟩

/-- A wait that is over stays as it is, whatever turns come after. -/
theorem waitReady_append (h : (waitReady deadline turns).result.isSome = true) :
    waitReady deadline (turns ++ more) = waitReady deadline turns := by
  induction turns with
  | nil => cases h
  | cons t rest ih =>
    simp only [List.cons_append, waitReady] at h ⊢
    split
    · rfl
    · rename_i hretired
      rw [if_neg hretired] at h
      split
      · rfl
      · rename_i hlate
        rw [if_neg hlate] at h
        cases hp : t.poll with
        | ready | failed e => rfl
        | silent =>
          rw [hp] at h
          simp only [ih h]

/-! ## What all courses keep to -/

/-- What the last of the polls brought that were made with some slices, one a turn. -/
def LastPoll (turns : List Turn) (slices : List Nat) (p : Poll) : Prop :=
  ∃ i t, slices.length = i + 1 ∧ turns[i]? = some t ∧ t.poll = p

/-- None of those polls brought anything, and the turn after them is as said. -/
def NextTurn (turns : List Turn) (slices : List Nat) (holds : Turn → Prop) : Prop :=
  (∀ i t, i < slices.length → turns[i]? = some t → t.poll = .silent) ∧
    ∃ t, turns[slices.length]? = some t ∧ holds t

/-- The turns that got to their polls came first. -/
theorem Course.polled (h : Course deadline turns w) :
    ∃ polled rest, turns = polled ++ rest ∧ (∀ t ∈ polled, t.GetsToPoll deadline) ∧
      w.slices = polled.map (Turn.slice deadline) := by
  cases h with
  | goesOn h => exact ⟨turns, [], (List.append_nil _).symm, fun t ht => (h t ht).toGetsToPoll, rfl⟩
  | @stops before after t e h => exact ⟨before, t :: after, rfl, fun u hu => (h u hu).toGetsToPoll, rfl⟩
  | @reports before after t r h hpoll =>
    refine ⟨before ++ [t], after, by simp, ?_, rfl⟩
    exact List.forall_mem_append.2 ⟨fun u hu => (h u hu).toGetsToPoll, by simpa using hpoll⟩

/-- A wait goes on as long as all turns are idle. -/
theorem Course.result_eq_none_iff (h : Course deadline turns w) :
    w.result = none ↔ ∀ t ∈ turns, t.IsIdle deadline := by
  cases h with
  | goesOn h => exact iff_of_true rfl h
  | @stops before after t e h hstops =>
    refine iff_of_false nofun fun hidle => ?_
    exact hstops.not_getsToPoll (hidle t (by simp)).toGetsToPoll
  | @reports before after t r h hpoll hreport =>
    refine iff_of_false nofun fun hidle => ?_
    rw [(hidle t (by simp)).silent] at hreport
    cases hreport

/-- What stands in a list before the end of its first part is of that part. -/
theorem mem_of_getElem?_append {α : Type} {l l' : List α} {i : Nat} {a : α} (h : (l ++ l')[i]? = some a)
    (hi : i < l.length) : a ∈ l := by
  rw [List.getElem?_append_left hi] at h
  exact List.mem_of_getElem? h

/-- The polls of idle turns brought nothing. -/
theorem eq_silent_of_lastPoll (h : ∀ u ∈ before, u.IsIdle deadline) (hfirst : before <+: turns)
    (hlast : LastPoll turns (before.map (Turn.slice deadline)) p) : p = .silent := by
  obtain ⟨rest, rfl⟩ := hfirst
  obtain ⟨i, u, hlength, hu, rfl⟩ := hlast
  rw [List.length_map] at hlength
  exact (h u (mem_of_getElem?_append hu (by omega))).silent

/-- The last poll of a wait that a poll ends is the one that ends it. -/
theorem lastPoll_iff :
    LastPoll (before ++ t :: after) ((before ++ [t]).map (Turn.slice deadline)) p ↔ t.poll = p := by
  have hlength : ((before ++ [t]).map (Turn.slice deadline)).length = before.length + 1 := by simp
  have hturn : (before ++ t :: after)[before.length]? = some t := by simp
  constructor
  · rintro ⟨i, u, hi, hu, rfl⟩
    obtain rfl : before.length = i := Nat.succ.inj (hlength.symm.trans hi)
    rw [Option.some.inj (hturn.symm.trans hu)]
  · rintro rfl
    exact ⟨before.length, t, hlength, hturn, rfl⟩

/-- After idle turns, the next turn is the one that they stand before. -/
theorem nextTurn_iff (h : ∀ u ∈ before, u.IsIdle deadline) :
    NextTurn (before ++ t :: after) (before.map (Turn.slice deadline)) holds ↔ holds t := by
  have hnext : (before ++ t :: after)[(before.map (Turn.slice deadline)).length]? = some t := by simp
  constructor
  · rintro ⟨-, u, hu, hholds⟩
    rwa [Option.some.inj (hnext.symm.trans hu)]
  · intro hholds
    refine ⟨fun i u hi hu => ?_, t, hnext, hholds⟩
    exact (h u (mem_of_getElem?_append hu (by simpa using hi))).silent

/-- A wait ends well exactly if its last poll found an edge. -/
theorem Course.result_eq_ok_iff (h : Course deadline turns w) :
    w.result = some (.ok ()) ↔ LastPoll turns w.slices .ready := by
  cases h with
  | goesOn h =>
    refine iff_of_false nofun fun hlast => ?_
    cases eq_silent_of_lastPoll h List.prefix_rfl hlast
  | stops before after h hstops =>
    refine iff_of_false nofun fun hlast => ?_
    cases eq_silent_of_lastPoll h (List.prefix_append ..) hlast
  | reports before after h hpoll hreport =>
    rw [lastPoll_iff, ← Poll.report?_eq_ok_iff, hreport]

/-- A wait fails exactly with what its last poll failed with, or with what the turn after silent polls stops it
with. -/
theorem Course.result_eq_error_iff (h : Course deadline turns w) :
    w.result = some (.error e) ↔
      LastPoll turns w.slices (.failed e) ∨ NextTurn turns w.slices (Turn.Stops deadline · e) := by
  cases h with
  | goesOn h =>
    refine iff_of_false nofun ?_
    rintro (hlast | ⟨-, t, ht, -⟩)
    · cases eq_silent_of_lastPoll h List.prefix_rfl hlast
    · simp at ht
  | @stops before after t e' h hstops =>
    have hlast : ¬LastPoll (before ++ t :: after) (before.map (Turn.slice deadline)) (.failed e) := by
      intro hlast
      cases eq_silent_of_lastPoll h (List.prefix_append ..) hlast
    rw [or_iff_right hlast, nextTurn_iff h, Option.some.injEq, Except.error.injEq]
    exact ⟨fun he => he ▸ hstops, hstops.unique⟩
  | @reports before after t r h hpoll hreport =>
    have hnext : ¬NextTurn (before ++ t :: after) ((before ++ [t]).map (Turn.slice deadline))
        (Turn.Stops deadline · e) := by
      rintro ⟨hsilent, -⟩
      rw [hsilent before.length t (by simp) (by simp)] at hreport
      cases hreport
    rw [or_iff_left hnext, lastPoll_iff, ← Poll.report?_eq_error_iff, hreport]

/-- What stops a wait after silent polls is that the line was given up or, with the line in place, the deadline. -/
theorem nextTurn_stops_iff {slices : List Nat} :
    NextTurn turns slices (Turn.Stops deadline · e) ↔
      e = .device .reconfigured ∧ NextTurn turns slices (·.retired = true) ∨
        e = .timeout ∧ NextTurn turns slices fun t => t.retired = false ∧ deadline ≤ t.now := by
  constructor
  · rintro ⟨hsilent, t, ht, ⟨hretired, he⟩ | ⟨hplace, hlate, he⟩⟩
    · exact .inl ⟨he, hsilent, t, ht, hretired⟩
    · exact .inr ⟨he, hsilent, t, ht, hplace, hlate⟩
  · rintro (⟨he, hsilent, t, ht, hretired⟩ | ⟨he, hsilent, t, ht, hplace, hlate⟩)
    · exact ⟨hsilent, t, ht, .inl ⟨hretired, he⟩⟩
    · exact ⟨hsilent, t, ht, .inr ⟨hplace, hlate, he⟩⟩

/-- What a wait until a deadline keeps to, over the turns that it meets. -/
structure Kept (deadline : Nat) (turns : List Turn) (w : Wait) : Prop where
  /-- There is one poll a turn, from the first turn on. None is made with the line given up or the time over,
  and each may take some time, but no longer than a slice and than what is left. -/
  polls (i slice : Nat) : w.slices[i]? = some slice → ∃ t : Turn, turns[i]? = some t ∧ t.retired = false ∧
    0 < slice ∧ slice ≤ longestSlice ∧ slice ≤ deadline - t.now
  /-- It ends well exactly with a poll that found an edge. -/
  ok : w.result = some (.ok ()) ↔ LastPoll turns w.slices .ready
  /-- It fails exactly with a poll that failed, and with its error; or else, after silent polls, where it finds
  the line given up, or in place and the deadline reached. -/
  error (e : Error) : w.result = some (.error e) ↔ LastPoll turns w.slices (.failed e) ∨
    e = .device .reconfigured ∧ NextTurn turns w.slices (·.retired = true) ∨
      e = .timeout ∧ NextTurn turns w.slices fun t => t.retired = false ∧ deadline ≤ t.now
  /-- By a turn that finds the line given up or the deadline reached it is over, and no poll is made any more. -/
  ended (i : Nat) (t : Turn) : turns[i]? = some t → t.retired = true ∨ deadline ≤ t.now →
    w.slices.length ≤ i ∧ w.result.isSome = true
  /-- It goes on through any number of turns that find the line in place and time left and whose polls are
  silent, and only through those. -/
  goesOn : w.result = none ↔ ∀ t ∈ turns, t.retired = false ∧ t.now < deadline ∧ t.poll = .silent
  /-- What comes after its end is nothing to it. -/
  final (more : List Turn) : w.result.isSome = true → waitReady deadline (turns ++ more) = w

/-- Every wait is kept to its deadline, whatever the clock shows and the polls bring, and whenever the line is
given up. -/
theorem waitReady_kept (deadline : Nat) (turns : List Turn) :
    Kept deadline turns (waitReady deadline turns) := by
  have hcourse := waitReady_course deadline turns
  obtain ⟨polled, rest, hturns, hpolled, hslices⟩ := hcourse.polled
  have hidle : (∀ t ∈ turns, t.IsIdle deadline) ↔
      ∀ t ∈ turns, t.retired = false ∧ t.now < deadline ∧ t.poll = .silent :=
    forall₂_congr fun t _ => ⟨fun h => ⟨h.inPlace, h.early, h.silent⟩, fun ⟨h, h', h''⟩ => ⟨⟨h, h'⟩, h''⟩⟩
  constructor
  case polls =>
    intro i slice hslice
    rw [hslices, List.getElem?_map, Option.map_eq_some_iff] at hslice
    obtain ⟨t, ht, rfl⟩ := hslice
    have hpoll := hpolled t (List.mem_of_getElem? ht)
    refine ⟨t, ?_, hpoll.inPlace, hpoll.slice_pos, Nat.min_le_right .., Nat.min_le_left ..⟩
    rw [hturns, List.getElem?_append_left (List.getElem?_eq_some_iff.1 ht).1]
    exact ht
  case ok => exact hcourse.result_eq_ok_iff
  case error =>
    intro e
    rw [hcourse.result_eq_error_iff, nextTurn_stops_iff]
  case ended =>
    intro i t ht hends
    have hends := Turn.not_getsToPoll hends
    constructor
    · rw [hslices, List.length_map]
      rw [hturns] at ht
      exact Nat.not_lt.1 fun hlt => hends (hpolled t (mem_of_getElem?_append ht hlt))
    · refine Option.isSome_iff_ne_none.2 fun hnone => ?_
      exact hends (hcourse.result_eq_none_iff.1 hnone t (List.mem_of_getElem? ht)).toGetsToPoll
  case goesOn => exact hcourse.result_eq_none_iff.trans hidle
  case final => exact fun more h => waitReady_append h

/-- Two polls end early, and then the line is given up and the time is over. The line comes first. -/
example :
    waitReady 50000000 [⟨false, 0, .silent⟩, ⟨false, 35000000, .silent⟩, ⟨true, 60000000, .ready⟩] =
      ⟨some (.error (.device .reconfigured)), [20000000, 15000000]⟩ :=
  rfl

end Switchboard.Gpio
