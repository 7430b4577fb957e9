import Switchboard.Proofs.Runs

/-!
# The part of a driver in an event

What an event does with one driver depends on the driver and on the plant that it finds, and on nothing
else: `Part` lists the four ways in which a driver takes part in an event, each with the whole outcome, and
`step_part` says that there are no others. Only when time passes is the plant that a driver finds not the
one before the event: the clocks have moved, and the pulses that are over before its own have ended
(`Rig.found`).
-/

namespace Switchboard

open Output (Driver Outcome Pulse Deed)

/-- An event that is for other things than drivers and their pulses. -/
def Event.isBeside : Event → Bool
  | .create _ | .close _ | .command .. | .pulse .. | .cancelPulse _ | .awaitPulse _ | .advance _
  | .ring .. => false
  | _ => true

namespace Rig

/-- At an event the timer gets to a pulse of the driver with a serial, and the pulse is over. -/
def rings (r : Rig) (n : Nat) (q : Pulse) : Event → Bool
  | .advance millis => q.due ≤ r.timer + millis.toNat
  | .ring m number => m == n && number == q.number && q.due ≤ r.timer
  | _ => false

/-- The plant that the driver with a serial finds at an event. -/
def found (r : Rig) (n : Nat) : Event → Plant
  | .advance millis =>
    ((r.elapse millis).finishAll ((r.elapse millis).due.takeWhile fun x => x.1 != n)).plant
  | _ => r.plant

/-- The driver with a serial takes part in an event. -/
def involves (r : Rig) (n : Nat) (d : Driver) : Event → Bool
  | .command m _ => m == n
  | .pulse m _ timed => m == n && timed
  | .cancelPulse serial => (r.started.get? serial).any fun s => s.driver == n
  | e => d.pulse.any fun q => !q.cancelled && r.rings n q e

/-- The part of a driver in an event. -/
inductive Part (r : Rig) (n : Nat) (d : Driver) : Event → Outcome → Prop
  | told (c : Command) : Part r n d (.command n c) (obey d r.plant c)
  | pulse (millis : Option UInt32) :
      Part r n d (.pulse n millis true) (d.startPulse r.plant r.next r.timer millis)
  | cancel {serial : Nat} {s : Started} (handle : r.started.get? serial = some s) (mine : s.driver = n) :
      Part r n d (.cancelPulse serial) ⟨.ok (), d.cancelPulse serial, r.plant, none⟩
  /-- Its pulse is over. -/
  | finish {e : Event} {q : Pulse} (pending : d.pulse = some q) (kept : q.cancelled = false)
      (rings : r.rings n q e = true) : Part r n d e (d.finishPulse (r.found n e) q.number)
  /-- It has none. -/
  | none {e : Event} (apart : r.involves n d e = false) : Part r n d e ⟨.ok (), d, r.found n e, none⟩

variable {r r' r'' : Rig} {e : Event} {n : Nat} {d d' : Driver}

/-! ## Events beside the drivers -/

/-- The drivers and the handles of their pulses are as before. -/
structure Beside (r r' : Rig) : Prop where
  drivers_eq : r'.drivers = r.drivers
  started_eq : r'.started = r.started

theorem Beside.refl (r : Rig) : Beside r r :=
  ⟨rfl, rfl⟩

theorem Beside.trans (h : Beside r r') (h' : Beside r' r'') : Beside r r'' :=
  ⟨h'.drivers_eq.trans h.drivers_eq, h'.started_eq.trans h.started_eq⟩

theorem pump_beside (r : Rig) (s : Nat) : Beside r (r.pump s) := by
  unfold pump
  split
  · exact .refl r
  · exact ⟨rfl, rfl⟩

theorem pumpPin_beside (r : Rig) (pin : Gpio.Pin) : Beside r (r.pumpPin pin) := by
  unfold pumpPin
  generalize r.subscriptions.entries = l
  induction l generalizing r with
  | nil => exact .refl r
  | cons x rest ih =>
    simp only [List.foldl_cons]
    by_cases hx : x.2.pin = pin
    · simp only [hx, if_true]
      exact (pump_beside r x.1).trans (ih _)
    · simp only [hx, if_false]
      exact ih r

theorem subscribe_beside (r : Rig) (pin : Gpio.Pin) (edge : Gpio.EdgeMode) :
    Beside r (r.subscribe pin edge).1 := by
  unfold subscribe
  split
  · exact .refl r
  · split
    · exact ⟨rfl, rfl⟩
    · exact ⟨rfl, rfl⟩

theorem receive_beside (r : Rig) (s : Nat) : Beside r (r.receive s).1 := by
  have h := pump_beside r s
  unfold receive
  dsimp only
  split
  · exact h
  · refine (h.trans ?_).trans (pump_beside _ s)
    exact ⟨rfl, rfl⟩

theorem cancel_beside (r : Rig) (s : Nat) : Beside r (r.cancel s).1 := by
  unfold cancel
  split
  · exact ⟨rfl, rfl⟩
  · exact .refl r

theorem withToken_beside (r : Rig) (s : Nat) {f : Interlock.Token → Rig × Reply}
    (h : ∀ t, Beside r (f t).1) : Beside r (r.withToken s f).1 := by
  unfold withToken
  split
  · exact .refl r
  · exact h _

theorem reserve_beside (r : Rig) (group : Interlock.Group) (s : Nat) :
    Beside r (r.reserve group s).1 := by
  refine withToken_beside r s fun t => ?_
  split
  · exact ⟨rfl, rfl⟩
  · exact .refl r

theorem step_beside (h : e.isBeside = true) : Beside r (r.step e).1 := by
  cases e with
  | create _ | close _ | command _ _ | pulse _ _ _ | cancelPulse _ | awaitPulse _ | advance _
  | ring _ _ => cases h
  | drift _ | lapse _ | setWall _ | pin _ | line _ | setListener _ _ | setFailing _ _ | register _
  | createToken _ _ => exact ⟨rfl, rfl⟩
  | inject pin level =>
    have h : Beside r (r.setBench (r.plant.board.bench.inject pin level)) := ⟨rfl, rfl⟩
    exact h.trans (pumpPin_beside _ pin)
  | subscribe pin edge => exact subscribe_beside r pin edge
  | receive s => exact receive_beside r s
  | cancel s => exact cancel_beside r s
  | unsubscribe s =>
    unfold step
    dsimp only
    split
    · exact ⟨rfl, rfl⟩
    · exact .refl r
  | dropToken s => exact withToken_beside r s fun _ => ⟨rfl, rfl⟩
  | reserve group s => exact reserve_beside r group s
  | confirm _ s | abandon _ s | free _ s => exact withToken_beside r s fun _ => ⟨rfl, rfl⟩

/-! ## The pulses that are over -/

theorem mem_due {m : Nat} {q : Pulse} :
    (m, q) ∈ r.due ↔ ∃ d, r.drivers.get? m = some d ∧ d.pulse = some q ∧ q.cancelled = false ∧
      q.due ≤ r.timer := by
  unfold due
  rw [List.mem_mergeSort, List.mem_filterMap]
  constructor
  · rintro ⟨⟨m', d⟩, hx, hq⟩
    obtain ⟨q', hq', he⟩ := Option.map_eq_some_iff.1 hq
    obtain ⟨rfl, rfl⟩ := Prod.mk.inj he
    obtain ⟨hp, hk⟩ := Option.filter_eq_some_iff.1 hq'
    have hk : q'.cancelled = false ∧ q'.due ≤ r.timer := by simpa using hk
    exact ⟨d, Table.get?_eq_some_iff.2 hx, hp, hk⟩
  · rintro ⟨d, hd, hp, hk, hdue⟩
    refine ⟨(m, d), Table.get?_eq_some_iff.1 hd, ?_⟩
    have hf : d.pulse.filter (fun q => !q.cancelled && decide (q.due ≤ r.timer)) = some q :=
      Option.filter_eq_some_iff.2 ⟨hp, by simp [hk, hdue]⟩
    simp [hf]

theorem finish_get?_of_ne {m : Nat} (h : m ≠ n) (q : Pulse) :
    (r.finish m q).drivers.get? n = r.drivers.get? n := by
  unfold finish
  split
  · rfl
  · exact Table.get?_insert_of_ne h

theorem finish_clock (m : Nat) (q : Pulse) : (r.finish m q).plant.clock = r.plant.clock := by
  cases hm : r.drivers.get? m with
  | none =>
    unfold finish
    rw [hm]
  | some d =>
    have ht : Turn (fun _ => False) d r.plant (d.finishPulse r.plant q.number) := .finish q.number
    rw [(finish_eq hm q).1]
    exact (Frame.of_turn ht).clock_eq

theorem finishAll_get?_of_not_mem (l : List (Nat × Pulse)) (h : n ∉ l.map Prod.fst) :
    (r.finishAll l).drivers.get? n = r.drivers.get? n := by
  induction l generalizing r with
  | nil => rfl
  | cons x rest ih =>
    rw [List.map_cons, List.mem_cons, not_or] at h
    obtain ⟨hne, hrest⟩ := h
    rw [finishAll_cons, ih hrest, finish_get?_of_ne (Ne.symm hne)]

theorem finishAll_clock (l : List (Nat × Pulse)) : (r.finishAll l).plant.clock = r.plant.clock := by
  induction l generalizing r with
  | nil => rfl
  | cons x rest ih => rw [finishAll_cons, ih, finish_clock]

/-- The pulses that are over part at the one of a driver that has one. -/
theorem due_split {q : Pulse} (h : (n, q) ∈ r.due) :
    ∃ l, r.due = (r.due.takeWhile fun x => x.1 != n) ++ (n, q) :: l ∧ n ∉ l.map Prod.fst := by
  obtain ⟨before, after, hl⟩ := List.append_of_mem h
  have hnd := r.due_nodup
  rw [hl, List.map_append, List.map_cons, List.nodup_append] at hnd
  obtain ⟨-, hafter, hdisj⟩ := hnd
  have hbefore : ∀ x ∈ before, (x.1 != n) = true := by
    intro x hx
    have hne : x.1 ≠ n := hdisj _ (List.mem_map_of_mem hx) _ (List.mem_cons_self ..)
    simpa using hne
  refine ⟨after, ?_, (List.nodup_cons.1 hafter).1⟩
  have htake : (r.due.takeWhile fun x => x.1 != n) = before := by
    rw [hl, List.takeWhile_append_of_pos hbefore, List.takeWhile_cons_of_neg (by simp), List.append_nil]
  rw [htake]
  exact hl

theorem not_mem_takeWhile (l : List (Nat × Pulse)) : n ∉ (l.takeWhile fun x => x.1 != n).map Prod.fst := by
  intro h
  obtain ⟨x, hx, rfl⟩ := List.mem_map.1 h
  have hne : (x.1 != x.1) = true := List.all_eq_true.1 List.all_takeWhile x hx
  simp at hne

/-! ## Every event is a part -/

/-- A driver none of whose pulses is over has no part in the passing of time. -/
theorem involves_advance_of_not_mem {millis : Int} (hd : r.drivers.get? n = some d)
    (h : n ∉ (r.elapse millis).due.map Prod.fst) : r.involves n d (.advance millis) = false := by
  rw [Bool.eq_false_iff]
  intro hi
  obtain ⟨q, hp, hk⟩ := (Option.any_eq_true _ _).1 hi
  have hk : q.cancelled = false ∧ q.due ≤ (r.elapse millis).timer := by
    simpa [rings, elapse] using hk
  have hmem : (n, q) ∈ (r.elapse millis).due := mem_due.2 ⟨d, hd, hp, hk⟩
  exact h (List.mem_map_of_mem hmem)

theorem advance_part (millis : Int) (hd : r.drivers.get? n = some d) :
    ∃ o, r.Part n d (.advance millis) o ∧
      (r.advance millis).drivers.get? n = some o.driver := by
  have he : r.advance millis = (r.elapse millis).finishAll (r.elapse millis).due := rfl
  have hd₁ : (r.elapse millis).drivers.get? n = some d := hd
  by_cases hmem : n ∈ (r.elapse millis).due.map Prod.fst
  · obtain ⟨⟨n', q⟩, hx, rfl⟩ := List.mem_map.1 hmem
    obtain ⟨d', hd', hp, hk, hdue⟩ := mem_due.1 hx
    cases hd₁.symm.trans hd'
    refine ⟨_, .finish hp hk (decide_eq_true hdue), ?_⟩
    obtain ⟨l, hl, hn⟩ := due_split hx
    rw [he, hl, finishAll_append, finishAll_cons, finishAll_get?_of_not_mem l hn]
    have hd₂ := (finishAll_get?_of_not_mem (r := r.elapse millis) _
      (not_mem_takeWhile (r.elapse millis).due)).trans hd₁
    rw [(finish_eq hd₂ q).2, Table.get?_insert_self]
    rfl
  · refine ⟨_, .none (involves_advance_of_not_mem hd hmem), ?_⟩
    rw [he, finishAll_get?_of_not_mem _ hmem]
    exact hd₁

/-- The timer gets to a pulse that is over by ending it. -/
theorem ring_of_over {m number : Nat} {q : Pulse} (hd : r.drivers.get? m = some d) (hp : d.pulse = some q)
    (hnum : q.number = number) (hk : q.cancelled = false) (hdue : q.due ≤ r.timer) :
    r.ring m number = r.finish m q := by
  have hf : d.pulse.filter (fun q => q.number == number) = some q :=
    Option.filter_eq_some_iff.2 ⟨hp, by simp [hnum]⟩
  simp only [ring, hd, hf]
  rw [if_pos (by simp [hk, hdue])]

/-- Where the timer gets to a pulse that was replaced or cancelled or is not due, or to one of a driver that was
given up, nothing happens but an entry in the log. -/
theorem ring_stale (r : Rig) (m number : Nat)
    (h : ∀ {d q}, r.drivers.get? m = some d → d.pulse = some q → q.number = number →
      q.cancelled = false → ¬q.due ≤ r.timer) :
    ∃ p, r.plant.Alike p ∧ r.ring m number = { r with plant := p } := by
  unfold ring
  split
  · exact ⟨r.plant, .refl _, rfl⟩
  · rename_i d hd
    split
    · rename_i hf
      -- Nothing is left of the pulse with the number.
      have hno : d.pulse.any (fun q => q.number == number) = false := by
        cases hp : d.pulse with
        | none => rfl
        | some q =>
          rw [hp, Option.filter_eq_none_iff] at hf
          simpa using hf q rfl
      have hfin : d.finishPulse r.plant number =
          ⟨.ok (), d, d.note r.plant .debug ("pulse " ++ toString number ++ " superseded"), none⟩ := by
        simp [Driver.finishPulse, hno]
      rw [hfin]
      refine ⟨_, d.note_alike r.plant .debug ("pulse " ++ toString number ++ " superseded"), ?_⟩
      simp only [keep, Table.insert_eq_self hd]
    · rename_i q hf
      obtain ⟨hp, hnum⟩ := Option.filter_eq_some_iff.1 hf
      have hover := h hd hp (by simpa using hnum)
      rw [if_neg (by simpa using hover)]
      exact ⟨r.plant, .refl _, rfl⟩

/-- A driver whose pulse the timer does not get to has no part in that. -/
theorem involves_ring_of_stale {m number : Nat}
    (h : m = n → ∀ q, d.pulse = some q → q.number = number → q.cancelled = false → ¬q.due ≤ r.timer) :
    r.involves n d (.ring m number) = false := by
  rw [Bool.eq_false_iff]
  intro hi
  obtain ⟨q, hp, hk⟩ := (Option.any_eq_true _ _).1 hi
  have hk : q.cancelled = false ∧ (m = n ∧ number = q.number) ∧ q.due ≤ r.timer := by
    simpa [rings] using hk
  obtain ⟨hk, ⟨hm, hnum⟩, hdue⟩ := hk
  exact h hm q hp hnum.symm hk hdue

theorem ring_part (m number : Nat) (hd : r.drivers.get? n = some d) :
    ∃ o, r.Part n d (.ring m number) o ∧ (r.ring m number).drivers.get? n = some o.driver := by
  by_cases hover : ∃ d' q, r.drivers.get? m = some d' ∧ d'.pulse = some q ∧ q.number = number ∧
      q.cancelled = false ∧ q.due ≤ r.timer
  · obtain ⟨d', q, hd', hp, hnum, hk, hdue⟩ := hover
    rw [ring_of_over hd' hp hnum hk hdue]
    by_cases hm : m = n
    · subst hm
      cases hd.symm.trans hd'
      refine ⟨_, .finish hp hk (by simp [rings, hnum, hdue]), ?_⟩
      rw [(finish_eq hd q).2, Table.get?_insert_self]
      rfl
    · exact ⟨_, .none (involves_ring_of_stale fun h => absurd h hm), (finish_get?_of_ne hm q).trans hd⟩
  · obtain ⟨p, -, he⟩ := ring_stale r m number fun hd' hp hnum hk hdue =>
      hover ⟨_, _, hd', hp, hnum, hk, hdue⟩
    rw [he]
    refine ⟨_, .none (involves_ring_of_stale ?_), hd⟩
    rintro rfl q hp hnum hk hdue
    exact hover ⟨d, q, hd, hp, hnum, hk, hdue⟩

theorem pulse_part (m : Nat) (millis : Option UInt32) (timed : Bool) (hd : r.drivers.get? n = some d) :
    ∃ o, r.Part n d (.pulse m millis timed) o ∧
      (r.pulse m millis timed).1.drivers.get? n = some o.driver := by
  by_cases hm : m = n
  · subst hm
    cases timed with
    | false =>
      refine ⟨_, .none (by simp [involves]), ?_⟩
      simp [Rig.pulse, hd]
    | true =>
      refine ⟨_, .pulse millis, ?_⟩
      simp only [Rig.pulse, fresh, hd, Bool.not_true, Bool.false_eq_true, if_false]
      split <;> exact Table.get?_insert_self
  · refine ⟨_, .none (by simp [involves, hm]), ?_⟩
    unfold Rig.pulse fresh
    split
    · exact hd
    · split
      · exact hd
      · dsimp only
        split <;> exact (Table.get?_insert_of_ne hm).trans hd

theorem cancelPulse_part (serial : Nat) (hd : r.drivers.get? n = some d) :
    ∃ o, r.Part n d (.cancelPulse serial) o ∧
      (r.cancelPulse serial).1.drivers.get? n = some o.driver := by
  unfold cancelPulse
  cases hs : r.started.get? serial with
  | none => exact ⟨_, .none (by simp [involves, hs]), hd⟩
  | some s =>
    by_cases hm : s.driver = n
    · refine ⟨_, .cancel hs hm, ?_⟩
      simp only [hm, Table.get?_modify_self, hd, Option.map_some]
    · refine ⟨_, .none (by simp [involves, hs, hm]), ?_⟩
      exact (Table.get?_modify_of_ne hm).trans hd

/-- A driver that is not given up at an event has one part in it. -/
theorem step_part (hw : r.WellFormed) (hd : r.drivers.get? n = some d) (e : Event) :
    e = .close n ∧ (r.step e).1.drivers.get? n = none ∨
      ∃ o, r.Part n d e o ∧ (r.step e).1.drivers.get? n = some o.driver := by
  cases e with
  | create c =>
    have hne : r.next ≠ n := Nat.ne_of_gt (hw.driver hd).2
    refine .inr ⟨_, .none (by simp [involves, rings]), ?_⟩
    simp only [step, create, fresh]
    split
    · exact (Table.get?_insert_of_ne hne).trans hd
    · exact hd
  | close m =>
    by_cases hm : m = n
    · subst hm
      refine .inl ⟨rfl, ?_⟩
      simp only [step, close, hd, Table.get?_erase_self]
    · refine .inr ⟨_, .none (by simp [involves, rings]), ?_⟩
      simp only [step, close]
      split
      · exact hd
      · exact (Table.get?_erase_of_ne hm).trans hd
  | command m c =>
    by_cases hm : m = n
    · subst hm
      refine .inr ⟨_, .told c, ?_⟩
      simp only [step, tell, hd]
      exact Table.get?_insert_self
    · refine .inr ⟨_, .none (by simp [involves, hm]), ?_⟩
      simp only [step, tell]
      split
      · exact hd
      · exact (Table.get?_insert_of_ne hm).trans hd
  | pulse m millis timed => exact .inr (pulse_part m millis timed hd)
  | cancelPulse serial => exact .inr (cancelPulse_part serial hd)
  | awaitPulse serial =>
    refine .inr ⟨_, .none (by simp [involves, rings]), ?_⟩
    simp only [step, awaitPulse]
    split <;> exact hd
  | advance millis => exact .inr (advance_part millis hd)
  | ring m number => exact .inr (ring_part m number hd)
  | _ =>
    refine .inr ⟨_, .none (by simp [involves, rings]), ?_⟩
    rw [(step_beside rfl).drivers_eq]
    exact hd

/-! ## What a part leaves -/

/-- A part is a turn of the driver on the plant that it finds. -/
theorem Part.turn {o : Outcome} (h : r.Part n d e o) :
    Turn (fun c => e = .command n c) d (r.found n e) o := by
  cases h with
  | told c => exact .tell c rfl
  | pulse millis => exact .pulse r.next r.timer millis
  | cancel handle mine => exact .cancel _
  | finish pending kept rings => exact .finish _
  | none apart => exact .idle

theorem Part.driver_eq {o : Outcome} (h : r.Part n d e o) (hn : r.involves n d e = false) :
    o.driver = d := by
  cases h with
  | told c => simp [involves] at hn
  | pulse millis => simp [involves] at hn
  | cancel handle mine => simp [involves, handle, mine] at hn
  | finish pending kept rings =>
    cases e with
    | advance _ | ring _ _ => simp [involves, pending, kept, rings] at hn
    | _ => cases rings
  | none apart => rfl

theorem step_config (hw : r.WellFormed) (hd : r.drivers.get? n = some d)
    (hd' : (r.step e).1.drivers.get? n = some d') : d'.config = d.config := by
  rcases step_part hw hd e with ⟨-, hn⟩ | ⟨o, ho, hlive⟩
  · cases hn.symm.trans hd'
  · cases hlive.symm.trans hd'
    exact (Frame.of_turn ho.turn).config_eq

theorem run_config {es : List Event} (hw : r.WellFormed) (hd : r.drivers.get? n = some d)
    (hd' : (r.run es).drivers.get? n = some d') : d'.config = d.config := by
  induction es generalizing r d with
  | nil =>
    cases hd.symm.trans hd'
    rfl
  | cons e es ih =>
    obtain ⟨d₁, hd₁⟩ : ∃ d₁, (r.step e).1.drivers.get? n = some d₁ := live_between hw hd [e] es hd'
    rw [ih (hw.step e) hd₁ hd', step_config hw hd hd₁]

/-- A driver that is not given up stays. -/
theorem run_kept {es : List Event} (hw : r.WellFormed) (hd : r.drivers.get? n = some d)
    (hk : Event.close n ∉ es) : ∃ d', (r.run es).drivers.get? n = some d' := by
  induction es generalizing r d with
  | nil => exact ⟨d, hd⟩
  | cons e es ih =>
    rw [List.mem_cons, not_or] at hk
    rcases step_part hw hd e with ⟨he, -⟩ | ⟨o, -, hlive⟩
    · exact absurd he.symm hk.1
    · exact ih (hw.step e) hlive hk.2

/-- What holds of an idle driver and is kept by every deed holds of every driver that a run reaches. -/
theorem run_everyDriver {J : Driver → Prop} (idle : ∀ n c, J (.idle n c))
    (deed : ∀ {may d d' p p'}, Deed may d p d' p' → J d → J d') (hw : r.WellFormed)
    (hj : ∀ {n d}, r.drivers.get? n = some d → J d) (es : List Event) :
    ∀ {n d}, (r.run es).drivers.get? n = some d → J d := by
  induction es generalizing r with
  | nil => exact hj
  | cons e es ih =>
    refine ih (hw.step e) fun {n d'} hd' => ?_
    cases hd : r.drivers.get? n with
    | none =>
      rw [(step_born hw hd hd').1.idle]
      exact idle ..
    | some d =>
      rcases step_part hw hd e with ⟨-, hn⟩ | ⟨o, ho, hlive⟩
      · cases hn.symm.trans hd'
      · cases hlive.symm.trans hd'
        exact (ho.turn.deeds).keeps (J := fun d _ => J d) deed (hj hd)

/-- A command is answered with its result. -/
theorem Part.reply {c : Command} {o : Outcome} (h : r.Part n d (.command n c) o)
    (hd : r.drivers.get? n = some d) : (r.step (.command n c)).2 = outputReply o.result := by
  cases h with
  | told c => simp only [step, tell, hd]
  | finish pending kept rings => cases rings
  | none apart => simp [involves] at apart

/-- A driver that takes part in an event finds the clocks as the event leaves them. -/
theorem found_clock (hd : r.drivers.get? n = some d) (h : r.involves n d e = true) :
    (r.found n e).clock = (r.step e).1.plant.clock := by
  cases e with
  | command m c =>
    obtain rfl : m = n := by simpa [involves] using h
    have ht : Turn (fun c' => c = c') d r.plant (obey d r.plant c) := .tell c rfl
    simp only [step, tell, hd]
    exact (Frame.of_turn ht).clock_eq.symm
  | pulse m millis timed =>
    obtain ⟨rfl, rfl⟩ : m = n ∧ timed = true := by simpa [involves] using h
    have ht : Turn (fun _ => False) d r.plant (d.startPulse r.plant r.next r.timer millis) := .pulse ..
    have hc := (Frame.of_turn ht).clock_eq
    simp only [step, Rig.pulse, fresh, hd, Bool.not_true, Bool.false_eq_true, if_false]
    split <;> exact hc.symm
  | cancelPulse serial =>
    simp only [step, cancelPulse]
    split <;> rfl
  | advance millis =>
    have hbefore : (r.found n (.advance millis)).clock = (r.elapse millis).plant.clock :=
      finishAll_clock _
    have hafter : (r.advance millis).plant.clock = (r.elapse millis).plant.clock := finishAll_clock _
    exact hbefore.trans hafter.symm
  | ring m number =>
    simp only [step, ring]
    split
    · rfl
    · rename_i d' hd'
      split
      · have ht : Turn (fun _ => False) d' r.plant (d'.finishPulse r.plant number) := .finish number
        exact (Frame.of_turn ht).clock_eq.symm
      · split
        · exact (finish_clock m _).symm
        · rfl
  | _ => simp [involves, rings] at h

end Rig

end Switchboard
