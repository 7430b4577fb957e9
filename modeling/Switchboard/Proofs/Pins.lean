import Switchboard.Gpio.Access
import Switchboard.Gpio.Subscription

/-!
# What happens at a pin

A driver relies on three facts about its pin: the direction that the table has for it, the level on its
line and the levels written there so far. `Board.Spares pin` says that an operation has left these alone.
Every operation on another pin does (`Board.access_spares`, `Bench.access_spares`), and so does every
poller, since an edge is taken from a line without a change of its level (`Subscription.pump_spares`).
A write changes them, and nothing else on the board (`Board.write_frame`).
-/

namespace Switchboard.Gpio

/-- What an access does to a pin beyond looking at it: it may change the level or take the pin away. -/
def Access.meddles (a : Access) (pin : Pin) : Bool :=
  match a with
  | .shutdown => true
  | .configure q _ _ | .release q | .write q _ => q == pin
  | _ => false

/-! ## The bench -/

/-- The level of a line and the levels written to it are as before. -/
structure Bench.Spares (pin : Pin) (b b' : Bench) : Prop where
  level_eq : b'.level? pin = b.level? pin
  writes_eq : b'.writes pin = b.writes pin

namespace Bench

variable {pin q : Pin} {b b' b'' : Bench}

theorem Spares.refl (pin : Pin) (b : Bench) : Spares pin b b :=
  ⟨rfl, rfl⟩

theorem Spares.trans (h : Spares pin b b') (h' : Spares pin b' b'') : Spares pin b b'' :=
  ⟨h'.level_eq.trans h.level_eq, h'.writes_eq.trans h.writes_eq⟩

/-- A line whose level is kept is spared, whatever else happens to it. -/
theorem spares_modify (f : Line → Line) (h : q = pin → ∀ l, (f l).level = l.level) :
    Spares pin b { b with lines := b.lines.modify q f } := by
  refine ⟨?_, rfl⟩
  unfold level?
  by_cases hq : q = pin
  · subst hq
    rw [Table.get?_modify_self]
    cases b.lines.get? q with
    | none => rfl
    | some l => simp [h rfl l]
  · rw [Table.get?_modify_of_ne hq]

theorem configure_spares {mode : Mode} {pull : Pull} (hq : q ≠ pin)
    (h : b.configure q mode pull = .ok b') : Spares pin b b' := by
  unfold configure at h
  split at h
  · cases h
    exact ⟨by simp [level?, Table.get?_insert_of_ne hq], rfl⟩
  · cases h

theorem release_spares (hq : q ≠ pin) (h : b.release q = .ok b') : Spares pin b b' := by
  unfold release at h
  split at h
  · cases h
    exact ⟨by simp [level?, Table.get?_erase_of_ne hq], rfl⟩
  · cases h

theorem write_spares {level : Bool} (hq : q ≠ pin) (h : b.write q level = .ok b') :
    Spares pin b b' := by
  unfold write at h
  split at h
  · cases h
  · split at h
    · cases h
      refine ⟨?_, ?_⟩
      · exact (spares_modify _ fun e => absurd e hq).level_eq
      · simp [writes, Table.get?_insert_of_ne hq]
    · cases h

theorem setEdge_spares {edge : EdgeMode} (h : b.setEdge q edge = .ok b') : Spares pin b b' := by
  unfold setEdge at h
  split at h
  · cases h
    exact spares_modify _ fun _ _ => rfl
  · cases h

theorem takeEdge_spares {e : Edge} (h : b.takeEdge q = .ok (e, b')) : Spares pin b b' := by
  unfold takeEdge at h
  split at h
  · cases h
  · split at h
    · cases h
    · cases h
      exact spares_modify _ fun _ _ => rfl

theorem inject_spares {level : Bool} (hq : q ≠ pin) : Spares pin b (b.inject q level) :=
  spares_modify _ fun e => absurd e hq

theorem setFailing_spares {failing : Bool} : Spares pin b (b.setFailing q failing) :=
  ⟨rfl, rfl⟩

/-- What is made of an access spares a pin if the access does whenever it succeeds. -/
theorem ofStep_spares {r : Except Error Bench} (h : ∀ b', r = .ok b' → Spares pin b b') :
    Spares pin b (Answer.ofStep b r).2 := by
  cases r with
  | error e => exact .refl pin b
  | ok b' => exact h b' rfl

theorem access_spares {a : Access} (h : a.meddles pin = false) : Spares pin b (b.access a).2 := by
  cases a with
  | init => exact ⟨rfl, rfl⟩
  | shutdown => simp [Access.meddles] at h
  | configure q mode pull => exact ofStep_spares fun _ => configure_spares (by simpa [Access.meddles] using h)
  | release q => exact ofStep_spares fun _ => release_spares (by simpa [Access.meddles] using h)
  | read q => exact .refl pin b
  | write q level => exact ofStep_spares fun _ => write_spares (by simpa [Access.meddles] using h)
  | setEdge q edge => exact ofStep_spares fun _ => setEdge_spares
  | waitEdge q =>
    simp only [access]
    cases ht : b.takeEdge q with
    | error e => exact .refl pin b
    | ok x => exact takeEdge_spares ht

/-- What a write that goes through does. -/
theorem write_done {level : Bool} (h : b.write pin level = .ok b') :
    b'.level? pin = some level ∧ b'.writes pin = b.writes pin ++ [level] ∧
      b'.failing = b.failing ∧ b'.initialised = b.initialised ∧
      ∀ q, b'.lines.contains q = b.lines.contains q := by
  unfold write at h
  split at h
  · cases h
  · split at h
    · rename_i hc
      cases h
      obtain ⟨l, hl⟩ := Option.isSome_iff_exists.1 hc
      refine ⟨?_, ?_, rfl, rfl, fun q => Table.contains_modify⟩
      · simp [level?, Table.get?_modify_self, hl]
      · simp [writes]
    · cases h

end Bench

/-! ## The board -/

/-- The direction of a pin, the level of its line and the levels written to it are as before. -/
structure Board.Spares (pin : Pin) (b b' : Board) : Prop where
  mode_eq : (b'.pins.get? pin).map PinState.mode = (b.pins.get? pin).map PinState.mode
  bench : b.bench.Spares pin b'.bench

namespace Board

variable {pin q : Pin} {b b' b'' : Board}

theorem Spares.refl (pin : Pin) (b : Board) : Spares pin b b :=
  ⟨rfl, .refl pin b.bench⟩

theorem Spares.trans (h : Spares pin b b') (h' : Spares pin b' b'') : Spares pin b b'' :=
  ⟨h'.mode_eq.trans h.mode_eq, h.bench.trans h'.bench⟩

/-- A change below the table spares a pin if it does so below. -/
theorem spares_bench {bench : Bench} (h : b.bench.Spares pin bench) : Spares pin b { b with bench } :=
  ⟨rfl, h⟩

/-- An entry that is kept but for its direction is spared. -/
theorem mode_insert {s s' : PinState} (hs : b.pins.get? q = some s) (hm : s'.mode = s.mode) :
    ((b.pins.insert q s').get? pin).map PinState.mode = (b.pins.get? pin).map PinState.mode := by
  by_cases hq : q = pin
  · subst hq
    simp [hs, hm]
  · rw [Table.get?_insert_of_ne hq]

theorem configure_spares {mode : Mode} {pull : Pull} (hq : q ≠ pin) :
    Spares pin b (b.configure q mode pull).2 := by
  unfold configure
  split
  · exact .refl pin b
  · split
    · exact .refl pin b
    · cases hc : b.bench.configure q mode pull with
      | ok bench => exact ⟨by simp [Table.get?_insert_of_ne hq], Bench.configure_spares hq hc⟩
      | error e => exact ⟨by simp [Table.get?_erase_of_ne hq], .refl pin b.bench⟩

theorem release_spares (hq : q ≠ pin) : Spares pin b (b.release q).2 := by
  unfold release
  split
  · exact .refl pin b
  · have he : ((b.pins.erase q).get? pin).map PinState.mode = (b.pins.get? pin).map PinState.mode := by
      rw [Table.get?_erase_of_ne hq]
    cases hr : b.bench.release q with
    | ok bench =>
      simp only [hr]
      exact ⟨he, Bench.release_spares hq hr⟩
    | error e =>
      simp only [hr]
      exact ⟨he, .refl pin b.bench⟩

/-- A write that fails leaves the board as it was. -/
theorem write_failed {level : Bool} {e : Error} (h : (b.write q level).1 = .error e) :
    (b.write q level).2 = b := by
  unfold write at h ⊢
  split
  · rfl
  · split
    · rfl
    · rename_i s hs ho
      cases hw : b.bench.write q level with
      | ok bench => simp [hs, ho, hw] at h
      | error e => simp

/-- A write that goes through is one to the line below. -/
theorem write_ok {level : Bool} (h : (b.write q level).1 = .ok ()) :
    b.bench.write q level = .ok (b.write q level).2.bench ∧
      (b.write q level).2 = { b with bench := (b.write q level).2.bench } := by
  unfold write at h ⊢
  split
  · rename_i hs
    simp [hs] at h
  · rename_i s hs
    by_cases ho : s.mode.isOutput
    · cases hw : b.bench.write q level with
      | ok bench => simp [ho]
      | error e => simp [hs, ho, hw] at h
    · simp [hs, ho] at h

/-- After a write that goes through the line is at the level, which is the last one written. -/
theorem write_level {level : Bool} (h : (b.write pin level).1 = .ok ()) :
    (b.write pin level).2.bench.level? pin = some level ∧
      (b.write pin level).2.bench.writes pin = b.bench.writes pin ++ [level] := by
  obtain ⟨hl, hw, -⟩ := Bench.write_done (write_ok h).1
  exact ⟨hl, hw⟩

theorem write_spares {level : Bool} (hq : q ≠ pin) : Spares pin b (b.write q level).2 := by
  cases h : (b.write q level).1 with
  | error e =>
    rw [write_failed h]
    exact .refl pin b
  | ok u =>
    obtain ⟨hw, hb⟩ := write_ok h
    rw [hb]
    exact spares_bench (Bench.write_spares hq hw)

theorem setEdge_spares {edge : EdgeMode} : Spares pin b (b.setEdge q edge).2 := by
  unfold setEdge
  split
  · exact .refl pin b
  · rename_i s hs
    split
    · exact .refl pin b
    · cases he : b.bench.setEdge q edge with
      | ok bench => exact ⟨mode_insert hs rfl, Bench.setEdge_spares he⟩
      | error e => exact ⟨mode_insert hs rfl, .refl pin b.bench⟩

theorem takeEdge_spares {e : Edge} (h : b.takeEdge q = .ok (e, b')) : Spares pin b b' := by
  unfold takeEdge at h
  split at h
  · cases h
  · split at h
    · cases h
    · cases ht : b.bench.takeEdge q with
      | error e => simp [ht] at h
      | ok x =>
        simp only [ht, Except.ok.injEq, Prod.mk.injEq] at h
        obtain ⟨-, rfl⟩ := h
        exact spares_bench (Bench.takeEdge_spares ht)

theorem setListener_spares {listener : Bool} : Spares pin b (b.setListener q listener).2 := by
  unfold setListener
  split
  · refine ⟨?_, .refl pin b.bench⟩
    by_cases hq : q = pin
    · subst hq
      simp [Table.get?_modify_self, Function.comp_def]
    · simp [Table.get?_modify_of_ne hq]
  · exact .refl pin b

theorem access_spares {a : Access} (h : a.meddles pin = false) : Spares pin b (b.access a).2 := by
  cases a with
  | init => exact ⟨rfl, ⟨rfl, rfl⟩⟩
  | shutdown => simp [Access.meddles] at h
  | configure q mode pull => exact configure_spares (by simpa [Access.meddles] using h)
  | release q => exact release_spares (by simpa [Access.meddles] using h)
  | read q => exact .refl pin b
  | write q level => exact write_spares (by simpa [Access.meddles] using h)
  | setEdge q edge => exact setEdge_spares
  | waitEdge q =>
    simp only [access]
    cases ht : b.takeEdge q with
    | error e => exact .refl pin b
    | ok x => exact takeEdge_spares ht

/-- Nothing happened on the board but to the level of a pin. -/
structure Frame (pin : Pin) (b b' : Board) : Prop where
  board_eq : b' = { b with bench := b'.bench }
  initialised_eq : b'.bench.initialised = b.bench.initialised
  failing_eq : b'.bench.failing = b.bench.failing
  contains_eq : ∀ q, b'.bench.lines.contains q = b.bench.lines.contains q
  spares : ∀ {q}, q ≠ pin → b.bench.Spares q b'.bench

theorem Frame.refl (pin : Pin) (b : Board) : Frame pin b b :=
  ⟨rfl, rfl, rfl, fun _ => rfl, fun _ => .refl _ _⟩

theorem Frame.trans (h : Frame pin b b') (h' : Frame pin b' b'') : Frame pin b b'' where
  board_eq := by rw [h'.board_eq, h.board_eq]
  initialised_eq := h'.initialised_eq.trans h.initialised_eq
  failing_eq := h'.failing_eq.trans h.failing_eq
  contains_eq q := (h'.contains_eq q).trans (h.contains_eq q)
  spares hq := (h.spares hq).trans (h'.spares hq)

theorem Frame.pins_eq (h : Frame pin b b') : b'.pins = b.pins := by
  rw [h.board_eq]

/-- What stays at one pin spares the others. -/
theorem Frame.spares_of_ne (h : Frame pin b b') (hq : q ≠ pin) : Spares q b b' :=
  ⟨by rw [h.pins_eq], h.spares hq⟩

/-- A write stays at its pin, whether it goes through or not. -/
theorem write_frame (b : Board) (pin : Pin) (level : Bool) : Frame pin b (b.write pin level).2 := by
  cases h : (b.write pin level).1 with
  | error e =>
    rw [write_failed h]
    exact .refl pin b
  | ok u =>
    obtain ⟨hw, hb⟩ := write_ok h
    obtain ⟨-, -, hf, hi, hc⟩ := Bench.write_done hw
    exact ⟨hb, hi, hf, hc, fun hq => Bench.write_spares (Ne.symm hq) hw⟩

/-- A configured output with a line under it. -/
structure Drives (b : Board) (pin : Pin) : Prop where
  output : ((b.pins.get? pin).map PinState.mode).any Mode.isOutput = true
  line : (b.bench.level? pin).isSome = true

theorem Drives.spared (h : b.Drives pin) (hs : Spares pin b b') : b'.Drives pin :=
  ⟨by rw [hs.mode_eq]; exact h.output, by rw [hs.bench.level_eq]; exact h.line⟩

theorem Drives.framed (h : b.Drives pin) (hf : Frame q b b') : b'.Drives pin := by
  refine ⟨by rw [hf.pins_eq]; exact h.output, ?_⟩
  have hl := h.line
  have hc := hf.contains_eq pin
  simp only [Bench.level?, Option.isSome_map] at hl ⊢
  exact hc.trans hl

theorem Drives.listed (h : b.Drives pin) : ∃ s, b.pins.get? pin = some s ∧ s.mode.isOutput = true := by
  have ho := h.output
  cases hp : b.pins.get? pin with
  | none => simp [hp] at ho
  | some s => exact ⟨s, rfl, by simpa [hp] using ho⟩

theorem Drives.has_line (h : b.Drives pin) : b.bench.lines.contains pin = true := by
  simpa [Bench.level?, Table.contains] using h.line

/-- A write to an output fails by an injected fault or not at all. -/
theorem Drives.write_eq (h : b.Drives pin) (level : Bool) :
    (b.write pin level).1 =
      if b.bench.isFailing pin then .error (.device (.injected pin)) else .ok () := by
  obtain ⟨s, hs, ho⟩ := h.listed
  have hl := h.has_line
  by_cases hf : b.bench.isFailing pin = true
  · simp [write, hs, ho, Bench.write, hf]
  · simp [write, hs, ho, Bench.write, hf, hl]

end Board

/-- A pin that was taken as an output is one, at its first level. -/
theorem Board.configure_output {pin : Pin} {b b' : Board} {level : Bool} {pull : Pull}
    (h : b.configure pin (.output level) pull = (.ok (), b')) :
    b'.Drives pin ∧ b'.bench.level? pin = some level := by
  unfold configure at h
  split at h
  · cases h
  · split at h
    · cases h
    · cases hc : b.bench.configure pin (.output level) pull with
      | error e => simp [hc] at h
      | ok bench =>
        simp only [hc, Prod.mk.injEq, true_and] at h
        subst h
        unfold Bench.configure at hc
        split at hc
        · cases hc
          refine ⟨⟨?_, ?_⟩, ?_⟩
          · simp [Mode.isOutput]
          · simp [Bench.level?]
          · simp [Bench.level?, Line.fresh]
        · cases hc

/-! ## Pollers -/

namespace Subscription

variable {pin : Pin} {s : Subscription} {b : Board}

theorem poll_spares : Board.Spares pin b (s.poll b).2 := by
  unfold poll
  split
  · exact .refl pin b
  · split
    · split <;> exact .refl pin b
    · split
      · rename_i ht
        exact Board.takeEdge_spares ht
      · exact .refl pin b
      · exact .refl pin b

theorem pollFor_spares (n : Nat) : Board.Spares pin b (pollFor n s b).2 := by
  induction n generalizing s b with
  | zero => exact .refl pin b
  | succ n ih => exact poll_spares.trans ih

theorem pump_spares : Board.Spares pin b (s.pump b).2 :=
  pollFor_spares _

end Subscription

end Switchboard.Gpio
