import Switchboard.Proofs.InStep

/-!
# What is read back of a pin

What has happened to a rig, with what it answered, is its history (`Rig.transcript`). As long as nobody gets
at a pin without asking the board (`Event.circumvents`), the history tells what a read or a write of the pin
answers next: the pin is set up if it was taken and not given up since, and then it has the level that it was
given last since, by a write that went through or from outside, or else the first level of its mode
(`Stands`).

One step is compared with one line of history: each access that may change a pin (`Board.Recalls.access`),
and a level from outside. All else spares the pin (`Rig.step_spares_pin`). The faults are told on their own
(`Rig.run_isFailing`), since no access changes them.
-/

namespace Switchboard

open Gpio (Access Bench Board Line Mode Pin PinState Pull)

/-- The level that a pin has when it is taken: an output its first, an input that of its bias. -/
def Gpio.Mode.firstLevel (mode : Mode) (pull : Pull) : Bool :=
  match mode with
  | .output initial => initial
  | .input => pull == .up

/-- Somebody gets at a pin without asking the board: a driver is made on it, or the bench alone is accessed. -/
def Event.circumvents (e : Event) (pin : Pin) : Bool :=
  match e with
  | .create c => c.pin == pin
  | .line a => a.meddles pin
  | _ => false

/-! ## Histories -/

/-- Something that happened, and what it answered. -/
structure Exchange where
  event : Event
  reply : Reply

namespace Exchange

/-- A pin was taken or given up. -/
def rebinds (pin : Pin) : Exchange → Bool
  | ⟨.pin (.configure q _ _), .done⟩ | ⟨.pin (.release q), .done⟩ => q == pin
  | ⟨.pin .shutdown, .done⟩ => true
  | _ => false

/-- The level of a write to a pin that went through. -/
def written? (pin : Pin) : Exchange → Option Bool
  | ⟨.pin (.write q level), .done⟩ => if q = pin then some level else none
  | _ => none

/-- The level that a pin was given, by a write that went through or from outside. -/
def level? (pin : Pin) : Exchange → Option Bool
  | ⟨.inject q level, _⟩ => if q = pin then some level else none
  | x => x.written? pin

/-- Whether the writes to a pin fail from then on, if that was said. -/
def fault? (pin : Pin) : Exchange → Option Bool
  | ⟨.setFailing q failing, _⟩ => if q = pin then some failing else none
  | _ => none

/-- It says nothing about a pin but perhaps that writes fail. -/
structure Silent (pin : Pin) (x : Exchange) : Prop where
  rebinds_eq : x.rebinds pin = false
  level_eq : x.level? pin = none
  written_eq : x.written? pin = none

variable {pin : Pin} {x : Exchange}

theorem silent_of_meddles (h : x.event.meddles pin = false) : x.Silent pin := by
  obtain ⟨e, reply⟩ := x
  cases e with
  | pin a =>
    cases a with
    | shutdown => cases h
    | configure q mode pull | release q =>
      cases reply with
      | done => exact ⟨h, rfl, rfl⟩
      | _ => exact ⟨rfl, rfl, rfl⟩
    | write q level =>
      have hq : q ≠ pin := by simpa [Event.meddles, Access.meddles] using h
      cases reply with
      | done => exact ⟨rfl, if_neg hq, if_neg hq⟩
      | _ => exact ⟨rfl, rfl, rfl⟩
    | init | read _ | setEdge _ _ | waitEdge _ => exact ⟨rfl, rfl, rfl⟩
  | inject q level =>
    have hq : q ≠ pin := by simpa [Event.meddles] using h
    exact ⟨rfl, if_neg hq, rfl⟩
  | _ => exact ⟨rfl, rfl, rfl⟩

/-- An access that failed says nothing. -/
theorem silent_of_failed (a : Access) (e : Gpio.Error) : Silent pin ⟨.pin a, .pinFailed e⟩ := by
  cases a <;> exact ⟨rfl, rfl, rfl⟩

end Exchange

/-- By a history a pin is set up in a mode and has a level: it was taken in that mode, was neither taken nor
given up since, and has the level that it was given last since, or else its first. -/
def Stands (pin : Pin) (record : List Exchange) (mode : Mode) (level : Bool) : Prop :=
  ∃ before pull after, record = before ++ ⟨.pin (.configure pin mode pull), .done⟩ :: after ∧
    (∀ x ∈ after, x.rebinds pin = false) ∧
      (after.filterMap (Exchange.level? pin)).getLast?.getD (mode.firstLevel pull) = level

/-- Whether the writes to a pin fail after a history, if it is known whether they did before. -/
def failsAfter (pin : Pin) (failing : Bool) (record : List Exchange) : Bool :=
  (record.filterMap (Exchange.fault? pin)).getLast?.getD failing

section

variable {pin : Pin} {record : List Exchange} {x : Exchange} {mode : Mode} {level : Bool}

theorem filterMap_concat {α β : Type} (f : α → Option β) (l : List α) (a : α) :
    (l ++ [a]).filterMap f = l.filterMap f ++ (f a).toList := by
  cases h : f a <;> simp [h]

theorem not_stands_nil : ¬Stands pin [] mode level := by
  rintro ⟨before, pull, after, h, -⟩
  simp at h

/-- The last of some values is the one that came last, or else the last of those before. -/
theorem getLast?_toList_append {α : Type} (l : List α) (a : Option α) (b : α) :
    (l ++ a.toList).getLast?.getD b = a.getD (l.getLast?.getD b) := by
  cases a <;> simp

/-- After one line more a pin is set up if it was taken by that line, or was set up before and neither taken nor
given up by it. -/
theorem stands_concat_iff :
    Stands pin (record ++ [x]) mode level ↔
      (∃ pull, x = ⟨.pin (.configure pin mode pull), .done⟩ ∧ mode.firstLevel pull = level) ∨
        x.rebinds pin = false ∧ ∃ old, Stands pin record mode old ∧ (x.level? pin).getD old = level := by
  constructor
  · rintro ⟨before, pull, after, h, hafter, hlevel⟩
    -- The line is the one that took the pin, or one of those that came after.
    rcases List.eq_nil_or_concat after with rfl | ⟨after, y, rfl⟩
    · obtain ⟨-, hx⟩ := List.append_inj' h rfl
      exact .inl ⟨pull, List.singleton_inj.1 hx, hlevel⟩
    · rw [List.concat_eq_append, ← List.cons_append, ← List.append_assoc] at h
      obtain ⟨hrecord, hx⟩ := List.append_inj' h rfl
      obtain rfl := List.singleton_inj.1 hx
      rw [List.concat_eq_append, List.forall_mem_append, List.forall_mem_singleton] at hafter
      rw [List.concat_eq_append, filterMap_concat, getLast?_toList_append] at hlevel
      exact .inr ⟨hafter.2, _, ⟨before, pull, after, hrecord, hafter.1, rfl⟩, hlevel⟩
  · rintro (⟨pull, hx, hlevel⟩ | ⟨hx, old, ⟨before, pull, after, hrecord, hafter, hold⟩, hlevel⟩)
    · exact ⟨record, pull, [], by rw [hx], by simp, hlevel⟩
    · refine ⟨before, pull, after ++ [x], by simp [hrecord], ?_, ?_⟩
      · rw [List.forall_mem_append, List.forall_mem_singleton]
        exact ⟨hafter, hx⟩
      · rw [filterMap_concat, getLast?_toList_append, hold, hlevel]

theorem failsAfter_cons (pin : Pin) (failing : Bool) (x : Exchange) (record : List Exchange) :
    failsAfter pin failing (x :: record) = failsAfter pin ((x.fault? pin).getD failing) record := by
  unfold failsAfter
  cases hx : x.fault? pin with
  | none => rw [List.filterMap_cons_none hx]; rfl
  | some failing' => rw [List.filterMap_cons_some hx, List.getLast?_cons]; rfl

end

/-- What happens to a rig, with what it answers. -/
def Rig.transcript (r : Rig) : List Event → List Exchange
  | [] => []
  | e :: es => ⟨e, (r.step e).2⟩ :: (r.step e).1.transcript es

/-! ## Faults -/

namespace Gpio

/-- Below the table an access is the same one or none. -/
theorem Board.access_bench (b : Board) (a : Access) :
    (b.access a).2.bench = b.bench ∨ (b.access a).2.bench = (b.bench.access a).2 := by
  cases a with
  | init | shutdown => exact .inr rfl
  | read pin => exact .inl rfl
  | configure pin mode pull =>
    simp only [access, configure, Bench.access]
    split
    · exact .inl rfl
    · split
      · exact .inl rfl
      · cases b.bench.configure pin mode pull with
        | ok bench => exact .inr rfl
        | error e => exact .inl rfl
  | release pin =>
    simp only [access, release, Bench.access]
    split
    · exact .inl rfl
    · cases b.bench.release pin with
      | ok bench => exact .inr rfl
      | error e => exact .inl rfl
  | write pin level =>
    simp only [access, write, Bench.access]
    split
    · exact .inl rfl
    · split
      · exact .inl rfl
      · cases b.bench.write pin level with
        | ok bench => exact .inr rfl
        | error e => exact .inl rfl
  | setEdge pin edge =>
    simp only [access, setEdge, Bench.access]
    split
    · exact .inl rfl
    · split
      · exact .inl rfl
      · cases b.bench.setEdge pin edge with
        | ok bench => exact .inr rfl
        | error e => exact .inl rfl
  | waitEdge pin =>
    simp only [access, takeEdge, Bench.access]
    split
    · exact .inl rfl
    · split
      · exact .inl rfl
      · cases b.bench.takeEdge pin with
        | ok x => exact .inr rfl
        | error e => exact .inl rfl

/-- No access makes writes fail, or succeed again. -/
theorem Bench.access_failing (b : Bench) (a : Access) : (b.access a).2.failing = b.failing := by
  cases a with
  | init | shutdown | read _ => rfl
  | configure pin mode pull =>
    simp only [access, configure]
    split <;> rfl
  | release pin =>
    simp only [access, release]
    split <;> rfl
  | write pin level =>
    simp only [access, write]
    split
    · rfl
    · split <;> rfl
  | setEdge pin edge =>
    simp only [access, setEdge]
    split <;> rfl
  | waitEdge pin =>
    simp only [access, takeEdge]
    split
    · rfl
    · split <;> rfl

theorem Board.access_failing (b : Board) (a : Access) : (b.access a).2.bench.failing = b.bench.failing := by
  rcases b.access_bench a with h | h
  · rw [h]
  · rw [h, Bench.access_failing]

theorem Bench.setFailing_isFailing (b : Bench) (pin q : Pin) (failing : Bool) :
    (b.setFailing q failing).isFailing pin = if q = pin then failing else b.isFailing pin := by
  unfold setFailing isFailing Table.contains
  by_cases hq : q = pin
  · subst hq
    cases failing <;> simp
  · cases failing <;> simp [hq, Table.get?_insert_of_ne hq, Table.get?_erase_of_ne hq]

theorem Bench.isSome_level? (b : Bench) (pin : Pin) : (b.level? pin).isSome = b.lines.contains pin := by
  simp [level?, Table.contains]

/-- Only who is told to changes whether writes fail. -/
theorem Board.Touch.failing_eq {e : Event} {b b' : Board} (h : b.Touch e b')
    (he : ∀ pin failing, e ≠ .setFailing pin failing) : b'.bench.failing = b.bench.failing := by
  cases h with
  | write pin level => exact b.access_failing (.write pin level)
  | @take c told => exact b.access_failing (.configure c.pin (.output (c.level false)) .disabled)
  | giveUp told pin => exact b.access_failing (.release pin)
  | @access a told => exact b.access_failing a
  | @accessBench a told => exact b.bench.access_failing a
  | @watch pin edge told => exact b.access_failing (.setEdge pin edge)
  | @takeEdge pin edge b' taken =>
    have hb := b.access_failing (.waitEdge pin)
    rwa [Board.access, taken] at hb
  | setListener pin listener =>
    unfold Board.setListener
    split <;> rfl
  | inject told => rfl
  | @setFailing pin failing told => exact absurd told (he pin failing)

end Gpio

namespace Rig

variable {r : Rig} {e : Event} {pin : Pin}

theorem step_isFailing (r : Rig) (e : Event) (pin : Pin) :
    (r.step e).1.plant.board.bench.isFailing pin =
      ((Exchange.mk e (r.step e).2).fault? pin).getD (r.plant.board.bench.isFailing pin) := by
  by_cases he : ∃ q failing, e = .setFailing q failing
  · obtain ⟨q, failing, rfl⟩ := he
    refine (Bench.setFailing_isFailing ..).trans ?_
    simp only [Exchange.fault?]
    split <;> rfl
  · have hother (q : Pin) (failing : Bool) : e ≠ .setFailing q failing := fun h => he ⟨q, failing, h⟩
    have hfault : (Exchange.mk e (r.step e).2).fault? pin = none := by
      cases e with
      | setFailing q failing => exact absurd rfl (hother q failing)
      | _ => rfl
    rw [hfault]
    exact congrArg (·.contains pin) ((step_touches r e).keeps
      (J := (·.bench.failing = r.plant.board.bench.failing)) (fun ht h => (ht.failing_eq hother).trans h) rfl)

/-- The writes to a pin fail if that was said last. -/
theorem run_isFailing (r : Rig) (es : List Event) (pin : Pin) :
    (r.run es).plant.board.bench.isFailing pin =
      failsAfter pin (r.plant.board.bench.isFailing pin) (r.transcript es) := by
  induction es generalizing r with
  | nil => rfl
  | cons e es ih => rw [run_cons, ih, step_isFailing, transcript, failsAfter_cons]

/-! ## Pins without a driver -/

/-- No driver is on a pin. -/
def Undriven (r : Rig) (pin : Pin) : Prop :=
  ∀ {n d}, r.drivers.get? n = some d → d.config.pin ≠ pin

/-- A pin gets a driver only if one is made on it. -/
theorem Move.undriven {r' : Rig} (hu : r.Undriven pin) (he : ∀ c, e = .create c → c.pin ≠ pin)
    (h : Move e r r') : r'.Undriven pin := by
  intro n d hd
  cases h with
  | quiet quiet => exact hu (quiet.drivers_eq ▸ hd)
  | turn live turn alike drivers_eq tokens_eq next_le =>
    rw [drivers_eq, Table.get?_insert_eq_some_iff] at hd
    rcases hd with ⟨-, rfl⟩ | ⟨-, hd⟩
    · rw [(Frame.of_turn turn).config_eq]
      exact hu live
    · exact hu hd
  | made told drivers_eq tokens_eq next_eq clock_eq configured groups_eq =>
    rw [drivers_eq, Table.get?_insert_eq_some_iff] at hd
    rcases hd with ⟨-, rfl⟩ | ⟨-, hd⟩
    · exact he _ told
    · exact hu hd
  | closed told live drivers_eq tokens_eq next_eq clock_eq board groups_eq =>
    rw [drivers_eq, Table.get?_erase_eq_some_iff] at hd
    exact hu hd.2
  | placed told alike drivers_eq tokens_eq next_eq => exact hu (drivers_eq ▸ hd)
  | claimed told live frame alike drivers_eq tokens_eq next_eq => exact hu (drivers_eq ▸ hd)
  | minted id name => exact hu hd
  | dropped told live => exact hu hd

/-- What does not meddle with a pin without a driver spares it. -/
theorem Move.spares_pin {r' : Rig} (hu : r.Undriven pin) (hm : e.meddles pin = false) (h : Move e r r') :
    r.plant.board.Spares pin r'.plant.board := by
  cases h with
  | quiet quiet => exact quiet.board hm
  | turn live turn alike drivers_eq tokens_eq next_le =>
    rw [alike.board_eq]
    exact (Frame.of_turn turn).board.spares_of_ne (Ne.symm (hu live))
  | @made _ c told drivers_eq tokens_eq next_eq clock_eq configured groups_eq =>
    have hb : r.plant.board.Spares pin
        (r.plant.board.configure c.pin (.output (c.level false)) .disabled).2 :=
      Board.configure_spares (by simpa [told, Event.meddles] using hm)
    rwa [configured] at hb
  | closed told live drivers_eq tokens_eq next_eq clock_eq board groups_eq => exact board (hu live)
  | placed told alike drivers_eq tokens_eq next_eq => exact alike.board_eq ▸ .refl _ _
  | claimed told live frame alike drivers_eq tokens_eq next_eq => exact alike.board_eq ▸ .refl _ _
  | minted id name => exact .refl _ _
  | dropped told live => exact .refl _ _

theorem step_undriven (hu : r.Undriven pin) (he : e.circumvents pin = false) :
    (r.step e).1.Undriven pin := by
  refine step_of_moves (J := (·.Undriven pin)) (fun h hu => h.undriven hu fun c hc => ?_) hu
  simpa [hc, Event.circumvents] using he

theorem step_spares_pin (hu : r.Undriven pin) (hm : e.meddles pin = false) :
    r.plant.board.Spares pin (r.step e).1.plant.board := by
  have hcreate (c : Output.Config) (hc : e = .create c) : c.pin ≠ pin := by
    simpa [hc, Event.meddles] using hm
  refine (step_of_moves (J := fun r' => r'.Undriven pin ∧ r.plant.board.Spares pin r'.plant.board)
    (fun h hj => ?_) ⟨hu, .refl _ _⟩).2
  exact ⟨h.undriven hj.1 hcreate, hj.2.trans (h.spares_pin hj.1 hm)⟩

end Rig

/-! ## What the board has of a pin -/

namespace Gpio.Board

/-- What a board has of a pin is what a history tells. -/
structure Recalls (pin : Pin) (record : List Exchange) (b : Board) : Prop where
  /-- The pin is in the table if it has a line. -/
  lined : (b.bench.level? pin).isSome = b.pins.contains pin
  stands_iff : ∀ mode level, (b.pins.get? pin).map PinState.mode = some mode ∧
    b.bench.level? pin = some level ↔ Stands pin record mode level
  writes_eq : b.bench.writes pin = record.filterMap (Exchange.written? pin)

variable {pin : Pin} {record : List Exchange} {b b' : Board} {x : Exchange} {level : Bool}

theorem new_recalls (chip : String) (capacity : Option Nat) (pin : Pin) :
    (new chip capacity).Recalls pin [] :=
  ⟨rfl, fun _ _ => ⟨nofun, fun h => absurd h not_stands_nil⟩, rfl⟩

theorem contains_eq_isSome_mode : b.pins.contains pin = ((b.pins.get? pin).map PinState.mode).isSome := by
  simp [Table.contains]

theorem Spares.contains_eq (h : b.Spares pin b') : b'.pins.contains pin = b.pins.contains pin := by
  rw [contains_eq_isSome_mode, h.mode_eq, contains_eq_isSome_mode]

/-- A pin that is spared is read as before. -/
theorem Spares.read_eq (h : b.Spares pin b') : b'.read pin = b.read pin := by
  simp only [read, Bench.read, h.contains_eq, h.bench.level_eq]

theorem Recalls.spared (h : b.Recalls pin record) (hs : b.Spares pin b') : b'.Recalls pin record where
  lined := by rw [hs.bench.level_eq, hs.contains_eq, h.lined]
  stands_iff := by
    rw [hs.mode_eq, hs.bench.level_eq]
    exact h.stands_iff
  writes_eq := hs.bench.writes_eq.trans h.writes_eq

/-- A line that says nothing about the pin. -/
theorem Recalls.silent (h : b.Recalls pin record) (hx : x.Silent pin) : b.Recalls pin (record ++ [x]) where
  lined := h.lined
  stands_iff mode level := by
    rw [h.stands_iff, stands_concat_iff, hx.level_eq, hx.rebinds_eq]
    constructor
    · exact fun hs => .inr ⟨rfl, level, hs, rfl⟩
    · rintro (⟨pull, rfl, -⟩ | ⟨-, old, hs, rfl⟩)
      · simpa [Exchange.rebinds] using hx.rebinds_eq
      · exact hs
  writes_eq := by rw [filterMap_concat, hx.written_eq, h.writes_eq, Option.toList_none, List.append_nil]

/-- The pin has been taken. -/
theorem Recalls.taken {mode : Mode} {pull : Pull} (h : b.Recalls pin record)
    (hm : (b'.pins.get? pin).map PinState.mode = some mode)
    (hl : b'.bench.level? pin = some (mode.firstLevel pull))
    (hw : b'.bench.writes pin = b.bench.writes pin) :
    b'.Recalls pin (record ++ [⟨.pin (.configure pin mode pull), .done⟩]) where
  lined := by rw [hl, contains_eq_isSome_mode, hm]; rfl
  stands_iff mode' level := by
    rw [stands_concat_iff, hm, hl]
    constructor
    · rintro ⟨hmode, hlevel⟩
      cases hmode
      cases hlevel
      exact .inl ⟨pull, rfl, rfl⟩
    · rintro (⟨pull', he, rfl⟩ | ⟨hx, -⟩)
      · cases he
        exact ⟨rfl, rfl⟩
      · simp [Exchange.rebinds] at hx
  writes_eq := by
    rw [filterMap_concat, hw, h.writes_eq]
    exact (List.append_nil _).symm

/-- The pin has been given up. -/
theorem Recalls.gone (h : b.Recalls pin record) (hp : b'.pins.get? pin = none)
    (hl : b'.bench.level? pin = none) (hw : b'.bench.writes pin = b.bench.writes pin)
    (hx : x.rebinds pin = true) (hc : ∀ mode pull, x ≠ ⟨.pin (.configure pin mode pull), .done⟩)
    (hn : x.written? pin = none) : b'.Recalls pin (record ++ [x]) where
  lined := by rw [hl, Table.contains, hp]; rfl
  stands_iff mode level := by
    rw [stands_concat_iff, hp, hx]
    constructor
    · rintro ⟨hmode, -⟩
      cases hmode
    · rintro (⟨pull, he, -⟩ | ⟨he, -⟩)
      · exact absurd he (hc mode pull)
      · cases he
  writes_eq := by rw [filterMap_concat, hn, hw, h.writes_eq, Option.toList_none, List.append_nil]

/-- The line of the pin has been given a level. -/
theorem Recalls.levelled (h : b.Recalls pin record) (hp : b'.pins = b.pins)
    (hl : b'.bench.level? pin = (b.bench.level? pin).map fun _ => level)
    (hw : b'.bench.writes pin = b.bench.writes pin ++ (x.written? pin).toList)
    (hx : x.rebinds pin = false) (hn : x.level? pin = some level) : b'.Recalls pin (record ++ [x]) where
  lined := by rw [hl, Option.isSome_map, hp, h.lined]
  stands_iff mode level' := by
    rw [stands_concat_iff, hp, hl, hn, hx]
    constructor
    · rintro ⟨hmode, hlevel⟩
      obtain ⟨old, hold, rfl⟩ := Option.map_eq_some_iff.1 hlevel
      exact .inr ⟨rfl, old, (h.stands_iff mode old).1 ⟨hmode, hold⟩, rfl⟩
    · rintro (⟨pull, rfl, -⟩ | ⟨-, old, hs, rfl⟩)
      · simp [Exchange.rebinds] at hx
      · obtain ⟨hmode, hold⟩ := (h.stands_iff mode old).2 hs
        exact ⟨hmode, by rw [hold]; rfl⟩
  writes_eq := by rw [filterMap_concat, hw, h.writes_eq]

theorem Recalls.configure (h : b.Recalls pin record) (mode : Mode) (pull : Pull) :
    (b.access (.configure pin mode pull)).2.Recalls pin
      (record ++ [⟨.pin (.configure pin mode pull),
        Rig.accessReply (b.access (.configure pin mode pull)).1⟩]) := by
  have hfailed (e : Error) := h.silent (Exchange.silent_of_failed (.configure pin mode pull) e)
  simp only [access, configure_eq]
  split
  · exact hfailed _
  · split
    · exact hfailed _
    · refine h.taken ?_ ?_ rfl
      · exact congrArg (Option.map PinState.mode) Table.get?_insert_self
      · refine (congrArg (Option.map Line.level) Table.get?_insert_self).trans ?_
        cases mode <;> rfl

/-- The table and the bench agree on whether there is the pin. -/
theorem Recalls.contains_eq (h : b.Recalls pin record) :
    b.bench.lines.contains pin = b.pins.contains pin := by
  rw [← h.lined, Bench.isSome_level?]

theorem Recalls.release (h : b.Recalls pin record) :
    (b.access (.release pin)).2.Recalls pin
      (record ++ [⟨.pin (.release pin), Rig.accessReply (b.access (.release pin)).1⟩]) := by
  simp only [access, release_eq h.contains_eq]
  split
  · exact h.silent (Exchange.silent_of_failed (.release pin) _)
  · refine h.gone Table.get?_erase_self ?_ rfl (beq_self_eq_true pin) (fun _ _ h => by cases h) rfl
    exact congrArg (Option.map Line.level) Table.get?_erase_self

theorem Recalls.write (h : b.Recalls pin record) (level : Bool) :
    (b.access (.write pin level)).2.Recalls pin
      (record ++ [⟨.pin (.write pin level), Rig.accessReply (b.access (.write pin level)).1⟩]) := by
  simp only [access, Prod.map_fst, Prod.map_snd, id_eq]
  cases hw : (b.write pin level).1 with
  | error e =>
    rw [write_failed hw]
    exact h.silent (Exchange.silent_of_failed (.write pin level) e)
  | ok u =>
    obtain ⟨hwrite, hboard⟩ := write_ok hw
    obtain ⟨hlevel, hwrites, -, -, hlines⟩ := Bench.write_done hwrite
    -- It has found a line, which had a level before.
    obtain ⟨old, hold⟩ : ∃ old, b.bench.level? pin = some old := by
      rw [← Option.isSome_iff_exists, Bench.isSome_level?, ← hlines, ← Bench.isSome_level?, hlevel]
      rfl
    have hwritten : Exchange.written? pin ⟨.pin (.write pin level), .done⟩ = some level := if_pos rfl
    refine h.levelled (by rw [hboard]) ?_ ?_ rfl hwritten
    · rw [hlevel, hold]
      rfl
    · exact hwrites.trans (congrArg (_ ++ Option.toList ·) hwritten.symm)

/-- What an access answers tells what it has done to a pin. -/
theorem Recalls.access (h : b.Recalls pin record) (a : Access) :
    (b.access a).2.Recalls pin (record ++ [⟨.pin a, Rig.accessReply (b.access a).1⟩]) := by
  cases hm : a.meddles pin with
  | false => exact (h.spared (access_spares hm)).silent (Exchange.silent_of_meddles hm)
  | true =>
    cases a with
    | init | read _ | setEdge _ _ | waitEdge _ => cases hm
    | shutdown => exact h.gone rfl rfl rfl rfl (fun _ _ h => by cases h) rfl
    | configure q mode pull =>
      obtain rfl : q = pin := by simpa [Access.meddles] using hm
      exact h.configure mode pull
    | release q =>
      obtain rfl : q = pin := by simpa [Access.meddles] using hm
      exact h.release
    | write q level =>
      obtain rfl : q = pin := by simpa [Access.meddles] using hm
      exact h.write level

/-- A level from outside tells that the line has it. -/
theorem Recalls.inject (h : b.Recalls pin record) (level : Bool) (reply : Reply) :
    Recalls pin (record ++ [⟨.inject pin level, reply⟩])
      { b with bench := b.bench.inject pin level } := by
  refine h.levelled rfl ?_ (List.append_nil _).symm rfl (if_pos rfl)
  simp only [Bench.level?, Bench.inject, Table.get?_modify_self, Option.map_map, Function.comp_def,
    Line.inject_level]

/-! ## Reads and writes -/

variable {mode : Mode}

theorem Recalls.contains_iff (h : b.Recalls pin record) :
    b.pins.contains pin = true ↔ ∃ mode level, Stands pin record mode level := by
  constructor
  · intro hc
    obtain ⟨level, hl⟩ := Option.isSome_iff_exists.1 (h.lined.trans hc)
    obtain ⟨mode, hm⟩ := Option.isSome_iff_exists.1 (contains_eq_isSome_mode.symm.trans hc)
    exact ⟨mode, level, (h.stands_iff mode level).1 ⟨hm, hl⟩⟩
  · rintro ⟨mode, level, hs⟩
    rw [contains_eq_isSome_mode, ((h.stands_iff mode level).2 hs).1]
    rfl

/-- A pin that is set up is read at its level. -/
theorem Recalls.read_of_stands (h : b.Recalls pin record) (hs : Stands pin record mode level) :
    b.read pin = .ok level := by
  simp only [read, h.contains_iff.2 ⟨mode, level, hs⟩, if_true, Bench.read,
    ((h.stands_iff mode level).2 hs).2]

theorem read_of_not_contains (h : ¬b.pins.contains pin = true) : b.read pin = .error (.notFound pin) :=
  if_neg h

/-- A pin is read at the level that it has. -/
theorem Recalls.read_eq_ok_iff (h : b.Recalls pin record) :
    b.read pin = .ok level ↔ ∃ mode, Stands pin record mode level := by
  constructor
  · intro hread
    by_cases hc : b.pins.contains pin = true
    · obtain ⟨mode, level', hs⟩ := h.contains_iff.1 hc
      cases (h.read_of_stands hs).symm.trans hread
      exact ⟨mode, hs⟩
    · cases (read_of_not_contains hc).symm.trans hread
  · rintro ⟨mode, hs⟩
    exact h.read_of_stands hs

theorem write_of_not_contains (h : ¬b.pins.contains pin = true) (level : Bool) :
    (b.write pin level).1 = .error (.notFound pin) := by
  have hp : b.pins.get? pin = none := by simpa [Table.contains] using h
  simp [Board.write, hp]

/-- A write to an input fails. -/
theorem Recalls.write_input (h : b.Recalls pin record) {old : Bool} (hs : Stands pin record .input old)
    (level : Bool) : (b.write pin level).1 = .error (.notOutput pin) := by
  obtain ⟨s, hp, hm⟩ := Option.map_eq_some_iff.1 ((h.stands_iff _ _).2 hs).1
  simp [Board.write, hp, hm, Mode.isOutput]

/-- A write to an output fails by a fault or not at all. -/
theorem Recalls.write_output (h : b.Recalls pin record) {first old : Bool}
    (hs : Stands pin record (.output first) old) (level : Bool) :
    (b.write pin level).1 = if b.bench.isFailing pin then .error (.device (.injected pin)) else .ok () := by
  obtain ⟨hmode, hold⟩ := (h.stands_iff _ _).2 hs
  have hd : b.Drives pin := ⟨by rw [hmode]; rfl, by rw [hold]; rfl⟩
  exact hd.write_eq level

end Gpio.Board

/-! ## The rig -/

namespace Rig

variable {r : Rig} {e : Event} {pin : Pin} {record : List Exchange}

theorem step_recalls (hu : r.Undriven pin) (h : r.plant.board.Recalls pin record)
    (he : e.circumvents pin = false) :
    (r.step e).1.plant.board.Recalls pin (record ++ [⟨e, (r.step e).2⟩]) := by
  cases hm : e.meddles pin with
  | false => exact (h.spared (step_spares_pin hu hm)).silent (Exchange.silent_of_meddles hm)
  | true =>
    cases e with
    | create c => cases he.symm.trans hm
    | line a => cases he.symm.trans hm
    | pin a =>
      obtain ⟨hreply, hboard⟩ := r.access_reply a
      rw [hreply, hboard]
      exact h.access a
    | inject q level =>
      obtain rfl : q = pin := by simpa [Event.meddles] using hm
      -- The pollers that are woken take edges, which leaves the level.
      have hpump := pumpPin_quiet (.drift 0) (r.setBench (r.plant.board.bench.inject q level)) q
      exact (h.inject level .done).spared (hpump.board rfl)
    | _ => cases hm

theorem run_recalls (hu : r.Undriven pin) (h : r.plant.board.Recalls pin record) {es : List Event}
    (hes : es.all (!·.circumvents pin) = true) :
    (r.run es).Undriven pin ∧ (r.run es).plant.board.Recalls pin (record ++ r.transcript es) := by
  induction es generalizing r record with
  | nil => exact ⟨hu, by rwa [transcript, List.append_nil]⟩
  | cons e es ih =>
    obtain ⟨he, hes⟩ := Bool.and_eq_true_iff.1 hes
    have he : e.circumvents pin = false := by simpa using he
    have hrest := ih (step_undriven hu he) (step_recalls hu h he) hes
    rwa [List.append_assoc] at hrest

/-- What calls of the board answer about a pin is what the history of the rig tells. -/
structure ReadsBack (pin : Pin) (record : List Exchange) (r : Rig) : Prop where
  configured_iff : r.plant.board.pins.contains pin = true ↔ ∃ mode level, Stands pin record mode level
  /-- A pin can be taken, over an earlier configuration too, unless the board is not started or full. -/
  configure_eq : ∀ mode pull, (r.step (.pin (.configure pin mode pull))).2 =
    if r.plant.board.bench.initialised = false then .pinFailed .notInitialized
    else if r.plant.board.hasRoom pin = false then .pinFailed (.full (r.plant.board.capacity.getD 0))
    else .done
  release_eq : (r.step (.pin (.release pin))).2 =
    if r.plant.board.pins.contains pin = false then .pinFailed (.notFound pin) else .done
  /-- A pin that is set up is read at the level that it has by the history, and no other. -/
  read_iff : ∀ level, (r.step (.pin (.read pin))).2 = .flag level ↔ ∃ mode, Stands pin record mode level
  read_unconfigured : ¬r.plant.board.pins.contains pin = true →
    (r.step (.pin (.read pin))).2 = .pinFailed (.notFound pin)
  read_still : (r.step (.pin (.read pin))).1 = r
  /-- The writes below are those that went through, whatever became of the pin between them. -/
  writes_eq : r.plant.board.bench.writes pin = record.filterMap (Exchange.written? pin)
  write_unconfigured : ∀ level, ¬r.plant.board.pins.contains pin = true →
    (r.step (.pin (.write pin level))).2 = .pinFailed (.notFound pin)
  write_input : ∀ level old, Stands pin record .input old →
    (r.step (.pin (.write pin level))).2 = .pinFailed (.notOutput pin)
  write_output : ∀ level first old, Stands pin record (.output first) old →
    (r.step (.pin (.write pin level))).2 =
      if failsAfter pin false record then .pinFailed (.device (.injected pin)) else .done
  /-- A write that fails leaves the rig as it was. -/
  write_failed : ∀ level err, (r.step (.pin (.write pin level))).2 = .pinFailed err →
    (r.step (.pin (.write pin level))).1 = r
  /-- What happens elsewhere changes neither what is read nor what was written. -/
  elsewhere : ∀ e, e.meddles pin = false →
    ((r.step e).1.step (.pin (.read pin))).2 = (r.step (.pin (.read pin))).2 ∧
      (r.step e).1.plant.board.bench.writes pin = r.plant.board.bench.writes pin

theorem read_reply (r : Rig) (pin : Pin) :
    (r.step (.pin (.read pin))).2 = accessReply ((r.plant.board.read pin).map .level) :=
  (r.access_reply (.read pin)).1

theorem read_reply_eq_flag_iff (r : Rig) (pin : Pin) (level : Bool) :
    (r.step (.pin (.read pin))).2 = .flag level ↔ r.plant.board.read pin = .ok level := by
  rw [read_reply]
  cases r.plant.board.read pin <;> simp [accessReply, Except.map]

theorem write_reply (r : Rig) (pin : Pin) (level : Bool) :
    (r.step (.pin (.write pin level))).2 = pinReply (r.plant.board.write pin level).1 := by
  rw [(r.access_reply _).1, Board.access, Prod.map_fst]
  cases (r.plant.board.write pin level).1 <;> rfl

/-- A write that fails leaves the rig as it was. -/
theorem write_refused {level : Bool} {err : Gpio.Error}
    (h : (r.step (.pin (.write pin level))).2 = .pinFailed err) :
    (r.step (.pin (.write pin level))).1 = r := by
  have hplant := (r.plant.access_answer (.write pin level)).2 err (accessReply_eq_pinFailed_iff.1 h)
  have hboard : (r.plant.board.access (.write pin level)).2 = r.plant.board := by
    rw [write_reply] at h
    cases hw : (r.plant.board.write pin level).1 with
    | error e => exact Board.write_failed hw
    | ok u => rw [hw] at h; cases h
  rw [hboard] at hplant
  exact congrArg (fun plant => { r with plant }) hplant

/-- Whatever happens to a rig from its start, a pin that nobody gets at without asking the board is read and
written as the history tells. -/
theorem run_readback (s : Setup) (pin : Pin) {es : List Event}
    (h : es.all (!·.circumvents pin) = true) :
    (s.cold.run es).ReadsBack pin (s.cold.transcript es) := by
  have hnew : s.cold.plant.board.Recalls pin [] := Board.new_recalls ..
  obtain ⟨hu, hrecalls⟩ := run_recalls (r := s.cold) nofun hnew h
  have hfailing : (s.cold.run es).plant.board.bench.isFailing pin =
      failsAfter pin false (s.cold.transcript es) := run_isFailing s.cold es pin
  rw [List.nil_append] at hrecalls
  generalize s.cold.transcript es = record at hrecalls hfailing
  generalize s.cold.run es = r at hu hrecalls hfailing
  constructor
  case configured_iff => exact hrecalls.contains_iff
  case configure_eq =>
    intro mode pull
    rw [(r.configure_reply pin mode pull).1, Board.configure_eq]
    split
    · rfl
    · split <;> rfl
  case release_eq =>
    rw [(r.access_reply _).1, Board.access, Board.release_eq hrecalls.contains_eq]
    split <;> rfl
  case read_iff => exact fun level => (read_reply_eq_flag_iff ..).trans hrecalls.read_eq_ok_iff
  case read_unconfigured =>
    intro hc
    rw [read_reply, Board.read_of_not_contains hc]
    rfl
  case read_still => rfl
  case writes_eq => exact hrecalls.writes_eq
  case write_unconfigured =>
    intro level hc
    rw [write_reply, Board.write_of_not_contains hc]
    rfl
  case write_input =>
    intro level old hs
    rw [write_reply, hrecalls.write_input hs]
    rfl
  case write_output =>
    intro level first old hs
    rw [write_reply, hrecalls.write_output hs, hfailing]
    split <;> rfl
  case write_failed => exact fun level err herr => write_refused herr
  case elsewhere =>
    intro e he
    have hs := step_spares_pin hu he
    exact ⟨by rw [read_reply, read_reply, hs.read_eq], hs.bench.writes_eq⟩

/-- A pin is taken too early, taken, written, made to fail, and taken as an input while its writes still fail.
There is a driver on another pin. -/
def rewired : List Event :=
  [.pin (.configure 4 (.output true) .disabled), .pin .init, .pin (.configure 4 (.output true) .disabled),
    .pin (.write 4 false), .create (Output.Config.plain 1 "pump" .relay 17), .setFailing 4 true,
    .pin (.write 4 true), .command 0 (.set true), .inject 4 true, .pin (.release 4), .pin (.write 4 false),
    .pin .shutdown, .pin .init, .pin (.configure 4 .input .up), .pin (.write 4 true),
    .pin (.configure 5 (.output false) .disabled), .pin (.write 5 true)]

/-- In the end it is an input that is read high, and was written once. As an output it would still fail. -/
theorem rewired_readsBack :
    rewired.all (!·.circumvents 4) = true ∧
      let r := Setup.plain.cold.run rewired
      r.ReadsBack 4 (Setup.plain.cold.transcript rewired) ∧
        (r.step (.pin (.read 4))).2 = .flag true ∧ r.plant.board.bench.writes 4 = [false] ∧
        ((r.step (.pin (.configure 4 (.output false) .disabled))).1.step (.pin (.write 4 true))).2 =
          .pinFailed (.device (.injected 4)) := by
  have hasked : rewired.all (!·.circumvents 4) = true := by decide +kernel
  exact ⟨hasked, run_readback Setup.plain 4 hasked, rfl, by decide +kernel, rfl⟩

end Rig

end Switchboard
