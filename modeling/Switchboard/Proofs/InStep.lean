import Switchboard.Proofs.Touches

/-!
# The table of the pins and the lines below

The board keeps its own table of the pins, which decides what may be asked of them, and the bench below
keeps their lines. The two are changed one after the other, with checks in between, and `Board.InStep` says
that they agree: they have the same pins, set the same way, and no more than fit.

What does not set a pin leaves the agreement alone (`Board.Steady`): writes, edges that are taken, and levels
and faults from outside. The other operations have one equation each on a board whose tables agree, without
the branches that only a disagreement can reach (`configure_eq`, `release_eq`, `InStep.setEdge_eq`),
and from these the rest is read off. No operation breaks the agreement (`InStep.touch`), and none that fails
changes anything (`InStep.access_failed`).
-/

namespace Switchboard

namespace Gpio

/-- How a pin is set, as far as both the table and the bench know. -/
structure Setting where
  mode : Mode
  pull : Pull
  edge : EdgeMode
  deriving DecidableEq, Repr

def PinState.setting (s : PinState) : Setting := ⟨s.mode, s.pull, s.edge⟩

def Line.setting (l : Line) : Setting := ⟨l.mode, l.pull, l.edge⟩

/-- How a pin is set by the table of the board. -/
def Board.setting? (b : Board) (pin : Pin) : Option Setting :=
  (b.pins.get? pin).map PinState.setting

/-- How a pin is set by its line. -/
def Bench.setting? (b : Bench) (pin : Pin) : Option Setting :=
  (b.lines.get? pin).map Line.setting

theorem Line.inject_level (l : Line) (level : Bool) : (l.inject level).level = level := by
  unfold Line.inject
  split
  · split <;> rfl
  · rfl

theorem Line.inject_setting (l : Line) (level : Bool) : (l.inject level).setting = l.setting := by
  unfold Line.inject
  split
  · split <;> rfl
  · rfl

namespace Bench

variable {pin : Pin} {b b' : Bench}

/-- A line whose setting is kept leaves every pin set as it was. -/
theorem setting?_modify {q : Pin} {f : Line → Line} (hb : b'.lines = b.lines.modify q f)
    (h : ∀ l, (f l).setting = l.setting) : b'.setting? pin = b.setting? pin := by
  unfold setting?
  rw [hb]
  by_cases hq : q = pin
  · subst hq
    rw [Table.get?_modify_self]
    cases b.lines.get? q with
    | none => rfl
    | some l => exact congrArg some (h l)
  · rw [Table.get?_modify_of_ne hq]

theorem write_setting? {q : Pin} {level : Bool} (h : b.write q level = .ok b') :
    b'.setting? pin = b.setting? pin := by
  unfold write at h
  split at h
  · cases h
  · split at h
    · cases h
      exact setting?_modify (q := q) (f := fun l => { l with level }) rfl fun _ => rfl
    · cases h

theorem takeEdge_setting? {q : Pin} {e : Edge} (h : b.takeEdge q = .ok (e, b')) (pin : Pin) :
    b'.initialised = b.initialised ∧ b'.setting? pin = b.setting? pin := by
  unfold takeEdge at h
  split at h
  · cases h
  · split at h
    · cases h
    · rename_i rest _
      cases h
      exact ⟨rfl, setting?_modify (q := q) (f := fun l => { l with pending := rest }) rfl fun _ => rfl⟩

end Bench

/-! ## What does not set a pin -/

/-- No pin is taken, given up or set another way. -/
structure Board.Steady (b b' : Board) : Prop where
  capacity_eq : b'.capacity = b.capacity
  initialised_eq : b'.bench.initialised = b.bench.initialised
  size_eq : b'.pins.size = b.pins.size
  table_eq : ∀ pin, b'.setting? pin = b.setting? pin
  lines_eq : ∀ pin, b'.bench.setting? pin = b.bench.setting? pin

namespace Board

variable {b b' b'' : Board}

theorem Steady.refl (b : Board) : Steady b b :=
  ⟨rfl, rfl, rfl, fun _ => rfl, fun _ => rfl⟩

/-- Below the table no pin is set another way. -/
theorem Steady.of_bench {bench : Bench} (hi : bench.initialised = b.bench.initialised)
    (hl : ∀ pin, bench.setting? pin = b.bench.setting? pin) : Steady b { b with bench } :=
  ⟨rfl, hi, rfl, fun _ => rfl, hl⟩

theorem write_steady (b : Board) (pin : Pin) (level : Bool) : Steady b (b.write pin level).2 := by
  cases h : (b.write pin level).1 with
  | error e =>
    rw [write_failed h]
    exact .refl b
  | ok u =>
    obtain ⟨hw, hb⟩ := write_ok h
    rw [hb]
    exact .of_bench (Bench.write_done hw).2.2.2.1 fun _ => Bench.write_setting? hw

theorem takeEdge_steady {pin : Pin} {e : Edge} (h : b.takeEdge pin = .ok (e, b')) : Steady b b' := by
  unfold takeEdge at h
  split at h
  · cases h
  · split at h
    · cases h
    · cases ht : b.bench.takeEdge pin with
      | error e => simp [ht] at h
      | ok x =>
        simp only [ht, Except.ok.injEq, Prod.mk.injEq] at h
        obtain ⟨-, rfl⟩ := h
        have hs := Bench.takeEdge_setting? ht
        exact .of_bench (hs pin).1 fun q => (hs q).2

theorem setListener_steady (b : Board) (pin : Pin) (listener : Bool) :
    Steady b (b.setListener pin listener).2 := by
  unfold setListener
  split
  · refine ⟨rfl, rfl, Table.size_modify, fun pin' => ?_, fun _ => rfl⟩
    unfold setting?
    by_cases hp : pin = pin'
    · subst hp
      rw [Table.get?_modify_self, Option.map_map]
      rfl
    · rw [Table.get?_modify_of_ne hp]
  · exact .refl b

end Board

end Gpio

/-! ## Tables that agree -/

/-- The bench is accessed past the table of the board. -/
def Event.bypasses : Event → Bool
  | .line _ => true
  | _ => false

namespace Gpio.Board

/-- The table of a board with a capacity and the lines below agree. -/
structure InStep (capacity : Option Nat) (b : Board) : Prop where
  capacity_eq : b.capacity = capacity
  /-- They have the same pins, set the same way. -/
  setting_eq : ∀ pin, b.setting? pin = b.bench.setting? pin
  /-- A bench that was not started has no lines. -/
  started : ∀ {pin}, b.pins.contains pin = true → b.bench.initialised = true
  within : ∀ c, capacity = some c → b.pins.size ≤ c

variable {capacity : Option Nat} {b b' : Board} {pin : Pin}

theorem InStep.contains_eq (h : b.InStep capacity) (pin : Pin) :
    b.bench.lines.contains pin = b.pins.contains pin := by
  simpa [setting?, Bench.setting?, Table.contains] using congrArg Option.isSome (h.setting_eq pin).symm

theorem contains_eq_isSome_setting? : b.pins.contains pin = (b.setting? pin).isSome := by
  simp [setting?, Table.contains]

theorem InStep.steady (h : b.InStep capacity) (hs : b.Steady b') : b'.InStep capacity where
  capacity_eq := hs.capacity_eq.trans h.capacity_eq
  setting_eq pin := by rw [hs.table_eq, hs.lines_eq, h.setting_eq]
  started hp := by
    rw [contains_eq_isSome_setting?, hs.table_eq, ← contains_eq_isSome_setting?] at hp
    rw [hs.initialised_eq]
    exact h.started hp
  within c hc := by
    rw [hs.size_eq]
    exact h.within c hc

theorem new_inStep (chip : String) (capacity : Option Nat) : (new chip capacity).InStep capacity :=
  ⟨rfl, fun _ => rfl, nofun, fun _ _ => Nat.zero_le _⟩

theorem InStep.init (h : b.InStep capacity) : b.init.InStep capacity :=
  ⟨h.capacity_eq, h.setting_eq, fun _ => rfl, h.within⟩

theorem InStep.shutdown (h : b.InStep capacity) : b.shutdown.InStep capacity :=
  ⟨h.capacity_eq, fun _ => rfl, nofun, fun _ _ => Nat.zero_le _⟩

/-! ## Taking a pin -/

/-- To take a pin can fail in two ways, and the bench is none of them. -/
theorem configure_eq (b : Board) (pin : Pin) (mode : Mode) (pull : Pull) :
    b.configure pin mode pull =
      if b.bench.initialised = false then (.error .notInitialized, b)
      else if b.hasRoom pin = false then (.error (.full (b.capacity.getD 0)), b)
      else
        (.ok (), { b with
          pins := b.pins.insert pin ⟨mode, pull, .none, false⟩
          bench := { b.bench with lines := b.bench.lines.insert pin (.fresh mode pull) } }) := by
  unfold configure Bench.configure
  cases hi : b.bench.initialised with
  | false => rfl
  | true => cases b.hasRoom pin <;> simp [hi]

theorem InStep.configure (h : b.InStep capacity) (pin : Pin) (mode : Mode) (pull : Pull) :
    (b.configure pin mode pull).2.InStep capacity := by
  rw [configure_eq]
  split
  · exact h
  · rename_i hi
    split
    · exact h
    · rename_i hroom
      refine ⟨h.capacity_eq, fun pin' => ?_, fun _ => by simpa using hi, fun c hc => ?_⟩
      · have he := h.setting_eq pin'
        unfold setting? Bench.setting? at he ⊢
        simp only [Table.get?_insert]
        split
        · rfl
        · exact he
      · dsimp only
        cases hp : b.pins.contains pin with
        | true =>
          rw [Table.size_insert_of_contains hp]
          exact h.within c hc
        | false =>
          rw [Table.size_insert hp]
          have hlt : b.pins.size < c := by simpa [hasRoom, hp, h.capacity_eq, hc] using hroom
          exact hlt

/-! ## Giving a pin up -/

/-- A pin that has a line if it is in the table leaves both. -/
theorem release_eq (hc : b.bench.lines.contains pin = b.pins.contains pin) :
    b.release pin =
      if b.pins.contains pin = false then (.error (.notFound pin), b)
      else (.ok (), { b with
        pins := b.pins.erase pin, bench := { b.bench with lines := b.bench.lines.erase pin } }) := by
  unfold Board.release Bench.release
  cases hp : b.pins.contains pin with
  | false => rfl
  | true => simp [hc.trans hp]

theorem InStep.release (h : b.InStep capacity) (pin : Pin) : (b.release pin).2.InStep capacity := by
  rw [release_eq (h.contains_eq _)]
  split
  · exact h
  · rename_i hp
    refine ⟨h.capacity_eq, fun pin' => ?_, fun _ => ?_, fun c hc => ?_⟩
    · have he := h.setting_eq pin'
      unfold setting? Bench.setting? at he ⊢
      simp only [Table.get?_erase]
      split
      · rfl
      · exact he
    · have hp : b.pins.contains pin = true := by simpa using hp
      exact h.started hp
    · exact Nat.le_trans Table.size_erase_le (h.within c hc)

/-! ## Watching a pin -/

/-- Where the tables agree an input that is in one of them is watched by both. -/
theorem InStep.setEdge_eq (h : b.InStep capacity) (pin : Pin) (edge : EdgeMode) :
    b.setEdge pin edge =
      match b.pins.get? pin with
      | none => (.error (.notFound pin), b)
      | some s =>
        if s.mode.isOutput then (.error (.notInput pin), b)
        else (.ok (), { b with
          pins := b.pins.insert pin { s with edge }
          bench := { b.bench with
            lines := b.bench.lines.modify pin fun l => { l with edge, pending := [] } } }) := by
  unfold Board.setEdge Bench.setEdge
  rw [h.contains_eq]
  cases hp : b.pins.get? pin with
  | none => rfl
  | some s =>
    simp only [Table.contains_of_get? hp, if_true]

theorem InStep.setEdge (h : b.InStep capacity) (pin : Pin) (edge : EdgeMode) :
    (b.setEdge pin edge).2.InStep capacity := by
  rw [h.setEdge_eq]
  cases hp : b.pins.get? pin with
  | none => exact h
  | some s =>
    dsimp only
    split
    · exact h
    · have hc := Table.contains_of_get? hp
      refine ⟨h.capacity_eq, fun pin' => ?_, fun _ => h.started hc, fun c hcap => ?_⟩
      · have he := h.setting_eq pin'
        unfold setting? Bench.setting? at he ⊢
        simp only [Table.get?_insert, Table.get?_modify]
        split
        · rename_i hr
          obtain rfl := rank_inj hr
          obtain ⟨l, hl⟩ := Option.isSome_iff_exists.1 ((h.contains_eq pin).trans hc)
          rw [hp, hl] at he
          rw [hl]
          obtain ⟨hmode, hpull, -⟩ : s.mode = l.mode ∧ s.pull = l.pull ∧ s.edge = l.edge := by
            simpa [PinState.setting, Line.setting] using he
          simp [PinState.setting, Line.setting, hmode, hpull]
        · exact he
      · dsimp only
        rw [Table.size_insert_of_contains hc]
        exact h.within c hcap

/-! ## Every access -/

theorem InStep.access (h : b.InStep capacity) (a : Access) : (b.access a).2.InStep capacity := by
  cases a with
  | init => exact h.init
  | shutdown => exact h.shutdown
  | configure pin mode pull => exact h.configure pin mode pull
  | release pin => exact h.release pin
  | read pin => exact h
  | write pin level => exact h.steady (b.write_steady pin level)
  | setEdge pin edge => exact h.setEdge pin edge
  | waitEdge pin =>
    simp only [Board.access]
    cases ht : b.takeEdge pin with
    | error e => exact h
    | ok x => exact h.steady (takeEdge_steady ht)

/-- Every operation keeps the tables in step that does not go past the table of the board. -/
theorem InStep.touch {e : Event} (h : b.InStep capacity) (he : e.bypasses = false) (ht : b.Touch e b') :
    b'.InStep capacity := by
  cases ht with
  | write pin level => exact h.steady (b.write_steady pin level)
  | take told => exact h.configure ..
  | giveUp told pin => exact h.release pin
  | access told => exact h.access _
  | accessBench told => cases told ▸ he
  | watch told => exact h.setEdge ..
  | takeEdge taken => exact h.steady (takeEdge_steady taken)
  | setListener pin listener => exact h.steady (b.setListener_steady pin listener)
  | @inject pin level told =>
    exact h.steady (.of_bench rfl fun _ =>
      Bench.setting?_modify (q := pin) (f := fun l => l.inject level) rfl (·.inject_setting level))
  | setFailing told => exact h.steady (.of_bench rfl fun _ => rfl)

/-! ## Failures -/

theorem configure_failed {mode : Mode} {pull : Pull} {e : Error}
    (he : (b.configure pin mode pull).1 = .error e) : (b.configure pin mode pull).2 = b := by
  rw [configure_eq] at he ⊢
  split
  · rfl
  · split
    · rfl
    · simp_all

theorem InStep.release_failed (h : b.InStep capacity) {e : Error}
    (he : (b.release pin).1 = .error e) : (b.release pin).2 = b := by
  rw [release_eq (h.contains_eq _)] at he ⊢
  split
  · rfl
  · simp_all

theorem InStep.setEdge_failed (h : b.InStep capacity) {edge : EdgeMode} {e : Error}
    (he : (b.setEdge pin edge).1 = .error e) : (b.setEdge pin edge).2 = b := by
  rw [h.setEdge_eq] at he ⊢
  cases hp : b.pins.get? pin with
  | none => rfl
  | some s =>
    rw [hp] at he
    dsimp only at he ⊢
    split
    · rfl
    · simp_all

/-- What is made of an operation without a value fails only where the operation does. -/
theorem ofUnit_eq_error {x : Except Error Unit × Board} {e : Error}
    (h : (x.map Answer.ofUnit id).1 = .error e) : x.1 = .error e := by
  obtain ⟨result, b⟩ := x
  cases result <;> cases h
  rfl

/-- An access that fails on a board whose tables agree leaves it as it was. -/
theorem InStep.access_failed (h : b.InStep capacity) {a : Access} {e : Error}
    (he : (b.access a).1 = .error e) : (b.access a).2 = b := by
  cases a with
  | init => cases he
  | shutdown => cases he
  | configure pin mode pull => exact configure_failed (ofUnit_eq_error he)
  | release pin => exact h.release_failed (ofUnit_eq_error he)
  | read pin => rfl
  | write pin level => exact write_failed (ofUnit_eq_error he)
  | setEdge pin edge => exact h.setEdge_failed (ofUnit_eq_error he)
  | waitEdge pin =>
    simp only [Board.access] at he ⊢
    cases ht : b.takeEdge pin with
    | error e' => rfl
    | ok x =>
      rw [ht] at he
      cases he

end Gpio.Board

namespace Plant

variable {capacity : Option Nat} {p : Plant}

/-- An access answers what the board answers. If it fails it makes no entry in the log. -/
theorem access_answer (p : Plant) (a : Gpio.Access) :
    (p.access a).1 = (p.board.access a).1 ∧
      ∀ e, (p.access a).1 = .error e → (p.access a).2 = { p with board := (p.board.access a).2 } := by
  cases a with
  | configure pin mode pull =>
    simp only [access, Gpio.Board.access, configure]
    rcases p.board.configure pin mode pull with ⟨result, board⟩
    cases result with
    | ok u => exact ⟨rfl, fun _ he => by cases he⟩
    | error e => exact ⟨rfl, fun _ _ => rfl⟩
  | release pin =>
    simp only [access, Gpio.Board.access, release]
    rcases p.board.release pin with ⟨result, board⟩
    cases result with
    | ok u => exact ⟨rfl, fun _ he => by cases he⟩
    | error e => exact ⟨rfl, fun _ _ => rfl⟩
  | write pin level =>
    simp only [access, Gpio.Board.access, write]
    rcases p.board.write pin level with ⟨result, board⟩
    cases result with
    | ok u => exact ⟨rfl, fun _ he => by cases he⟩
    | error e => exact ⟨rfl, fun _ _ => rfl⟩
  | shutdown => exact ⟨rfl, fun _ he => by cases he⟩
  | init | read _ | setEdge _ _ | waitEdge _ => exact ⟨rfl, fun _ _ => rfl⟩

/-- An access that fails where the tables agree leaves everything as it was. -/
theorem access_failed (h : p.board.InStep capacity) {a : Gpio.Access} {e : Gpio.Error}
    (he : (p.access a).1 = .error e) : (p.access a).2 = p := by
  obtain ⟨hanswer, hplant⟩ := p.access_answer a
  rw [hplant e he, h.access_failed (hanswer ▸ he)]

end Plant

/-! ## The rig -/

/-- Something is asked of the board itself. -/
def Event.isCall : Event → Bool
  | .pin _ | .setListener .. | .subscribe .. => true
  | _ => false

namespace Rig

variable {capacity : Option Nat} {r : Rig} {e : Event}

/-- A run that does not go past the table keeps it in step with the lines. -/
theorem run_inStep (h : r.plant.board.InStep capacity) {es : List Event}
    (hes : es.all (!·.bypasses) = true) : (r.run es).plant.board.InStep capacity :=
  run_touches (fun he ht hb => hb.touch (by simpa using he) ht) h hes

/-! ## Calls of the board -/

theorem accessReply_eq_pinFailed_iff {answer : Gpio.Answer} {err : Gpio.Error} :
    accessReply answer = .pinFailed err ↔ answer = .error err := by
  rcases answer with e | (_ | high | e) <;> simp [accessReply]

/-- An access answers what the board answers, and comes to what it comes to there. -/
theorem access_reply (r : Rig) (a : Gpio.Access) :
    (r.step (.pin a)).2 = accessReply (r.plant.board.access a).1 ∧
      (r.step (.pin a)).1.plant.board = (r.plant.board.access a).2 :=
  ⟨congrArg accessReply (r.plant.access_answer a).1, (r.plant.access_alike a).board_eq⟩

theorem configure_reply (r : Rig) (pin : Gpio.Pin) (mode : Gpio.Mode) (pull : Gpio.Pull) :
    (r.step (.pin (.configure pin mode pull))).2 = pinReply (r.plant.board.configure pin mode pull).1 ∧
      (r.step (.pin (.configure pin mode pull))).1.plant.board =
        (r.plant.board.configure pin mode pull).2 := by
  obtain ⟨hreply, hboard⟩ := r.access_reply (.configure pin mode pull)
  refine ⟨?_, hboard⟩
  rw [hreply, Gpio.Board.access, Prod.map_fst]
  cases (r.plant.board.configure pin mode pull).1 <;> rfl

/-- A call that fails where the tables agree leaves everything as it was. -/
theorem call_failed (h : r.plant.board.InStep capacity) (hc : e.isCall = true) {err : Gpio.Error}
    (he : (r.step e).2 = .pinFailed err) : (r.step e).1 = r := by
  cases e with
  | pin a =>
    have hanswer : (r.plant.access a).1 = .error err := accessReply_eq_pinFailed_iff.1 he
    exact congrArg (fun plant => { r with plant }) (r.plant.access_failed h hanswer)
  | setListener pin listener =>
    have hs : (r.plant.board.setListener pin listener).2 = r.plant.board := by
      simp only [step, Gpio.Board.setListener] at he ⊢
      split
      · rename_i hp
        rw [if_pos hp] at he
        cases he
      · rfl
    exact congrArg r.setBoard hs
  | subscribe pin edge =>
    simp only [step, subscribe] at he ⊢
    split
    · rfl
    · rename_i hedge
      rw [if_neg hedge] at he
      rcases hs : r.plant.board.setEdge pin edge with ⟨result, board⟩
      rw [hs] at he
      cases result with
      | ok u => cases he
      | error err' =>
        have hb := h.setEdge_failed (congrArg Prod.fst hs)
        rw [hs] at hb
        exact congrArg r.setBoard hb
  | _ => cases hc

/-- What the table of a board with a capacity, the lines below and the next call have to do with each
other. -/
structure Tallies (capacity : Option Nat) (r : Rig) : Prop where
  /-- The table and the bench have the same pins, with the same direction, bias and watched edges. -/
  same : ∀ pin, r.plant.board.setting? pin = r.plant.board.bench.setting? pin
  within : ∀ c, capacity = some c → r.plant.board.pins.size ≤ c
  /-- A pin is refused for want of room where it is new and the table holds all that it can. -/
  full_iff : ∀ pin mode pull c, (r.step (.pin (.configure pin mode pull))).2 = .pinFailed (.full c) ↔
    r.plant.board.bench.initialised = true ∧ r.plant.board.pins.contains pin = false ∧
      capacity = some c ∧ r.plant.board.pins.size = c
  /-- A pin that is there can be taken again, whether there is room or not, and starts afresh. -/
  again : ∀ pin mode pull, r.plant.board.pins.contains pin = true →
    (r.step (.pin (.configure pin mode pull))).2 = .done ∧
      (r.step (.pin (.configure pin mode pull))).1.plant.board.pins.get? pin =
        some ⟨mode, pull, .none, false⟩ ∧
      (r.step (.pin (.configure pin mode pull))).1.plant.board.bench.lines.get? pin =
        some (.fresh mode pull)
  failed : ∀ {e err}, e.isCall = true → (r.step e).2 = .pinFailed err → (r.step e).1 = r

theorem Tallies.of_inStep (h : r.plant.board.InStep capacity) : r.Tallies capacity where
  same := h.setting_eq
  within := h.within
  full_iff pin mode pull c := by
    rw [(configure_reply r pin mode pull).1, Gpio.Board.configure_eq]
    constructor
    · intro hfull
      split at hfull
      · cases hfull
      · rename_i hi
        split at hfull
        · rename_i hroom
          obtain ⟨hp, c', hc', hsize⟩ : r.plant.board.pins.contains pin = false ∧
              ∃ c', r.plant.board.capacity = some c' ∧ c' ≤ r.plant.board.pins.size := by
            cases hcap : r.plant.board.capacity <;> simp_all [Gpio.Board.hasRoom]
          have hcap : capacity = some c' := h.capacity_eq.symm.trans hc'
          obtain rfl : c' = c := by simpa [pinReply, hc'] using hfull
          exact ⟨by simpa using hi, hp, hcap, Nat.le_antisymm (h.within c' hcap) hsize⟩
        · cases hfull
    · rintro ⟨hi, hp, hcap, hsize⟩
      have hc : r.plant.board.capacity = some c := h.capacity_eq.trans hcap
      simp [hi, Gpio.Board.hasRoom, hp, hc, hsize, pinReply]
  again pin mode pull hp := by
    obtain ⟨hreply, hboard⟩ := configure_reply r pin mode pull
    have hi := h.started hp
    have hroom : r.plant.board.hasRoom pin = true := by simp [Gpio.Board.hasRoom, hp]
    rw [hreply, hboard, Gpio.Board.configure_eq]
    simp [hi, hroom, pinReply]
  failed hc he := call_failed h hc he

/-- The table and the lines of a board agree, within its capacity, after every run from its making on that
does not go past the table. -/
theorem run_tallies (chip : String) (capacity : Option Nat) (groups : Interlock.Groups) (wall : Timestamp)
    {es : List Event} (h : es.all (!·.bypasses) = true) :
    ((new (.new (.new chip capacity) groups wall)).run es).Tallies capacity :=
  .of_inStep (run_inStep (Gpio.Board.new_inStep chip capacity) h)

/-- A board with room for two pins. One of them is watched and has seen an edge, the other is taken, given
up and taken for a driver. -/
def crowded : List Event :=
  [.pin (.configure 4 .input .up), .pin .init, .pin (.configure 4 .input .up), .pin (.setEdge 4 .both),
    .setListener 4 true, .inject 4 false, .pin (.configure 17 .input .down), .pin (.release 17),
    .create (Output.Config.plain 1 "pump" .relay 17), .setFailing 17 true, .command 0 (.set true)]

/-- A third pin does not fit. The first can still be taken again, and is then no longer watched. -/
theorem crowded_tallies :
    crowded.all (!·.bypasses) = true ∧
      let r := (new (.new (.new Output.defaultChip (some 2)) (.new 4 .failOpen) ⟨0, 0⟩)).run crowded
      r.Tallies (some 2) ∧
        (r.step (.pin (.configure 5 .input .up))).2 = .pinFailed (.full 2) ∧
        (r.step (.pin (.configure 4 .input .up))).2 = .done ∧
        r.plant.board.bench.setting? 4 = some ⟨.input, .up, .both⟩ := by
  have hcalls : crowded.all (!·.bypasses) = true := by decide +kernel
  have ht := run_tallies Output.defaultChip (some 2) (.new 4 .failOpen) ⟨0, 0⟩ hcalls
  refine ⟨hcalls, ht, ?_, ?_, by decide +kernel⟩
  · exact (ht.full_iff 5 .input .up 2).2 (by decide +kernel)
  · exact (ht.again 4 .input .up (by decide +kernel)).1

end Rig

end Switchboard
