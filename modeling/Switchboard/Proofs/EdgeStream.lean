import Mathlib.Data.List.Chain
import Switchboard.Proofs.InStep

/-!
# The edges that a subscription delivers

A subscription, the board that it is on and the edges that its receiver got so far are a `Feed`. Levels from
outside, steps of the poller, receives, a cancel and what others do on the board come in any order
(`Feed.Act`). As long as nobody else sets or watches the pin, no edge is lost, made up, doubled or overtaken:
what was received, what is on the channel, what the poller holds and what waits on the line are together the
edges that the levels from outside made since the subscription began, as far as they are watched
(`Feed.Flows`). A cancel drops what the poller holds and what waits, so that the receiver gets a prefix
(`Feed.Ended`). `Rig.subscribe_delivers` says this of every subscription that a rig grants.
-/

namespace Switchboard

namespace Gpio

/-! ## Edges of a line -/

/-- The edges that levels make, one after another, on a line with a level: one wherever a level is not the level
before it. -/
def Edge.changes (level : Bool) : List Bool → List Edge
  | [] => []
  | next :: rest =>
    if next = level then changes level rest else (if next then rising else falling) :: changes next rest

theorem Edge.changes_cons (level next : Bool) (rest : List Bool) :
    changes level (next :: rest) = (Edge.between level next).toList ++ changes next rest := by
  cases level <;> cases next <;> rfl

/-- The edges that are watched. -/
def EdgeMode.watched : EdgeMode → List Edge
  | .none => []
  | .rising => [.rising]
  | .falling => [.falling]
  | .both => [.rising, .falling]

theorem EdgeMode.accepts_eq (mode : EdgeMode) (e : Edge) : mode.accepts e = decide (e ∈ mode.watched) := by
  cases mode <;> cases e <;> rfl

/-- The first edge away from a level is not to that level. -/
theorem Edge.level_of_mem_head?_changes {level : Bool} {levels : List Bool} {e : Edge}
    (h : e ∈ (changes level levels).head?) : e.level ≠ level := by
  induction levels generalizing level with
  | nil => cases h
  | cons next rest ih =>
    rw [changes_cons] at h
    cases hb : Edge.between level next with
    | none =>
      have heq : level = next := by
        cases level <;> cases next <;> simp [Edge.between] at hb ⊢
      simp only [hb, Option.toList_none, List.nil_append] at h
      exact heq ▸ ih h
    | some e' =>
      obtain ⟨hne, hlevel⟩ := Edge.between_eq_some_iff.1 hb
      simp only [hb, Option.toList_some, List.singleton_append, List.head?_cons, Option.mem_some] at h
      rw [← h, hlevel]
      exact Ne.symm hne

/-- Edges of a line alternate. -/
theorem Edge.changes_alternate (level : Bool) (levels : List Bool) :
    (changes level levels).IsChain (· ≠ ·) := by
  induction levels generalizing level with
  | nil => exact .nil
  | cons next rest ih =>
    rw [changes_cons]
    cases hb : Edge.between level next with
    | none => exact ih next
    | some e =>
      refine List.isChain_cons.2 ⟨fun e' he' heq => ?_, ih next⟩
      have hlevel := (Edge.between_eq_some_iff.1 hb).2
      exact level_of_mem_head?_changes he' (heq ▸ hlevel)

namespace Line

theorem inject_edge (l : Line) (level : Bool) : (l.inject level).edge = l.edge :=
  congrArg Setting.edge (l.inject_setting level)

/-- An edge that a level makes waits if it is watched. -/
theorem inject_pending (l : Line) (level : Bool) :
    (l.inject level).pending = l.pending ++ (Edge.between l.level level).toList.filter l.edge.accepts := by
  unfold inject
  cases hb : Edge.between l.level level with
  | none => simp
  | some e => cases ha : l.edge.accepts e <;> simp [ha]

end Line

/-! ## What others do on the board -/

/-- An access does not set a pin, does not watch it and takes none of its edges. -/
def Access.avoids (pin : Pin) : Access → Bool
  | .shutdown => false
  | .configure q _ _ | .release q | .setEdge q _ | .waitEdge q => q != pin
  | .init | .read _ | .write _ _ => true

namespace Board

variable {b b' b'' : Board} {pin q : Pin} {mode : EdgeMode}

/-- A pin is an input and some of its edges are watched. -/
def Watches (b : Board) (pin : Pin) (mode : EdgeMode) : Prop :=
  ∃ pull, b.setting? pin = some ⟨.input, pull, mode⟩

/-- A pin is set as before, and its line is the same. -/
structure Avoids (pin : Pin) (b b' : Board) : Prop where
  setting_eq : b'.setting? pin = b.setting? pin
  line_eq : b'.bench.lines.get? pin = b.bench.lines.get? pin

theorem Avoids.refl (pin : Pin) (b : Board) : Avoids pin b b :=
  ⟨rfl, rfl⟩

theorem Watches.of_avoids (h : b.Watches pin mode) (ha : Avoids pin b b') : b'.Watches pin mode := by
  obtain ⟨pull, hs⟩ := h
  exact ⟨pull, ha.setting_eq.trans hs⟩

theorem Watches.entry (h : b.Watches pin mode) :
    ∃ s, b.pins.get? pin = some s ∧ s.mode = .input ∧ s.edge = mode := by
  obtain ⟨pull, hs⟩ := h
  unfold setting? at hs
  obtain ⟨s, hp, hset⟩ := Option.map_eq_some_iff.1 hs
  exact ⟨s, hp, congrArg Setting.mode hset, congrArg Setting.edge hset⟩

theorem setting?_insert_of_ne (h : q ≠ pin) {s : PinState} :
    ((b.pins.insert q s).get? pin).map PinState.setting = b.setting? pin := by
  rw [Table.get?_insert_of_ne h, setting?]

theorem configure_avoids {mode : Mode} {pull : Pull} (h : q ≠ pin) :
    Avoids pin b (b.configure q mode pull).2 := by
  rw [configure_eq]
  split
  · exact .refl pin b
  · split
    · exact .refl pin b
    · exact ⟨setting?_insert_of_ne h, Table.get?_insert_of_ne h⟩

theorem release_avoids (h : q ≠ pin) : Avoids pin b (b.release q).2 := by
  have he : ((b.pins.erase q).get? pin).map PinState.setting = b.setting? pin := by
    rw [Table.get?_erase_of_ne h, setting?]
  unfold Board.release Bench.release
  split
  · exact .refl pin b
  · dsimp only
    split
    · rename_i hr
      split at hr
      · cases hr
        exact ⟨he, Table.get?_erase_of_ne h⟩
      · cases hr
    · exact ⟨he, rfl⟩

theorem setEdge_avoids {edge : EdgeMode} (h : q ≠ pin) : Avoids pin b (b.setEdge q edge).2 := by
  unfold Board.setEdge Bench.setEdge
  split
  · exact .refl pin b
  · split
    · exact .refl pin b
    · split
      · rename_i hr
        split at hr
        · cases hr
          exact ⟨setting?_insert_of_ne h, Table.get?_modify_of_ne h⟩
        · cases hr
      · exact ⟨setting?_insert_of_ne h, rfl⟩

/-- An input takes no write, and a write to another pin avoids it. -/
theorem write_avoids {level : Bool} (hw : b.Watches pin mode) : Avoids pin b (b.write q level).2 := by
  obtain ⟨s, hs, hinput, -⟩ := hw.entry
  unfold Board.write Bench.write
  split
  · exact .refl pin b
  · rename_i s' hs'
    split
    · exact .refl pin b
    · rename_i ho
      have hq : q ≠ pin := by
        rintro rfl
        cases hs.symm.trans hs'
        simp [hinput, Mode.isOutput] at ho
      split
      · rename_i hr
        split at hr
        · cases hr
        · split at hr
          · cases hr
            exact ⟨rfl, Table.get?_modify_of_ne hq⟩
          · cases hr
      · exact .refl pin b

/-- What is left of a line whose oldest edge was taken. -/
def withPending (b : Board) (pin : Pin) (pending : List Edge) : Board :=
  { b with bench := { b.bench with lines := b.bench.lines.modify pin fun l => { l with pending } } }

/-- Who takes an edge takes the oldest one. -/
theorem takeEdge_ok {e : Edge} (h : b.takeEdge pin = .ok (e, b')) :
    ∃ l rest, b.bench.lines.get? pin = some l ∧ l.pending = e :: rest ∧ b' = b.withPending pin rest := by
  unfold Board.takeEdge Bench.takeEdge at h
  cases hs : b.pins.get? pin with
  | none => simp [hs] at h
  | some s =>
    simp only [hs] at h
    split at h
    · cases h
    · cases hl : b.bench.lines.get? pin with
      | none => simp [hl] at h
      | some l =>
        cases hp : l.pending with
        | nil => simp [hl, hp] at h
        | cons e' rest =>
          simp only [hl, hp, Except.ok.injEq, Prod.mk.injEq] at h
          obtain ⟨rfl, rfl⟩ := h
          exact ⟨l, rest, rfl, hp, rfl⟩

theorem takeEdge_avoids {e : Edge} (h : q ≠ pin) (ht : b.takeEdge q = .ok (e, b')) : Avoids pin b b' := by
  refine ⟨(takeEdge_steady ht).table_eq pin, ?_⟩
  obtain ⟨-, rest, -, -, rfl⟩ := takeEdge_ok ht
  exact Table.get?_modify_of_ne h

/-- Where a pin is watched its oldest edge can be taken, if one waits. -/
theorem Watches.takeEdge_eq (h : b.Watches pin mode) (hm : mode ≠ .none) {l : Line}
    (hl : b.bench.lines.get? pin = some l) :
    b.takeEdge pin = match l.pending with
      | [] => .error .timeout
      | e :: rest => .ok (e, b.withPending pin rest) := by
  obtain ⟨s, hs, -, hedge⟩ := h.entry
  unfold Board.takeEdge Bench.takeEdge
  simp only [hs, hl, hedge, hm, if_false]
  cases l.pending <;> rfl

theorem access_avoids {a : Access} (ha : a.avoids pin = true) (hw : b.Watches pin mode) :
    Avoids pin b (b.access a).2 := by
  cases a with
  | init => exact ⟨rfl, rfl⟩
  | shutdown => cases ha
  | configure q mode pull => exact configure_avoids (by simpa [Access.avoids] using ha)
  | release q => exact release_avoids (by simpa [Access.avoids] using ha)
  | read q => exact .refl pin b
  | write q level => exact write_avoids hw
  | setEdge q edge => exact setEdge_avoids (by simpa [Access.avoids] using ha)
  | waitEdge q =>
    simp only [access]
    cases ht : b.takeEdge q with
    | error e => exact .refl pin b
    | ok x => exact takeEdge_avoids (by simpa [Access.avoids] using ha) ht

theorem setListener_avoids (pin : Pin) (b : Board) (q : Pin) (listener : Bool) :
    Avoids pin b (b.setListener q listener).2 := by
  refine ⟨(b.setListener_steady q listener).table_eq pin, ?_⟩
  unfold setListener
  split <;> rfl

theorem inject_avoids {level : Bool} (h : q ≠ pin) :
    Avoids pin b { b with bench := b.bench.inject q level } :=
  ⟨rfl, Table.get?_modify_of_ne h⟩

/-- To watch a pin succeeds on an input with a line, and nothing waits on the line after that. -/
theorem setEdge_ok (h : b.setEdge pin mode = (.ok (), b')) :
    ∃ l, b.bench.lines.get? pin = some l ∧ b'.Watches pin mode ∧
      b'.bench.lines.get? pin = some { l with edge := mode, pending := [] } := by
  unfold Board.setEdge Bench.setEdge at h
  cases hs : b.pins.get? pin with
  | none => simp [hs] at h
  | some s =>
    cases hmode : s.mode with
    | output initial => simp [hs, hmode, Mode.isOutput] at h
    | input =>
      cases hl : b.bench.lines.get? pin with
      | none => simp [hs, hmode, Mode.isOutput, Table.contains, hl] at h
      | some l =>
        simp only [hs, hmode, Mode.isOutput, Table.contains, hl, Option.isSome_some, Bool.false_eq_true,
          if_true, if_false, Prod.mk.injEq, true_and] at h
        subst h
        refine ⟨l, rfl, ⟨s.pull, ?_⟩, ?_⟩
        · simp [setting?, PinState.setting]
        · rw [Table.get?_modify_self, hl]
          rfl

end Board

/-! ## Feeds -/

/-- A subscription on a board, and what its receiver got. -/
structure Feed where
  board : Board
  sub : Subscription
  received : List Edge

namespace Feed

/-- Something that happens to a feed. -/
inductive Act where
  /-- A level from outside. -/
  | inject (pin : Pin) (level : Bool)
  /-- A step of the poller. -/
  | poll
  | receive
  | cancel
  /-- The poller that was waiting for an edge when it was cancelled takes one, and can put it nowhere. -/
  | straggle
  /-- The board is accessed by someone else. -/
  | access (a : Access)
  | setListener (pin : Pin) (listener : Bool)
  | setFailing (pin : Pin) (failing : Bool)

/-- Nobody sets or watches a pin, or takes its edges. -/
def Act.avoids (pin : Pin) : Act → Bool
  | .access a => a.avoids pin
  | _ => true

def step (f : Feed) : Act → Feed
  | .inject pin level => { f with board := { f.board with bench := f.board.bench.inject pin level } }
  | .poll =>
    let (sub, board) := f.sub.poll f.board
    { f with sub, board }
  | .receive =>
    let (e, sub) := f.sub.receive
    { f with sub, received := f.received ++ e.toList }
  | .cancel => { f with sub := f.sub.cancel }
  | .straggle =>
    if f.sub.cancelled then
      match f.board.takeEdge f.sub.pin with
      | .ok (_, board) => { f with board }
      | .error _ => f
    else f
  | .access a => { f with board := (f.board.access a).2 }
  | .setListener pin listener => { f with board := (f.board.setListener pin listener).2 }
  | .setFailing pin failing =>
    { f with board := { f.board with bench := f.board.bench.setFailing pin failing } }

def run (f : Feed) (as : List Act) : Feed :=
  as.foldl step f

/-- The edges that wait on the line to be taken. -/
def waiting (f : Feed) : List Edge :=
  ((f.board.bench.lines.get? f.sub.pin).map (·.pending)).getD []

def Act.isCancel : Act → Bool
  | .cancel => true
  | _ => false

/-- The level from outside that is put on a pin. -/
def Act.level? (pin : Pin) : Act → Option Bool
  | .inject q level => if q = pin then some level else none
  | _ => none

/-- The levels from outside on a pin before a cancel. -/
def levels (pin : Pin) : List Act → List Bool
  | [] => []
  | a :: as => if a.isCancel then [] else (a.level? pin).toList ++ levels pin as

/-- The watched edges that the levels from outside make before a cancel, on a pin with a level. -/
def edges (pin : Pin) (mode : EdgeMode) (level : Bool) (as : List Act) : List Edge :=
  (Edge.changes level (levels pin as)).filter (· ∈ mode.watched)

theorem edges_eq (pin : Pin) (mode : EdgeMode) (level : Bool) (as : List Act) :
    edges pin mode level as = (Edge.changes level (levels pin as)).filter mode.accepts :=
  List.filter_congr fun e _ => (mode.accepts_eq e).symm

/-! ## Before a cancel -/

/-- Since a pin with a level has been watched the levels from outside made some edges, and a feed has them
all, each in one place. -/
structure Flows (pin : Pin) (mode : EdgeMode) (level : Bool) (edges : List Edge) (f : Feed) : Prop where
  pin_eq : f.sub.pin = pin
  polling : f.sub.polling = true
  live : f.sub.cancelled = false
  watched : f.board.Watches pin mode
  line : ∃ l, f.board.bench.lines.get? pin = some l ∧ l.edge = mode ∧ l.level = level ∧
    f.received ++ f.sub.channel ++ f.sub.inHand.toList ++ l.pending = edges

/-- What was cancelled has no more to give than what was received and what is on the channel. -/
structure Ended (edges : List Edge) (f : Feed) : Prop where
  idle : f.sub.polling = false
  begins : f.received ++ f.sub.channel <+: edges

variable {f : Feed} {pin : Pin} {mode : EdgeMode} {level : Bool} {es : List Edge} {as : List Act}

/-- What passes by a pin leaves its feed. -/
theorem Flows.of_avoids (h : f.Flows pin mode level es) {board : Board}
    (ha : Board.Avoids pin f.board board) : Flows pin mode level es { f with board } := by
  obtain ⟨l, hl, hrest⟩ := h.line
  exact ⟨h.pin_eq, h.polling, h.live, h.watched.of_avoids ha, l, ha.line_eq.trans hl, hrest⟩

theorem Flows.inject (h : f.Flows pin mode level es) (next : Bool) :
    Flows pin mode next (es ++ (Edge.between level next).toList.filter mode.accepts)
      (f.step (.inject pin next)) := by
  obtain ⟨l, hl, rfl, rfl, rfl⟩ := h.line
  refine ⟨h.pin_eq, h.polling, h.live, h.watched, l.inject next, ?_, l.inject_edge next,
    l.inject_level next, ?_⟩
  · exact (Table.get?_modify_self).trans (congrArg _ hl)
  · rw [l.inject_pending, ← List.append_assoc]
    rfl

/-- The poller takes the edge that comes next, or puts the one that it has behind those on the channel. -/
theorem Flows.poll (h : f.Flows pin mode level es) (hm : mode ≠ .none) :
    Flows pin mode level es (f.step .poll) := by
  obtain ⟨l, hl, hedge, hlevel, hedges⟩ := h.line
  simp only [step, Subscription.poll, h.polling, Bool.not_true, Bool.false_eq_true, if_false]
  cases hh : f.sub.inHand with
  | some e =>
    dsimp only
    split
    · refine ⟨h.pin_eq, rfl, h.live, h.watched, l, hl, hedge, hlevel, ?_⟩
      simpa [hh, List.append_assoc] using hedges
    · exact h
  | none =>
    simp only [h.pin_eq, h.watched.takeEdge_eq hm hl]
    cases hp : l.pending with
    | nil => exact h
    | cons e rest =>
      refine ⟨rfl, rfl, h.live, h.watched, { l with pending := rest }, ?_, hedge, hlevel, ?_⟩
      · exact (Table.get?_modify_self).trans (congrArg _ hl)
      · simpa [hh, hp] using hedges

theorem Flows.receive (h : f.Flows pin mode level es) :
    Flows pin mode level es (f.step .receive) := by
  obtain ⟨l, hl, hedge, hlevel, hedges⟩ := h.line
  simp only [step, Subscription.receive]
  cases hc : f.sub.channel with
  | nil =>
    refine ⟨h.pin_eq, h.polling, h.live, h.watched, l, hl, hedge, hlevel, ?_⟩
    simpa using hedges
  | cons e rest =>
    refine ⟨h.pin_eq, h.polling, h.live, h.watched, l, hl, hedge, hlevel, ?_⟩
    simpa [hc] using hedges

theorem Flows.cancel (h : f.Flows pin mode level es) : Ended es (f.step .cancel) := by
  obtain ⟨l, hl, hedge, hlevel, rfl⟩ := h.line
  refine ⟨rfl, ?_⟩
  rw [List.append_assoc _ _ l.pending]
  exact ⟨_, rfl⟩

/-- Whatever happens to a feed, a cancel apart, appends the watched edge that a level makes, and keeps the
others in their order. -/
theorem Flows.step (h : f.Flows pin mode level es) (hm : mode ≠ .none) {a : Act}
    (ha : a.avoids pin = true) (hc : a.isCancel = false) :
    Flows pin mode ((a.level? pin).getD level)
      (es ++ (Edge.changes level (a.level? pin).toList).filter mode.accepts) (f.step a) := by
  have hkept (hl : a.level? pin = none) (hf : Flows pin mode level es (f.step a)) :
      Flows pin mode ((a.level? pin).getD level)
        (es ++ (Edge.changes level (a.level? pin).toList).filter mode.accepts) (f.step a) := by
    simpa [hl, Edge.changes] using hf
  cases a with
  | inject q next =>
    by_cases hq : q = pin
    · subst hq
      simpa [Act.level?, Edge.changes_cons, Edge.changes] using h.inject next
    · exact hkept (if_neg hq) (h.of_avoids (Board.inject_avoids hq))
  | poll => exact hkept rfl (h.poll hm)
  | receive => exact hkept rfl h.receive
  | cancel => cases hc
  | straggle =>
    refine hkept rfl ?_
    simp only [Feed.step, h.live, Bool.false_eq_true, if_false]
    exact h
  | access a => exact hkept rfl (h.of_avoids (Board.access_avoids ha h.watched))
  | setListener q listener => exact hkept rfl (h.of_avoids (Board.setListener_avoids pin _ q listener))
  | setFailing q failing => exact hkept rfl (h.of_avoids ⟨rfl, rfl⟩)

/-- After a cancel nothing more comes on the channel, whatever happens. -/
theorem Ended.step (h : f.Ended es) (a : Act) : Ended es (f.step a) := by
  cases a with
  | poll =>
    simp only [Feed.step, Subscription.poll, h.idle]
    exact h
  | receive =>
    refine ⟨?_, ?_⟩
    · simp only [Feed.step, Subscription.receive]
      split <;> exact h.idle
    · have hp := h.begins
      simp only [Feed.step, Subscription.receive]
      split
      · rename_i hc
        simpa [hc] using hp
      · simpa using hp
  | straggle =>
    simp only [Feed.step]
    split
    · split <;> exact ⟨h.idle, h.begins⟩
    · exact h
  | cancel => exact ⟨rfl, h.begins⟩
  | inject _ _ | access _ | setListener _ _ | setFailing _ _ => exact ⟨h.idle, h.begins⟩

theorem Ended.run (h : f.Ended es) (as : List Act) : Ended es (f.run as) := by
  induction as generalizing f with
  | nil => exact h
  | cons a as ih => exact ih (h.step a)

/-- A feed that flows goes on to do so until it is cancelled. -/
theorem Flows.run (h : f.Flows pin mode level es) (hm : mode ≠ .none)
    (has : as.all (·.avoids pin) = true) :
    (as.any Act.isCancel = true → Ended (es ++ edges pin mode level as) (f.run as)) ∧
    (as.any Act.isCancel = false →
      ∃ level', Flows pin mode level' (es ++ edges pin mode level as) (f.run as)) := by
  induction as generalizing f level es with
  | nil =>
    refine ⟨nofun, fun _ => ⟨level, ?_⟩⟩
    have hnone : es ++ edges pin mode level [] = es := List.append_nil es
    rwa [hnone]
  | cons a as ih =>
    obtain ⟨ha, has⟩ := Bool.and_eq_true_iff.1 has
    cases hc : a.isCancel with
    | true =>
      obtain rfl : a = .cancel := by
        cases a <;> first | rfl | cases hc
      have hnone : es ++ edges pin mode level (.cancel :: as) = es := List.append_nil es
      rw [hnone]
      exact ⟨fun _ => h.cancel.run as, nofun⟩
    | false =>
      have hedges : es ++ (Edge.changes level (a.level? pin).toList).filter mode.accepts ++
          edges pin mode ((a.level? pin).getD level) as = es ++ edges pin mode level (a :: as) := by
        cases hl : a.level? pin <;> simp [edges_eq, levels, hc, hl, Edge.changes_cons, Edge.changes]
      have hrun := ih (h.step hm ha hc) has
      rw [hedges] at hrun
      rw [List.any_cons, hc, Bool.false_or]
      exact hrun

/-! ## The edges that are delivered -/

/-- What a feed has delivered, and has still to deliver, of a pin with a level since when it was watched. -/
structure Delivers (pin : Pin) (mode : EdgeMode) (level : Bool) (as : List Act) (f : Feed) : Prop where
  /-- Until it is cancelled, every edge is in one place, and they are in order. -/
  complete : as.any Act.isCancel = false →
    f.received ++ f.sub.channel ++ f.sub.inHand.toList ++ f.waiting = edges pin mode level as
  /-- The poller does not stop until it is cancelled. -/
  polling : as.any Act.isCancel = false → f.sub.polling = true
  /-- What was received, with what still can be after a cancel, is the first of the edges. -/
  begins : f.received ++ f.sub.channel <+: edges pin mode level as
  alternates : mode = .both → (f.received ++ f.sub.channel).IsChain (· ≠ ·)

theorem edges_alternate (pin : Pin) (level : Bool) (as : List Act) :
    (edges pin .both level as).IsChain (· ≠ ·) := by
  unfold edges
  rw [List.filter_eq_self.2 fun e _ => by cases e <;> decide]
  exact Edge.changes_alternate level _

theorem Flows.waiting_eq (h : f.Flows pin mode level es) :
    f.received ++ f.sub.channel ++ f.sub.inHand.toList ++ f.waiting = es := by
  obtain ⟨l, hl, -, -, hes⟩ := h.line
  rw [waiting, h.pin_eq, hl]
  exact hes

/-- A feed that flows from the start of its subscription delivers the edges of its pin. -/
theorem Flows.delivers (h : f.Flows pin mode level []) (hm : mode ≠ .none)
    (has : as.all (·.avoids pin) = true) : Delivers pin mode level as (f.run as) := by
  obtain ⟨hended, hflows⟩ := h.run hm has
  rw [List.nil_append] at hended hflows
  have hbegins : (f.run as).received ++ (f.run as).sub.channel <+: edges pin mode level as := by
    cases hc : as.any Act.isCancel with
    | true => exact (hended hc).begins
    | false =>
      obtain ⟨level', hf⟩ := hflows hc
      rw [← hf.waiting_eq, List.append_assoc _ _ (waiting _)]
      exact ⟨_, rfl⟩
  refine ⟨fun hc => ?_, fun hc => ?_, hbegins, ?_⟩
  · obtain ⟨level', hf⟩ := hflows hc
    exact hf.waiting_eq
  · obtain ⟨level', hf⟩ := hflows hc
    exact hf.polling
  · rintro rfl
    obtain ⟨rest, hrest⟩ := hbegins
    exact (hrest ▸ edges_alternate pin level as).left_of_append

end Feed

end Gpio

namespace Rig

open Gpio (Feed)

/-- The feed of a subscription that nothing was received of. -/
def feed? (r : Rig) (serial : Nat) : Option Feed :=
  (r.subscriptions.get? serial).map fun sub => ⟨r.plant.board, sub, []⟩

variable {r r' : Rig} {pin : Gpio.Pin} {mode : Gpio.EdgeMode} {n : Nat}

/-- A subscription that is granted watches an input, and forgets the edges that waited on it. -/
theorem subscribe_flows (h : r.subscribe pin mode = (r', .serial n)) :
    mode ≠ .none ∧ ∃ level f, r.plant.board.bench.level? pin = some level ∧ r'.feed? n = some f ∧
      f.Flows pin mode level [] := by
  unfold subscribe fresh at h
  split at h
  · cases h
  · rename_i hm
    rcases hb : r.plant.board.setEdge pin mode with ⟨result, board⟩
    cases result with
    | error e => simp [hb] at h
    | ok u =>
      obtain ⟨l, hl, hw, hl'⟩ := Gpio.Board.setEdge_ok hb
      simp only [hb, Prod.mk.injEq, Reply.serial.injEq] at h
      obtain ⟨rfl, rfl⟩ := h
      refine ⟨hm, l.level, ⟨board, .start pin, []⟩, by simp [Gpio.Bench.level?, hl], ?_, ?_⟩
      · simp [feed?, setBoard]
      · exact ⟨rfl, rfl, rfl, hw, _, hl', rfl, rfl, rfl⟩

/-- However the levels on its pin, the steps of its poller, the receives, a cancel and what others do on the
board follow each other, a subscription delivers the edges of its pin: each once and in order. -/
theorem subscribe_delivers (h : r.subscribe pin mode = (r', .serial n)) {as : List Feed.Act}
    (has : as.all (·.avoids pin) = true) :
    ∃ level f, r.plant.board.bench.level? pin = some level ∧ r'.feed? n = some f ∧
      Feed.Delivers pin mode level as (f.run as) := by
  obtain ⟨hm, level, f, hlevel, hf, hflows⟩ := subscribe_flows h
  exact ⟨level, f, hlevel, hf, hflows.delivers hm has⟩

/-- An input for a door. -/
def porch : Rig :=
  (new (.new (.init (.new Output.defaultChip none)) (.new 4 .failOpen) ⟨0, 0⟩)).run
    [.pin (.configure 22 .input .disabled), .pin (.configure 23 (.output false) .disabled)]

/-- The door opens and shuts while the first edge is received, and opens again when it is too late. -/
def door : List Feed.Act :=
  [.inject 22 true, .poll, .access (.write 23 true), .inject 22 false, .inject 22 false, .poll, .receive,
    .poll, .cancel, .inject 22 true, .straggle, .receive]

/-- The door makes a rising and a falling edge before the cancel, and the first one is received. -/
theorem door_delivers :
    ∃ level f, porch.plant.board.bench.level? 22 = some level ∧
      (porch.subscribe 22 .both).1.feed? 0 = some f ∧ Feed.Delivers 22 .both level door (f.run door) ∧
      Feed.edges 22 .both level door = [.rising, .falling] ∧ (f.run door).received = [.rising] := by
  have hgranted : porch.subscribe 22 .both = ((porch.subscribe 22 .both).1, .serial 0) := Prod.ext rfl rfl
  have hdoor : door.all (·.avoids 22) = true := by decide
  obtain ⟨level, f, hlevel, hf, hd⟩ := subscribe_delivers hgranted hdoor
  refine ⟨level, f, hlevel, hf, hd, ?_, ?_⟩
  · obtain rfl : false = level := Option.some.inj ((by decide +kernel : _ = some false).symm.trans hlevel)
    decide
  · have hreceived : ((porch.subscribe 22 .both).1.feed? 0).map (fun f => (f.run door).received) =
        some [.rising] := by decide +kernel
    rw [hf] at hreceived
    exact Option.some.inj hreceived

end Rig

end Switchboard
