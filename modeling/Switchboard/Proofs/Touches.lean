import Mathlib.Logic.Relation
import Switchboard.Proofs.Parts

/-!
# What an event does to the board

Whatever happens to the rig, the board goes through operations of its own, one after another: `Touch` lists
them, each with the events that it takes, and `step_touches` says that there are no others. A driver only
writes, unless it is made or given up, and a poller only takes edges.

What every operation keeps that an event allows is kept by the event (`Touches.keeps`). A fact about the
pins and lines that reached states have in common is so proved from the ten operations, not from the events.
-/

namespace Switchboard

open Output (Driver Outcome Deed Pulse)

/-- One operation of the board that an event can come to. -/
inductive Gpio.Board.Touch (e : Event) (b : Board) : Board → Prop
  | write (pin : Pin) (level : Bool) : Touch e b (b.write pin level).2
  /-- The pin of a new driver is taken. -/
  | take {c : Output.Config} (told : e = .create c) :
      Touch e b (b.configure c.pin (.output (c.level false)) .disabled).2
  /-- The pin of a driver is given up with it. -/
  | giveUp {n : Nat} (told : e = .close n) (pin : Pin) : Touch e b (b.release pin).2
  | access {a : Access} (told : e = .pin a) : Touch e b (b.access a).2
  | accessBench {a : Access} (told : e = .line a) : Touch e b { b with bench := (b.bench.access a).2 }
  | watch {pin : Pin} {edge : EdgeMode} (told : e = .subscribe pin edge) :
      Touch e b (b.setEdge pin edge).2
  /-- A poller takes an edge. -/
  | takeEdge {pin : Pin} {edge : Edge} {b' : Board} (taken : b.takeEdge pin = .ok (edge, b')) :
      Touch e b b'
  | setListener (pin : Pin) (listener : Bool) : Touch e b (b.setListener pin listener).2
  | inject {pin : Pin} {level : Bool} (told : e = .inject pin level) :
      Touch e b { b with bench := b.bench.inject pin level }
  | setFailing {pin : Pin} {failing : Bool} (told : e = .setFailing pin failing) :
      Touch e b { b with bench := b.bench.setFailing pin failing }

/-- Operations of the board that an event can come to, one after another. -/
abbrev Gpio.Board.Touches (e : Event) : Board → Board → Prop :=
  Relation.ReflTransGen (Touch e)

namespace Gpio

variable {e : Event} {b b' : Board}

theorem Board.Touches.keeps {J : Board → Prop} (touch : ∀ {b b'}, b.Touch e b' → J b → J b')
    (h : b.Touches e b') (hj : J b) : J b' := by
  induction h with
  | refl => exact hj
  | tail _ ht ih => exact touch ht ih

theorem Subscription.poll_touches (s : Subscription) (b : Board) : b.Touches e (s.poll b).2 := by
  unfold poll
  split
  · exact .refl
  · split
    · split <;> exact .refl
    · split
      · rename_i ht
        exact .single (.takeEdge ht)
      · exact .refl
      · exact .refl

theorem Subscription.pump_touches (s : Subscription) (b : Board) : b.Touches e (s.pump b).2 := by
  unfold pump
  dsimp only
  generalize 2 * _ + 2 = n
  induction n generalizing s b with
  | zero => exact .refl
  | succ n ih => exact (s.poll_touches b).trans (ih ..)

end Gpio

/-! ## Drivers -/

namespace Output.Driver

variable {may : Command → Prop} {e : Event} {d d' : Driver} {p p' : Plant}

/-- A deed is at most one write. -/
theorem touches_of_deed (h : Deed may d p d' p') : p.board.Touches e p'.board := by
  cases h with
  | note alike => exact alike.board_eq ▸ .refl
  | @apply on duty asked =>
    have hc := d.apply_cases p on duty
    generalize d.apply p on duty = o at hc ⊢
    cases hc with
    | refused gate alike => exact alike.board_eq ▸ .refl
    | failed gate pass write alike => exact alike.board_eq ▸ .refl
    | done gate pass write clock_eq alike => exact alike.board_eq ▸ .single (.write ..)
  | @force reason compelled =>
    have hc := d.forceOff_cases p reason
    generalize d.forceOff p reason = o at hc ⊢
    cases hc with
    | failed write alike => exact alike.board_eq ▸ .refl
    | done write clock_eq alike => exact alike.board_eq ▸ .single (.write ..)
  | unlock told => exact .refl
  | restore told => exact .refl
  | dropPulse => exact .refl
  | cancelPulse serial => exact .refl
  | beginPulse q number isOn => exact .refl

theorem create_touches (serial : Nat) (c : Config) (p : Plant) :
    p.board.Touches (.create c) (create serial c p).2.board := by
  have hends := create_cases serial c p
  generalize create serial c p = x at hends ⊢
  cases hends with
  | unfit unfit => exact .refl
  | failed configure alike => exact alike.board_eq ▸ .single (.take rfl)
  | made fit configure alike => exact alike.board_eq ▸ .single (.take rfl)

end Output.Driver

theorem Turn.touches {may : Command → Prop} {e : Event} {d : Driver} {p : Plant} {o : Outcome}
    (h : Turn may d p o) : p.board.Touches e o.plant.board :=
  h.deeds.keeps (J := fun _ q => p.board.Touches e q.board)
    (fun hd hs => hs.trans (Driver.touches_of_deed hd)) .refl

/-! ## The rig -/

namespace Rig

variable {e : Event}

theorem finish_touches (r : Rig) (n : Nat) (q : Pulse) :
    r.plant.board.Touches e (r.finish n q).plant.board := by
  cases hd : r.drivers.get? n with
  | none =>
    unfold finish
    rw [hd]
  | some d =>
    have ht : Turn (fun _ => False) d r.plant (d.finishPulse r.plant q.number) := .finish q.number
    rw [(finish_eq hd q).1]
    exact ht.touches

theorem finishAll_touches (r : Rig) (l : List (Nat × Pulse)) :
    r.plant.board.Touches e (r.finishAll l).plant.board := by
  induction l generalizing r with
  | nil => exact .refl
  | cons x rest ih => exact (finish_touches r x.1 x.2).trans (ih _)

theorem ring_touches (r : Rig) (n number : Nat) :
    r.plant.board.Touches e (r.ring n number).plant.board := by
  unfold ring
  split
  · exact .refl
  · rename_i d hd
    split
    · have ht : Turn (fun _ => False) d r.plant (d.finishPulse r.plant number) := .finish number
      exact ht.touches
    · split
      · exact finish_touches r n _
      · exact .refl

theorem tell_touches (r : Rig) (n : Nat) (c : Command) :
    r.plant.board.Touches e (r.tell n c).1.plant.board := by
  unfold tell
  split
  · exact .refl
  · rename_i d hd
    have ht : Turn (fun c' => c' = c) d r.plant (obey d r.plant c) := .tell c rfl
    exact ht.touches

theorem pulse_touches (r : Rig) (n : Nat) (millis : Option UInt32) (timed : Bool) :
    r.plant.board.Touches e (r.pulse n millis timed).1.plant.board := by
  unfold pulse fresh
  split
  · exact .refl
  · rename_i d hd
    split
    · exact .refl
    · have ht : Turn (fun _ => False) d r.plant (d.startPulse r.plant r.next r.timer millis) :=
        .pulse r.next r.timer millis
      dsimp only
      split <;> exact ht.touches

theorem create_touches (r : Rig) (c : Output.Config) :
    r.plant.board.Touches (.create c) (r.create c).1.plant.board := by
  have ht := Driver.create_touches r.next c r.plant
  unfold create fresh
  dsimp only
  rcases hc : Driver.create r.next c r.plant with ⟨result, p⟩
  rw [hc] at ht
  cases result <;> exact ht

theorem close_touches (r : Rig) (n : Nat) :
    r.plant.board.Touches (.close n) (r.close n).1.plant.board := by
  unfold close
  split
  · exact .refl
  · rename_i d hd
    dsimp only
    rw [(close_alike d r.plant).board_eq]
    exact (Relation.ReflTransGen.single (.write ..)).tail (.giveUp rfl _)

theorem pump_touches (r : Rig) (s : Nat) : r.plant.board.Touches e (r.pump s).plant.board := by
  unfold pump
  split
  · exact .refl
  · exact Gpio.Subscription.pump_touches ..

theorem pumpPin_touches (r : Rig) (pin : Gpio.Pin) :
    r.plant.board.Touches e (r.pumpPin pin).plant.board := by
  unfold pumpPin
  generalize r.subscriptions.entries = l
  induction l generalizing r with
  | nil => exact .refl
  | cons x rest ih =>
    refine Relation.ReflTransGen.trans ?_ (ih _)
    dsimp only
    split
    · exact pump_touches r _
    · exact .refl

theorem subscribe_touches (r : Rig) (pin : Gpio.Pin) (edge : Gpio.EdgeMode) :
    r.plant.board.Touches (.subscribe pin edge) (r.subscribe pin edge).1.plant.board := by
  have ht : r.plant.board.Touches (.subscribe pin edge) (r.plant.board.setEdge pin edge).2 :=
    .single (.watch rfl)
  unfold subscribe
  split
  · exact .refl
  · rcases hb : r.plant.board.setEdge pin edge with ⟨result, board⟩
    rw [hb] at ht
    cases result <;> exact ht

theorem receive_touches (r : Rig) (s : Nat) :
    r.plant.board.Touches e (r.receive s).1.plant.board := by
  unfold receive
  dsimp only
  split
  · exact pump_touches r s
  · rename_i s' hs
    exact (pump_touches r s).trans
      (pump_touches { r.pump s with subscriptions := (r.pump s).subscriptions.insert s s'.receive.2 } s)

theorem withToken_touches (r : Rig) (s : Nat) {f : Interlock.Token → Rig × Reply}
    (h : ∀ t, (f t).1.plant.board = r.plant.board) :
    r.plant.board.Touches e (r.withToken s f).1.plant.board := by
  unfold withToken
  split
  · exact .refl
  · rw [h]

/-- The board goes through operations of its own, whatever happens. -/
theorem step_touches (r : Rig) (e : Event) : r.plant.board.Touches e (r.step e).1.plant.board := by
  cases e with
  | create c => exact create_touches r c
  | close n => exact close_touches r n
  | command n c => exact tell_touches r n c
  | pulse n millis timed => exact pulse_touches r n millis timed
  | cancelPulse q =>
    simp only [step, cancelPulse]
    split <;> exact .refl
  | awaitPulse q =>
    simp only [step, awaitPulse]
    split <;> exact .refl
  | advance millis => exact finishAll_touches (r.elapse millis) _
  | ring n number => exact ring_touches r n number
  | drift _ | lapse _ | setWall _ | createToken _ _ => exact .refl
  | pin a => exact (r.plant.access_alike a).board_eq ▸ .single (.access rfl)
  | line a => exact (r.plant.accessBench_alike a).board_eq ▸ .single (.accessBench rfl)
  | setListener pin listener => exact .single (.setListener ..)
  | inject pin level => exact (Relation.ReflTransGen.single (.inject rfl)).trans (pumpPin_touches _ pin)
  | setFailing pin failing => exact .single (.setFailing rfl)
  | subscribe pin edge => exact subscribe_touches r pin edge
  | receive s => exact receive_touches r s
  | cancel s =>
    simp only [step, cancel]
    split <;> exact .refl
  | unsubscribe s =>
    simp only [step]
    split <;> exact .refl
  | register group => exact (r.plant.register_alike group).board_eq ▸ .refl
  | dropToken s => exact withToken_touches r s fun _ => rfl
  | reserve group s =>
    refine withToken_touches r s fun t => ?_
    split <;> rfl
  | confirm group s => exact withToken_touches r s fun t => (r.plant.confirm_alike group t).board_eq
  | abandon group s => exact withToken_touches r s fun _ => rfl
  | free group s => exact withToken_touches r s fun _ => rfl

/-- What every operation keeps that the events of a run allow, the run keeps. -/
theorem run_touches {r : Rig} {J : Gpio.Board → Prop} {may : Event → Bool}
    (touch : ∀ {e b b'}, may e = true → Gpio.Board.Touch e b b' → J b → J b') (hj : J r.plant.board)
    {es : List Event} (hes : es.all may = true) : J (r.run es).plant.board := by
  induction es generalizing r with
  | nil => exact hj
  | cons e es ih =>
    obtain ⟨he, hes⟩ := Bool.and_eq_true_iff.1 hes
    exact ih ((r.step_touches e).keeps (touch he) hj) hes

end Rig

end Switchboard
