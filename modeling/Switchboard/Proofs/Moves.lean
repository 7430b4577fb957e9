import Switchboard.Proofs.Deeds

/-!
# What an event can do

Every event is a move of one kind: a driver has a turn, is made or is given up, a token does something, or
nothing happens that concerns drivers and tokens (`Move`, `step_move`). Only the passing of time is many
moves, one turn for each pulse that is over. What is true of a rig after any move is so proved from the
eight kinds of moves, not from the events.

Events that are `Quiet` may still touch pins; `Event.meddles` says which.
-/

namespace Switchboard

open Output (Driver Outcome)

/-- The token, no driver's, that does something about its claims at an event. -/
def Event.actor? : Event → Option Nat
  | .reserve _ t | .confirm _ t | .abandon _ t | .free _ t | .dropToken t => some t
  | _ => none

/-- What an event does to a pin from outside: it may change the level or take the pin away. -/
def Event.meddles (e : Event) (pin : Gpio.Pin) : Bool :=
  match e with
  | .create c => c.pin == pin
  | .pin a | .line a => a.meddles pin
  | .inject q _ => q == pin
  | _ => false

namespace Rig

/-- Nothing happened at an event that concerns drivers and tokens, but to pins that it meddles with. -/
structure Quiet (e : Event) (r r' : Rig) : Prop where
  drivers_eq : r'.drivers = r.drivers
  tokens_eq : r'.tokens = r.tokens
  next_le : r.next ≤ r'.next
  groups_eq : r'.plant.groups = r.plant.groups
  now_le : r.plant.clock.now ≤ r'.plant.clock.now
  board : ∀ {pin}, e.meddles pin = false → r.plant.board.Spares pin r'.plant.board

/-- What an event can do. -/
inductive Move (e : Event) (r : Rig) : Rig → Prop
  /-- Nothing that concerns drivers and tokens. -/
  | quiet {r' : Rig} (quiet : Quiet e r r') : Move e r r'
  /-- A driver has a turn. -/
  | turn {r' : Rig} {n : Nat} {d : Driver} {o : Outcome} (live : r.drivers.get? n = some d)
      (turn : Turn (fun c => e = .command n c) d r.plant o) (alike : o.plant.Alike r'.plant)
      (drivers_eq : r'.drivers = r.drivers.insert n o.driver) (tokens_eq : r'.tokens = r.tokens)
      (next_le : r.next ≤ r'.next) : Move e r r'
  | made {r' : Rig} {c : Output.Config} (told : e = .create c)
      (drivers_eq : r'.drivers = r.drivers.insert r.next (.idle r.next c))
      (tokens_eq : r'.tokens = r.tokens) (next_eq : r'.next = r.next + 1)
      (clock_eq : r'.plant.clock = r.plant.clock)
      (configured : r.plant.board.configure c.pin (.output (c.level false)) .disabled =
        (.ok (), r'.plant.board))
      (groups_eq : r'.plant.groups =
        match c.group with
        | some g => (r.plant.groups.register g).2
        | none => r.plant.groups) : Move e r r'
  /-- A driver is given up. -/
  | closed {r' : Rig} {n : Nat} {d : Driver} (told : e = .close n) (live : r.drivers.get? n = some d)
      (drivers_eq : r'.drivers = r.drivers.erase n) (tokens_eq : r'.tokens = r.tokens)
      (next_eq : r'.next = r.next) (clock_eq : r'.plant.clock = r.plant.clock)
      (board : ∀ {pin}, d.config.pin ≠ pin → r.plant.board.Spares pin r'.plant.board)
      (groups_eq : r'.plant.groups = (d.free r.plant).groups.forget d.token) : Move e r r'
  /-- A group is given a place. -/
  | placed {r' : Rig} {group : Interlock.Group} (told : e = .register group)
      (alike : Plant.Alike { r.plant with groups := (r.plant.groups.register group).2 } r'.plant)
      (drivers_eq : r'.drivers = r.drivers) (tokens_eq : r'.tokens = r.tokens)
      (next_eq : r'.next = r.next) : Move e r r'
  /-- A token does something about its claim on a group. -/
  | claimed {r' : Rig} {s : Nat} {t : Interlock.Token} {group : Interlock.Group}
      {groups : Interlock.Groups} (told : e.actor? = some s) (live : r.tokens.get? s = some t)
      (frame : r.plant.groups.Frame t (some group) groups)
      (alike : Plant.Alike { r.plant with groups } r'.plant) (drivers_eq : r'.drivers = r.drivers)
      (tokens_eq : r'.tokens = r.tokens) (next_eq : r'.next = r.next) : Move e r r'
  | minted (id : Int) (name : String) :
      Move e r { r with tokens := r.tokens.insert r.next ⟨r.next, id, name⟩, next := r.next + 1 }
  /-- A token is given up. -/
  | dropped {s : Nat} {t : Interlock.Token} (told : e = .dropToken s)
      (live : r.tokens.get? s = some t) :
      Move e r { r.setGroups (r.plant.groups.forget t) with tokens := r.tokens.erase s }

variable {r r' r'' : Rig} {e : Event} {n m : Nat} {d : Driver}

theorem Quiet.refl (e : Event) (r : Rig) : Quiet e r r :=
  ⟨rfl, rfl, Nat.le_refl _, rfl, Nat.le_refl _, fun _ => .refl _ _⟩

theorem Quiet.trans (h : Quiet e r r') (h' : Quiet e r' r'') : Quiet e r r'' where
  drivers_eq := h'.drivers_eq.trans h.drivers_eq
  tokens_eq := h'.tokens_eq.trans h.tokens_eq
  next_le := Nat.le_trans h.next_le h'.next_le
  groups_eq := h'.groups_eq.trans h.groups_eq
  now_le := Nat.le_trans h.now_le h'.now_le
  board hm := (h.board hm).trans (h'.board hm)

/-- What happens to the board alone is quiet, as far as the event meddles with no other pins. -/
theorem Quiet.of_board {board : Gpio.Board} (h : Plant.Alike { r.plant with board } r'.plant)
    (hb : ∀ {pin}, e.meddles pin = false → r.plant.board.Spares pin board)
    (hd : r'.drivers = r.drivers) (ht : r'.tokens = r.tokens) (hn : r.next ≤ r'.next) :
    Quiet e r r' where
  drivers_eq := hd
  tokens_eq := ht
  next_le := hn
  groups_eq := h.groups_eq
  now_le := Nat.le_of_eq (by rw [h.clock_eq])
  board hm := by
    rw [h.board_eq]
    exact hb hm

/-! ## Events that no driver notices -/

theorem pump_quiet (e : Event) (r : Rig) (s : Nat) : Quiet e r (r.pump s) := by
  unfold pump
  split
  · exact .refl e r
  · rename_i s hs
    exact .of_board (.refl _) (fun _ => Gpio.Subscription.pump_spares) rfl rfl (Nat.le_refl _)

theorem pumpPin_quiet (e : Event) (r : Rig) (pin : Gpio.Pin) : Quiet e r (r.pumpPin pin) := by
  unfold pumpPin
  generalize r.subscriptions.entries = l
  induction l generalizing r with
  | nil => exact .refl e r
  | cons x rest ih =>
    refine Quiet.trans ?_ (ih _)
    dsimp only
    split
    · exact pump_quiet e r _
    · exact .refl e r

theorem inject_quiet (r : Rig) (pin : Gpio.Pin) (level : Bool) :
    Quiet (.inject pin level) r (r.inject pin level) := by
  have h : Quiet (.inject pin level) r (r.setBench (r.plant.board.bench.inject pin level)) := by
    refine .of_board (.refl _) (fun {q} hm => ?_) rfl rfl (Nat.le_refl _)
    exact Gpio.Board.spares_bench (Gpio.Bench.inject_spares (by simpa [Event.meddles] using hm))
  exact h.trans (pumpPin_quiet _ _ pin)

theorem subscribe_quiet (e : Event) (r : Rig) (pin : Gpio.Pin) (edge : Gpio.EdgeMode) :
    Quiet e r (r.subscribe pin edge).1 := by
  have hb : ∀ {q}, e.meddles q = false →
      r.plant.board.Spares q (r.plant.board.setEdge pin edge).2 :=
    fun _ => Gpio.Board.setEdge_spares
  unfold subscribe
  split
  · exact .refl e r
  · rcases hs : r.plant.board.setEdge pin edge with ⟨result, board⟩
    rw [hs] at hb
    cases result with
    | error err => exact .of_board (.refl _) hb rfl rfl (Nat.le_refl _)
    | ok u => exact .of_board (.refl _) hb rfl rfl (Nat.le_succ _)

theorem receive_quiet (e : Event) (r : Rig) (s : Nat) : Quiet e r (r.receive s).1 := by
  unfold receive
  have h := pump_quiet e r s
  dsimp only
  split
  · exact h
  · rename_i s' hs
    refine (h.trans ?_).trans (pump_quiet e _ s)
    exact ⟨rfl, rfl, Nat.le_refl _, rfl, Nat.le_refl _, fun _ => .refl _ _⟩

theorem cancel_quiet (e : Event) (r : Rig) (s : Nat) : Quiet e r (r.cancel s).1 := by
  unfold cancel
  split
  · exact ⟨rfl, rfl, Nat.le_refl _, rfl, Nat.le_refl _, fun _ => .refl _ _⟩
  · exact .refl e r

theorem awaitPulse_quiet (e : Event) (r : Rig) (q : Nat) : Quiet e r (r.awaitPulse q).1 := by
  unfold awaitPulse
  split
  · exact .refl e r
  · exact ⟨rfl, rfl, Nat.le_refl _, rfl, Nat.le_refl _, fun _ => .refl _ _⟩

/-- Another reading of the clocks, no earlier on the steady one, is quiet. -/
theorem clock_quiet (e : Event) (r : Rig) {clock : Clock} {timer : Nat}
    (h : r.plant.clock.now ≤ clock.now) :
    Quiet e r { r with plant := { r.plant with clock }, timer } :=
  ⟨rfl, rfl, Nat.le_refl _, rfl, h, fun _ => .refl _ _⟩

/-! ## Every event is a move -/

theorem create_move (r : Rig) (c : Output.Config) : Move (.create c) r (r.create c).1 := by
  have hends := Driver.create_cases r.next c r.plant
  unfold create fresh
  dsimp only
  generalize Driver.create r.next c r.plant = x at hends ⊢
  cases hends with
  | unfit unfit => exact .quiet ⟨rfl, rfl, Nat.le_succ _, rfl, Nat.le_refl _, fun _ => .refl _ _⟩
  | failed configure alike =>
    refine .quiet (.of_board alike (fun {q} hm => ?_) rfl rfl (Nat.le_succ _))
    exact Gpio.Board.configure_spares (by simpa [Event.meddles] using hm)
  | made fit configure alike =>
    exact .made rfl rfl rfl rfl alike.clock_eq (Prod.ext configure alike.board_eq.symm) alike.groups_eq

/-- Giving a driver up writes its pin and gives it up, whether the write goes through or not, frees its claim
and forgets its token. -/
theorem close_alike (d : Driver) (p : Plant) :
    Plant.Alike
      { p with
        board := ((p.board.write d.config.pin (d.config.level false)).2.release d.config.pin).2
        groups := (d.free p).groups.forget d.token }
      (d.close p) := by
  rw [d.close_eq]
  dsimp only
  have hwrite := (p.write_eq d.config.pin (d.config.level false)).2.trans
    (d.noteFailure_alike .error "failed to switch off on release: " _)
  generalize d.noteFailure .error _ _ = q at hwrite ⊢
  have hfree : Plant.Alike { q with groups := (d.free p).groups } (d.free q) :=
    Driver.free_groups hwrite.groups_eq
  have hrelease := ((d.free q).release_alike d.config.pin).trans
    (d.noteFailure_alike .warn ("failed to release pin " ++ toString d.config.pin ++ ": ") _)
  generalize d.noteFailure .warn _ _ = q' at hrelease ⊢
  refine ⟨?_, ?_, ?_⟩
  · refine hrelease.board_eq.trans ?_
    rw [hfree.board_eq, hwrite.board_eq]
  · exact congrArg (·.forget d.token) (hrelease.groups_eq.trans hfree.groups_eq)
  · exact hrelease.clock_eq.trans (hfree.clock_eq.trans hwrite.clock_eq)

/-- Giving a driver up touches no pin but its own. -/
theorem close_spares (d : Driver) (p : Plant) {pin : Gpio.Pin} (hne : d.config.pin ≠ pin) :
    p.board.Spares pin (d.close p).board := by
  rw [(close_alike d p).board_eq]
  exact (Gpio.Board.write_spares hne).trans (Gpio.Board.release_spares hne)

theorem close_move (r : Rig) (n : Nat) : Move (.close n) r (r.close n).1 := by
  unfold close
  split
  · exact .quiet (.refl _ r)
  · rename_i d hd
    have ha := close_alike d r.plant
    exact .closed rfl hd rfl rfl rfl ha.clock_eq (close_spares d r.plant) ha.groups_eq

/-- What a driver does in a turn is a move of the rig that it is kept in. -/
theorem keep_move {o : Outcome} (hd : r.drivers.get? n = some d)
    (ht : Turn (fun c => e = .command n c) d r.plant o) : Move e r (r.keep n o) :=
  .turn hd ht (.refl _) rfl rfl (Nat.le_refl _)

theorem tell_move (r : Rig) (n : Nat) (c : Command) : Move (.command n c) r (r.tell n c).1 := by
  unfold tell
  split
  · exact .quiet (.refl _ r)
  · rename_i d hd
    exact keep_move hd (.tell c rfl)

theorem pulse_move (e : Event) (r : Rig) (n : Nat) (millis : Option UInt32) (timed : Bool) :
    Move e r (r.pulse n millis timed).1 := by
  unfold pulse fresh
  split
  · exact .quiet (.refl _ r)
  · rename_i d hd
    split
    · exact .quiet (.refl _ r)
    · dsimp only
      split
      · exact .turn hd (.pulse r.next r.timer millis) (.refl _) rfl rfl (Nat.le_succ _)
      · exact .turn hd (.pulse r.next r.timer millis) (.refl _) rfl rfl (Nat.le_succ _)

theorem finish_move (e : Event) (r : Rig) (n : Nat) (q : Output.Pulse) : Move e r (r.finish n q) := by
  unfold finish
  split
  · exact .quiet (.refl _ r)
  · rename_i d hd
    exact .turn hd (.finish q.number) (.refl _) rfl rfl (Nat.le_refl _)

theorem ring_move (e : Event) (r : Rig) (n number : Nat) : Move e r (r.ring n number) := by
  unfold ring
  split
  · exact .quiet (.refl _ r)
  · rename_i d hd
    split
    · exact keep_move hd (.finish number)
    · split
      · exact finish_move e r n _
      · exact .quiet (.refl _ r)

theorem cancelPulse_move (e : Event) (r : Rig) (q : Nat) : Move e r (r.cancelPulse q).1 := by
  unfold cancelPulse
  split
  · exact .quiet (.refl _ r)
  · rename_i s hs
    dsimp only
    cases hd : r.drivers.get? s.driver with
    | none =>
      rw [Table.modify_eq_self fun d h => by cases hd.symm.trans h]
      exact .quiet ⟨rfl, rfl, Nat.le_refl _, rfl, Nat.le_refl _, fun _ => .refl _ _⟩
    | some d =>
      have hm : r.drivers.modify s.driver (·.cancelPulse q) =
          r.drivers.insert s.driver (d.cancelPulse q) :=
        Table.modify_eq_insert hd
      exact .turn hd (.cancel q) (Plant.note_alike ..) hm rfl (Nat.le_refl _)

/-- What a token does about its claim is a move. -/
theorem withToken_move (r : Rig) (s : Nat) {f : Interlock.Token → Rig × Reply}
    (h : ∀ t, r.tokens.get? s = some t → Move e r (f t).1) : Move e r (r.withToken s f).1 := by
  unfold withToken
  split
  · exact .quiet (.refl _ r)
  · rename_i t ht
    exact h t ht

theorem reserve_move (r : Rig) (group : Interlock.Group) (s : Nat) :
    Move (.reserve group s) r (r.reserve group s).1 := by
  refine withToken_move r s fun t ht => ?_
  split
  · rename_i groups hg
    exact .claimed rfl ht (Interlock.Groups.reserve?_frame hg) (.refl _) rfl rfl rfl
  · exact .quiet (.refl _ r)

theorem confirm_move (r : Rig) (group : Interlock.Group) (s : Nat) :
    Move (.confirm group s) r
      (r.withToken s fun t => ({ r with plant := r.plant.confirm group t }, .done)).1 :=
  withToken_move r s fun t ht =>
    .claimed rfl ht Interlock.Groups.confirm_frame (r.plant.confirm_alike group t) rfl rfl rfl

theorem setGroups_move (r : Rig) {group : Interlock.Group} (s : Nat) (told : e.actor? = some s)
    {f : Interlock.Token → Interlock.Groups} (h : ∀ t, r.plant.groups.Frame t (some group) (f t)) :
    Move e r (r.withToken s fun t => (r.setGroups (f t), .done)).1 :=
  withToken_move r s fun t ht => .claimed told ht (h t) (.refl _) rfl rfl rfl

/-- Everything that can happen at once is a move. -/
theorem step_move (r : Rig) (e : Event) (h : ∀ millis, e ≠ .advance millis) :
    Move e r (r.step e).1 := by
  cases e with
  | create c => exact create_move r c
  | close n => exact close_move r n
  | command n c => exact tell_move r n c
  | pulse n millis timed => exact pulse_move _ r n millis timed
  | cancelPulse q => exact cancelPulse_move _ r q
  | awaitPulse q => exact .quiet (awaitPulse_quiet _ r q)
  | advance millis => exact absurd rfl (h millis)
  | drift nanos => exact .quiet (clock_quiet _ r (Nat.le_add_right _ _))
  | lapse millis => exact .quiet (clock_quiet _ r (Nat.le_refl _))
  | ring n number => exact ring_move _ r n number
  | setWall wall => exact .quiet (clock_quiet _ r (Nat.le_refl _))
  | pin a =>
    exact .quiet (.of_board (r.plant.access_alike a) Gpio.Board.access_spares rfl rfl (Nat.le_refl _))
  | line a =>
    refine .quiet (.of_board (r.plant.accessBench_alike a) (fun hm => ?_) rfl rfl (Nat.le_refl _))
    exact Gpio.Board.spares_bench (Gpio.Bench.access_spares hm)
  | setListener pin listener =>
    exact .quiet (.of_board (.refl _) (fun _ => Gpio.Board.setListener_spares) rfl rfl (Nat.le_refl _))
  | inject pin level => exact .quiet (inject_quiet r pin level)
  | setFailing pin failing =>
    refine .quiet (.of_board (.refl _) (fun _ => ?_) rfl rfl (Nat.le_refl _))
    exact Gpio.Board.spares_bench Gpio.Bench.setFailing_spares
  | subscribe pin edge => exact .quiet (subscribe_quiet _ r pin edge)
  | receive s => exact .quiet (receive_quiet _ r s)
  | cancel s => exact .quiet (cancel_quiet _ r s)
  | unsubscribe s =>
    refine .quiet ?_
    unfold step
    dsimp only
    split
    · exact ⟨rfl, rfl, Nat.le_refl _, rfl, Nat.le_refl _, fun _ => .refl _ _⟩
    · exact .refl _ r
  | register group => exact .placed rfl (r.plant.register_alike group) rfl rfl rfl
  | createToken id name => exact .minted id name
  | dropToken s => exact withToken_move r s fun t ht => .dropped rfl ht
  | reserve group s => exact reserve_move r group s
  | confirm group s => exact confirm_move r group s
  | abandon group s => exact setGroups_move r s rfl fun _ => Interlock.Groups.abandon_frame
  | free group s => exact setGroups_move r s rfl fun _ => Interlock.Groups.release_frame

end Rig

end Switchboard
