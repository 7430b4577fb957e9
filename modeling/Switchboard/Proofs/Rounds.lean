import Switchboard.Proofs.Accounts
import Switchboard.Proofs.GivenUp
import Switchboard.Proofs.MinimumOn
import Switchboard.Proofs.Restart

/-!
# Rounds over the drivers

When the program stops it goes round its drivers three times: each one is shut down, each one is saved, each
one is given up. A round goes on whatever fails, and what it does with one driver it does at that driver's pin
(`Rig.Aside`). So in a round each driver finds its pin and the clock as they were at the start of the round,
and what it leaves there is left at the end (`Hosts.swept`): it is as if each driver had been alone. What the
rounds leave is then what three operations of one driver leave (`stop_ended`).
-/

namespace Switchboard

open Output (Driver)

/-! ## One driver at a time -/

namespace Gpio.Board

variable {pin : Pin} {written : List Bool} {b b' b'' : Board}

theorem Near.refl (pin : Pin) (b : Board) : b.Near pin b :=
  ⟨rfl, rfl, rfl, rfl⟩

theorem Near.trans (h : b.Near pin b') (h' : b'.Near pin b'') : b.Near pin b'' :=
  ⟨h'.pin_eq.trans h.pin_eq, h'.failing_eq.trans h.failing_eq, h'.line_eq.trans h.line_eq,
    h'.written_eq.trans h.written_eq⟩

theorem Near.writes_eq (h : b.Near pin b') : b'.bench.writes pin = b.bench.writes pin := by
  unfold Bench.writes
  rw [h.written_eq]

theorem Drives.near (hd : b.Drives pin) (h : b.Near pin b') : b'.Drives pin := by
  refine ⟨by rw [h.pin_eq]; exact hd.output, ?_⟩
  rw [Bench.level?, h.line_eq]
  exact hd.line

theorem Vacant.near (hv : b.Vacant pin written) (h : b.Near pin b') : b'.Vacant pin written :=
  ⟨h.pin_eq.trans hv.unlisted, h.line_eq.trans hv.lineless, h.writes_eq.trans hv.writes_eq⟩

/-- A write to a driven pin is one more, unless it is made to fail. -/
theorem Drives.write_writes (h : b.Drives pin) (level : Bool) :
    (b.write pin level).2.bench.writes pin =
      b.bench.writes pin ++ if b.bench.isFailing pin then [] else [level] := by
  have hresult := h.write_eq level
  cases hf : b.bench.isFailing pin with
  | true =>
    rw [hf, if_pos rfl] at hresult
    rw [write_failed hresult, if_pos rfl, List.append_nil]
  | false =>
    rw [hf, if_neg Bool.false_ne_true] at hresult
    exact (write_level hresult).2

end Gpio.Board

namespace Output.Driver

variable {d : Driver} {p q : Plant}

/-- To settle looks at the clock only. -/
theorem settle_driver_eq (h : q.clock = p.clock) (on : Bool) (duty : Single) :
    (d.settle q on duty).driver = (d.settle p on duty).driver := by
  unfold settle
  rw [h]

theorem shutdown_config (d : Driver) (p : Plant) : (d.shutdown p).driver.config = d.config :=
  (Frame.forceOff d p none).config_eq

/-- To shut down is a write to the pin, as far as the board is concerned. -/
theorem shutdown_board (d : Driver) (p : Plant) :
    (d.shutdown p).plant.board = (p.board.write d.config.pin (d.config.level false)).2 := by
  have hc := d.forceOff_cases p none
  unfold shutdown
  generalize d.forceOff p none = o at hc ⊢
  cases hc with
  | failed write alike => exact alike.board_eq.trans (Gpio.Board.write_failed write).symm
  | done write clock_eq alike => exact alike.board_eq

/-- What becomes of a driver that is shut down is a matter of its pin and the clock, and of no group. -/
theorem shutdown_driver_eq (hc : q.clock = p.clock) (hb : p.board.Near d.config.pin q.board) :
    (d.shutdown q).driver = (d.shutdown p).driver := by
  have hresult := (hb.write (d.config.level false)).1
  have hp := d.forceOff_cases p none
  have hq := d.forceOff_cases q none
  unfold shutdown
  generalize d.forceOff p none = o at hp ⊢
  generalize d.forceOff q none = o' at hq ⊢
  cases hp with
  | failed write alike =>
    cases hq with
    | failed write' alike' => rfl
    | done write' clock_eq' alike' => cases write'.symm.trans (hresult.trans write)
  | done write clock_eq alike =>
    cases hq with
    | failed write' alike' => cases write'.symm.trans (hresult.trans write)
    | done write' clock_eq' alike' => exact settle_driver_eq (clock_eq'.trans (hc.trans clock_eq.symm)) ..

/-- Whether it could be written or not, a driver that is shut down does not say on. -/
theorem shutdown_isOn (d : Driver) (p : Plant) : (d.shutdown p).driver.status.isOn = false := by
  rcases d.forceOff_ends p none with ⟨-, hs⟩ | ⟨e, -, hs⟩
  · simp only [shutdown, Status.isOn, hs]
    rfl
  · simp only [shutdown, Status.isOn, hs]
    rfl

/-- The time on that ends when a driver is shut down is added to its total, if the pin can be written. -/
theorem shutdown_total (h : p.board.Drives d.config.pin) :
    (d.shutdown p).driver.status.total =
      if d.status.isOn && !p.board.bench.isFailing d.config.pin then
        d.status.total + .ofNat (d.onSince.elim 0 fun t => millisBetween t p.clock.now)
      else d.status.total := by
  have hends : (Act.of d p (d.shutdown p)).ends =
      (d.status.isOn && !p.board.bench.isFailing d.config.pin) := by
    have hresult : (d.shutdown p).result = _ := d.forceOff_result p none
    simp only [Act.ends, Act.of, d.shutdown_isOn p, hresult, h.write_eq]
    cases p.board.bench.isFailing d.config.pin <;> cases d.status.isOn <;> rfl
  have haccount := congrArg Account.total (d.forceOff_account p none)
  rw [← hends]
  exact haccount

end Output.Driver

namespace Rig

variable {n : Nat} {pin : Gpio.Pin} {r r' : Rig} {d : Driver}

/-- What was done with the driver with a serial left the other drivers and pins alone, and the time. -/
structure Aside (n : Nat) (pin : Gpio.Pin) (r r' : Rig) : Prop where
  clock_eq : r'.plant.clock = r.plant.clock
  tokens_eq : r'.tokens = r.tokens
  next_eq : r'.next = r.next
  board : ∀ {i}, i ≠ pin → r.plant.board.Near i r'.plant.board
  driver : ∀ {m}, m ≠ n → r'.drivers.get? m = r.drivers.get? m

/-- Some drivers are those with their serials, each on a driven pin of its own. -/
structure Hosts (l : List (Nat × Driver)) (r : Rig) : Prop where
  live : ∀ x ∈ l, r.drivers.get? x.1 = some x.2
  drives : ∀ x ∈ l, r.plant.board.Drives x.2.config.pin
  serials : l.Pairwise fun x y => x.1 ≠ y.1
  pins : l.Pairwise fun x y => x.2.config.pin ≠ y.2.config.pin

/-- Something was done with some drivers, one after another. -/
structure Swept (f : Rig → Nat → Rig) (l : List (Nat × Driver)) (r r' : Rig) : Prop where
  clock_eq : r'.plant.clock = r.plant.clock
  tokens_eq : r'.tokens = r.tokens
  next_eq : r'.next = r.next
  board : ∀ {i}, (∀ x ∈ l, x.2.config.pin ≠ i) → r.plant.board.Near i r'.plant.board
  driver : ∀ {m}, (∀ x ∈ l, x.1 ≠ m) → r'.drivers.get? m = r.drivers.get? m
  /-- It was done with each on a rig that had the clock and the pin of the driver as they were at the start,
  and nobody changed after it what it left there. -/
  each : ∀ x ∈ l, ∃ q : Rig, q.drivers.get? x.1 = some x.2 ∧ q.plant.clock = r.plant.clock ∧
    r.plant.board.Near x.2.config.pin q.plant.board ∧
    (f q x.1).plant.board.Near x.2.config.pin r'.plant.board ∧
    r'.drivers.get? x.1 = (f q x.1).drivers.get? x.1

/-- After something was done aside with one driver, others are still there. -/
theorem Hosts.aside {l : List (Nat × Driver)} (h : r.Hosts l) (ha : Aside n pin r r')
    (hn : ∀ x ∈ l, n ≠ x.1) (hp : ∀ x ∈ l, pin ≠ x.2.config.pin) : r'.Hosts l where
  live x hx := (ha.driver (Ne.symm (hn x hx))).trans (h.live x hx)
  drives x hx := (h.drives x hx).near (ha.board (Ne.symm (hp x hx)))
  serials := h.serials
  pins := h.pins

/-- What is done with each driver aside from the others is done as if each was alone. -/
theorem Hosts.swept {f : Rig → Nat → Rig} {l : List (Nat × Driver)} (hm : r.Hosts l)
    (hf : ∀ {r n d}, r.drivers.get? n = some d → r.plant.board.Drives d.config.pin →
      Aside n d.config.pin r (f r n)) :
    Swept f l r ((l.map Prod.fst).foldl f r) := by
  -- By induction on the drivers still to come, for every rig that the ones before may leave.
  induction l generalizing r with
  | nil => exact ⟨rfl, rfl, rfl, fun _ => .refl _ _, fun _ => rfl, fun _ hx => absurd hx List.not_mem_nil⟩
  | cons x rest ih =>
    obtain ⟨hn, hserials⟩ := List.pairwise_cons.1 hm.serials
    obtain ⟨hp, hpins⟩ := List.pairwise_cons.1 hm.pins
    obtain ⟨hlive, hlive'⟩ := List.forall_mem_cons.1 hm.live
    obtain ⟨hdrives, hdrives'⟩ := List.forall_mem_cons.1 hm.drives
    have ha := hf hlive hdrives
    have hs := ih (Hosts.aside ⟨hlive', hdrives', hserials, hpins⟩ ha hn hp)
    refine ⟨hs.clock_eq.trans ha.clock_eq, hs.tokens_eq.trans ha.tokens_eq, hs.next_eq.trans ha.next_eq,
      fun hi => ?_, fun hi => ?_, ?_⟩
    · obtain ⟨hi, hi'⟩ := List.forall_mem_cons.1 hi
      exact (ha.board (Ne.symm hi)).trans (hs.board hi')
    · obtain ⟨hi, hi'⟩ := List.forall_mem_cons.1 hi
      exact (hs.driver hi').trans (ha.driver (Ne.symm hi))
    · refine List.forall_mem_cons.2 ⟨?_, fun y hy => ?_⟩
      · exact ⟨r, hlive, rfl, .refl _ _, hs.board fun y hy => Ne.symm (hp y hy),
          hs.driver fun y hy => Ne.symm (hn y hy)⟩
      · obtain ⟨q, hq, hclock, hnear, hleft, hdriver⟩ := hs.each y hy
        exact ⟨q, hq, hclock.trans ha.clock_eq, (ha.board (Ne.symm (hp y hy))).trans hnear, hleft, hdriver⟩

end Rig

/-! ## Rounds -/

namespace Control

variable {failure : String} {l : List (Nat × Driver)} {r : Rig} {n : Nat} {d : Driver}

/-- One driver's part of a round in which every driver is told the same. -/
def tellOne (c : Command) (failure : String) (r : Rig) (n : Nat) : Rig :=
  tellAll c failure [n] r

/-- To tell a driver is what the driver does, with an entry in the log if it fails. -/
theorem tellOne_eq (c : Command) (failure : String) (hd : r.drivers.get? n = some d) :
    ∃ p, (Rig.obey d r.plant c).plant.Alike p ∧
      tellOne c failure r n = { r.keep n (Rig.obey d r.plant c) with plant := p } := by
  simp only [tellOne, tellAll, List.foldl_cons, List.foldl_nil, Rig.tell, hd]
  cases (Rig.obey d r.plant c).result with
  | ok u => exact ⟨_, .refl _, rfl⟩
  | error e => exact ⟨_, Plant.note_alike .., rfl⟩

theorem tellOne_wellFormed (hw : r.WellFormed) (c : Command) (failure : String) (n : Nat) :
    (tellOne c failure r n).WellFormed := by
  cases hd : r.drivers.get? n with
  | none =>
    simp only [tellOne, tellAll, List.foldl_cons, List.foldl_nil, hd]
    exact hw
  | some d =>
    have hstep := hw.step (.command n c)
    obtain ⟨p, ha, he⟩ := tellOne_eq c failure hd
    simp only [Rig.step, Rig.tell, hd] at hstep
    rw [he]
    exact hstep.of_claims rfl rfl (Nat.le_refl _) fun hc hu => hstep.owner (ha.groups_eq ▸ hc) hu

theorem shutdownOne_driver (failure : String) (hd : r.drivers.get? n = some d) :
    (tellOne .shutdown failure r n).drivers.get? n = some (d.shutdown r.plant).driver := by
  obtain ⟨p, -, he⟩ := tellOne_eq .shutdown failure hd
  rw [he]
  exact Table.get?_insert_self

theorem shutdownOne_board (failure : String) (hd : r.drivers.get? n = some d) :
    (tellOne .shutdown failure r n).plant.board =
      (r.plant.board.write d.config.pin (d.config.level false)).2 := by
  obtain ⟨p, ha, he⟩ := tellOne_eq .shutdown failure hd
  rw [he]
  exact ha.board_eq.trans (d.shutdown_board r.plant)

/-- A driver is shut down aside from the others. -/
theorem shutdownOne_aside (hd : r.drivers.get? n = some d) :
    r.Aside n d.config.pin (tellOne .shutdown failure r n) := by
  have hboard := shutdownOne_board failure hd
  obtain ⟨p, ha, he⟩ := tellOne_eq .shutdown failure hd
  rw [he] at hboard ⊢
  refine ⟨ha.clock_eq.trans (Frame.forceOff d r.plant none).clock_eq, rfl, rfl, fun hi => ?_,
    fun hm => ?_⟩
  · exact hboard ▸ (Gpio.Board.write_away ..).near hi
  · exact Table.get?_insert_of_ne (Ne.symm hm)

theorem closeOne_board (hd : r.drivers.get? n = some d) (hb : r.plant.board.Drives d.config.pin) :
    (r.close n).1.plant.board = r.plant.board.vacated d.config.pin (d.config.level false) := by
  simp only [Rig.close, hd]
  exact (Rig.close_alike d r.plant).board_eq.trans (hb.close_eq _)

/-- A driver is given up aside from the others. -/
theorem closeOne_aside (hd : r.drivers.get? n = some d) (hb : r.plant.board.Drives d.config.pin) :
    r.Aside n d.config.pin (r.close n).1 := by
  have hboard := closeOne_board hd hb
  simp only [Rig.close, hd] at hboard ⊢
  refine ⟨(Rig.close_alike d r.plant).clock_eq, rfl, rfl, fun hi => ?_, fun hm => ?_⟩
  · exact hboard ▸ Gpio.Board.vacated_near _ hi
  · exact Table.get?_erase_of_ne (Ne.symm hm)

/-- A driver with its serial, after it was shut down. -/
def halted (p : Plant) (x : Nat × Driver) : Nat × Driver :=
  (x.1, (x.2.shutdown p).driver)

/-- What is left when every driver has been shut down. -/
structure Halted (l : List (Nat × Driver)) (r r' : Rig) : Prop where
  clock_eq : r'.plant.clock = r.plant.clock
  tokens_eq : r'.tokens = r.tokens
  next_eq : r'.next = r.next
  others : ∀ {m}, (∀ x ∈ l, x.1 ≠ m) → r'.drivers.get? m = r.drivers.get? m
  hosts : r'.Hosts (l.map (halted r.plant))
  failing_eq : ∀ x ∈ l, r'.plant.board.bench.isFailing x.2.config.pin =
    r.plant.board.bench.isFailing x.2.config.pin
  writes_eq : ∀ x ∈ l, r'.plant.board.bench.writes x.2.config.pin =
    r.plant.board.bench.writes x.2.config.pin ++
      if r.plant.board.bench.isFailing x.2.config.pin then [] else [x.2.config.level false]

/-- A driver that is shut down in a round is left as if it was the only one. -/
theorem shutdown_each {r' : Rig} (hs : Rig.Swept (tellOne .shutdown failure) l r r') {x : Nat × Driver}
    (hx : x ∈ l) :
    r'.drivers.get? x.1 = some (x.2.shutdown r.plant).driver ∧
      (r.plant.board.write x.2.config.pin (x.2.config.level false)).2.Near x.2.config.pin r'.plant.board := by
  obtain ⟨q, hq, hclock, hnear, hleft, hdriver⟩ := hs.each x hx
  rw [shutdownOne_driver failure hq, Driver.shutdown_driver_eq hclock hnear] at hdriver
  rw [shutdownOne_board failure hq] at hleft
  exact ⟨hdriver, (hnear.write _).2.trans hleft⟩

theorem shutdown_halted (hm : r.Hosts l) : Halted l r (shutdown (l.map Prod.fst) r) := by
  have hs : Rig.Swept (tellOne .shutdown "failed to switch off") l r (shutdown (l.map Prod.fst) r) :=
    hm.swept fun hd _ => shutdownOne_aside hd
  generalize shutdown (l.map Prod.fst) r = r' at hs ⊢
  refine ⟨hs.clock_eq, hs.tokens_eq, hs.next_eq, hs.driver, ⟨?_, ?_, ?_, ?_⟩, fun x hx => ?_,
    fun x hx => ?_⟩
  · refine List.forall_mem_map.2 fun x hx => ?_
    exact (shutdown_each hs hx).1
  · refine List.forall_mem_map.2 fun x hx => ?_
    have hdrives := (hm.drives x hx).framed
      (Gpio.Board.write_frame r.plant.board x.2.config.pin (x.2.config.level false))
    simp only [halted, Driver.shutdown_config]
    exact hdrives.near (shutdown_each hs hx).2
  · exact List.pairwise_map.2 hm.serials
  · refine List.pairwise_map.2 (hm.pins.imp fun hne => ?_)
    simpa only [halted, Driver.shutdown_config] using hne
  · rw [(shutdown_each hs hx).2.failing_eq]
    exact congrArg (·.contains x.2.config.pin) (Gpio.Board.write_frame ..).failing_eq
  · rw [(shutdown_each hs hx).2.writes_eq]
    exact (hm.drives x hx).write_writes _

/-- What is left when every driver has been given up. -/
structure Closed (l : List (Nat × Driver)) (r r' : Rig) : Prop where
  tokens_eq : r'.tokens = r.tokens
  next_eq : r'.next = r.next
  others : ∀ {m}, (∀ x ∈ l, x.1 ≠ m) → r'.drivers.get? m = r.drivers.get? m
  gone : ∀ x ∈ l, r'.drivers.get? x.1 = none
  vacant : ∀ x ∈ l, r'.plant.board.Vacant x.2.config.pin
    (r.plant.board.bench.writes x.2.config.pin ++
      if r.plant.board.bench.isFailing x.2.config.pin then [] else [x.2.config.level false])

theorem close_closed (hm : r.Hosts l) : Closed l r (close (l.map Prod.fst) r) := by
  have hs : Rig.Swept (fun r n => (r.close n).1) l r (close (l.map Prod.fst) r) :=
    hm.swept closeOne_aside
  generalize close (l.map Prod.fst) r = r' at hs ⊢
  refine ⟨hs.tokens_eq, hs.next_eq, hs.driver, fun x hx => ?_, fun x hx => ?_⟩
  · obtain ⟨q, hq, -, -, -, hdriver⟩ := hs.each x hx
    rw [hdriver]
    simp only [Rig.close, hq, Table.get?_erase_self]
  · obtain ⟨q, hq, -, hnear, hleft, -⟩ := hs.each x hx
    have hv := q.plant.board.vacated_vacant x.2.config.pin (x.2.config.level false)
    rw [← closeOne_board hq ((hm.drives x hx).near hnear), hnear.writes_eq, hnear.failing_eq] at hv
    exact hv.near hleft

/-! ## All rounds -/

/-- What is left of some drivers, and of the rig, when the program has stopped. -/
structure Ended (l : List (Nat × Driver)) (r : Rig) (store : Store) (r' : Rig) : Prop where
  tokens_eq : r'.tokens = r.tokens
  next_eq : r'.next = r.next
  wellFormed : r'.WellFormed
  others : ∀ {m}, (∀ x ∈ l, x.1 ≠ m) → r'.drivers.get? m = r.drivers.get? m
  gone : ∀ x ∈ l, r'.drivers.get? x.1 = none
  /-- The level that leaves an output off is written twice, when it is shut down and when it is given up. -/
  vacant : ∀ x ∈ l, r'.plant.board.Vacant x.2.config.pin
    (r.plant.board.bench.writes x.2.config.pin ++
      if r.plant.board.bench.isFailing x.2.config.pin then []
      else [x.2.config.level false, x.2.config.level false])
  bare : r'.plant.board.pins = .empty ∧ r'.plant.board.bench.lines = .empty
  saved : ∀ x ∈ l, store.states.get? x.2.config.id =
    some (.ofRow (.ofStatus x.2.config.id (x.2.shutdown r.plant).driver.status r.plant.clock.wall))

theorem foldl_wellFormed {f : Rig → Nat → Rig} (hf : ∀ r n, r.WellFormed → (f r n).WellFormed)
    (serials : List Nat) (hw : r.WellFormed) : (serials.foldl f r).WellFormed := by
  induction serials generalizing r with
  | nil => exact hw
  | cons n rest ih => exact ih (hf r n hw)

theorem noted_hosts (hm : r.Hosts l) (level : Log.Level) (text : String) :
    (Startup.note r level text).Hosts l :=
  ⟨hm.live, hm.drives, hm.serials, hm.pins⟩

theorem halted_noted (hm : r.Hosts l) (level : Log.Level) (text : String) :
    Halted l r (shutdown (l.map Prod.fst) (Startup.note r level text)) := by
  have h := shutdown_halted (noted_hosts hm level text)
  have hsame : halted (Startup.note r level text).plant = halted r.plant :=
    funext fun x => congrArg (x.1, ·) (Driver.shutdown_driver_eq rfl (.refl ..))
  exact ⟨h.clock_eq, h.tokens_eq, h.next_eq, h.others, hsame ▸ h.hosts, h.failing_eq, h.writes_eq⟩

theorem drivers_of_hosts (hm : r.Hosts l) : drivers r (l.map Prod.fst) = l.map Prod.snd := by
  unfold drivers
  rw [List.filterMap_map, ← List.filterMap_eq_map]
  exact List.filterMap_congr fun x hx => hm.live x hx

/-- To save the states of drivers with ids of their own leaves a row for each. -/
theorem persist_saved {store : Store} (h : store.migrated = true) (hm : r.Hosts l)
    (hids : l.Pairwise fun x y => x.2.config.id ≠ y.2.config.id) {x : Nat × Driver} (hx : x ∈ l) :
    (persist (l.map Prod.fst) store r).1.states.get? x.2.config.id =
      some (.ofRow (.ofStatus x.2.config.id x.2.status r.plant.clock.wall)) := by
  rw [persist_eq h, Store.after_saves h, drivers_of_hosts hm]
  have hrows : (rows (l.map Prod.snd) r.plant.clock.wall).Pairwise fun row row' => row.id ≠ row'.id :=
    List.pairwise_map.2 (List.pairwise_map.2 hids)
  exact Table.get?_insertAll_of_mem hrows (List.mem_map_of_mem (List.mem_map_of_mem hx))

/-- The rounds of a stop, one after another. -/
theorem stop_eq {store : Store} (h : store.migrated = true) (serials : List Nat) (r : Rig) :
    stop serials (some store) r =
      let r₁ := shutdown serials (Startup.note r .info "Stopping safely...")
      let r₂ := close serials
        (Startup.note r₁ .debug ("Persisted state of " ++ toString serials.length ++ " outputs"))
      (some (persist serials store r₁).1,
        Startup.note { r₂ with plant := r₂.plant.shutdown } .info "Stopped safely.") := by
  unfold stop persist?
  dsimp only
  rw [persist_eq h]

theorem stop_ended {store : Store} (h : store.migrated = true) (hw : r.WellFormed) (hm : r.Hosts l)
    (hids : l.Pairwise fun x y => x.2.config.id ≠ y.2.config.id) :
    ∃ store' r', stop (l.map Prod.fst) (some store) r = (some store', r') ∧ Ended l r store' r' := by
  refine ⟨_, _, stop_eq h (l.map Prod.fst) r, ?_⟩
  have hw₁ : (shutdown (l.map Prod.fst) (Startup.note r .info "Stopping safely...")).WellFormed :=
    foldl_wellFormed (fun r n hw => tellOne_wellFormed hw ..) _ (Startup.note_wellFormed hw ..)
  have hshut := halted_noted hm .info "Stopping safely..."
  generalize shutdown (l.map Prod.fst) (Startup.note r .info "Stopping safely...") = r₁ at hw₁ hshut ⊢
  have hserials : (l.map (halted r.plant)).map Prod.fst = l.map Prod.fst := List.map_map ..
  have hids' : (l.map (halted r.plant)).Pairwise fun x y => x.2.config.id ≠ y.2.config.id := by
    refine List.pairwise_map.2 (hids.imp fun hne => ?_)
    simpa only [halted, Driver.shutdown_config] using hne
  have hsaved := fun x (hx : x ∈ l) => persist_saved h hshut.hosts hids' (List.mem_map_of_mem hx)
  rw [hserials] at hsaved
  -- The entry in the log between the rounds changes nothing else.
  generalize "Persisted state of " ++ toString (l.map Prod.fst).length ++ " outputs" = text
  have hw₂ : (close (l.map Prod.fst) (Startup.note r₁ .debug text)).WellFormed :=
    foldl_wellFormed (fun r n hw => hw.step (.close n)) _ (Startup.note_wellFormed hw₁ ..)
  have hclosed := close_closed (noted_hosts hshut.hosts .debug text)
  rw [hserials] at hclosed
  generalize close (l.map Prod.fst) (Startup.note r₁ .debug text) = r₂ at hw₂ hclosed ⊢
  have hgroups : r₂.plant.shutdown.groups = r₂.plant.groups := (r₂.plant.access_alike .shutdown).groups_eq
  refine
    { tokens_eq := hclosed.tokens_eq.trans hshut.tokens_eq
      next_eq := hclosed.next_eq.trans hshut.next_eq
      wellFormed := hw₂.of_claims rfl rfl (Nat.le_refl _) fun hc hu => hw₂.owner (hgroups ▸ hc) hu
      others := fun hn => ?_
      gone := fun x hx => hclosed.gone (halted r.plant x) (List.mem_map_of_mem hx)
      vacant := fun x hx => ?_
      bare := ⟨rfl, rfl⟩
      saved := fun x hx => ?_ }
  · refine (hclosed.others fun y hy => ?_).trans (hshut.others hn)
    obtain ⟨x, hx, rfl⟩ := List.mem_map.1 hy
    exact hn x hx
  · have hv : r₂.plant.board.shutdown.Vacant x.2.config.pin
        (r₁.plant.board.bench.writes x.2.config.pin ++
          if r₁.plant.board.bench.isFailing x.2.config.pin then [] else [x.2.config.level false]) := by
      have hv := (hclosed.vacant (halted r.plant x) (List.mem_map_of_mem hx)).shutdown
      simp only [halted, Driver.shutdown_config] at hv
      exact hv
    rw [hshut.writes_eq x hx, hshut.failing_eq x hx, List.append_assoc] at hv
    cases hf : r.plant.board.bench.isFailing x.2.config.pin <;> rw [hf] at hv <;> exact hv
  · have hrow := hsaved x hx
    simp only [halted, Driver.shutdown_config, hshut.clock_eq] at hrow
    exact hrow

end Control

end Switchboard
