import Switchboard.Proofs.Energised
import Switchboard.Proofs.Interference
import Switchboard.Proofs.Marks
import Switchboard.Proofs.Touches

/-!
# What is left of a driver that is given up

Nothing stops a driver from being given up: its gates are not asked, and no step waits for the one before to
succeed. On a pin that is still its own the whole effect on the board is one equation (`Drives.close_eq`),
and on the groups it is that the token is forgotten (`Driver.free_forget`). A driver that is sound has no
claim but on its own group, so no other group notices.

What follows later is that nothing happens. A pin that no table knows stays so, and is not written, until
someone takes it (`Vacant`, `run_vacant`). A pulse whose driver is gone has no one to switch off; no other
driver's pulse has its handle, so it ends well whenever that is asked for (`run_orphan`).
-/

namespace Switchboard

open Output (Driver Outcome Pulse)

/-- A pin is taken at an event, for a driver or by hand. -/
def Event.takes (e : Event) (pin : Gpio.Pin) : Bool :=
  match e with
  | .create c => c.pin == pin
  | .pin (.configure q _ _) | .line (.configure q _ _) => q == pin
  | _ => false

/-! ## A pin that no table knows -/

namespace Gpio.Board

/-- Neither the table nor the bench has a pin, and so far some levels were written to it. -/
structure Vacant (pin : Pin) (written : List Bool) (b : Board) : Prop where
  unlisted : b.pins.get? pin = none
  lineless : b.bench.lines.get? pin = none
  writes_eq : b.bench.writes pin = written

variable {pin q : Pin} {written : List Bool} {b b' : Board}

theorem Vacant.spared (h : b.Vacant pin written) (hs : b.Spares pin b') : b'.Vacant pin written where
  unlisted := by
    have hm := hs.mode_eq
    rwa [h.unlisted, Option.map_none, Option.map_eq_none_iff] at hm
  lineless := by
    have hl := hs.bench.level_eq
    rwa [Bench.level?, Bench.level?, h.lineless, Option.map_none, Option.map_eq_none_iff] at hl
  writes_eq := hs.bench.writes_eq.trans h.writes_eq

theorem Vacant.write (h : b.Vacant pin written) (q : Pin) (level : Bool) :
    (b.write q level).2.Vacant pin written := by
  by_cases hq : q = pin
  · subst hq
    have hw : (b.write q level).2 = b := by simp [Board.write, h.unlisted]
    rwa [hw]
  · exact h.spared (write_spares hq)

theorem Vacant.release (h : b.Vacant pin written) (q : Pin) : (b.release q).2.Vacant pin written := by
  by_cases hq : q = pin
  · subst hq
    have hr : (b.release q).2 = b := by simp [Board.release, Table.contains, h.unlisted]
    rwa [hr]
  · exact h.spared (release_spares hq)

theorem Vacant.shutdown (h : b.Vacant pin written) : b.shutdown.Vacant pin written :=
  ⟨rfl, rfl, h.writes_eq⟩

/-- Below the table a pin without a line can only be configured. -/
theorem Vacant.accessBench (h : b.Vacant pin written) {a : Access}
    (ha : (Event.line a).takes pin = false) :
    Vacant pin written { b with bench := (b.bench.access a).2 } := by
  have hline : b.bench.lines.contains pin = false := by simp [Table.contains, h.lineless]
  cases hm : a.meddles pin with
  | false => exact h.spared (spares_bench (Bench.access_spares hm))
  | true =>
    cases a with
    | shutdown => exact ⟨h.unlisted, rfl, h.writes_eq⟩
    | configure q mode pull => cases ha.symm.trans hm
    | release q =>
      obtain rfl : q = pin := by simpa [Access.meddles] using hm
      have hr : (b.bench.access (.release q)).2 = b.bench := by
        simp [Bench.access, Bench.release, hline, Answer.ofStep]
      rwa [hr]
    | write q level =>
      obtain rfl : q = pin := by simpa [Access.meddles] using hm
      have hw : (b.bench.access (.write q level)).2 = b.bench := by
        cases hf : b.bench.isFailing q <;> simp [Bench.access, Bench.write, hf, hline, Answer.ofStep]
      rwa [hw]
    | init | read _ | setEdge _ _ | waitEdge _ => cases hm

theorem Vacant.access (h : b.Vacant pin written) {a : Access} (ha : (Event.pin a).takes pin = false) :
    (b.access a).2.Vacant pin written := by
  cases hm : a.meddles pin with
  | false => exact h.spared (access_spares hm)
  | true =>
    cases a with
    | shutdown => exact h.shutdown
    | configure q mode pull => cases ha.symm.trans hm
    | release q => exact h.release q
    | write q level => exact h.write q level
    | init | read _ | setEdge _ _ | waitEdge _ => cases hm

/-- No operation takes a pin, or writes it, but at an event that takes it. -/
theorem Vacant.touch {e : Event} (h : b.Vacant pin written) (he : e.takes pin = false)
    (ht : b.Touch e b') : b'.Vacant pin written := by
  cases ht with
  | write q level => exact h.write q level
  | take told => exact h.spared (configure_spares (by simpa [told, Event.takes] using he))
  | giveUp told q => exact h.release q
  | access told => exact h.access (told ▸ he)
  | accessBench told => exact h.accessBench (told ▸ he)
  | watch told => exact h.spared setEdge_spares
  | takeEdge taken => exact h.spared (takeEdge_spares taken)
  | setListener q listener => exact h.spared setListener_spares
  | @inject q level told =>
    by_cases hq : q = pin
    · subst hq
      have hi : b.bench.inject q level = b.bench := by
        unfold Bench.inject
        rw [Table.modify_eq_self fun l hl => by cases h.lineless.symm.trans hl]
      rwa [hi]
    · exact h.spared (spares_bench (Bench.inject_spares hq))
  | setFailing told => exact h.spared (spares_bench Bench.setFailing_spares)

/-! ## Giving up a pin that is driven -/

/-- The board after a last write of a level to a pin, if it goes through, without the pin. -/
def vacated (b : Board) (pin : Pin) (level : Bool) : Board :=
  { b with
    pins := b.pins.erase pin
    bench :=
      { b.bench with
        lines := b.bench.lines.erase pin
        written :=
          if b.bench.isFailing pin then b.bench.written
          else b.bench.written.insert pin (b.bench.writes pin ++ [level]) } }

/-- A driven pin is given up after a last write, whether that goes through or not. -/
theorem Drives.close_eq (h : b.Drives pin) (level : Bool) :
    ((b.write pin level).2.release pin).2 = b.vacated pin level := by
  obtain ⟨s, hs, ho⟩ := h.listed
  have hc : b.pins.contains pin = true := Table.contains_of_get? hs
  have hl := h.has_line
  cases hf : b.bench.isFailing pin with
  | true => simp [write, Bench.write, release, Bench.release, vacated, hs, ho, hf, hc, hl]
  | false =>
    simp [write, Bench.write, release, Bench.release, vacated, hs, ho, hf, hc, hl, Table.erase_modify]

theorem vacated_vacant (b : Board) (pin : Pin) (level : Bool) :
    (b.vacated pin level).Vacant pin
      (b.bench.writes pin ++ if b.bench.isFailing pin then [] else [level]) := by
  refine ⟨Table.get?_erase_self, Table.get?_erase_self, ?_⟩
  unfold vacated
  cases b.bench.isFailing pin <;> simp [Bench.writes]

/-- The other pins do not notice. -/
theorem vacated_near (b : Board) {level : Bool} (hq : q ≠ pin) : b.Near q (b.vacated pin level) := by
  refine ⟨Table.get?_erase_of_ne (Ne.symm hq), rfl, Table.get?_erase_of_ne (Ne.symm hq), ?_⟩
  unfold vacated
  cases b.bench.isFailing pin <;> simp [Table.get?_insert_of_ne (Ne.symm hq)]

end Gpio.Board

/-! ## The claims of a driver that is given up -/

namespace Output.Driver

variable {d : Driver} {p : Plant} {group : Interlock.Group}

/-- To forget the token of a driver is to free its claim too. -/
theorem free_forget (d : Driver) (p : Plant) :
    (d.free p).groups.forget d.token = p.groups.forget d.token := by
  unfold free
  cases d.config.group with
  | none => rfl
  | some g =>
    simp only [Interlock.Groups.release, Interlock.Groups.forget, Interlock.Groups.mk.injEq, true_and]
    ext1 group
    rw [Table.get?_map, Table.get?_map, Table.get?_modify]
    split
    · rw [Option.map_map]
      refine Option.map_congr fun c _ => ?_
      by_cases hc : c.isOf d.token = true
      · simp only [Function.comp_apply, hc, if_true, ite_self]
      · simp only [Function.comp_apply, hc, Bool.false_eq_true, if_false]
    · rfl

/-- A driver that is sound has the claim that it holds and no other. -/
theorem Sound.isOf_iff (h : d.Sound p) {c : Interlock.Claim}
    (hc : p.groups.claims.get? group = some c) :
    c.isOf d.token = true ↔ d.config.group = some group ∧ c = .held d.token := by
  constructor
  · intro hof
    obtain ⟨hg, he, -⟩ := h.claim hc (Interlock.Claim.isOf_iff.1 hof)
    exact ⟨hg, he⟩
  · rintro ⟨-, rfl⟩
    exact Interlock.Claim.isOf_iff.2 belongsTo_token

/-- A group that a sound driver does not hold keeps the claim that is on it. -/
theorem Sound.forget_kept (h : d.Sound p) (hh : p.groups.holder? group ≠ some d.token) :
    (p.groups.forget d.token).claims.get? group = p.groups.claims.get? group := by
  rw [Interlock.Groups.forget, Table.get?_map]
  cases hc : p.groups.claims.get? group with
  | none => rfl
  | some c =>
    have hnot : c.isOf d.token ≠ true := by
      intro hof
      obtain ⟨-, rfl⟩ := (h.isOf_iff hc).1 hof
      exact hh (Interlock.Groups.holder?_eq_some_iff.2 hc)
    simp [hnot]

end Output.Driver

/-! ## The pulses of a driver that is given up -/

namespace Rig

variable {r : Rig} {e : Event} {n k : Nat} {d : Driver} {s : Started}

/-- The end of a pulse is told to its own handle only. -/
theorem finishAll_started {l : List (Nat × Pulse)} (hl : ∀ x ∈ l, x.2.serial ≠ k) :
    (r.finishAll l).started.get? k = r.started.get? k := by
  induction l generalizing r with
  | nil => rfl
  | cons x rest ih =>
    obtain ⟨hx, hrest⟩ := List.forall_mem_cons.1 hl
    rw [finishAll_cons, ih hrest]
    unfold finish
    split
    · rfl
    · exact Table.get?_modify_of_ne hx

/-- No pulse of a driver that is there has the handle of a pulse whose driver is gone. -/
theorem Dealt.serial_ne (h : r.Dealt) (hn : r.drivers.get? n = none) (hs : r.started.get? k = some s)
    (hm : s.driver = n) {m : Nat} {d : Driver} {q : Pulse} (hd : r.drivers.get? m = some d)
    (hq : d.pulse = some q) : q.serial ≠ k := by
  rintro rfl
  have hmn : n = m := hm.symm.trans ((h.begun hd hq).handle s hs)
  cases hn.symm.trans (hmn ▸ hd)

/-- The handle of a pulse whose driver is gone stays as it is until it is asked for. -/
theorem step_orphan (h : r.Dealt) (hn : r.drivers.get? n = none) (hs : r.started.get? k = some s)
    (hm : s.driver = n) (he : e ≠ .awaitPulse k) : (r.step e).1.started.get? k = some s := by
  cases e with
  | create c =>
    simp only [step, create, fresh]
    split <;> exact hs
  | close m =>
    simp only [step, close]
    split <;> exact hs
  | command m c =>
    simp only [step, tell]
    split <;> exact hs
  | pulse m millis timed =>
    simp only [step, Rig.pulse, fresh]
    split
    · exact hs
    · split
      · exact hs
      · split
        · exact hs
        · exact (Table.get?_insert_of_ne (Nat.ne_of_gt (h.handle_lt hs))).trans hs
  | cancelPulse k' =>
    simp only [step, cancelPulse]
    split <;> exact hs
  | awaitPulse k' =>
    simp only [step, awaitPulse]
    split
    · exact hs
    · exact (Table.get?_erase_of_ne fun hk => he (congrArg _ hk)).trans hs
  | advance millis =>
    refine (finishAll_started (r := r.elapse millis) fun x hx => ?_).trans hs
    obtain ⟨d, hd, hq, -⟩ := mem_due.1 hx
    exact h.serial_ne hn hs hm hd hq
  | ring m number =>
    simp only [step, ring]
    split
    · exact hs
    · rename_i d hd
      split
      · exact hs
      · rename_i q hq
        split
        · have hne := h.serial_ne hn hs hm hd (Option.filter_eq_some_iff.1 hq).1
          exact (finishAll_started (l := [(m, q)]) (by simpa using hne)).trans hs
        · exact hs
  | _ =>
    rw [(step_beside rfl).started_eq]
    exact hs

theorem run_orphan (hw : r.WellFormed) (h : r.Dealt) (hlt : n < r.next) (hn : r.drivers.get? n = none)
    (hs : r.started.get? k = some s) (hm : s.driver = n) {es : List Event}
    (he : Event.awaitPulse k ∉ es) : (r.run es).started.get? k = some s := by
  induction es generalizing r with
  | nil => exact hs
  | cons e es ih =>
    rw [List.mem_cons, not_or] at he
    have hn' : (r.step e).1.drivers.get? n = none := run_absent hw hlt hn [e]
    exact ih (hw.step e) (h.step hw e) (Nat.lt_of_lt_of_le hlt (step_next_le r e)) hn'
      (step_orphan h hn hs hm (Ne.symm he.1)) he.2

/-- Whoever asks for the end of a pulse whose driver is gone is told that it ended well. -/
theorem awaitPulse_orphan (hn : r.drivers.get? n = none) (hs : r.started.get? k = some s)
    (hm : s.driver = n) (hend : s.ended = none) :
    (r.step (.awaitPulse k)).2 = .done ∧ (r.step (.awaitPulse k)).1.plant = r.plant := by
  have hp : r.isPending k = false := by simp [isPending, hs, hm, hn]
  simp [step, awaitPulse, hs, hp, hend, outputReply]

/-! ## Giving a driver up -/

theorem run_vacant {pin : Gpio.Pin} {written : List Bool} (h : r.plant.board.Vacant pin written)
    {es : List Event} (he : es.all (!·.takes pin) = true) :
    (r.run es).plant.board.Vacant pin written :=
  run_touches (fun he ht hb => hb.touch (by simpa using he) ht) h he

theorem step_close (hd : r.drivers.get? n = some d) :
    (r.step (.close n)).1 = { r with plant := d.close r.plant, drivers := r.drivers.erase n } := by
  simp only [step, close, hd]

/-- Everything that becomes of a driver, and of what it leaves, when it is given up. -/
structure Vacates (r : Rig) (n : Nat) (d : Driver) : Prop where
  /-- One write is tried, of the level that leaves the output off. -/
  issues_eq : r.issues (.close n) d.config.pin = [d.config.level false]
  /-- If it goes through it is the last one, until someone takes the pin. -/
  last : ∀ after : List Event, after.all (!·.takes d.config.pin) = true →
    (r.run (.close n :: after)).plant.board.bench.writes d.config.pin =
      r.plant.board.bench.writes d.config.pin ++
        if r.plant.board.bench.isFailing d.config.pin then [] else [d.config.level false]
  /-- The pin is gone, from the table and from the bench, until someone takes it. -/
  gone : ∀ after : List Event, after.all (!·.takes d.config.pin) = true →
    (r.run (.close n :: after)).plant.board.pins.contains d.config.pin = false ∧
      (r.run (.close n :: after)).plant.board.bench.lines.contains d.config.pin = false
  /-- A group that the driver held is free. -/
  freed : ∀ group, r.plant.groups.holder? group = some d.token →
    (r.step (.close n)).1.plant.groups.claims.get? group = some .free
  /-- A group that it did not hold is whose it was. -/
  kept : ∀ group, r.plant.groups.holder? group ≠ some d.token →
    (r.step (.close n)).1.plant.groups.claims.get? group = r.plant.groups.claims.get? group
  /-- The driver does not come back. -/
  absent : ∀ after : List Event, (r.run (.close n :: after)).drivers.get? n = none
  /-- A pulse of the driver that has not ended ends well, whenever that is asked for. -/
  ended : ∀ (after : List Event) (k : Nat) (s : Started), r.started.get? k = some s → s.driver = n →
    s.ended = none → Event.awaitPulse k ∉ after →
    ((r.run (.close n :: after)).step (.awaitPulse k)).2 = .done ∧
      ((r.run (.close n :: after)).step (.awaitPulse k)).1.plant = (r.run (.close n :: after)).plant
  /-- The timer has nothing left to do for the driver. -/
  timeless : ∀ (after : List Event) (number : Nat) (millis : Int),
    ((r.run (.close n :: after)).step (.ring n number)).1 = r.run (.close n :: after) ∧
      n ∉ ((r.run (.close n :: after)).elapse millis).due.map Prod.fst
  drivers : ∀ m, m ≠ n → (r.step (.close n)).1.drivers.get? m = r.drivers.get? m
  pins : ∀ pin, pin ≠ d.config.pin → r.plant.board.Near pin (r.step (.close n)).1.plant.board
  groups : ∀ group, d.config.group ≠ some group →
    (r.step (.close n)).1.plant.groups.claims.get? group = r.plant.groups.claims.get? group
  clock_eq : (r.step (.close n)).1.plant.clock = r.plant.clock
  rest : (r.step (.close n)).1 =
    { r with plant := (r.step (.close n)).1.plant, drivers := (r.step (.close n)).1.drivers }

/-- A driver that is sound leaves nothing behind. -/
theorem Vacates.of_sound (hw : r.WellFormed) (h : r.Dealt) (hd : r.drivers.get? n = some d)
    (hs : d.Sound r.plant) : r.Vacates n d := by
  have hstep := step_close hd
  have hclose := close_alike d r.plant
  have hboard : (r.step (.close n)).1.plant.board =
      r.plant.board.vacated d.config.pin (d.config.level false) := by
    rw [hstep]
    exact hclose.board_eq.trans (hs.drives.close_eq _)
  have hgroups : (r.step (.close n)).1.plant.groups = r.plant.groups.forget d.token := by
    rw [hstep]
    exact hclose.groups_eq.trans (d.free_forget r.plant)
  have hvacant := r.plant.board.vacated_vacant d.config.pin (d.config.level false)
  rw [← hboard] at hvacant
  have habsent : (r.step (.close n)).1.drivers.get? n = none := by
    rw [hstep]
    exact Table.get?_erase_self
  have hlt : n < (r.step (.close n)).1.next := Nat.lt_of_lt_of_le (hw.driver hd).2 (step_next_le ..)
  have hgone : ∀ after, (r.run (.close n :: after)).drivers.get? n = none := fun after =>
    run_absent (hw.step _) hlt habsent after
  refine
    { issues_eq := ?_
      last := fun after ha => (run_vacant hvacant ha).writes_eq
      gone := fun after ha => ?_
      freed := fun group hh => hgroups ▸ Interlock.Groups.forget_freed hh
      kept := fun group hh => hgroups ▸ hs.forget_kept hh
      absent := hgone
      ended := fun after k s hk hm hend ha => ?_
      timeless := fun after number millis => ⟨?_, ?_⟩
      drivers := fun m hm => ?_
      pins := fun pin hp => hboard ▸ r.plant.board.vacated_near hp
      groups := fun group hg => ?_
      clock_eq := ?_
      rest := ?_ }
  · -- On the rig whose writes to the pin do not fail the last write goes through.
    have hd' : (r.step (.setFailing d.config.pin false)).1.drivers.get? n = some d := hd
    have hdrives : (r.step (.setFailing d.config.pin false)).1.plant.board.Drives d.config.pin :=
      hs.drives.spared (Gpio.Board.spares_bench Gpio.Bench.setFailing_spares)
    have hf : (r.step (.setFailing d.config.pin false)).1.plant.board.bench.isFailing d.config.pin = false := by
      simp [step, setBench, setBoard, Gpio.Bench.setFailing, Gpio.Bench.isFailing, Table.contains]
    unfold issues wrote
    rw [step_close hd', (close_alike d _).board_eq, hdrives.close_eq, (Gpio.Board.vacated_vacant ..).writes_eq,
      hf, List.drop_left]
    rfl
  · have hv := run_vacant hvacant ha
    exact ⟨by simp [Table.contains, hv.unlisted], by simp [Table.contains, hv.lineless]⟩
  · have hk' : (r.step (.close n)).1.started.get? k = some s := by rw [hstep]; exact hk
    have hrun := run_orphan (hw.step _) (h.step hw _) hlt habsent hk' hm ha
    exact awaitPulse_orphan (hgone after) hrun hm hend
  · simp only [step, ring, hgone after]
  · intro hmem
    obtain ⟨x, hx, hn⟩ := List.mem_map.1 hmem
    obtain ⟨d', hd', -⟩ := mem_due.1 hx
    cases (hgone after).symm.trans (hn ▸ hd')
  · rw [hstep]
    exact Table.get?_erase_of_ne (Ne.symm hm)
  · rw [hgroups]
    refine hs.forget_kept fun hh => ?_
    have hc := Interlock.Groups.holder?_eq_some_iff.1 hh
    exact hg (hs.claim hc Driver.belongsTo_token).1
  · rw [hstep]
    exact hclose.clock_eq
  · rw [hstep]

/-- In every state that a run reaches, a driver that had its pin for itself until then leaves nothing behind
when it is given up. -/
theorem run_vacates (s : Setup) {before : List Event} {n : Nat} {d : Driver}
    (ho : s.rig.owns n (before ++ [.close n]) = true) (hd : (s.rig.run before).drivers.get? n = some d) :
    (s.rig.run before).Vacates n d :=
  .of_sound (run_wellFormed (setup_wellFormed s) before) (run_dealt s before) hd
    (run_sound ((owns_append ..).1 ho).1 hd)

/-- An output in the middle of a pulse, which it may not end yet, while another of its group waits. -/
def surging : List Event :=
  [.create { Output.Config.plain 1 "up" .relay 17 with group := some 5, minOn := 500 },
    .create { Output.Config.plain 2 "down" .relay 18 with group := some 5 },
    .pulse 0 (some 1000) true, .command 1 (.set true), .command 0 (.set false)]

/-- Once it is given up the group is free, and the pulse ends well after its time. -/
theorem surging_vacates :
    Setup.plain.rig.owns 0 (surging ++ [.close 0]) = true ∧
      ∃ d, (Setup.plain.rig.run surging).drivers.get? 0 = some d ∧
        (Setup.plain.rig.run surging).Vacates 0 d ∧
        ((Setup.plain.rig.run surging).step (.close 0)).1.plant.groups.claims.get? 5 = some .free ∧
        (((Setup.plain.rig.run surging).run [.close 0, .advance 2000]).step (.awaitPulse 2)).2 = .done := by
  obtain ⟨d, hd⟩ : ∃ d, (Setup.plain.rig.run surging).drivers.get? 0 = some d :=
    Option.isSome_iff_exists.1 (by decide +kernel)
  have ho : Setup.plain.rig.owns 0 (surging ++ [.close 0]) = true := by decide +kernel
  have hv := run_vacates Setup.plain ho hd
  have hheld : (Setup.plain.rig.run surging).plant.groups.holder? 5 = some d.token := by
    have ht : (Setup.plain.rig.run surging).plant.groups.holder? 5 =
        ((Setup.plain.rig.run surging).drivers.get? 0).map Driver.token := by decide +kernel
    rw [ht, hd, Option.map_some]
  obtain ⟨s, hs⟩ : ∃ s, (Setup.plain.rig.run surging).started.get? 2 = some s :=
    Option.isSome_iff_exists.1 (by decide +kernel)
  have hmine : ((Setup.plain.rig.run surging).started.get? 2).map
      (fun s => (s.driver, s.ended.isNone)) = some (0, true) := by decide +kernel
  rw [hs] at hmine
  obtain ⟨hdriver, hended⟩ : s.driver = 0 ∧ s.ended = none := by simpa using hmine
  refine ⟨ho, d, hd, hv, hv.freed 5 hheld, ?_⟩
  exact (hv.ended [.advance 2000] 2 s hs hdriver hended (by simp)).1

end Rig

end Switchboard
