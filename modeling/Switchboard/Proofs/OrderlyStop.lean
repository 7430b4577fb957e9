import Switchboard.Proofs.ClaimHistory
import Switchboard.Proofs.Rounds

/-!
# The orderly stop

A program that has made its drivers from a store runs, and neither makes nor gives up a driver. So at any
time each driver drives its pin, and its total has not gone beyond the one that it started with and the time
on the clock (`Serves`). What a stop leaves of it (`Stopped`) is what the rounds over all drivers leave. The
groups are free because whoever has a claim is alive (`Rig.WellFormed`), and nobody is any more.
-/

namespace Switchboard

open Output (Driver)
open Store (Row)

/-! ## Totals that fit -/

/-- No more is counted than a total at the start and the time on the steady clock. What is counted while the
status says on is the time before it came on. -/
structure Account.Within (x : Account) (base now : Nat) : Prop where
  total_le : x.total.toNat ≤ base + now / Clock.perMilli
  since_le : x.isOn = true → ∀ t, x.onSince = some t →
    t ≤ now ∧ x.total.toNat ≤ base + t / Clock.perMilli

theorem toNat_add_ofNat_le (c : UInt64) (k : Nat) : (c + .ofNat k).toNat ≤ c.toNat + k := by
  rw [UInt64.toNat_add, UInt64.toNat_ofNat']
  exact Nat.le_trans (Nat.mod_le ..) (Nat.add_le_add_left (Nat.mod_le ..) _)

theorem add_div_le {base since now : Nat} (h : since ≤ now) :
    base + since / Clock.perMilli + (now - since) / Clock.perMilli ≤ base + now / Clock.perMilli := by
  unfold Clock.perMilli
  omega

theorem Account.Within.mono {x : Account} {base now now' : Nat} (h : x.Within base now) (hn : now ≤ now') :
    x.Within base now' where
  total_le := Nat.le_trans h.total_le (Nat.add_le_add_left (Nat.div_le_div_right hn) _)
  since_le hon t ht := (h.since_le hon t ht).imp_left (Nat.le_trans · hn)

theorem Account.Within.enter {x : Account} {base now : Nat} {a : Act} (h : x.Within base now)
    (ha : a.before = x.isOn) (ht : a.time = now) : (x.enter a).Within base now := by
  cases he : a.ends with
  | true =>
    simp only [Act.ends, Bool.and_eq_true, Bool.not_eq_true'] at he
    obtain ⟨⟨hdone, hbefore⟩, hafter⟩ := he
    have htotal : (x.enter a).total = x.total + .ofNat (x.onSince.elim 0 fun t => millisBetween t now) := by
      simp [Account.enter, Act.ends, hdone, hbefore, hafter, ht]
    refine ⟨?_, fun hon => absurd hon (Bool.eq_false_iff.1 hafter)⟩
    rw [htotal]
    refine Nat.le_trans (toNat_add_ofNat_le ..) ?_
    cases hs : x.onSince with
    | none => exact h.total_le
    | some t =>
      obtain ⟨hle, hbound⟩ := h.since_le (ha.symm.trans hbefore) t hs
      have hmillis : millisBetween t now ≤ (now - t) / Clock.perMilli := Nat.min_le_left ..
      exact Nat.le_trans (Nat.add_le_add hbound hmillis) (add_div_le hle)
  | false =>
    have htotal : (x.enter a).total = x.total := by simp [Account.enter, he]
    refine ⟨htotal ▸ h.total_le, fun hon t hs => ?_⟩
    have hon : a.after = true := hon
    rw [htotal]
    cases hx : x.isOn with
    | true =>
      have hsince : (x.enter a).onSince = x.onSince := by simp [Account.enter, Act.begins, ha, hx]
      exact h.since_le hx t (hsince.symm.trans hs)
    | false =>
      have hsince : (x.enter a).onSince = some now := by simp [Account.enter, Act.begins, ha, hx, hon, ht]
      obtain rfl : now = t := Option.some.inj (hsince.symm.trans hs)
      exact ⟨Nat.le_refl _, h.total_le⟩

/-- No deed counts more, unless counters are restored. -/
theorem Account.Within.deed {may : Command → Prop} {d d' : Driver} {p p' : Plant} {base : Nat}
    (hmay : ∀ total cycles, ¬may (.restore total cycles)) (hd : Output.Deed may d p d' p')
    (h : d.account.Within base p.clock.now) : d'.account.Within base p'.clock.now := by
  rw [(Frame.of_deed hd).clock_eq]
  cases hd with
  | apply asked =>
    rw [d.apply_account]
    exact h.enter rfl rfl
  | force compelled =>
    rw [d.forceOff_account]
    exact h.enter rfl rfl
  | restore told => exact absurd told (hmay _ _)
  | note alike => exact h
  | unlock told => exact h
  | dropPulse => exact h
  | cancelPulse serial => exact h
  | beginPulse q number isOn => exact h

/-! ## A program that has been running -/

/-- What happens to the drivers of a running program: none is made or given up, nobody else joins their
groups, and their counters are not restored again. -/
def Event.isWork (e : Event) : Bool :=
  match e with
  | .create _ | .close _ | .createToken _ _ | .command _ (.restore _ _) => false
  | _ => true

namespace Rig

variable {r r' : Rig} {e : Event} {es : List Event} {n : Nat} {d : Driver}

theorem finish_tokens (r : Rig) (m : Nat) (q : Output.Pulse) : (r.finish m q).tokens = r.tokens :=
  finishAll_tokens [(m, q)]

/-- Tokens of others come about at one event only. -/
theorem step_tokenless (hr : ∀ k, r.tokens.get? k = none) (he : e.isWork = true) (k : Nat) :
    (r.step e).1.tokens.get? k = none := by
  have hsame : ∀ {r' : Rig}, r'.tokens = r.tokens → r'.tokens.get? k = none := fun h => by rw [h, hr k]
  have hmissing : ∀ k f, (r.withToken k f).1 = r := fun k f => by simp only [withToken, hr]
  cases e with
  | create _ | close _ | createToken _ _ => cases he
  | command m c =>
    simp only [step, tell]
    split <;> exact hr k
  | pulse m millis timed =>
    simp only [step, Rig.pulse, fresh]
    split
    · exact hr k
    · split
      · exact hr k
      · split <;> exact hr k
  | cancelPulse _ =>
    simp only [step, cancelPulse]
    split <;> exact hr k
  | awaitPulse _ =>
    simp only [step, awaitPulse]
    split <;> exact hr k
  | advance millis => exact hsame (finishAll_tokens (r := r.elapse millis) _)
  | ring m number =>
    simp only [step, ring]
    split
    · exact hr k
    · split
      · exact hr k
      · split
        · exact hsame (finish_tokens ..)
        · exact hr k
  | inject pin level => exact hsame (inject_quiet r pin level).tokens_eq
  | subscribe pin edge => exact hsame (subscribe_quiet (.subscribe pin edge) r pin edge).tokens_eq
  | receive s => exact hsame (receive_quiet (.receive s) r s).tokens_eq
  | cancel s => exact hsame (cancel_quiet (.cancel s) r s).tokens_eq
  | unsubscribe s =>
    simp only [step]
    split <;> exact hr k
  | dropToken s | reserve _ s | confirm _ s | abandon _ s | free _ s =>
    simp only [step, dropToken, reserve, hmissing]
    exact hr k
  | drift _ | lapse _ | setWall _ | pin _ | line _ | setListener _ _ | setFailing _ _ | register _ =>
    exact hr k

theorem run_tokenless (hr : ∀ k, r.tokens.get? k = none) (hes : es.all Event.isWork = true) (k : Nat) :
    (r.run es).tokens.get? k = none := by
  induction es generalizing r with
  | nil => exact hr k
  | cons e es ih =>
    obtain ⟨he, hes⟩ := Bool.and_eq_true_iff.1 hes
    exact ih (step_tokenless hr he) hes

/-- No driver comes about while a program runs. -/
theorem run_unmade (hn : r.drivers.get? n = none) (hes : es.all Event.isWork = true) :
    (r.run es).drivers.get? n = none := by
  induction es generalizing r with
  | nil => exact hn
  | cons e es ih =>
    obtain ⟨he, hes⟩ := Bool.and_eq_true_iff.1 hes
    refine ih (step_absent hn ?_) hes
    rintro c rfl
    cases he

end Rig

namespace Startup

section Tokens

variable {outputs : List Output.Config} {store : Option Store} {r : Rig}

theorem restore_tokens (c : Output.Config) (serial : Nat) (r : Rig) :
    (restore store c serial r).tokens = r.tokens := by
  unfold restore
  split
  · rfl
  · split
    · rfl
    · unfold Rig.tell
      split <;> rfl
    · rfl

theorem createDriver_tokens (c : Output.Config) (r : Rig) :
    (createDriver outputs store c r).2.tokens = r.tokens := by
  have hcreate : (r.create c).1.tokens = r.tokens := by
    unfold Rig.create Rig.fresh
    dsimp only
    split <;> rfl
  unfold createDriver
  split
  · rfl
  · generalize r.create c = x at hcreate ⊢
    obtain ⟨r', reply⟩ := x
    cases reply with
    | serial n => exact (restore_tokens c n r').trans hcreate
    | _ => exact hcreate

theorem createSome_tokens (cs : List Output.Config) (r : Rig) :
    (createSome outputs store cs r).2.tokens = r.tokens := by
  induction cs generalizing r with
  | nil => rfl
  | cons c rest ih => exact (ih _).trans (createDriver_tokens c r)

/-- At the start the drivers are the only ones that may have groups. -/
theorem createDrivers_tokenless {s : Settings} {wall : Timestamp} {serials : List Nat}
    (h : createDrivers s store (rig s wall) = .ok (serials, r)) (k : Nat) : r.tokens.get? k = none := by
  obtain ⟨outputs, hmade⟩ := createSome_of_createDrivers h
  obtain rfl : (createSome outputs store outputs (rig s wall)).2 = r := congrArg Prod.snd hmade
  rw [createSome_tokens]
  rfl

end Tokens

section Run

variable {s : Settings} {store : Store} {made : List Output.Config} {serials : List Nat} {r : Rig}
  {es : List Event} {n : Nat} {d : Driver}

/-- Some drivers with their serials. -/
theorem exists_roster
    (h : List.Forall₂ (fun n c => ∃ d, r.drivers.get? n = some d ∧ d.config = c) serials made) :
    ∃ l : List (Nat × Driver), l.map Prod.fst = serials ∧ l.map (·.2.config) = made ∧
      ∀ x ∈ l, r.drivers.get? x.1 = some x.2 := by
  induction h with
  | nil => exact ⟨[], rfl, rfl, fun _ hx => absurd hx List.not_mem_nil⟩
  | @cons n c _ _ hd _ ih =>
    obtain ⟨d, hd, rfl⟩ := hd
    obtain ⟨l, rfl, rfl, hl⟩ := ih
    exact ⟨(n, d) :: l, rfl, rfl, List.forall_mem_cons.2 ⟨hd, hl⟩⟩

theorem load_total_le (hs : store.Sound) {id : Int} {row : Row} (h : store.load id = .ok (some row)) :
    row.total.toNat ≤ Store.greatest := by
  unfold Store.load Store.guarded at h
  rw [if_pos hs.migrated] at h
  cases he : store.states.get? id with
  | none =>
    rw [he] at h
    cases h
  | some e =>
    obtain ⟨row', rfl, hm, rfl⟩ := hs.state he
    rw [he] at h
    dsimp only at h
    rw [Store.ofRow_row hm] at h
    obtain rfl : row'.cut = row := Option.some.inj (Except.ok.inj h)
    rw [Row.cut_total]
    exact Nat.min_le_right ..

/-- What a running program knows of a driver: it drives its pin, and no total has gone beyond its type. -/
structure Serves (d : Driver) (p : Plant) : Prop where
  drives : p.board.Drives d.config.pin
  within : d.account.Within Store.greatest p.clock.now

theorem Serves.spared {p p' : Plant} (h : Serves d p) (hs : p.Spares d.serial d.config.pin p') :
    Serves d p' :=
  ⟨h.drives.spared hs.board, h.within.mono hs.now_le⟩

theorem Serves.deed {may : Command → Prop} {d' : Driver} {p p' : Plant}
    (hmay : ∀ total cycles, ¬may (.restore total cycles)) (hd : Output.Deed may d p d' p')
    (h : Serves d p) : Serves d' p' := by
  have hf := Frame.of_deed hd
  refine ⟨?_, h.within.deed hmay hd⟩
  rw [hf.config_eq]
  exact h.drives.framed hf.board

theorem forall₂_exists {α β : Type} {R : α → β → Prop} {as : List α} {bs : List β}
    (h : List.Forall₂ R as bs) {a : α} (ha : a ∈ as) : ∃ b ∈ bs, R a b := by
  induction h with
  | nil => cases ha
  | cons hr _ ih =>
    rcases List.mem_cons.1 ha with rfl | ha
    · exact ⟨_, List.mem_cons_self .., hr⟩
    · obtain ⟨b, hb, hr⟩ := ih ha
      exact ⟨b, List.mem_cons_of_mem _ hb, hr⟩

/-- At the start every driver is off. -/
theorem Driven.serves (h : Driven s store made serials r) (hs : store.Sound) (hn : n ∈ serials) :
    ∃ d, r.drivers.get? n = some d ∧ d.status.isOn = false ∧ Serves d r.plant := by
  obtain ⟨c, hc, row?, hload, hd⟩ := forall₂_exists h.drivers hn
  obtain ⟨hpin, hlevel⟩ := h.off c hc
  refine ⟨_, hd, rfl, ⟨?_, ?_⟩, ?_⟩
  · rw [Driver.resumed, hpin]
    rfl
  · rw [Driver.resumed, hlevel]
    rfl
  · cases row? with
    | none => exact ⟨Nat.zero_le _, nofun⟩
    | some row => exact ⟨Nat.le_add_right_of_le (load_total_le hs hload), nofun⟩

/-- So it is while the program runs. -/
theorem Driven.run_serves (h : Driven s store made serials r) (hs : store.Sound) (hw : r.WellFormed)
    (hes : es.all Event.isWork = true) (hapart : r.apart es = true) (hn : n ∈ serials)
    (hd : (r.run es).drivers.get? n = some d) : Serves d (r.run es).plant := by
  obtain ⟨d₀, hd₀, -, hj⟩ := h.serves hs hn
  have hclose : Event.close n ∉ es := fun hm => by
    cases List.all_eq_true.1 hes _ hm
  obtain ⟨d', hd', hj'⟩ := Rig.run_keeps (J := Serves) Serves.spared
    (fun he hdeed => Serves.deed (fun total cycles hc => by
      subst hc
      cases List.all_eq_true.1 hes _ he) hdeed) hw hd₀ hj (Rig.owns_of_apart n hapart) hclose
  cases hd.symm.trans hd'
  exact hj'

/-- The drivers of the program are those that it started with, each on its pin and with its id. -/
theorem Driven.roster (h : Driven s store made serials r) (hs : store.Sound) (hw : r.WellFormed)
    (hes : es.all Event.isWork = true) (hapart : r.apart es = true) :
    ∃ l, l.map Prod.fst = serials ∧ (r.run es).Hosts l ∧
      l.Pairwise (fun x y => x.2.config.id ≠ y.2.config.id) ∧
      ∀ x ∈ l, Serves x.2 (r.run es).plant := by
  have hopen : ∀ n ∈ serials, Event.close n ∉ es := fun n _ hm => by
    cases List.all_eq_true.1 hes _ hm
  obtain ⟨l, rfl, rfl, hlive⟩ := exists_roster (h.run hw hopen)
  have hserves : ∀ x ∈ l, Serves x.2 (r.run es).plant := fun x hx =>
    h.run_serves hs hw hes hapart (List.mem_map_of_mem hx) (hlive x hx)
  have hserials := List.pairwise_map.1 h.ordered
  have hids := List.pairwise_map.1 h.ascending
  have hpins := List.pairwise_map.1 h.apart
  exact ⟨l, rfl, ⟨hlive, fun x hx => (hserves x hx).drives, hserials.imp Nat.ne_of_lt, hpins⟩,
    hids.imp Int.ne_of_lt, hserves⟩

/-- There are no others. -/
theorem Driven.run_absent (h : Driven s store made serials r) (hes : es.all Event.isWork = true)
    (hn : n ∉ serials) : (r.run es).drivers.get? n = none := by
  refine Rig.run_unmade ?_ hes
  cases hd : r.drivers.get? n with
  | none => rfl
  | some d => exact absurd (h.only n (by rw [hd]; rfl)) hn

end Run

end Startup

/-! ## What a stop leaves -/

namespace Rig

variable {r : Rig} {n : Nat}

/-- The timer has nothing to do for a driver that is gone. -/
theorem timeless_of_absent (hn : r.drivers.get? n = none) (number : Nat) (millis : Int) :
    (r.step (.ring n number)).1 = r ∧ n ∉ (r.elapse millis).due.map Prod.fst := by
  refine ⟨by simp only [step, ring, hn], fun hmem => ?_⟩
  obtain ⟨x, hx, rfl⟩ := List.mem_map.1 hmem
  obtain ⟨d, hd, -⟩ := mem_due.1 hx
  cases hn.symm.trans hd

/-- Where nobody is alive nobody has a group. -/
theorem WellFormed.free_of_empty (hw : r.WellFormed) (hd : ∀ n, r.drivers.get? n = none)
    (ht : ∀ k, r.tokens.get? k = none) {group : Interlock.Group} {c : Interlock.Claim}
    (hc : r.plant.groups.claims.get? group = some c) : c = .free := by
  cases hu : c.owner? with
  | none =>
    cases c with
    | free => rfl
    | reserved u | held u => cases hu
  | some u =>
    rcases hw.owner hc hu with h | h
    · simp [Table.contains, hd] at h
    · simp [Table.contains, ht] at h

end Rig

namespace Control

/-- What a driver has been on for in all at a reading of the steady clock if it came on at another one, in
milliseconds. -/
def servedAt (d : Driver) (since now : Nat) : Nat :=
  d.status.total.toNat + (now - since) / Clock.perMilli

/-- What is left of a driver that was there after a run, when the program has stopped: the state that is
saved, and the rig. -/
structure Stopped (r₀ : Rig) (es : List Event) (n : Nat) (d : Driver) (saved : Store.StateEntry) (r : Rig) :
    Prop where
  /-- If the pin can be written it is switched off, and not written again until someone takes it. -/
  last : ∀ after : List Event, after.all (!·.takes d.config.pin) = true →
    (r.run after).plant.board.bench.writes d.config.pin =
      (r₀.run es).plant.board.bench.writes d.config.pin ++
        if (r₀.run es).plant.board.bench.isFailing d.config.pin then []
        else [d.config.level false, d.config.level false]
  /-- The pin is gone, from the table and from the bench, until someone takes it. -/
  gone : ∀ after : List Event, after.all (!·.takes d.config.pin) = true →
    (r.run after).plant.board.pins.contains d.config.pin = false ∧
      (r.run after).plant.board.bench.lines.contains d.config.pin = false
  /-- The driver does not come back. -/
  absent : ∀ after : List Event, (r.run after).drivers.get? n = none
  /-- No pulse of the driver is left for the timer. -/
  timeless : ∀ (after : List Event) (number : Nat) (millis : Int),
    ((r.run after).step (.ring n number)).1 = r.run after ∧
      n ∉ ((r.run after).elapse millis).due.map Prod.fst
  off : saved.isOn = .ofBool false
  /-- The time since an output came on is counted, in whole milliseconds, if it could be switched off. The
  count fits as long as the steady clock has not gone on for half of what it holds. -/
  counted : d.status.isOn = true → (r₀.run es).plant.board.bench.isFailing d.config.pin = false →
    ∃ before on during, es = before ++ on :: during ∧ r₀.CameOn n before on during ∧
      let served := servedAt d (r₀.run (before ++ [on])).plant.clock.now (r₀.run es).plant.clock.now
      (served < 2 ^ 64 → saved.total = .ofNat (min served (2 ^ 63 - 1))) ∧
        ((r₀.run es).plant.clock.now / Clock.perMilli < 2 ^ 63 → served < 2 ^ 64)
  /-- Nothing is counted for any other. -/
  kept : (d.status.isOn = true → (r₀.run es).plant.board.bench.isFailing d.config.pin = true) →
    saved.total = .ofNat (min d.status.total.toNat (2 ^ 63 - 1))

end Control

namespace Startup

open Control (Stopped Ended)

variable {s : Settings} {wall : Timestamp} {store : Store} {made : List Output.Config}
  {serials : List Nat} {r₀ r : Rig} {es : List Event} {n : Nat} {d : Driver}

/-- What becomes of one of the drivers, if it serves. -/
theorem Serves.stopped (hw : r₀.WellFormed) (hoff : Rig.saysOn n r₀ = false)
    (hd : (r₀.run es).drivers.get? n = some d) (h : Serves d (r₀.run es).plant)
    (hvacant : r.plant.board.Vacant d.config.pin
      ((r₀.run es).plant.board.bench.writes d.config.pin ++
        if (r₀.run es).plant.board.bench.isFailing d.config.pin then []
        else [d.config.level false, d.config.level false]))
    (hgone : ∀ after : List Event, (r.run after).drivers.get? n = none) :
    Stopped r₀ es n d
      (.ofRow (.ofStatus d.config.id (d.shutdown (r₀.run es).plant).driver.status
        (r₀.run es).plant.clock.wall)) r := by
  have htotal := Driver.shutdown_total h.drives
  refine
    { last := fun after ha => (Rig.run_vacant hvacant ha).writes_eq
      gone := fun after ha => ?_
      absent := hgone
      timeless := fun after => Rig.timeless_of_absent (hgone after)
      off := congrArg Store.Cell.ofBool (d.shutdown_isOn _)
      counted := fun hon hf => ?_
      kept := fun hf => ?_ }
  · have hv := Rig.run_vacant hvacant ha
    exact ⟨by simp [Table.contains, hv.unlisted], by simp [Table.contains, hv.lineless]⟩
  · obtain ⟨before, on, during, rfl, hcame⟩ := Rig.exists_cameOn hoff ((Rig.saysOn_eq hd).trans hon)
    have hsince := hcame.onSince_eq hw hd
    obtain ⟨hle, hbound⟩ := h.within.since_le hon _ hsince
    refine ⟨before, on, during, rfl, hcame, fun hlt => ?_, fun hnow => ?_⟩
    · rw [hon, hf, hsince] at htotal
      have hnat := (congrArg UInt64.toNat htotal).trans (toNat_add_millisBetween hlt)
      exact congrArg (fun k => Store.Cell.ofNat (min k (2 ^ 63 - 1))) hnat
    · have hserved : Control.servedAt d _ _ ≤ _ :=
        Nat.le_trans (Nat.add_le_add_right hbound _) (add_div_le hle)
      have hgreatest : Store.greatest = 2 ^ 63 - 1 := rfl
      omega
  · have hno : (d.status.isOn && !(r₀.run es).plant.board.bench.isFailing d.config.pin) = false := by
      cases hon : d.status.isOn with
      | true => simp [hf hon]
      | false => rfl
    rw [hno] at htotal
    exact congrArg (fun c : UInt64 => Store.Cell.ofNat (min c.toNat (2 ^ 63 - 1))) htotal

/-- From the start of a program with a store on, whatever its drivers have been doing and whichever writes
fail, a stop leaves every driver switched off if its pin can be written, saved as off with the time that it
was on, and gone for good. No pin is configured, and no group is held. -/
theorem stop_orderly (s : Settings) (wall : Timestamp) {changes : List Store.Change} {serials : List Nat}
    {r₀ : Rig} {es : List Event} {store : Store} (hproper : ∀ c ∈ changes, c.IsProper)
    (hstart : createDrivers s (some (Store.empty.after changes)) (rig s wall) = .ok (serials, r₀))
    (hwork : es.all Event.isWork = true) (hapart : r₀.apart es = true) (hstore : store.migrated = true) :
    ∃ store' r, Control.stop serials (some store) (r₀.run es) = (some store', r) ∧
      (∀ n ∈ serials, ∃ d saved, (r₀.run es).drivers.get? n = some d ∧
        store'.states.get? d.config.id = some saved ∧ Stopped r₀ es n d saved r) ∧
      (∀ pin, r.plant.board.pins.contains pin = false ∧ r.plant.board.bench.lines.contains pin = false) ∧
      (∀ group c, r.plant.groups.claims.get? group = some c → c = .free) ∧
      ∀ n, r.drivers.get? n = none := by
  have hs : (Store.empty.after changes).Sound := Store.empty_sound.after hproper
  generalize Store.empty.after changes = first at hs hstart
  obtain ⟨records, hl⟩ := hs.records
  obtain ⟨serials₁, r₁, hrun, hdriven⟩ := createDrivers_driven s wall hs hl
  obtain ⟨rfl, rfl⟩ : serials₁ = serials ∧ r₁ = r₀ := by
    have heq := Except.ok.inj (hrun.symm.trans hstart)
    exact Prod.mk.inj heq
  have hw₁ := createDrivers_wellFormed hstart
  obtain ⟨l, hserials, hhosts, hids, hserves⟩ := hdriven.roster hs hw₁ hwork hapart
  obtain ⟨store', r, hstop, hended⟩ :=
    Control.stop_ended hstore (Rig.run_wellFormed hw₁ es) hhosts hids
  rw [hserials] at hstop
  have hempty : ∀ n, r.drivers.get? n = none := by
    intro n
    by_cases hn : n ∈ l.map Prod.fst
    · obtain ⟨x, hx, rfl⟩ := List.mem_map.1 hn
      exact hended.gone x hx
    · rw [hended.others fun x hx he => hn (List.mem_map.2 ⟨x, hx, he⟩)]
      exact hdriven.run_absent hwork (hserials ▸ hn)
  have htokens : ∀ k, r.tokens.get? k = none := fun k => by
    rw [hended.tokens_eq]
    exact Rig.run_tokenless (createDrivers_tokenless hstart) hwork k
  refine ⟨store', r, hstop, fun n hn => ?_, fun pin => ?_, fun group c hc => ?_, hempty⟩
  · obtain ⟨x, hx, rfl⟩ := List.mem_map.1 (hserials ▸ hn : n ∈ l.map Prod.fst)
    have hlive := hhosts.live x hx
    obtain ⟨d, hd, hoff, -⟩ := hdriven.serves hs hn
    have hlt : x.1 < r.next := by
      rw [hended.next_eq]
      exact ((Rig.run_wellFormed hw₁ es).driver hlive).2
    have hgone := Rig.run_absent hended.wellFormed hlt (hended.gone x hx)
    exact ⟨x.2, _, hlive, hended.saved x hx, (hserves x hx).stopped hw₁ ((Rig.saysOn_eq hd).trans hoff)
      hlive (hended.vacant x hx) hgone⟩
  · obtain ⟨hpins, hlines⟩ := hended.bare
    exact ⟨by rw [hpins]; rfl, by rw [hlines]; rfl⟩
  · exact hended.wellFormed.free_of_empty hempty htokens hc

/-- The workshop when its program has started: the serials of the drivers, and the rig. -/
def opened : List Nat × Rig :=
  createSome (offered workshopSettings workshopRecords) (some (Store.empty.after workshop))
    (offered workshopSettings workshopRecords) (rig workshopSettings ⟨0, 0⟩)

theorem opened_eq :
    createDrivers workshopSettings (some (Store.empty.after workshop)) (rig workshopSettings ⟨0, 0⟩) =
      .ok (opened.1, opened.2) := by
  simp only [createDrivers, outputs_eq workshopSettings workshop_lists, Except.map, opened]

/-- The saw and the fan are on, the fan for a minute, when the pin of the saw fails. -/
def closingTime : List Event :=
  [.command 0 (.set true), .pulse 1 (some 60000) true, .drift 2500000000, .setFailing 17 true]

/-- The saw cannot be switched off any more. The fan is, and the time that it was on is saved. -/
theorem closingTime_orderly :
    ∃ serials r₀ store' r d saved,
      createDrivers workshopSettings (some (Store.empty.after workshop)) (rig workshopSettings ⟨0, 0⟩) =
        .ok (serials, r₀) ∧
      closingTime.all Event.isWork = true ∧ r₀.apart closingTime = true ∧
      (Store.empty.after workshop).migrated = true ∧
      Control.stop serials (some (Store.empty.after workshop)) (r₀.run closingTime) = (some store', r) ∧
      (r₀.run closingTime).drivers.get? 1 = some d ∧ d.config.name = "fan" ∧
      store'.states.get? d.config.id = some saved ∧ saved.isOn = .int 0 ∧ saved.total = .int 2500 ∧
      r.plant.board.bench.writes 17 = [true] ∧ r.plant.board.bench.writes 22 = [true, false, false] := by
  have hserials : opened.1 = [0, 1] := by decide +kernel
  have hapart : opened.2.apart closingTime = true := by decide +kernel
  have hsaw : ((opened.2.run closingTime).drivers.get? 0).map (·.config.pin) = some 17 := by
    decide +kernel
  have hfan : ((opened.2.run closingTime).drivers.get? 1).map
      (fun d => (d.config.name, d.config.pin, d.config.level false)) = some ("fan", 22, false) := by
    decide +kernel
  have hserving : ((opened.2.run closingTime).drivers.get? 1).map
      (fun d => (d.status.isOn, d.status.total, d.onSince)) = some (true, 0, some 0) := by
    decide +kernel
  have hbench : ((opened.2.run closingTime).plant.board.bench.writes 17,
      (opened.2.run closingTime).plant.board.bench.isFailing 17,
      (opened.2.run closingTime).plant.board.bench.writes 22,
      (opened.2.run closingTime).plant.board.bench.isFailing 22) = ([true], true, [true], false) := by
    decide +kernel
  have hnow : (opened.2.run closingTime).plant.clock.now = 2500000000 := by decide +kernel
  obtain ⟨store', r, hstop, hdrivers, -⟩ :=
    stop_orderly workshopSettings ⟨0, 0⟩ workshop_isProper opened_eq (by decide) hapart
      workshop_lists.migrated
  rw [hserials] at hdrivers
  obtain ⟨d₀, _, hd₀, _, hleft₀⟩ := hdrivers 0 (by decide)
  obtain ⟨d, saved, hd, hsaved, hleft⟩ := hdrivers 1 (by decide)
  rw [hd₀] at hsaw
  rw [hd] at hfan hserving
  simp only [Option.map_some, Option.some.injEq, Prod.mk.injEq] at hsaw hfan hserving hbench
  obtain ⟨hname, hpin, hlevel⟩ := hfan
  obtain ⟨hon, htotal, hsince⟩ := hserving
  obtain ⟨hwrites, hfailing, hwrites', hfailing'⟩ := hbench
  refine ⟨_, _, store', r, d, saved, opened_eq, by decide, hapart, workshop_lists.migrated, hstop, hd, hname,
    hsaved, hleft.off, ?_, ?_, ?_⟩
  · obtain ⟨before, on, during, hsplit, hcame, hserved, -⟩ := hleft.counted hon (by rw [hpin, hfailing'])
    have hmark := hcame.onSince_eq (createDrivers_wellFormed opened_eq) (hsplit ▸ hd)
    obtain hzero : 0 = _ := Option.some.inj (hsince.symm.trans hmark)
    have hall : Control.servedAt d (opened.2.run (before ++ [on])).plant.clock.now
        (opened.2.run closingTime).plant.clock.now = 2500 := by
      rw [← hzero, hnow, Control.servedAt, htotal]
      rfl
    rw [hall] at hserved
    exact hserved (by decide)
  · have hlast := hleft₀.last [] rfl
    rwa [hsaw, hfailing, hwrites] at hlast
  · have hlast := hleft.last [] rfl
    rwa [hpin, hfailing', hwrites', hlevel] at hlast

end Startup

end Switchboard
