import Switchboard.Proofs.Parts

/-!
# What an operation of a driver looks at

An operation of a driver depends on the clock, on the pin of its output and on the claim on its group, and
on nothing else of the plant: on two plants that are the same there (`Plant.Near`) it has the same result,
leaves the same driver, makes the same entries in the log, and leaves plants that are the same there again.
And it changes nothing else (`Plant.Away`).

So the order of two operations at different pins and groups makes no difference but to the log
(`Plant.shuffled_of_away`).
-/

namespace Switchboard

open Output (Driver Outcome Lockout Deed Deeds)

/-! ## Plants that are the same at one place -/

/-- Two boards have the same at a pin. -/
structure Gpio.Board.Near (pin : Pin) (b c : Board) : Prop where
  pin_eq : c.pins.get? pin = b.pins.get? pin
  failing_eq : c.bench.isFailing pin = b.bench.isFailing pin
  line_eq : c.bench.lines.get? pin = b.bench.lines.get? pin
  written_eq : c.bench.written.get? pin = b.bench.written.get? pin

/-- Two tables of groups have the same claim on a group, if one is given. -/
structure Interlock.Groups.Near (mine : Option Group) (g h : Groups) : Prop where
  overflow_eq : h.overflow = g.overflow
  claim_eq : ∀ group, mine = some group → h.claims.get? group = g.claims.get? group

/-- Two plants have the same clock, the same at a pin and the same claim on a group, and made the same
entries since their logs were two given ones. -/
structure Plant.Near (pin : Gpio.Pin) (mine : Option Interlock.Group) (l m : List Log.Entry)
    (p q : Plant) : Prop where
  clock_eq : q.clock = p.clock
  board : p.board.Near pin q.board
  groups : p.groups.Near mine q.groups
  log : ∃ es, p.log = l ++ es ∧ q.log = m ++ es

/-- Two outcomes have the same result and the same driver, and plants that are the same at one place. -/
structure Output.Outcome.Near (pin : Gpio.Pin) (mine : Option Interlock.Group) (l m : List Log.Entry)
    (o o' : Outcome) : Prop where
  result_eq : o'.result = o.result
  driver_eq : o'.driver = o.driver
  plant : o.plant.Near pin mine l m o'.plant

namespace Gpio.Board

variable {pin : Pin} {b c : Board}

/-- A write looks at its pin only. -/
theorem Near.write (h : b.Near pin c) (level : Bool) :
    (c.write pin level).1 = (b.write pin level).1 ∧ (b.write pin level).2.Near pin (c.write pin level).2 := by
  have hc : c.bench.lines.contains pin = b.bench.lines.contains pin := by
    unfold Table.contains
    rw [h.line_eq]
  unfold Board.write Bench.write
  rw [h.pin_eq, h.failing_eq, hc]
  cases b.pins.get? pin with
  | none => exact ⟨rfl, h⟩
  | some s =>
    dsimp only
    cases s.mode.isOutput with
    | false => exact ⟨rfl, h⟩
    | true =>
      cases b.bench.isFailing pin with
      | true => exact ⟨rfl, h⟩
      | false =>
        cases b.bench.lines.contains pin with
        | false => exact ⟨rfl, h⟩
        | true =>
          refine ⟨rfl, h.pin_eq, h.failing_eq, ?_, ?_⟩
          · simp only [Table.get?_modify_self, h.line_eq, if_true, Bool.not_true, Bool.false_eq_true, if_false]
          · simp only [Table.get?_insert_self, Bench.writes, h.written_eq, if_true, Bool.not_true,
              Bool.false_eq_true, if_false]

end Gpio.Board

namespace Interlock.Groups

variable {mine : Option Group} {group : Group} {g h : Groups} {t : Token}

/-- A claim changes alike in both tables. -/
theorem Near.modify (hn : g.Near mine h) (group : Group) (f : Claim → Claim) :
    Near mine { g with claims := g.claims.modify group f } { h with claims := h.claims.modify group f } := by
  refine ⟨hn.overflow_eq, fun group' hg => ?_⟩
  simp only [Table.get?_modify, hn.claim_eq group' hg]

theorem Near.isAvailable_eq (hn : g.Near (some group) h) : h.isAvailable group t = g.isAvailable group t := by
  unfold isAvailable
  rw [hn.claim_eq group rfl, hn.overflow_eq]

theorem Near.isForeign_eq (hn : g.Near (some group) h) : h.isForeign group t = g.isForeign group t := by
  unfold isForeign
  rw [hn.claim_eq group rfl]

end Interlock.Groups

namespace Plant

variable {pin : Gpio.Pin} {mine : Option Interlock.Group} {l m : List Log.Entry} {p q : Plant}

theorem Near.symm (h : p.Near pin mine l m q) : q.Near pin mine m l p where
  clock_eq := h.clock_eq.symm
  board := ⟨h.board.pin_eq.symm, h.board.failing_eq.symm, h.board.line_eq.symm, h.board.written_eq.symm⟩
  groups := ⟨h.groups.overflow_eq.symm, fun group hg => (h.groups.claim_eq group hg).symm⟩
  log := h.log.imp fun _ => And.symm

theorem Near.note (h : p.Near pin mine l m q) (level : Log.Level) (channel : Log.Channel) (text : String) :
    (p.note level channel text).Near pin mine l m (q.note level channel text) := by
  obtain ⟨es, hp, hq⟩ := h.log
  refine ⟨h.clock_eq, h.board, h.groups, es ++ [⟨level, channel, text⟩], ?_, ?_⟩
  · exact (congrArg (· ++ _) hp).trans (List.append_assoc ..)
  · exact (congrArg (· ++ _) hq).trans (List.append_assoc ..)

theorem Near.withGroups (h : p.Near pin mine l m q) {g g' : Interlock.Groups} (hg : g.Near mine g') :
    { p with groups := g }.Near pin mine l m { q with groups := g' } :=
  ⟨h.clock_eq, h.board, hg, h.log⟩

theorem Near.write (h : p.Near pin mine l m q) (level : Bool) :
    (q.write pin level).1 = (p.write pin level).1 ∧
      (p.write pin level).2.Near pin mine l m (q.write pin level).2 := by
  obtain ⟨hr, hb⟩ := h.board.write level
  unfold Plant.write
  rcases hp : p.board.write pin level with ⟨result, b⟩
  rcases hq : q.board.write pin level with ⟨result', c⟩
  rw [hp, hq] at hr hb
  subst hr
  have hn : { p with board := b }.Near pin mine l m { q with board := c } :=
    ⟨h.clock_eq, hb, h.groups, h.log⟩
  cases result' with
  | ok u => exact ⟨rfl, hn.note ..⟩
  | error e => exact ⟨rfl, hn⟩

theorem Near.confirm {group : Interlock.Group} (h : p.Near pin (some group) l m q) (t : Interlock.Token) :
    (p.confirm group t).Near pin (some group) l m (q.confirm group t) := by
  have hn := h.withGroups (h.groups.modify group fun c => if c.isOf t then .held t else c)
  unfold Plant.confirm
  rw [h.groups.isForeign_eq]
  cases p.groups.isForeign group t with
  | false => exact hn
  | true => exact hn.note ..

end Plant

/-! ## Operations on plants that are the same at the driver's place -/

namespace Output.Driver

variable {d : Driver} {l m : List Log.Entry} {p q : Plant}

/-- Two plants are the same at the pin and the group of a driver. -/
abbrev Near (d : Driver) (l m : List Log.Entry) (p q : Plant) : Prop :=
  p.Near d.config.pin d.config.group l m q

/-- Two outcomes are the same at the pin and the group of a driver. -/
abbrev NearOutcome (d : Driver) (l m : List Log.Entry) (o o' : Outcome) : Prop :=
  o.Near d.config.pin d.config.group l m o'

theorem free_near (h : d.Near l m p q) : d.Near l m (d.free p) (d.free q) := by
  unfold free
  cases hg : d.config.group with
  | none => exact h
  | some g => exact h.withGroups (h.groups.modify g _)

theorem abandon_near (h : d.Near l m p q) : d.Near l m (d.abandon p) (d.abandon q) := by
  unfold abandon
  cases hg : d.config.group with
  | none => exact h
  | some g => exact h.withGroups (h.groups.modify g _)

theorem confirm_near (h : d.Near l m p q) : d.Near l m (d.confirm p) (d.confirm q) := by
  unfold confirm
  unfold Near at h ⊢
  cases hg : d.config.group with
  | none =>
    rw [hg] at h
    exact h
  | some g =>
    rw [hg] at h
    exact h.confirm d.token

/-- The gate of the group lets the driver through on both plants or on none. -/
theorem reserve?_near (h : d.Near l m p q) :
    d.reserve? p = none ∧ d.reserve? q = none ∨
      ∃ p' q', d.reserve? p = some p' ∧ d.reserve? q = some q' ∧ d.Near l m p' q' := by
  unfold reserve?
  unfold Near at h ⊢
  cases hg : d.config.group with
  | none =>
    rw [hg] at h
    exact .inr ⟨p, q, rfl, rfl, h⟩
  | some g =>
    rw [hg] at h
    dsimp only
    rw [Interlock.Groups.reserve?_eq, Interlock.Groups.reserve?_eq, h.groups.isAvailable_eq]
    cases p.groups.isAvailable g d.token with
    | false => exact .inl ⟨rfl, rfl⟩
    | true => exact .inr ⟨_, _, rfl, rfl, h.withGroups (h.groups.modify g _)⟩

/-- To settle looks at the clock only. -/
theorem settle_near {pin : Gpio.Pin} {mine : Option Interlock.Group} (h : p.Near pin mine l m q)
    (on : Bool) (duty : Single) : (d.settle p on duty).Near pin mine l m (d.settle q on duty) := by
  unfold settle
  rw [h.clock_eq]
  dsimp only
  refine ⟨rfl, rfl, ?_⟩
  dsimp only
  split
  · exact h.note ..
  · exact h

theorem apply_near (h : d.Near l m p q) (on : Bool) (duty : Single) :
    d.NearOutcome l m (d.apply p on duty) (d.apply q on duty) := by
  -- Only a command to switch on has to pass the gate of the group.
  have hgate : (if on then d.reserve? p else some p) = none ∧ (if on then d.reserve? q else some q) = none ∨
      ∃ p' q', (if on then d.reserve? p else some p) = some p' ∧
        (if on then d.reserve? q else some q) = some q' ∧ d.Near l m p' q' := by
    cases on with
    | false => exact .inr ⟨p, q, rfl, rfl, h⟩
    | true => exact reserve?_near h
  unfold apply
  rw [h.clock_eq]
  cases d.refusal? p.clock.now on with
  | some r => exact ⟨rfl, rfl, h.note ..⟩
  | none =>
    dsimp only
    rcases hgate with ⟨hp, hq⟩ | ⟨p', q', hp, hq, hn⟩
    · rw [hp, hq]
      exact ⟨rfl, rfl, h.note ..⟩
    · rw [hp, hq]
      dsimp only
      obtain ⟨hr, hn⟩ := hn.write (d.config.level on)
      rcases hwp : p'.write d.config.pin (d.config.level on) with ⟨result, p''⟩
      rcases hwq : q'.write d.config.pin (d.config.level on) with ⟨result', q''⟩
      rw [hwp, hwq] at hr hn
      subst hr
      cases result' with
      | error e =>
        refine ⟨rfl, rfl, Plant.Near.note ?_ ..⟩
        cases on with
        | false => exact hn
        | true => exact abandon_near hn
      | ok u =>
        cases on with
        | false => exact settle_near (free_near hn) ..
        | true => exact settle_near (confirm_near hn) ..

theorem command_near (h : d.Near l m p q) (on : Bool) (duty : Single) :
    d.NearOutcome l m (d.command p on duty) (d.command q on duty) := by
  have ha := apply_near h on duty
  unfold command
  dsimp only
  rw [ha.result_eq]
  split
  · exact ⟨rfl, congrArg dropPulse ha.driver_eq, ha.plant⟩
  · exact ha

theorem set_near (h : d.Near l m p q) (on : Bool) : d.NearOutcome l m (d.set p on) (d.set q on) :=
  command_near h on _

theorem setDuty_near (h : d.Near l m p q) (x : Single) :
    d.NearOutcome l m (d.setDuty p x) (d.setDuty q x) := by
  unfold setDuty
  split
  · exact ⟨rfl, rfl, h⟩
  · split
    · exact command_near h ..
    · exact set_near h _

theorem forceOff_near (h : d.Near l m p q) (reason : Option Lockout) :
    d.NearOutcome l m (d.forceOff p reason) (d.forceOff q reason) := by
  obtain ⟨hr, hn⟩ := h.write (d.config.level false)
  rw [forceOff_eq, forceOff_eq]
  rcases hp : p.write d.config.pin (d.config.level false) with ⟨result, p'⟩
  rcases hq : q.write d.config.pin (d.config.level false) with ⟨result', q'⟩
  rw [hp, hq] at hr hn
  subst hr
  cases result' with
  | error e => exact ⟨rfl, rfl, hn.note ..⟩
  | ok u => exact settle_near (free_near hn) ..

theorem process_near (h : d.Near l m p q) : d.NearOutcome l m (d.process p) (d.process q) := by
  unfold process
  rw [h.clock_eq]
  cases d.overdue? p.clock.now with
  | none => exact ⟨rfl, rfl, h⟩
  | some millis => exact forceOff_near (h.note ..) _

theorem resetLockout_near (h : d.Near l m p q) :
    d.NearOutcome l m (d.resetLockout p) (d.resetLockout q) := by
  unfold resetLockout
  refine ⟨rfl, rfl, ?_⟩
  dsimp only
  cases d.status.reason with
  | none => exact h
  | some r => exact h.note ..

theorem pulseNow_near (h : d.Near l m p q) : d.NearOutcome l m (d.pulseNow p) (d.pulseNow q) := by
  have hs := set_near h true
  have hdeeds : Deeds (fun _ => False) d p (d.set p true).driver (d.set p true).plant := set_deeds true
  have hc : (d.set p true).driver.config = d.config := (Frame.of_deeds hdeeds).config_eq
  unfold pulseNow
  dsimp only
  rw [hs.result_eq, hs.driver_eq]
  split
  · exact hs
  · have hn : (d.set p true).driver.Near l m (d.set p true).plant (d.set q true).plant := by
      rw [Near, hc]
      exact hs.plant
    have hoff := set_near hn false
    rw [NearOutcome, hc] at hoff
    exact hoff

theorem obey_near (h : d.Near l m p q) (c : Command) :
    d.NearOutcome l m (Rig.obey d p c) (Rig.obey d q c) := by
  cases c with
  | set on => exact set_near h on
  | toggle => exact set_near h _
  | duty x => exact setDuty_near h x
  | process => exact process_near h
  | emergencyStop =>
    unfold Rig.obey emergencyStop
    exact forceOff_near (h.note ..) _
  | shutdown =>
    unfold Rig.obey shutdown
    exact forceOff_near h _
  | resetLockout => exact resetLockout_near h
  | restore total cycles => exact ⟨rfl, rfl, h⟩
  | pulseNow => exact pulseNow_near h

theorem startPulse_near (h : d.Near l m p q) (serial timer : Nat) (millis : Option UInt32) :
    d.NearOutcome l m (d.startPulse p serial timer millis) (d.startPulse q serial timer millis) := by
  have hs := set_near h true
  unfold startPulse
  dsimp only
  rw [hs.result_eq]
  split
  · exact hs
  · exact ⟨rfl, by rw [hs.driver_eq], hs.plant.note ..⟩

theorem finishPulse_near (h : d.Near l m p q) (number : Nat) :
    d.NearOutcome l m (d.finishPulse p number) (d.finishPulse q number) := by
  unfold finishPulse
  split
  · have ha := apply_near (d := d.dropPulse) h false Duty.zero
    dsimp only
    rw [ha.result_eq]
    split
    · exact ha
    · exact ⟨rfl, ha.driver_eq, ha.plant.note ..⟩
  · exact ⟨rfl, rfl, h.note ..⟩

end Output.Driver

/-! ## What stays at one place -/

/-- Only the line of a pin and the writes to it may have changed on a board. -/
structure Gpio.Board.Away (pin : Pin) (b b' : Board) : Prop where
  board_eq : b' = { b with bench :=
    { b.bench with lines := b'.bench.lines, written := b'.bench.written } }
  line_eq : ∀ {i}, i ≠ pin → b'.bench.lines.get? i = b.bench.lines.get? i
  written_eq : ∀ {i}, i ≠ pin → b'.bench.written.get? i = b.bench.written.get? i

/-- Only the claim on a group, if one is given, may have changed in a table. -/
structure Interlock.Groups.Away (mine : Option Group) (g g' : Groups) : Prop where
  groups_eq : g' = { g with claims := g'.claims }
  claim_eq : ∀ {group}, mine ≠ some group → g'.claims.get? group = g.claims.get? group

/-- Only what is at a pin, the claim on a group and the log may have changed. -/
structure Plant.Away (pin : Gpio.Pin) (mine : Option Interlock.Group) (p p' : Plant) : Prop where
  clock_eq : p'.clock = p.clock
  board : p.board.Away pin p'.board
  groups : p.groups.Away mine p'.groups

namespace Gpio.Board

variable {pin i : Pin} {b b' b'' : Board}

theorem Away.refl (pin : Pin) (b : Board) : Away pin b b :=
  ⟨rfl, fun _ => rfl, fun _ => rfl⟩

theorem Away.trans (h : Away pin b b') (h' : Away pin b' b'') : Away pin b b'' where
  board_eq := by rw [h'.board_eq, h.board_eq]
  line_eq hi := (h'.line_eq hi).trans (h.line_eq hi)
  written_eq hi := (h'.written_eq hi).trans (h.written_eq hi)

theorem write_away (b : Board) (pin : Pin) (level : Bool) : b.Away pin (b.write pin level).2 := by
  cases hr : (b.write pin level).1 with
  | error e =>
    rw [write_failed hr]
    exact .refl pin b
  | ok u =>
    obtain ⟨hw, hb⟩ := write_ok hr
    rw [hb]
    generalize (b.write pin level).2.bench = bench at hw ⊢
    unfold Bench.write at hw
    split at hw
    · cases hw
    · split at hw
      · cases hw
        exact ⟨rfl, fun hi => Table.get?_modify_of_ne (Ne.symm hi),
          fun hi => Table.get?_insert_of_ne (Ne.symm hi)⟩
      · cases hw

/-- What stays at one pin leaves the others. -/
theorem Away.near (h : b.Away pin b') (hi : i ≠ pin) : b.Near i b' :=
  ⟨by rw [h.board_eq], by rw [h.board_eq]; rfl, h.line_eq hi, h.written_eq hi⟩

end Gpio.Board

namespace Interlock.Groups

variable {mine mine' : Option Group} {group : Group} {g g' g'' : Groups}

theorem Away.refl (mine : Option Group) (g : Groups) : Away mine g g :=
  ⟨rfl, fun _ => rfl⟩

theorem Away.trans (h : Away mine g g') (h' : Away mine g' g'') : Away mine g g'' where
  groups_eq := by rw [h'.groups_eq, h.groups_eq]
  claim_eq hg := (h'.claim_eq hg).trans (h.claim_eq hg)

theorem modify_away (g : Groups) (group : Group) (f : Claim → Claim) :
    Away (some group) g { g with claims := g.claims.modify group f } :=
  ⟨rfl, fun hg => Table.get?_modify_of_ne fun he => hg (congrArg some he)⟩

theorem Away.near (h : g.Away mine g') (hm : ∀ group, mine' = some group → mine ≠ some group) :
    g.Near mine' g' :=
  ⟨by rw [h.groups_eq], fun group hg => h.claim_eq (hm group hg)⟩

end Interlock.Groups

namespace Plant

variable {pin pin' : Gpio.Pin} {mine mine' : Option Interlock.Group} {p p' p'' : Plant}

theorem Alike.away (h : p.Alike p') : Away pin mine p p' :=
  ⟨h.clock_eq, h.board_eq ▸ .refl _ _, h.groups_eq ▸ .refl _ _⟩

theorem Away.trans (h : Away pin mine p p') (h' : Away pin mine p' p'') : Away pin mine p p'' :=
  ⟨h'.clock_eq.trans h.clock_eq, h.board.trans h'.board, h.groups.trans h'.groups⟩

/-- What stays at one place leaves the others, and does not take entries of the log back. -/
theorem Away.near (h : p.Away pin mine p') (hp : pin' ≠ pin)
    (hm : ∀ group, mine' = some group → mine ≠ some group) :
    p.Near pin' mine' p.log p'.log p' :=
  ⟨h.clock_eq, h.board.near hp, h.groups.near hm, [], (List.append_nil _).symm, (List.append_nil _).symm⟩

end Plant

namespace Output.Driver

variable {may : Command → Prop} {d d' : Driver} {p p' : Plant}

theorem free_away (d : Driver) (p : Plant) : p.groups.Away d.config.group (d.free p).groups := by
  unfold free
  cases d.config.group with
  | none => exact .refl _ _
  | some g => exact p.groups.modify_away g _

theorem abandon_away (d : Driver) (p : Plant) : p.groups.Away d.config.group (d.abandon p).groups := by
  unfold abandon
  cases d.config.group with
  | none => exact .refl _ _
  | some g => exact p.groups.modify_away g _

theorem hold_away (d : Driver) (g : Interlock.Groups) : g.Away d.config.group (d.hold g) := by
  unfold hold
  cases d.config.group with
  | none => exact .refl _ _
  | some group => exact g.modify_away group _

/-- Every deed of a driver stays at its pin and its group. -/
theorem away_of_deed (h : Deed may d p d' p') : p.Away d.config.pin d.config.group p' := by
  cases h with
  | note alike => exact alike.away
  | @apply on duty asked =>
    have hc := d.apply_cases p on duty
    generalize d.apply p on duty = o at hc ⊢
    cases hc with
    | refused gate alike => exact alike.away
    | failed gate pass write alike =>
      refine ⟨alike.clock_eq, alike.board_eq ▸ .refl _ _, alike.groups_eq ▸ ?_⟩
      cases on with
      | false => exact .refl _ _
      | true => exact abandon_away d p
    | done gate pass write clock_eq alike =>
      refine ⟨alike.clock_eq, alike.board_eq ▸ Gpio.Board.write_away .., alike.groups_eq ▸ ?_⟩
      cases on with
      | false => exact free_away d p
      | true => exact hold_away d p.groups
  | @force reason compelled =>
    have hc := d.forceOff_cases p reason
    generalize d.forceOff p reason = o at hc ⊢
    cases hc with
    | failed write alike => exact alike.away
    | done write clock_eq alike =>
      exact ⟨alike.clock_eq, alike.board_eq ▸ Gpio.Board.write_away .., alike.groups_eq ▸ free_away d p⟩
  | unlock told => exact (Plant.Alike.refl p).away
  | restore told => exact (Plant.Alike.refl p).away
  | dropPulse => exact (Plant.Alike.refl p).away
  | cancelPulse serial => exact (Plant.Alike.refl p).away
  | beginPulse q number isOn => exact (Plant.Alike.refl p).away

theorem away_of_deeds (h : Deeds may d p d' p') : p.Away d.config.pin d.config.group p' := by
  induction h with
  | refl => exact (Plant.Alike.refl p).away
  | tail hds hd ih =>
    have hc := (Frame.of_deeds hds).config_eq
    exact ih.trans (hc ▸ away_of_deed hd)

end Output.Driver

/-! ## Two places -/

/-- Two changes, each to some keys of a table, are made in either order. The tables are the same if each change
comes out the same. -/
theorem Table.eq_of_apart {κ α : Type} [Ranked κ] {t t₁ t₂ t₁₂ t₂₁ : Table κ α} {at₁ at₂ : κ → Prop}
    (apart : ∀ k, at₁ k → ¬at₂ k)
    (h₁ : ∀ k, ¬at₁ k → t₁.get? k = t.get? k) (h₁₂ : ∀ k, ¬at₂ k → t₁₂.get? k = t₁.get? k)
    (h₂ : ∀ k, ¬at₂ k → t₂.get? k = t.get? k) (h₂₁ : ∀ k, ¬at₁ k → t₂₁.get? k = t₂.get? k)
    (same₁ : ∀ k, at₁ k → t₂₁.get? k = t₁.get? k) (same₂ : ∀ k, at₂ k → t₁₂.get? k = t₂.get? k) :
    t₂₁ = t₁₂ := by
  ext1 k
  by_cases hk : at₁ k
  · rw [same₁ k hk, h₁₂ k (apart k hk)]
  · rw [h₂₁ k hk]
    by_cases hk' : at₂ k
    · rw [same₂ k hk']
    · rw [h₂ k hk', h₁₂ k hk', h₁ k hk]

section Places

variable {pin pin' : Gpio.Pin} {mine mine' : Option Interlock.Group}

theorem Gpio.Board.eq_of_away {b b₁ b₂ b₁₂ b₂₁ : Board} (hp : pin ≠ pin')
    (h₁ : b.Away pin b₁) (h₁₂ : b₁.Away pin' b₁₂) (h₂ : b.Away pin' b₂) (h₂₁ : b₂.Away pin b₂₁)
    (hn : b₁.Near pin b₂₁) (hn' : b₂.Near pin' b₁₂) : b₂₁ = b₁₂ := by
  have apart : ∀ i, i = pin → ¬i = pin' := fun i hi hi' => hp (hi.symm.trans hi')
  have hline : b₂₁.bench.lines = b₁₂.bench.lines :=
    Table.eq_of_apart apart (fun _ => h₁.line_eq) (fun _ => h₁₂.line_eq) (fun _ => h₂.line_eq)
      (fun _ => h₂₁.line_eq) (fun _ hi => hi ▸ hn.line_eq) (fun _ hi => hi ▸ hn'.line_eq)
  have hwritten : b₂₁.bench.written = b₁₂.bench.written :=
    Table.eq_of_apart apart (fun _ => h₁.written_eq) (fun _ => h₁₂.written_eq) (fun _ => h₂.written_eq)
      (fun _ => h₂₁.written_eq) (fun _ hi => hi ▸ hn.written_eq) (fun _ hi => hi ▸ hn'.written_eq)
  rw [h₂₁.board_eq, h₂.board_eq, h₁₂.board_eq, h₁.board_eq, hline, hwritten]

theorem Interlock.Groups.eq_of_away {g g₁ g₂ g₁₂ g₂₁ : Groups}
    (hm : ∀ group, mine = some group → mine' ≠ some group)
    (h₁ : g.Away mine g₁) (h₁₂ : g₁.Away mine' g₁₂) (h₂ : g.Away mine' g₂) (h₂₁ : g₂.Away mine g₂₁)
    (hn : g₁.Near mine g₂₁) (hn' : g₂.Near mine' g₁₂) : g₂₁ = g₁₂ := by
  have hclaims : g₂₁.claims = g₁₂.claims :=
    Table.eq_of_apart hm (fun _ => h₁.claim_eq) (fun _ => h₁₂.claim_eq) (fun _ => h₂.claim_eq)
      (fun _ => h₂₁.claim_eq) hn.claim_eq hn'.claim_eq
  rw [h₂₁.groups_eq, h₂.groups_eq, h₁₂.groups_eq, h₁.groups_eq, hclaims]

/-- Two plants that differ in the order of the entries in their logs at most. -/
structure Plant.Shuffled (p q : Plant) : Prop where
  alike : p.Alike q
  log_perm : q.log.Perm p.log

/-- Changes at two places come out the same in either order, if each of them comes out the same at its own
place. -/
theorem Plant.shuffled_of_away {p p₁ p₂ p₁₂ p₂₁ : Plant} (hp : pin ≠ pin')
    (hm : ∀ group, mine = some group → mine' ≠ some group)
    (h₁ : p.Away pin mine p₁) (h₁₂ : p₁.Away pin' mine' p₁₂)
    (h₂ : p.Away pin' mine' p₂) (h₂₁ : p₂.Away pin mine p₂₁)
    (hn : p₁.Near pin mine p.log p₂.log p₂₁) (hn' : p₂.Near pin' mine' p.log p₁.log p₁₂) :
    p₁₂.Shuffled p₂₁ := by
  obtain ⟨es, hes, hes'⟩ := hn.log
  obtain ⟨fs, hfs, hfs'⟩ := hn'.log
  refine ⟨⟨?_, ?_, ?_⟩, ?_⟩
  · exact Gpio.Board.eq_of_away hp h₁.board h₁₂.board h₂.board h₂₁.board hn.board hn'.board
  · exact Interlock.Groups.eq_of_away hm h₁.groups h₁₂.groups h₂.groups h₂₁.groups hn.groups hn'.groups
  · rw [h₂₁.clock_eq, h₂.clock_eq, h₁₂.clock_eq, h₁.clock_eq]
  · rw [hes', hfs', hes, hfs, List.append_assoc, List.append_assoc]
    exact List.perm_append_comm.append_left p.log

end Places

end Switchboard
