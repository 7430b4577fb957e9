import Switchboard.Proofs.Runs

/-!
# What the status says of the pin and the claim

A driver that has its pin for itself is `Sound`: a status of on or off is what is on the line, and an error
says nothing of it. The claim follows the line, not the status: the driver has a claim on its group while
its pin is energised, which it then holds, and no claim on anything else. No deed changes this
(`Sound.deed`), so it is true of every driver in every state that a run reaches (`run_sound`).
-/

namespace Switchboard

namespace Output.Driver

/-- The output is at the level of a position. -/
def isAt (d : Driver) (p : Plant) (on : Bool) : Prop :=
  p.board.bench.level? d.config.pin = some (d.config.level on)

/-- The status, the line and the claim of a driver agree. -/
structure Sound (d : Driver) (p : Plant) : Prop where
  drives : p.board.Drives d.config.pin
  on : d.status.state = .on → d.isAt p true
  off : d.status.state = .off ∨ d.status.state = .unknown → d.isAt p false
  claim : ∀ {group c}, p.groups.claims.get? group = some c → c.belongsTo d.serial →
    d.config.group = some group ∧ c = .held d.token ∧ d.isAt p true
  holds : d.isAt p true → ∀ {group}, d.config.group = some group →
    p.groups.isRegistered group = true → p.groups.claims.get? group = some (.held d.token)
  placed : ∀ {group}, d.config.group = some group →
    p.groups.isRegistered group = true ∨ p.groups.IsFull

variable {may : Command → Prop} {d d' : Driver} {p p' : Plant}

theorem not_isAt_off (h : d.isAt p true) : ¬d.isAt p false := by
  intro h'
  exact d.config.level_ne (Option.some.inj (h.symm.trans h'))

theorem belongsTo_token : (Interlock.Claim.held d.token).belongsTo d.serial :=
  Interlock.Claim.belongsTo_held.2 rfl

theorem Sound.born (h : d.Born p) : d.Sound p where
  drives := h.drives
  on hs := by
    rw [h.idle] at hs
    cases hs
  off _ := h.level_eq
  claim hc hb := absurd hb (h.claimless hc)
  holds hon := absurd h.level_eq (not_isAt_off hon)
  placed := h.placed

/-- What a driver relies on is what makes it sound. -/
theorem Sound.spared (h : d.Sound p) (hs : p.Spares d.serial d.config.pin p') : d.Sound p' := by
  have hl : ∀ on, d.isAt p' on ↔ d.isAt p on := fun on => by
    unfold isAt
    rw [hs.board.bench.level_eq]
  refine ⟨h.drives.spared hs.board, fun ho => (hl _).2 (h.on ho), fun ho => (hl _).2 (h.off ho),
    fun hc hb => ?_, fun hon {group} hg hr => ?_, fun hg => ?_⟩
  · obtain ⟨hg, he, hon⟩ := h.claim ((hs.groups.claim_iff hb).1 hc) hb
    exact ⟨hg, he, (hl _).2 hon⟩
  · have hr' : p.groups.isRegistered group = true := by
      rcases h.placed hg with hr' | hf
      · exact hr'
      · exact (hs.groups.full hf).2 group hr
    exact (hs.groups.claim_iff belongsTo_token).2 (h.holds ((hl _).1 hon) hg hr')
  · exact (h.placed hg).imp hs.groups.registered fun hf => (hs.groups.full hf).1

/-- A driver is as sound as another that says the same of itself, or that it does not know. -/
theorem Sound.of_alike (h : d.Sound p) (ha : p.Alike p') (hs : d'.serial = d.serial)
    (hc : d'.config = d.config) (hst : d'.status.state = d.status.state ∨ d'.status.state = .error) :
    d'.Sound p' := by
  have ht : d'.token = d.token := by simp [token, hs, hc]
  have hl : ∀ on, d'.isAt p' on ↔ d.isAt p on := fun on => by
    unfold isAt
    rw [ha.board_eq, hc]
  refine ⟨?_, fun ho => ?_, fun ho => ?_, fun hcl hb => ?_, fun hon {group} hg hr => ?_, fun hg => ?_⟩
  · rw [ha.board_eq, hc]
    exact h.drives
  · rcases hst with hst | hst
    · exact (hl _).2 (h.on (hst ▸ ho))
    · cases hst.symm.trans ho
  · rcases hst with hst | hst
    · exact (hl _).2 (h.off (hst ▸ ho))
    · rcases ho with ho | ho <;> cases hst.symm.trans ho
  · rw [ha.groups_eq] at hcl
    rw [hs] at hb
    obtain ⟨hg, he, hon⟩ := h.claim hcl hb
    exact ⟨hc ▸ hg, ht ▸ he, (hl _).2 hon⟩
  · rw [ha.groups_eq] at hr ⊢
    rw [ht]
    exact h.holds ((hl _).1 hon) (hc ▸ hg) hr
  · rw [ha.groups_eq]
    exact h.placed (hc ▸ hg)

/-- A sound driver has no reservation to take back. -/
theorem Sound.abandon_groups (h : d.Sound p) : (d.abandon p).groups = p.groups := by
  unfold abandon
  cases d.config.group with
  | none => rfl
  | some g =>
    refine Interlock.Groups.abandon_eq_self fun u hu hs => ?_
    obtain ⟨-, he, -⟩ := h.claim hu (Interlock.Claim.belongsTo_reserved.2 hs)
    cases he

/-- A driver that passed the gate has a claim on its group only, and holds it. -/
theorem Sound.hold_claim (h : d.Sound p) {group : Interlock.Group} {c : Interlock.Claim}
    (hc : (d.hold p.groups).claims.get? group = some c) (hb : c.belongsTo d.serial) :
    d.config.group = some group ∧ c = .held d.token := by
  unfold hold at hc
  cases hg : d.config.group with
  | none =>
    simp only [hg] at hc
    cases hg.symm.trans (h.claim hc hb).1
  | some g =>
    simp only [hg, Interlock.Groups.hold] at hc
    by_cases hne : g = group
    · subst hne
      rw [Table.get?_modify_self] at hc
      obtain ⟨c', -, rfl⟩ := Option.map_eq_some_iff.1 hc
      exact ⟨rfl, rfl⟩
    · rw [Table.get?_modify_of_ne hne] at hc
      cases hg.symm.trans (h.claim hc hb).1
      exact absurd rfl hne

/-- A driver that freed its claim has none. -/
theorem Sound.free_claim (h : d.Sound p) {group : Interlock.Group} {c : Interlock.Claim}
    (hc : (d.free p).groups.claims.get? group = some c) : ¬c.belongsTo d.serial := by
  intro hb
  unfold free at hc
  cases hg : d.config.group with
  | none =>
    simp only [hg] at hc
    cases hg.symm.trans (h.claim hc hb).1
  | some g =>
    simp only [hg, Interlock.Groups.release] at hc
    by_cases hne : g = group
    · subst hne
      rw [Table.get?_modify_self] at hc
      obtain ⟨c', -, rfl⟩ := Option.map_eq_some_iff.1 hc
      split at hb
      · exact Interlock.Claim.not_belongsTo_free hb
      · rename_i hn
        exact hn (Interlock.Claim.isOf_iff.2 hb)
    · rw [Table.get?_modify_of_ne hne] at hc
      cases hg.symm.trans (h.claim hc hb).1
      exact hne rfl

theorem hold_registered {g : Interlock.Groups} {group : Interlock.Group}
    (hg : d.config.group = some group) (hr : (d.hold g).isRegistered group = true) :
    (d.hold g).claims.get? group = some (.held d.token) := by
  rw [hold, hg] at hr ⊢
  obtain ⟨c, hc⟩ := Option.isSome_iff_exists.1 (Table.contains_modify.symm.trans hr)
  simp only [Interlock.Groups.hold, Table.get?_modify_self, hc, Option.map_some]

/-- After a write that went through, with the claim held or freed to match, a driver is sound. -/
theorem Sound.written (h : d.Sound p) {on : Bool}
    (hw : (p.board.write d.config.pin (d.config.level on)).1 = .ok ())
    (ha : Plant.Alike
      { p with
        board := (p.board.write d.config.pin (d.config.level on)).2
        groups := if on then d.hold p.groups else (d.free p).groups } p')
    (hs : d'.serial = d.serial) (hc : d'.config = d.config)
    (hst : d'.status.state = if on then .on else .off) : d'.Sound p' := by
  have ht : d'.token = d.token := by simp [token, hs, hc]
  have hat : d'.isAt p' on := by
    unfold isAt
    rw [ha.board_eq, hc]
    exact (Gpio.Board.write_level hw).1
  have hdrives : p'.board.Drives d'.config.pin := by
    rw [ha.board_eq, hc]
    exact h.drives.framed (Gpio.Board.write_frame ..)
  cases on with
  | true =>
    have hg : p'.groups = d.hold p.groups := ha.groups_eq
    refine ⟨hdrives, fun _ => hat, fun ho => ?_, fun hcl hb => ?_, fun _ {group} hgr hr => ?_,
      fun {group} hgr => ?_⟩
    · rcases ho with ho | ho <;> cases hst.symm.trans ho
    · obtain ⟨hgr, he⟩ := h.hold_claim (hg ▸ hcl) (hs ▸ hb)
      exact ⟨hc ▸ hgr, ht ▸ he, hat⟩
    · rw [hg] at hr ⊢
      rw [ht]
      exact hold_registered (hc ▸ hgr) hr
    · rw [hc] at hgr
      rw [hg, hold, hgr]
      simpa [Interlock.Groups.hold, Interlock.Groups.isRegistered, Interlock.Groups.IsFull]
        using h.placed hgr
  | false =>
    have hg : p'.groups = (d.free p).groups := ha.groups_eq
    have hf := Frame.free_groups d p
    refine ⟨hdrives, fun ho => ?_, fun _ => hat, fun hcl hb => ?_,
      fun hon => absurd hat (not_isAt_off hon), fun hgr => ?_⟩
    · cases hst.symm.trans ho
    · exact absurd (hs ▸ hb) (h.free_claim (hg ▸ hcl))
    · rw [hg, hf.registered_eq, Interlock.Groups.IsFull, hf.capacity_eq, hf.size_eq]
      exact h.placed (hc ▸ hgr)

theorem Sound.apply (h : d.Sound p) (on : Bool) (duty : Single) :
    (d.apply p on duty).driver.Sound (d.apply p on duty).plant := by
  have hc := d.apply_cases p on duty
  generalize d.apply p on duty = o at hc ⊢
  cases hc with
  | refused gate alike => exact h.of_alike alike rfl rfl (.inl Status.refuse_state)
  | failed gate pass write alike =>
    refine h.of_alike ⟨alike.board_eq, ?_, alike.clock_eq⟩ rfl rfl (.inr rfl)
    cases on with
    | false => exact alike.groups_eq
    | true => exact alike.groups_eq.trans h.abandon_groups
  | done gate pass write clock_eq alike => exact h.written write alike (by simp) (by simp) (by simp)

theorem Sound.forceOff (h : d.Sound p) (reason : Option Lockout) :
    (d.forceOff p reason).driver.Sound (d.forceOff p reason).plant := by
  have hc := d.forceOff_cases p reason
  generalize d.forceOff p reason = o at hc ⊢
  cases hc with
  | failed write alike => exact h.of_alike alike (by simp) (by simp) (.inr rfl)
  | done write clock_eq alike => exact h.written write alike (by simp) (by simp) (by simp)

/-- No deed of a driver lets its status, its line and its claim come apart. -/
theorem Sound.deed (hd : Deed may d p d' p') (h : d.Sound p) : d'.Sound p' := by
  cases hd with
  | note alike => exact h.of_alike alike rfl rfl (.inl rfl)
  | apply asked => exact h.apply _ _
  | force compelled => exact h.forceOff _
  | unlock told => exact h.of_alike (.refl p) rfl rfl (.inl rfl)
  | restore told => exact h.of_alike (.refl p) rfl rfl (.inl rfl)
  | dropPulse => exact h.of_alike (.refl p) rfl rfl (.inl rfl)
  | cancelPulse serial => exact h.of_alike (.refl p) rfl rfl (.inl rfl)
  | beginPulse q number isOn => exact h.of_alike (.refl p) rfl rfl (.inl rfl)

end Output.Driver

namespace Rig

/-- In every state that a run from the start reaches, a driver that has had its pin for itself is sound. -/
theorem run_sound {s : Setup} {n : Nat} {es : List Event}
    (ho : s.rig.owns n es = true) {d : Output.Driver}
    (hd : (s.rig.run es).drivers.get? n = some d) :
    d.Sound (s.rig.run es).plant := by
  have hw := setup_wellFormed s
  have hn : s.rig.drivers.get? n = none := rfl
  generalize s.rig = r at ho hd hw hn ⊢
  refine run_lasts Output.Driver.Sound.born Output.Driver.Sound.spared Output.Driver.Sound.deed hw ?_ ho d hd
  intro d' hd'
  cases hn.symm.trans hd'

end Rig

end Switchboard
