import Switchboard.Proofs.ClaimHistory
import Switchboard.Proofs.Refusal

/-!
# Groups that get no place

The table of the groups is filled in the order in which groups are presented, be it by themselves or by a
driver that is made, and nothing takes a place away. So what has a place is told by the groups presented
alone: the first of them that differ, as many as there are places (`Serves`, `run_serves`). A driver whose
group comes too late is `Placeless` from its first moment to its last.

If groups without a place are closed, its gate lets such a driver never through. Every deed of it leaves the
line without an on level (`Dims`), and who asks it to switch on is refused (`Barred`). If they are open, the
gate never stops it (`Admitted`). Either way the driver finds no claim that it could move (`Aloof`).
-/

namespace Switchboard

open Interlock (Group)
open Output (Driver Outcome Lockout Deed Deeds)

namespace Interlock.Groups

/-! ## The first of some groups -/

/-- The first of some groups, each counted once, as many as there are places. -/
def firsts (places : Nat) (presented : List Group) : List Group :=
  presented.eraseDups.take places

section Firsts

variable {places : Nat} {presented later : List Group} {group : Group}

theorem mem_of_mem_firsts (h : group ∈ firsts places presented) : group ∈ presented :=
  List.mem_eraseDups.1 (List.mem_of_mem_take h)

/-- Where there is room all of them have a place. -/
theorem firsts_of_room (h : (firsts places presented).length < places) :
    firsts places presented = presented.eraseDups := by
  rw [firsts, List.length_take] at h
  exact List.take_of_length_le (by omega)

/-- Where there is none, those that come later get no place. -/
theorem firsts_append_of_full (h : places ≤ (firsts places presented).length) :
    firsts places (presented ++ later) = firsts places presented := by
  rw [firsts, List.length_take] at h
  rw [firsts, firsts, List.eraseDups_append, List.take_append_of_le_length (by omega)]

theorem firsts_concat_of_mem (h : group ∈ presented) :
    firsts places (presented ++ [group]) = firsts places presented := by
  rw [firsts, firsts, List.eraseDups_append]
  simp [List.removeAll, h]

theorem firsts_concat_of_room (h : (firsts places presented).length < places)
    (hn : group ∉ presented) :
    firsts places (presented ++ [group]) = firsts places presented ++ [group] := by
  have hlong : (presented ++ [group]).eraseDups = presented.eraseDups ++ [group] := by
    rw [List.eraseDups_append]
    simp [List.removeAll, hn, List.eraseDups_cons]
  have hall := firsts_of_room h
  rw [hall] at h ⊢
  rw [firsts, hlong, List.take_of_length_le]
  rwa [List.length_append]

/-- Who is among the first stays among them. -/
theorem mem_firsts_append (h : group ∈ firsts places presented) :
    group ∈ firsts places (presented ++ later) := by
  rw [firsts, List.eraseDups_append, List.take_append]
  exact List.mem_append_left _ h

/-- Who came too late stays out. -/
theorem not_mem_firsts_append (hp : group ∈ presented) (h : group ∉ firsts places presented) :
    group ∉ firsts places (presented ++ later) := by
  rcases Nat.lt_or_ge (firsts places presented).length places with hroom | hfull
  · rw [firsts_of_room hroom] at h
    exact absurd (List.mem_eraseDups.2 hp) h
  · rwa [firsts_append_of_full hfull]

end Firsts

variable {g g' g'' : Groups} {group : Group} {t : Token} {capacity : Nat} {presented later : List Group}

/-! ## Places -/

/-- No place was given or taken. -/
structure Places (g g' : Groups) : Prop where
  capacity_eq : g'.capacity = g.capacity
  overflow_eq : g'.overflow = g.overflow
  size_eq : g'.claims.size = g.claims.size
  registered_eq : ∀ group, g'.isRegistered group = g.isRegistered group

theorem Places.refl (g : Groups) : Places g g :=
  ⟨rfl, rfl, rfl, fun _ => rfl⟩

theorem Places.trans (h : Places g g') (h' : Places g' g'') : Places g g'' where
  capacity_eq := h'.capacity_eq.trans h.capacity_eq
  overflow_eq := h'.overflow_eq.trans h.overflow_eq
  size_eq := h'.size_eq.trans h.size_eq
  registered_eq group := (h'.registered_eq group).trans (h.registered_eq group)

theorem Frame.places {mine : Option Group} (h : Frame t mine g g') : Places g g' :=
  ⟨h.capacity_eq, h.overflow_eq, h.size_eq, h.registered_eq⟩

theorem forget_places (g : Groups) (t : Token) : Places g (g.forget t) :=
  ⟨rfl, rfl, Table.size_map, fun _ => Table.contains_map⟩

/-- The places of a table are with the first of the groups presented. -/
structure Serves (g : Groups) (capacity : Nat) (presented : List Group) : Prop where
  capacity_eq : g.capacity = capacity
  size_eq : g.claims.size = (firsts capacity presented).length
  registered_iff : ∀ group, g.isRegistered group = true ↔ group ∈ firsts capacity presented

theorem Serves.start (capacity : Nat) (overflow : Overflow) :
    (new capacity overflow).Serves capacity [] :=
  ⟨rfl, by simp [firsts, new, Table.size, Table.empty], fun group => by
    simp [firsts, new, isRegistered, Table.contains, Table.get?_empty]⟩

theorem Serves.of_places (h : g.Serves capacity presented) (hp : Places g g') :
    g'.Serves capacity presented where
  capacity_eq := hp.capacity_eq.trans h.capacity_eq
  size_eq := hp.size_eq.trans h.size_eq
  registered_iff group := by
    rw [hp.registered_eq]
    exact h.registered_iff group

/-- A group that is presented takes the next place, if it has none yet and there is one. -/
theorem Serves.register (h : g.Serves capacity presented) (group : Group) :
    (g.register group).2.Serves capacity (presented ++ [group]) := by
  have hiff := h.registered_iff group
  unfold Groups.register
  split
  · rename_i hr
    have hsame : firsts capacity (presented ++ [group]) = firsts capacity presented :=
      firsts_concat_of_mem (mem_of_mem_firsts (hiff.1 hr))
    exact ⟨h.capacity_eq, hsame ▸ h.size_eq, hsame ▸ h.registered_iff⟩
  · rename_i hr
    rw [h.capacity_eq, h.size_eq]
    split
    · rename_i hfull
      have hsame : firsts capacity (presented ++ [group]) = firsts capacity presented :=
        firsts_append_of_full hfull
      exact ⟨h.capacity_eq, hsame ▸ h.size_eq, hsame ▸ h.registered_iff⟩
    · rename_i hroom
      have hroom := Nat.lt_of_not_ge hroom
      have hnew : group ∉ presented := by
        intro hm
        refine hr (hiff.2 ?_)
        rw [firsts_of_room hroom]
        exact List.mem_eraseDups.2 hm
      refine ⟨rfl, ?_, fun group' => ?_⟩
      · rw [firsts_concat_of_room hroom hnew, List.length_append, ← h.size_eq]
        exact Table.size_insert (Bool.eq_false_iff.2 hr)
      · rw [firsts_concat_of_room hroom hnew, List.mem_append, List.mem_singleton,
          ← h.registered_iff group']
        simp only [isRegistered, Table.contains_insert, Bool.or_eq_true, decide_eq_true_eq]
        refine ⟨fun hc => hc.symm.imp_right fun hk => (rank_inj hk).symm, ?_⟩
        rintro (hc | rfl)
        · exact .inr hc
        · exact .inl rfl

/-- What stays at a claim on a group without a place does nothing. -/
theorem Frame.eq_of_unregistered (h : Frame t (some group) g g') (hr : g.isRegistered group = false) :
    g' = g := by
  have hnone {g : Groups} (h : g.isRegistered group = false) : g.claims.get? group = none := by
    simpa [isRegistered, Table.contains] using h
  have hclaims : g'.claims = g.claims := by
    refine Table.ext fun group' => ?_
    rcases h.claim group' with he | ⟨hg, -, -⟩
    · exact he
    · cases hg
      rw [hnone hr, hnone ((h.registered_eq group).trans hr)]
  have hcapacity := h.capacity_eq
  have hoverflow := h.overflow_eq
  cases g
  cases g'
  simp_all

/-- To forget a token without claims does nothing. -/
theorem forget_eq_self (h : ∀ group c, g.claims.get? group = some c → ¬c.belongsTo t.serial) :
    g.forget t = g := by
  have hclaims : (g.claims.map fun _ c => if c.isOf t then .free else c) = g.claims := by
    refine Table.ext fun group => ?_
    rw [Table.get?_map]
    cases hc : g.claims.get? group with
    | none => rfl
    | some c => rw [Option.map_some, if_neg fun hof => h group c hc (Claim.isOf_iff.1 hof)]
  rw [forget, hclaims]

end Interlock.Groups

/-! ## Groups that are presented -/

namespace Rig

variable {r r' : Rig} {e : Event} {n : Nat} {d : Driver} {capacity : Nat} {before : List Group}

/-- The group that an event presents: by itself, or with a driver that is made. -/
def presents (r : Rig) (e : Event) : Option Group :=
  match e, (r.step e).2 with
  | .register group, _ => some group
  | .create c, .serial _ => c.group
  | _, _ => none

/-- The groups that a run presents, in the order in which it does. -/
def presented (r : Rig) : List Event → List Group
  | [] => []
  | e :: es => (r.presents e).toList ++ (r.step e).1.presented es

theorem presented_append (r : Rig) (es es' : List Event) :
    r.presented (es ++ es') = r.presented es ++ (r.run es).presented es' := by
  induction es generalizing r with
  | nil => rfl
  | cons e es ih => simp only [List.cons_append, presented, ih, run_cons, List.append_assoc]

/-- A move that neither makes a driver nor registers a group gives no place and takes none. -/
theorem Move.places (h : Move e r r') (hc : ∀ c, e ≠ .create c) (hg : ∀ group, e ≠ .register group) :
    r.plant.groups.Places r'.plant.groups := by
  cases h with
  | quiet quiet => exact quiet.groups_eq ▸ .refl _
  | turn live turn alike drivers_eq tokens_eq next_le =>
    exact alike.groups_eq ▸ (Frame.of_turn turn).groups.places
  | made told drivers_eq tokens_eq next_eq clock_eq configured groups_eq => exact absurd told (hc _)
  | @closed _ n d told live drivers_eq tokens_eq next_eq clock_eq board groups_eq =>
    rw [groups_eq]
    exact (Frame.free_groups d r.plant).places.trans (Interlock.Groups.forget_places _ _)
  | placed told alike drivers_eq tokens_eq next_eq => exact absurd told (hg _)
  | claimed told live frame alike drivers_eq tokens_eq next_eq => exact alike.groups_eq ▸ frame.places
  | minted id name => exact .refl _
  | dropped told live => exact Interlock.Groups.forget_places _ _

/-- The making of a driver presents its group, if it succeeds. -/
theorem create_groups (r : Rig) (c : Output.Config) :
    (r.create c).1.plant.groups =
      match r.presents (.create c) with
      | some group => (r.plant.groups.register group).2
      | none => r.plant.groups := by
  have hends := Driver.create_cases r.next c r.plant
  unfold presents step create fresh
  dsimp only
  generalize Driver.create r.next c r.plant = x at hends ⊢
  cases hends with
  | unfit unfit => rfl
  | failed configure alike => exact alike.groups_eq
  | made fit configure alike => exact alike.groups_eq

theorem step_places (hc : ∀ c, e ≠ .create c) (hg : ∀ group, e ≠ .register group) :
    r.plant.groups.Places (r.step e).1.plant.groups :=
  step_of_moves (J := fun r' => r.plant.groups.Places r'.plant.groups)
    (fun hm hp => hp.trans (hm.places hc hg)) (.refl _)

theorem presents_eq_none (hc : ∀ c, e ≠ .create c) (hg : ∀ group, e ≠ .register group) :
    r.presents e = none := by
  unfold presents
  split
  · exact absurd rfl (hg _)
  · exact absurd rfl (hc _)
  · rfl

/-- An event gives a place to the group that it presents, if there is one left, and to no other. -/
theorem step_serves (h : r.plant.groups.Serves capacity before) (e : Event) :
    (r.step e).1.plant.groups.Serves capacity (before ++ (r.presents e).toList) := by
  by_cases hc : ∃ c, e = .create c
  · obtain ⟨c, rfl⟩ := hc
    rw [step, create_groups]
    cases r.presents (.create c) with
    | none => simpa using h
    | some group => exact h.register group
  by_cases hg : ∃ group, e = .register group
  · obtain ⟨group, rfl⟩ := hg
    have hgroups : (r.step (.register group)).1.plant.groups = (r.plant.groups.register group).2 :=
      (r.plant.register_alike group).groups_eq
    rw [hgroups, presents]
    exact h.register group
  · have hc : ∀ c, e ≠ .create c := fun c he => hc ⟨c, he⟩
    have hg : ∀ group, e ≠ .register group := fun group he => hg ⟨group, he⟩
    rw [presents_eq_none hc hg, Option.toList_none, List.append_nil]
    exact h.of_places (step_places hc hg)

/-- In a run the places go to the first of the groups that it presents. -/
theorem run_serves (h : r.plant.groups.Serves capacity before) (es : List Event) :
    (r.run es).plant.groups.Serves capacity (before ++ r.presented es) := by
  induction es generalizing r before with
  | nil => simpa [presented] using h
  | cons e es ih =>
    rw [presented, ← List.append_assoc]
    exact ih (step_serves h e)

theorem setup_serves (s : Setup) (es : List Event) :
    (s.rig.run es).plant.groups.Serves s.places (s.rig.presented es) := by
  have hstart : s.rig.plant.groups.Serves s.places [] := .start s.places s.overflow
  exact run_serves hstart es

/-! ## Claims of drivers -/

/-- A driver has a claim on its own group at most. -/
def Confined (r : Rig) : Prop :=
  ∀ group c u d, r.plant.groups.claims.get? group = some c → c.owner? = some u →
    r.drivers.get? u.serial = some d → d.config.group = some group

/-- Where drivers stay who they are, only the claims have to be looked at. -/
theorem Confined.of_claims (h : r.Confined) (hdr : r'.drivers = r.drivers)
    (hc : ∀ {group c u d}, r'.plant.groups.claims.get? group = some c → c.owner? = some u →
      r.drivers.get? u.serial = some d → r.plant.groups.claims.get? group = some c) : r'.Confined := by
  intro group c u d hg hu hd
  rw [hdr] at hd
  exact h group c u d (hc hg hu hd) hu hd

theorem Confined.move (h : r.Confined) (hw : r.WellFormed) (hm : Move e r r') : r'.Confined := by
  cases hm with
  | quiet quiet => exact h.of_claims quiet.drivers_eq fun hg _ _ => quiet.groups_eq ▸ hg
  | @turn _ n d o live turn alike drivers_eq tokens_eq next_le =>
    intro group c u d' hg hu hd'
    have hf := Frame.of_turn turn
    have hs : d.token.serial = n := (hw.driver live).1
    rw [alike.groups_eq] at hg
    rw [drivers_eq, Table.get?_insert_eq_some_iff] at hd'
    rcases hf.groups.claim group with he | ⟨hown, -, ha⟩
    · rw [he] at hg
      rcases hd' with ⟨hu', rfl⟩ | ⟨-, hd'⟩
      · rw [hf.config_eq]
        exact h group c u d hg hu (hu' ▸ live)
      · exact h group c u d' hg hu hd'
    · -- The claim is on the group of the driver that has its turn, and nobody else's.
      have hu' : u.serial = n := (Interlock.Claim.admits_iff.1 (ha c hg) u hu).trans hs
      rcases hd' with ⟨-, rfl⟩ | ⟨hne, -⟩
      · rw [hf.config_eq]
        exact hown
      · exact absurd hu' hne
  | @made _ c told drivers_eq tokens_eq next_eq clock_eq configured groups_eq =>
    intro group c' u d' hg hu hd'
    have hg : r.plant.groups.claims.get? group = some c' := by
      have hfree : c' ≠ .free := by
        rintro rfl
        cases hu
      rw [groups_eq] at hg
      cases hc : c.group with
      | none => simpa only [hc] using hg
      | some own =>
        simp only [hc] at hg
        exact (Interlock.Groups.register_claim hg).resolve_right hfree
    rw [drivers_eq, Table.get?_insert_of_ne (Nat.ne_of_gt (hw.owner_lt hg hu))] at hd'
    exact h group c' u d' hg hu hd'
  | @closed _ n d told live drivers_eq tokens_eq next_eq clock_eq board groups_eq =>
    intro group c u d' hg hu hd'
    rw [groups_eq] at hg
    obtain ⟨hg, hne⟩ := Interlock.Groups.forget_owner hg hu
    rw [drivers_eq] at hd'
    exact h group c u d' (((Frame.free_groups d r.plant).owner hg hu).resolve_right hne) hu
      (Table.get?_erase_eq_some_iff.1 hd').2
  | placed told alike drivers_eq tokens_eq next_eq =>
    refine h.of_claims drivers_eq fun hg hu _ => ?_
    rw [alike.groups_eq] at hg
    refine (Interlock.Groups.register_claim hg).resolve_right ?_
    rintro rfl
    cases hu
  | @claimed _ s t own groups told live frame alike drivers_eq tokens_eq next_eq =>
    refine h.of_claims drivers_eq fun hg hu hd => ?_
    rw [alike.groups_eq] at hg
    refine (frame.owner hg hu).resolve_right fun hs => ?_
    -- The token is alive, and no driver has its serial.
    rw [hs, (hw.token live).1] at hd
    cases (hw.distinct hd).symm.trans live
  | minted id name => exact h
  | dropped told live => exact h.of_claims rfl fun hg hu _ => (Interlock.Groups.forget_owner hg hu).1

theorem Confined.step (h : r.Confined) (hw : r.WellFormed) (e : Event) : (r.step e).1.Confined :=
  (step_of_moves (J := fun r => r.WellFormed ∧ r.Confined)
    (fun hm ⟨hw, h⟩ => ⟨hw.move hm, h.move hw hm⟩) ⟨hw, h⟩).2

theorem run_confined (s : Setup) (es : List Event) : (s.rig.run es).Confined :=
  run_of_steps (fun e hw h => h.step hw e) (setup_wellFormed s) (fun _ _ _ _ hg => by cases hg) es

end Rig

/-! ## Drivers without a place -/

namespace Output.Driver

variable {may : Command → Prop} {d d' d'' : Driver} {p p' p'' : Plant}

/-- The group of the driver has no place. -/
def Placeless (d : Driver) (p : Plant) : Prop :=
  ∃ group, d.config.group = some group ∧ p.groups.isRegistered group = false

/-- The gate of such a group does what is said for all groups without a place. -/
theorem Placeless.checkInterlock_eq (h : d.Placeless p) :
    d.checkInterlock p = (p.groups.overflow == .failOpen) := by
  obtain ⟨group, hg, hr⟩ := h
  have hnone : p.groups.claims.get? group = none := by
    simpa [Interlock.Groups.isRegistered, Table.contains] using hr
  simp [checkInterlock, hg, Interlock.Groups.isAvailable, hnone]

/-- Whatever such a driver does, it changes no claim. -/
theorem Placeless.groups_eq (h : d.Placeless p) (hf : p.groups.Frame d.token d.config.group p'.groups) :
    p'.groups = p.groups := by
  obtain ⟨group, hg, hr⟩ := h
  rw [hg] at hf
  exact hf.eq_of_unregistered hr

theorem Placeless.of_places (h : d.Placeless p) (hp : p.groups.Places p'.groups)
    (hc : d'.config = d.config) : d'.Placeless p' := by
  obtain ⟨group, hg, hr⟩ := h
  exact ⟨group, hc ▸ hg, (hp.registered_eq group).trans hr⟩

/-- The gate lets the driver never through: its group has no place, and such groups are closed. -/
structure Shut (d : Driver) (p : Plant) : Prop where
  placeless : d.Placeless p
  overflow_eq : p.groups.overflow = .failClosed

theorem Shut.checkInterlock_eq (h : d.Shut p) : d.checkInterlock p = false := by
  rw [h.placeless.checkInterlock_eq, h.overflow_eq]
  rfl

theorem Shut.of_places (h : d.Shut p) (hp : p.groups.Places p'.groups) (hc : d'.config = d.config) :
    d'.Shut p' :=
  ⟨h.placeless.of_places hp hc, hp.overflow_eq.trans h.overflow_eq⟩

/-- A driver that finds its gate shut found it so before, since no place is taken away. -/
theorem Shut.before {serial : Nat} (h : d'.Shut p') (hs : p.groups.Spares serial p'.groups)
    (hc : d'.config = d.config) : d.Shut p := by
  obtain ⟨⟨group, hg, hr⟩, ho⟩ := h
  refine ⟨⟨group, hc ▸ hg, ?_⟩, hs.overflow_eq ▸ ho⟩
  rw [Bool.eq_false_iff]
  intro hr'
  cases hr.symm.trans (hs.registered hr')

/-! ## No on level -/

/-- What happened from a driver and a plant to another wrote no on level. -/
structure Dims (d : Driver) (p : Plant) (d' : Driver) (p' : Plant) : Prop where
  writes : ∃ written, p'.board.bench.writes d.config.pin = p.board.bench.writes d.config.pin ++ written ∧
    d.config.level true ∉ written
  level : d.isAt p false → d'.isAt p' false
  state : d.status.state ≠ .on → d'.status.state ≠ .on

theorem Dims.of_alike (ha : p.Alike p') (hc : d'.config = d.config)
    (hs : d.status.state ≠ .on → d'.status.state ≠ .on) : Dims d p d' p' where
  writes := ⟨[], by rw [ha.board_eq, List.append_nil], List.not_mem_nil⟩
  level h := by
    unfold isAt at h ⊢
    rwa [ha.board_eq, hc]
  state := hs

theorem Dims.of_off (hw : (p.board.write d.config.pin (d.config.level false)).1 = .ok ())
    (hb : p'.board = (p.board.write d.config.pin (d.config.level false)).2)
    (hc : d'.config = d.config) (hs : d'.status.state = .off) : Dims d p d' p' := by
  obtain ⟨hlevel, hwrites⟩ := Gpio.Board.write_level hw
  refine ⟨⟨[d.config.level false], by rw [hb, hwrites], ?_⟩, fun _ => ?_, fun _ => ?_⟩
  · simpa using d.config.level_ne
  · unfold isAt
    rw [hb, hc, hlevel]
  · simp [hs]

theorem Dims.trans (h : Dims d p d' p') (hc : d'.config = d.config) (h' : Dims d' p' d'' p'') :
    Dims d p d'' p'' := by
  obtain ⟨before, hb, hbn⟩ := h.writes
  obtain ⟨after, ha, han⟩ := h'.writes
  rw [hc] at ha han
  refine ⟨⟨before ++ after, by rw [ha, hb, List.append_assoc], ?_⟩, fun hl => h'.level (h.level hl),
    fun hs => h'.state (h.state hs)⟩
  simp [hbn, han]

/-- No deed of a driver whose gate is shut writes an on level. -/
theorem Dims.of_deed (h : d.Shut p) (hd : Deed may d p d' p') : Dims d p d' p' := by
  cases hd with
  | note alike => exact .of_alike alike rfl id
  | @apply on duty asked =>
    have hc := d.apply_cases p on duty
    generalize d.apply p on duty = o at hc ⊢
    have hoff (pass : on = true → d.checkInterlock p = true) : on = false := by
      cases on with
      | false => rfl
      | true => cases h.checkInterlock_eq.symm.trans (pass rfl)
    cases hc with
    | refused gate alike =>
      refine .of_alike alike rfl ?_
      dsimp only
      rw [Status.refuse_state]
      exact id
    | failed gate pass write alike =>
      obtain rfl := hoff pass
      exact .of_alike alike rfl nofun
    | done gate pass write clock_eq alike =>
      obtain rfl := hoff pass
      exact .of_off write alike.board_eq settle_config settle_state
  | @force reason compelled =>
    have hc := d.forceOff_cases p reason
    generalize d.forceOff p reason = o at hc ⊢
    cases hc with
    | failed write alike => exact .of_alike alike (stopped_config d reason) nofun
    | done write clock_eq alike =>
      exact .of_off write alike.board_eq (settle_config.trans (stopped_config d reason)) settle_state
  | unlock told => exact .of_alike (.refl p) rfl id
  | restore told => exact .of_alike (.refl p) rfl id
  | dropPulse => exact .of_alike (.refl p) rfl id
  | cancelPulse serial => exact .of_alike (.refl p) rfl id
  | beginPulse q number isOn => exact .of_alike (.refl p) rfl id

theorem Dims.of_deeds (h : d.Shut p) (hd : Deeds may d p d' p') : Dims d p d' p' := by
  induction hd with
  | refl => exact .of_alike (.refl p) rfl id
  | tail hds hd ih =>
    have hf := Frame.of_deeds hds
    exact ih.trans hf.config_eq (.of_deed (h.of_places hf.groups.places hf.config_eq) hd)

/-- What a driver is refused for that finds its gate shut. -/
def hindrance (d : Driver) (now : Nat) : Lockout :=
  match d.status.latched? with
  | some reason => reason
  | none => if isEarly d.offSince d.config.minOff now then .minOffTime else .interlockActive

/-- A driver that finds its gate shut is refused, by an earlier gate or by this one. -/
theorem Shut.apply_on (h : d.Shut p) (hs : d.status.state ≠ .on) (duty : Single) :
    d.apply p true duty = d.refuse p (d.hindrance p.clock.now) := by
  have hoff : d.status.isOn = false := by
    rw [Bool.eq_false_iff]
    exact fun hon => hs (Status.isOn_iff.1 hon)
  have hnone : d.reserve? p = none := by
    cases hr : d.reserve? p with
    | none => rfl
    | some q => cases h.checkInterlock_eq.symm.trans (reserve?_alike hr).2
  unfold apply hindrance
  cases hl : d.status.latched? with
  | some reason => simp only [refusal?, hl]
  | none =>
    cases he : isEarly d.offSince d.config.minOff p.clock.now with
    | true => simp only [refusal?, hl, hoff, he, Bool.not_false, Bool.and_self, if_true]
    | false =>
      simp only [refusal?, hl, he, Bool.and_false, Bool.false_eq_true, if_false, if_true, hnone]

/-! ## An open gate -/

theorem refusal?_ne_interlockActive (d : Driver) (now : Nat) (on : Bool) :
    d.refusal? now on ≠ some .interlockActive := by
  intro h
  unfold refusal? at h
  split at h
  · rename_i reason hl
    cases h
    cases (Status.latched?_eq_some_iff.1 hl).2.2
  · split at h <;> cases h
  · split at h <;> cases h

/-- A driver that is not stopped by the gate is not refused for it. -/
theorem command_ne_interlockActive {on : Bool} (h : on = true → d.checkInterlock p = true)
    (duty : Single) : (d.command p on duty).result ≠ .error (.refused .interlockActive) := by
  have hc := d.apply_cases p on duty
  unfold command
  generalize d.apply p on duty = o at hc ⊢
  intro he
  cases hc with
  | refused gate alike =>
    cases he
    rcases gate with hr | ⟨-, hon, hno, -⟩
    · exact refusal?_ne_interlockActive d _ _ hr
    · cases hno.symm.trans (h hon)
  | failed gate pass write alike => cases he
  | done gate pass write clock_eq alike => cases he

theorem forceOff_ne_refused (reason : Option Lockout) (r : Lockout) :
    (d.forceOff p reason).result ≠ .error (.refused r) := by
  intro h
  rcases d.forceOff_ends p reason with ⟨hok, -⟩ | ⟨e, he, -⟩
  · cases h.symm.trans hok
  · cases h.symm.trans he

/-- No command to such a driver is refused for the gate. -/
theorem obey_ne_interlockActive (h : d.checkInterlock p = true) (c : Command) :
    (Rig.obey d p c).result ≠ .error (.refused .interlockActive) := by
  have hcommand (on : Bool) (duty : Single) := command_ne_interlockActive (fun _ : on = true => h) duty
  cases c with
  | set on => exact hcommand on _
  | toggle => exact hcommand _ _
  | duty x =>
    by_cases hx : x.isFinite = true
    · obtain ⟨duty, he⟩ := d.setDuty_eq_command p hx
      simp only [Rig.obey, he]
      exact hcommand _ duty
    · simp [Rig.obey, setDuty_of_not_isFinite (Bool.eq_false_iff.2 hx)]
  | pulseNow =>
    cases hs : (d.set p true).result with
    | error e =>
      rw [Rig.obey, pulseNow_of_error hs]
      exact hcommand true _
    | ok u =>
      -- The second half of it switches off, which this gate has no say in.
      rw [Rig.obey, pulseNow_of_ok hs]
      exact command_ne_interlockActive (fun hon => by cases hon) _
  | process =>
    by_cases ho : d.overdue? p.clock.now = none
    · simp [Rig.obey, process, ho]
    · obtain ⟨q, -, he⟩ := process_of_overdue ho
      rw [Rig.obey, he]
      exact forceOff_ne_refused _ _
  | emergencyStop => exact forceOff_ne_refused _ _
  | shutdown => exact forceOff_ne_refused _ _
  | resetLockout | restore total cycles =>
    intro he
    cases he

theorem startPulse_ne_interlockActive (h : d.checkInterlock p = true) (serial timer : Nat)
    (millis : Option UInt32) :
    (d.startPulse p serial timer millis).result ≠ .error (.refused .interlockActive) := by
  cases hs : (d.set p true).result with
  | error e =>
    rw [startPulse_of_error hs]
    exact command_ne_interlockActive (fun _ => h) _
  | ok u => simp [startPulse, hs]

end Output.Driver

/-- The driver that is told something at an event, or given up, or got to by the timer. -/
def Event.driver? : Event → Option Nat
  | .close n | .command n _ | .pulse n _ _ | .ring n _ => some n
  | _ => none

namespace Rig

/-- A driver finds its gate shut, and is kept off. -/
structure Barred (r : Rig) (n : Nat) (d : Driver) : Prop where
  state : d.status.state ≠ .on
  /-- Whatever part it has in an event, it writes no on level. -/
  silent : ∀ {e o}, r.Part n d e o → ∃ written,
    o.plant.board.bench.writes d.config.pin =
        (r.found n e).board.bench.writes d.config.pin ++ written ∧
      d.config.level true ∉ written
  /-- Who asks it to switch on is refused, and no pin is touched. -/
  refuses : ∀ {c}, d.meansOn c = true →
    (r.step (.command n c)).2 = .outputFailed (.refused (d.hindrance r.plant.clock.now)) ∧
      (r.step (.command n c)).1.plant.board = r.plant.board
  /-- So is who asks it for a pulse, where there is a timer for one. -/
  refuses_pulse : ∀ {millis},
    (r.step (.pulse n millis true)).2 = .outputFailed (.refused (d.hindrance r.plant.clock.now)) ∧
      (r.step (.pulse n millis true)).1.plant.board = r.plant.board

/-- The gate of its group never stops a driver. -/
structure Admitted (r : Rig) (n : Nat) : Prop where
  command : ∀ c, (r.step (.command n c)).2 ≠ .outputFailed (.refused .interlockActive)
  pulse : ∀ millis timed, (r.step (.pulse n millis timed)).2 ≠ .outputFailed (.refused .interlockActive)

/-- A driver leaves all claims as they are, and so every answer about a group. -/
structure Aloof (r : Rig) (n : Nat) (d : Driver) : Prop where
  part : ∀ {e o}, r.Part n d e o → o.plant.groups = (r.found n e).groups
  step : ∀ {e}, e.driver? = some n → (r.step e).1.plant.groups = r.plant.groups

variable {r : Rig} {e : Event} {n : Nat} {d : Driver}

theorem found_places (r : Rig) (n : Nat) (e : Event) : r.plant.groups.Places (r.found n e).groups := by
  cases e with
  | advance millis =>
    exact finishAll_of_moves (.drift 0) (r := r.elapse millis)
      (J := fun r' => r.plant.groups.Places r'.plant.groups)
      (fun hm hp => hp.trans (hm.places (fun _ he => by cases he) fun _ he => by cases he)) (.refl _) _
  | _ => exact .refl _

/-- No driver is on that finds its gate shut. -/
def Unlit (r : Rig) : Prop :=
  ∀ n d, r.drivers.get? n = some d → d.Shut r.plant → d.status.state ≠ .on

theorem Unlit.step (h : r.Unlit) (hw : r.WellFormed) (e : Event) : (r.step e).1.Unlit := by
  intro n d' hd' hshut
  cases hd : r.drivers.get? n with
  | none =>
    rw [(step_born hw hd hd').1.idle]
    exact nofun
  | some d =>
    rcases step_part hw hd e with ⟨-, hn⟩ | ⟨o, ho, hlive⟩
    · cases hn.symm.trans hd'
    · cases hlive.symm.trans hd'
      have hshut := hshut.before (step_spares_next hw e) (Frame.of_turn ho.turn).config_eq
      exact (Driver.Dims.of_deeds (hshut.of_places (found_places r n e) rfl) ho.turn.deeds).state
        (h n d hd hshut)

theorem run_unlit (s : Setup) (es : List Event) : (s.rig.run es).Unlit :=
  run_of_steps (fun e hw h => h.step hw e) (setup_wellFormed s) (fun _ _ hd => by cases hd) es

/-- The line of such a driver is off, if it has its pin for itself. -/
theorem run_dark {s : Setup} {es : List Event} (ho : s.rig.owns n es = true)
    (hd : (s.rig.run es).drivers.get? n = some d) (h : d.Shut (s.rig.run es).plant) :
    d.isAt (s.rig.run es).plant false := by
  refine run_lasts (J := fun d p => d.Shut p → d.isAt p false) (fun hb _ => hb.level_eq) ?_ ?_
    (setup_wellFormed s) (fun d' hd' => by cases hd') ho d hd h
  · intro d p p' hj hs hshut
    unfold Driver.isAt
    rw [hs.board.bench.level_eq]
    exact hj (hshut.before hs.groups rfl)
  · intro may d d' p p' hd hj hshut
    have hf := Frame.of_deed hd
    have hshut : d.Shut p := by
      obtain ⟨group, hg, hr⟩ := hshut.placeless
      exact ⟨⟨group, hf.config_eq ▸ hg, (hf.groups.registered_eq group).symm.trans hr⟩,
        hf.groups.overflow_eq.symm.trans hshut.overflow_eq⟩
    exact (Driver.Dims.of_deed hshut hd).level (hj hshut)

theorem Barred.of_shut (hd : r.drivers.get? n = some d) (h : d.Shut r.plant)
    (hs : d.status.state ≠ .on) : r.Barred n d where
  state := hs
  silent ho :=
    (Driver.Dims.of_deeds (h.of_places (found_places ..) rfl) ho.turn.deeds).writes
  refuses {c} hc := by
    have ho := Driver.obey_of_refused (h.apply_on hs) hc
    simp only [Rig.step, tell, hd, ho]
    exact ⟨rfl, rfl⟩
  refuses_pulse {millis} := by
    have ho := Driver.startPulse_of_refused (h.apply_on hs) r.next r.timer millis
    simp only [Rig.step, Rig.pulse, fresh, hd, ho, Bool.not_true, Bool.false_eq_true, if_false]
    exact ⟨rfl, rfl⟩

theorem Admitted.of_open (hd : r.drivers.get? n = some d) (h : d.checkInterlock r.plant = true) :
    r.Admitted n where
  command c := by
    simp only [Rig.step, tell, hd]
    exact fun he => Driver.obey_ne_interlockActive h c (outputReply_eq_outputFailed_iff.1 he)
  pulse millis timed := by
    have ho := Driver.startPulse_ne_interlockActive h r.next r.timer millis
    cases timed with
    | false => simp [Rig.step, Rig.pulse, hd]
    | true =>
      simp only [Rig.step, Rig.pulse, fresh, hd, Bool.not_true, Bool.false_eq_true, if_false]
      split
      · rename_i err herr
        intro he
        cases he
        exact ho herr
      · intro he
        cases he

/-- A driver whose group has no place has no claim, and can make none. -/
theorem Aloof.of_placeless (hw : r.WellFormed) (hc : r.Confined) (hd : r.drivers.get? n = some d)
    (h : d.Placeless r.plant) : r.Aloof n d where
  part ho := (h.of_places (found_places ..) rfl).groups_eq (Frame.of_turn ho.turn).groups
  step {e} he := by
    have turned {o : Outcome} (ht : Turn (fun _ => True) d r.plant o) :
        o.plant.groups = r.plant.groups :=
      h.groups_eq (Frame.of_turn ht).groups
    cases e with
    | close m =>
      obtain rfl : m = n := Option.some.inj he
      have hfree : (d.free r.plant).groups = r.plant.groups := h.groups_eq (Frame.free_groups d r.plant)
      simp only [Rig.step, close, hd, (close_alike d r.plant).groups_eq, hfree]
      refine Interlock.Groups.forget_eq_self fun group c hg hb => ?_
      obtain ⟨u, hu, hs⟩ := hb
      obtain ⟨own, hown, hr⟩ := h
      have hlive : r.drivers.get? u.serial = some d := by
        rw [hs, Driver.token, (hw.driver hd).1]
        exact hd
      cases hown.symm.trans (hc group c u d hg hu hlive)
      cases hr.symm.trans (Table.contains_of_get? hg)
    | command m c =>
      obtain rfl : m = n := Option.some.inj he
      simp only [Rig.step, tell, hd]
      exact turned (.tell c trivial)
    | pulse m millis timed =>
      obtain rfl : m = n := Option.some.inj he
      cases timed with
      | false => simp only [Rig.step, Rig.pulse, hd, Bool.not_false, if_true]
      | true =>
        simp only [Rig.step, Rig.pulse, fresh, hd, Bool.not_true, Bool.false_eq_true, if_false]
        split <;> exact turned (.pulse r.next r.timer millis)
    | ring m number =>
      obtain rfl : m = n := Option.some.inj he
      simp only [Rig.step, ring, hd]
      split
      · exact turned (.finish number)
      · split
        · rw [(finish_eq hd _).1]
          exact turned (.finish _)
        · rfl
    | _ => cases he

/-! ## Runs -/

/-- What becomes of the groups after a run, and of the drivers whose groups have no place. -/
structure Rationed (s : Setup) (es : List Event) : Prop where
  /-- The groups that have a place are the first that the run presents. -/
  registered_iff : ∀ group, (s.rig.run es).plant.groups.isRegistered group = true ↔
    group ∈ Interlock.Groups.firsts s.places (s.rig.presented es)
  /-- No group loses its place. -/
  stays : ∀ group later, (s.rig.run es).plant.groups.isRegistered group = true →
    (s.rig.run (es ++ later)).plant.groups.isRegistered group = true
  /-- No group that was presented in vain gets a place afterwards. -/
  turnedAway : ∀ group later, group ∈ s.rig.presented es →
    (s.rig.run es).plant.groups.isRegistered group = false →
    (s.rig.run (es ++ later)).plant.groups.isRegistered group = false
  /-- If groups without a place are closed, their drivers are never on. -/
  barred : s.overflow = .failClosed → ∀ {n d}, (s.rig.run es).drivers.get? n = some d →
    d.Placeless (s.rig.run es).plant → (s.rig.run es).Barred n d
  dark : s.overflow = .failClosed → ∀ {n d}, s.rig.owns n es = true →
    (s.rig.run es).drivers.get? n = some d → d.Placeless (s.rig.run es).plant →
    d.isAt (s.rig.run es).plant false
  /-- If they are open, their gates stop nobody. -/
  admitted : s.overflow = .failOpen → ∀ {n d}, (s.rig.run es).drivers.get? n = some d →
    d.Placeless (s.rig.run es).plant → (s.rig.run es).Admitted n
  aloof : ∀ {n d}, (s.rig.run es).drivers.get? n = some d → d.Placeless (s.rig.run es).plant →
    (s.rig.run es).Aloof n d

theorem run_overflow_eq (s : Setup) (es : List Event) :
    (s.rig.run es).plant.groups.overflow = s.overflow :=
  run_of_steps (J := fun r => r.plant.groups.overflow = s.overflow)
    (fun e hw h => (step_spares_next hw e).overflow_eq.trans h) (setup_wellFormed s) rfl es

/-- In every state that a run reaches the places are with the groups that came first, and the policy for
the others is kept. -/
theorem run_rationed (s : Setup) (es : List Event) : Rationed s es := by
  have hw := run_wellFormed (setup_wellFormed s) es
  have hserves := setup_serves s
  have hlater (later : List Event) := s.rig.presented_append es later
  have hoverflow := run_overflow_eq s es
  have hshut (hs : s.overflow = .failClosed) {d : Driver} (h : d.Placeless (s.rig.run es).plant) :
      d.Shut (s.rig.run es).plant := ⟨h, hoverflow.trans hs⟩
  refine ⟨(hserves es).registered_iff, ?_, ?_, ?_, ?_, ?_, ?_⟩
  · intro group later hr
    rw [(hserves _).registered_iff, hlater]
    exact Interlock.Groups.mem_firsts_append (((hserves es).registered_iff group).1 hr)
  · intro group later hp hr
    rw [← Bool.not_eq_true, (hserves es).registered_iff] at hr
    rw [← Bool.not_eq_true, (hserves _).registered_iff, hlater]
    exact Interlock.Groups.not_mem_firsts_append hp hr
  · exact fun hs _ _ hd h => .of_shut hd (hshut hs h) (run_unlit s es _ _ hd (hshut hs h))
  · exact fun hs _ _ ho hd h => run_dark ho hd (hshut hs h)
  · intro hs n d hd h
    refine .of_open hd ?_
    rw [h.checkInterlock_eq, hoverflow, hs]
    rfl
  · exact fun hd h => .of_placeless hw (run_confined s es) hd h

/-- Two outputs of different groups, of which the second gets no place if there is only one. -/
def thronged : List Event :=
  [.create { Output.Config.plain 1 "up" .relay 17 with group := some 5 },
    .create { Output.Config.plain 2 "down" .relay 18 with group := some 6 }]

/-- Such an output is let on if groups without a place are open, and refused if they are closed. -/
example :
    ((({ Setup.plain with places := 1 } : Setup).rig.run thronged).step
        (.command 1 (.set true))).2 = .done ∧
      ((({ Setup.plain with places := 1, overflow := .failClosed } : Setup).rig.run thronged).step
        (.command 1 (.set true))).2 = .outputFailed (.refused .interlockActive) :=
  ⟨rfl, rfl⟩

end Rig

end Switchboard
