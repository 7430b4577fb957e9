import Switchboard.Proofs.Moves

/-!
# Runs of the rig

In a run from the start serials tell drivers and tokens apart, and who has a claim is alive (`WellFormed`).

For a driver whose pin nobody else touches a step then comes to one statement. Unless it is given up, a
step is at most one turn of its own between two stretches in which everything that it relies on is spared
(`step_turned`), and before its first step it is idle on a pin that it has just switched off (`step_born`).
What is true of a driver that has just been made, and is kept by what is spared and by every deed, is true
of it in every reached state (`run_lasts`).
-/

namespace Switchboard

open Output (Driver Outcome Deed)

/-! ## What a driver relies on -/

/-- What the driver with a serial relies on at a pin is as before, and no time is taken back. -/
structure Plant.Spares (serial : Nat) (pin : Gpio.Pin) (p p' : Plant) : Prop where
  now_le : p.clock.now ≤ p'.clock.now
  board : p.board.Spares pin p'.board
  groups : p.groups.Spares serial p'.groups

namespace Plant

variable {serial : Nat} {pin : Gpio.Pin} {p p' p'' : Plant}

theorem Spares.refl (serial : Nat) (pin : Gpio.Pin) (p : Plant) : Spares serial pin p p :=
  ⟨Nat.le_refl _, .refl _ _, .refl _ _⟩

theorem Spares.trans (h : Spares serial pin p p') (h' : Spares serial pin p' p'') :
    Spares serial pin p p'' :=
  ⟨Nat.le_trans h.now_le h'.now_le, h.board.trans h'.board, h.groups.trans h'.groups⟩

theorem Alike.spares (h : p.Alike p') : Spares serial pin p p' :=
  ⟨Nat.le_of_eq (by rw [h.clock_eq]), h.board_eq ▸ .refl _ _, h.groups_eq ▸ .refl _ _⟩

theorem Spares.of_groups {groups : Interlock.Groups} (h : Alike { p with groups } p')
    (hg : p.groups.Spares serial groups) : Spares serial pin p p' :=
  ⟨Nat.le_of_eq (by rw [h.clock_eq]), h.board_eq ▸ .refl _ _, h.groups_eq ▸ hg⟩

/-- What stays at the pin and the claim of one driver spares the others. -/
theorem Spares.of_frame {d d' : Driver} (h : Frame d p d' p') (hs : serial ≠ d.serial)
    (hp : pin ≠ d.config.pin) : Spares serial pin p p' :=
  ⟨Nat.le_of_eq (by rw [h.clock_eq]), h.board.spares_of_ne hp, h.groups.spares hs⟩

end Plant

/-- A driver that has just been made: idle on a pin that it drives off, without a claim. -/
structure Output.Driver.Born (d : Driver) (p : Plant) : Prop where
  idle : d = .idle d.serial d.config
  drives : p.board.Drives d.config.pin
  level_eq : p.board.bench.level? d.config.pin = some (d.config.level false)
  claimless : ∀ {group c}, p.groups.claims.get? group = some c → ¬c.belongsTo d.serial
  placed : ∀ {group}, d.config.group = some group →
    p.groups.isRegistered group = true ∨ p.groups.IsFull

/-- What a rig is set up with. -/
structure Setup where
  /-- The name of the chip. -/
  chip : String
  /-- How many pins may be configured, if there is a bound. -/
  capacity : Option Nat
  /-- How many interlock groups have a place. -/
  places : Nat
  /-- What becomes of the other groups. -/
  overflow : Interlock.Overflow
  /-- The wall clock at the start. -/
  wall : Timestamp

/-- One chip without a bound, and a few groups. -/
def Setup.plain : Setup := ⟨Output.defaultChip, none, 4, .failOpen, ⟨0, 0⟩⟩

/-- A rig at its start: nothing is on it yet, and its board has been started. -/
def Setup.rig (s : Setup) : Rig :=
  .new (.new (.init (.new s.chip s.capacity)) (.new s.places s.overflow) s.wall)

/-- A rig before its board is started. -/
def Setup.cold (s : Setup) : Rig :=
  .new (.new (.new s.chip s.capacity) (.new s.places s.overflow) s.wall)

namespace Rig

/-- At an event nobody but the driver with a serial, if there is one, has a hand on its pin. -/
def keeps (r : Rig) (n : Nat) (e : Event) : Bool :=
  (r.drivers.get? n).all fun d =>
    !e.meddles d.config.pin &&
      r.drivers.entries.all fun x => x.1 == n || x.2.config.pin != d.config.pin

/-- Throughout a run nobody but the driver with a serial has a hand on its pin. -/
def owns (r : Rig) (n : Nat) : List Event → Bool
  | [] => true
  | e :: es => r.keeps n e && (r.step e).1.owns n es

/-- Throughout a run every driver has its pin for itself. -/
def apart (r : Rig) : List Event → Bool
  | [] => true
  | e :: es => r.drivers.keys.all (r.keeps · e) && (r.step e).1.apart es

variable {r r' : Rig} {e : Event} {n : Nat} {d : Driver}

/-! ## Who is who -/

/-- Serials tell drivers and tokens apart, and who has a claim is alive. -/
structure WellFormed (r : Rig) : Prop where
  driver : ∀ {n d}, r.drivers.get? n = some d → d.serial = n ∧ n < r.next
  token : ∀ {s t}, r.tokens.get? s = some t → t.serial = s ∧ s < r.next
  distinct : ∀ {n d}, r.drivers.get? n = some d → r.tokens.get? n = none
  owner : ∀ {group c u}, r.plant.groups.claims.get? group = some c → c.owner? = some u →
    r.drivers.contains u.serial = true ∨ r.tokens.contains u.serial = true

theorem setup_wellFormed (s : Setup) : s.rig.WellFormed :=
  ⟨nofun, nofun, fun _ => rfl, nofun⟩

theorem cold_wellFormed (s : Setup) : s.cold.WellFormed :=
  ⟨nofun, nofun, fun _ => rfl, nofun⟩

/-- A serial that was never given is nobody's. -/
theorem WellFormed.fresh (hw : r.WellFormed) :
    r.drivers.get? r.next = none ∧ r.tokens.get? r.next = none := by
  constructor
  · cases h : r.drivers.get? r.next with
    | none => rfl
    | some d => exact absurd (hw.driver h).2 (Nat.lt_irrefl _)
  · cases h : r.tokens.get? r.next with
    | none => rfl
    | some t => exact absurd (hw.token h).2 (Nat.lt_irrefl _)

/-- Whoever has a claim has a serial that was given. -/
theorem WellFormed.owner_lt (hw : r.WellFormed) {group : Interlock.Group} {c : Interlock.Claim}
    {u : Interlock.Token} (hc : r.plant.groups.claims.get? group = some c) (hu : c.owner? = some u) :
    u.serial < r.next := by
  rcases hw.owner hc hu with h | h
  · obtain ⟨d, hd⟩ := Option.isSome_iff_exists.1 h
    exact (hw.driver hd).2
  · obtain ⟨t, ht⟩ := Option.isSome_iff_exists.1 h
    exact (hw.token ht).2

/-- Where drivers and tokens stay who they are, only the claims have to be looked at. -/
theorem WellFormed.of_claims (hw : r.WellFormed) (hdr : r'.drivers = r.drivers)
    (htk : r'.tokens = r.tokens) (hn : r.next ≤ r'.next)
    (ho : ∀ {group c u}, r'.plant.groups.claims.get? group = some c → c.owner? = some u →
      r.drivers.contains u.serial = true ∨ r.tokens.contains u.serial = true) : r'.WellFormed where
  driver hd := (hw.driver (hdr ▸ hd)).imp_right (Nat.lt_of_lt_of_le · hn)
  token ht := (hw.token (htk ▸ ht)).imp_right (Nat.lt_of_lt_of_le · hn)
  distinct hd := by
    rw [htk]
    exact hw.distinct (hdr ▸ hd)
  owner hc hu := by
    rw [hdr, htk]
    exact ho hc hu

theorem WellFormed.quiet (hw : r.WellFormed) (h : Quiet e r r') : r'.WellFormed :=
  hw.of_claims h.drivers_eq h.tokens_eq h.next_le fun hc hu => hw.owner (h.groups_eq ▸ hc) hu

theorem WellFormed.turn (hw : r.WellFormed) {may : Command → Prop} {o : Outcome}
    (hd : r.drivers.get? n = some d) (ht : Turn may d r.plant o) (ha : o.plant.Alike r'.plant)
    (hdr : r'.drivers = r.drivers.insert n o.driver) (htk : r'.tokens = r.tokens)
    (hn : r.next ≤ r'.next) : r'.WellFormed where
  driver h := by
    rw [hdr, Table.get?_insert_eq_some_iff] at h
    rcases h with ⟨rfl, rfl⟩ | ⟨-, h⟩
    · obtain ⟨hs, hlt⟩ := hw.driver hd
      exact ⟨(Frame.of_turn ht).serial_eq.trans hs, Nat.lt_of_lt_of_le hlt hn⟩
    · obtain ⟨hs, hlt⟩ := hw.driver h
      exact ⟨hs, Nat.lt_of_lt_of_le hlt hn⟩
  token h := by
    obtain ⟨hs, hlt⟩ := hw.token (htk ▸ h)
    exact ⟨hs, Nat.lt_of_lt_of_le hlt hn⟩
  distinct h := by
    rw [htk]
    rw [hdr, Table.get?_insert_eq_some_iff] at h
    rcases h with ⟨rfl, -⟩ | ⟨-, h⟩
    · exact hw.distinct hd
    · exact hw.distinct h
  owner hc hu := by
    rw [hdr, htk, Table.contains_insert]
    rw [ha.groups_eq] at hc
    rcases (Frame.of_turn ht).groups.owner hc hu with hc' | hs
    · exact (hw.owner hc' hu).imp_left fun h => by rw [h, Bool.or_true]
    · refine .inl ?_
      have : n = _ := (hw.driver hd).1.symm.trans hs.symm
      simp [this]

/-- Every move keeps serials apart and claims with the living. -/
theorem WellFormed.move (hw : r.WellFormed) (h : Move e r r') : r'.WellFormed := by
  cases h with
  | quiet quiet => exact hw.quiet quiet
  | turn live turn alike drivers_eq tokens_eq next_le =>
    exact hw.turn live turn alike drivers_eq tokens_eq next_le
  | @made _ c told drivers_eq tokens_eq next_eq clock_eq configured groups_eq =>
    refine ⟨fun h => ?_, fun h => ?_, fun h => ?_, fun {group c' u} hc hu => ?_⟩
    · rw [drivers_eq, Table.get?_insert_eq_some_iff] at h
      rw [next_eq]
      rcases h with ⟨rfl, rfl⟩ | ⟨-, h⟩
      · exact ⟨rfl, Nat.lt_succ_self _⟩
      · exact (hw.driver h).imp_right Nat.lt_succ_of_lt
    · rw [tokens_eq] at h
      rw [next_eq]
      exact (hw.token h).imp_right Nat.lt_succ_of_lt
    · rw [drivers_eq, Table.get?_insert_eq_some_iff] at h
      rw [tokens_eq]
      rcases h with ⟨rfl, -⟩ | ⟨-, h⟩
      · exact hw.fresh.2
      · exact hw.distinct h
    · have hc' : r.plant.groups.claims.get? group = some c' ∨ c' = .free := by
        rw [groups_eq] at hc
        cases hg : c.group with
        | none => exact .inl (by simpa only [hg] using hc)
        | some g => exact Interlock.Groups.register_claim (by simpa only [hg] using hc)
      rcases hc' with hc' | rfl
      · rw [drivers_eq, tokens_eq, Table.contains_insert]
        exact (hw.owner hc' hu).imp_left fun h => by rw [h, Bool.or_true]
      · cases hu
  | @closed _ n d told live drivers_eq tokens_eq next_eq clock_eq board groups_eq =>
    refine ⟨fun h => ?_, fun h => ?_, fun h => ?_, fun hc hu => ?_⟩
    · rw [drivers_eq, Table.get?_erase_eq_some_iff] at h
      rw [next_eq]
      exact hw.driver h.2
    · rw [tokens_eq] at h
      rw [next_eq]
      exact hw.token h
    · rw [drivers_eq, Table.get?_erase_eq_some_iff] at h
      rw [tokens_eq]
      exact hw.distinct h.2
    · rw [groups_eq] at hc
      obtain ⟨hc', hs⟩ := Interlock.Groups.forget_owner hc hu
      rw [drivers_eq, tokens_eq]
      rcases (Frame.free_groups d r.plant).owner hc' hu with hc' | hs'
      · have hn : n ≠ _ := fun he => hs (he.symm.trans (hw.driver live).1.symm)
        exact (hw.owner hc' hu).imp_left fun h => by rwa [Table.contains_erase_of_ne hn]
      · exact absurd hs' hs
  | placed told alike drivers_eq tokens_eq next_eq =>
    refine hw.of_claims drivers_eq tokens_eq (Nat.le_of_eq next_eq.symm) fun hc hu => ?_
    rw [alike.groups_eq] at hc
    rcases Interlock.Groups.register_claim hc with hc' | rfl
    · exact hw.owner hc' hu
    · cases hu
  | @claimed _ s t group groups told live frame alike drivers_eq tokens_eq next_eq =>
    refine hw.of_claims drivers_eq tokens_eq (Nat.le_of_eq next_eq.symm) fun hc hu => ?_
    rw [alike.groups_eq] at hc
    rcases frame.owner hc hu with hc' | hs
    · exact hw.owner hc' hu
    · refine .inr (Table.contains_of_get? (a := t) ?_)
      rw [hs, (hw.token live).1]
      exact live
  | minted id name =>
    refine ⟨fun h => (hw.driver h).imp_right Nat.lt_succ_of_lt, fun h => ?_, fun h => ?_, fun hc hu => ?_⟩
    · rcases Table.get?_insert_eq_some_iff.1 h with ⟨rfl, rfl⟩ | ⟨-, h⟩
      · exact ⟨rfl, Nat.lt_succ_self _⟩
      · exact (hw.token h).imp_right Nat.lt_succ_of_lt
    · dsimp only
      rw [Table.get?_insert_of_ne (Nat.ne_of_gt (hw.driver h).2)]
      exact hw.distinct h
    · rw [Table.contains_insert]
      exact (hw.owner hc hu).imp_right fun h => by rw [h, Bool.or_true]
  | @dropped s t told live =>
    refine ⟨fun h => hw.driver h, fun h => hw.token (Table.get?_erase_eq_some_iff.1 h).2,
      fun {n _} h => ?_, fun hc hu => ?_⟩
    · have hn : s ≠ n := by
        rintro rfl
        cases (hw.distinct h).symm.trans live
      exact (Table.get?_erase_of_ne hn).trans (hw.distinct h)
    · obtain ⟨hc', hs⟩ := Interlock.Groups.forget_owner hc hu
      have hn : s ≠ _ := fun he => hs (he.symm.trans (hw.token live).1.symm)
      exact (hw.owner hc' hu).imp_right fun h => by
        dsimp only
        rwa [Table.contains_erase_of_ne hn]

/-- The ends of several pulses, one after another. -/
def finishAll (r : Rig) (l : List (Nat × Output.Pulse)) : Rig :=
  l.foldl (fun r (serial, q) => r.finish serial q) r

theorem finishAll_append (r : Rig) (l l' : List (Nat × Output.Pulse)) :
    r.finishAll (l ++ l') = (r.finishAll l).finishAll l' :=
  List.foldl_append

theorem finishAll_cons (r : Rig) (m : Nat) (q : Output.Pulse) (l : List (Nat × Output.Pulse)) :
    r.finishAll ((m, q) :: l) = (r.finish m q).finishAll l :=
  rfl

theorem elapse_quiet (r : Rig) (millis : Int) : Quiet (.advance millis) r (r.elapse millis) :=
  clock_quiet _ r (Nat.le_add_right _ _)

/-- The passing of time: first the clocks move, and then the pulses that are over end. -/
theorem advance_eq (r : Rig) (millis : Int) :
    ∃ r₁, Quiet (.advance millis) r r₁ ∧ r.advance millis = r₁.finishAll r₁.due :=
  ⟨_, elapse_quiet r millis, rfl⟩

/-- What every move at an event keeps, pulses that end keep. -/
theorem finishAll_of_moves (e : Event) {J : Rig → Prop} (move : ∀ {r r'}, Move e r r' → J r → J r')
    (hj : J r) (l : List (Nat × Output.Pulse)) : J (r.finishAll l) := by
  induction l generalizing r with
  | nil => exact hj
  | cons x rest ih => exact ih (move (finish_move e r x.1 x.2) hj)

/-- What every move at an event keeps, the event keeps. -/
theorem step_of_moves {J : Rig → Prop} (move : ∀ {r r'}, Move e r r' → J r → J r') (hj : J r) :
    J (r.step e).1 := by
  cases e with
  | advance millis =>
    obtain ⟨r₁, hq, he⟩ := advance_eq r millis
    simp only [Rig.step, he]
    exact finishAll_of_moves _ move (move (.quiet hq) hj) _
  | _ => exact move (step_move r _ nofun) hj

theorem WellFormed.finishAll (hw : r.WellFormed) (l : List (Nat × Output.Pulse)) :
    (r.finishAll l).WellFormed :=
  finishAll_of_moves (.drift 0) (fun h hw => hw.move h) hw l

/-- Every step keeps serials apart and claims with the living. -/
theorem WellFormed.step (hw : r.WellFormed) (e : Event) : (r.step e).1.WellFormed :=
  step_of_moves (fun h hw => hw.move h) hw

/-! ## What a move does to the claims of a serial -/

/-- A move spares the claims of a serial, unless the driver with it is given up or has a turn. If the serial
is a token's, the move must not be one of its own. -/
theorem Move.spares_or (hw : r.WellFormed) (hn : e.actor? = some n → r.tokens.get? n = none)
    (h : Move e r r') :
    r.plant.groups.Spares n r'.plant.groups ∧
        (∀ d, r.drivers.get? n = some d → r'.drivers.get? n = some d) ∨
      ∃ d, r.drivers.get? n = some d ∧
        (r'.drivers.get? n = none ∨
          ∃ o, Turn (fun c => e = .command n c) d r.plant o ∧ o.plant.Alike r'.plant ∧
            r'.drivers.get? n = some o.driver) := by
  cases h with
  | quiet quiet =>
    exact .inl ⟨quiet.groups_eq ▸ .refl _ _, fun d hd => by rw [quiet.drivers_eq, hd]⟩
  | @turn _ m d o live turn alike drivers_eq tokens_eq next_le =>
    by_cases hm : m = n
    · subst hm
      exact .inr ⟨d, live, .inr ⟨o, turn, alike, by rw [drivers_eq, Table.get?_insert_self]⟩⟩
    · refine .inl ⟨?_, fun d hd => by rw [drivers_eq, Table.get?_insert_of_ne hm, hd]⟩
      rw [alike.groups_eq]
      refine (Frame.of_turn turn).groups.spares ?_
      rw [Driver.token, (hw.driver live).1]
      exact Ne.symm hm
  | @made _ c told drivers_eq tokens_eq next_eq clock_eq configured groups_eq =>
    refine .inl ⟨?_, fun d hd => ?_⟩
    · rw [groups_eq]
      cases c.group with
      | none => exact .refl _ _
      | some g => exact Interlock.Groups.register_spares
    · rw [drivers_eq, Table.get?_insert_of_ne (Nat.ne_of_gt (hw.driver hd).2), hd]
  | @closed _ m d told live drivers_eq tokens_eq next_eq clock_eq board groups_eq =>
    by_cases hm : m = n
    · subst hm
      exact .inr ⟨d, live, .inl (by rw [drivers_eq, Table.get?_erase_self])⟩
    · have hs : d.token.serial ≠ n := by
        rw [Driver.token, (hw.driver live).1]
        exact hm
      refine .inl ⟨?_, fun d hd => by rw [drivers_eq, Table.get?_erase_of_ne hm, hd]⟩
      rw [groups_eq]
      exact ((Frame.free_groups d r.plant).spares (Ne.symm hs)).trans (Interlock.Groups.forget_spares hs)
  | placed told alike drivers_eq tokens_eq next_eq =>
    refine .inl ⟨?_, fun d hd => by rw [drivers_eq, hd]⟩
    rw [alike.groups_eq]
    exact Interlock.Groups.register_spares
  | @claimed _ m t group groups told live frame alike drivers_eq tokens_eq next_eq =>
    refine .inl ⟨?_, fun d hd => by rw [drivers_eq, hd]⟩
    rw [alike.groups_eq]
    refine frame.spares ?_
    rw [(hw.token live).1]
    rintro rfl
    cases (hn told).symm.trans live
  | minted id name => exact .inl ⟨.refl _ _, fun d hd => hd⟩
  | @dropped m t told live =>
    refine .inl ⟨Interlock.Groups.forget_spares ?_, fun d hd => hd⟩
    rw [(hw.token live).1]
    rintro rfl
    cases (hn (by rw [told]; rfl)).symm.trans live

/-! ## A step for a driver whose pin nobody else touches -/

/-- A driver went through a step with at most one turn of its own, and was spared before and after it. -/
inductive Turned (e : Event) (n : Nat) (d : Driver) (r r' : Rig) : Prop
  | intro {p : Plant} {o : Outcome} (before : r.plant.Spares n d.config.pin p)
      (turn : Turn (fun c => e = .command n c) d p o) (after : o.plant.Spares n d.config.pin r'.plant)
      (now_eq : r'.plant.clock.now = p.clock.now) (live : r'.drivers.get? n = some o.driver) :
      Turned e n d r r'

/-- Every driver on a pin is the one with a serial. -/
def Alone (r : Rig) (n : Nat) (pin : Gpio.Pin) : Prop :=
  ∀ {m d}, r.drivers.get? m = some d → d.config.pin = pin → m = n

theorem keeps_iff {r : Rig} {n : Nat} {e : Event} {d : Driver} (hd : r.drivers.get? n = some d) :
    r.keeps n e = true ↔ e.meddles d.config.pin = false ∧ r.Alone n d.config.pin := by
  unfold keeps Alone
  simp only [hd, Option.all_some, Bool.and_eq_true, Bool.not_eq_true', List.all_eq_true,
    Bool.or_eq_true, beq_iff_eq, bne_iff_ne]
  refine and_congr_right fun _ => ⟨fun h m d' hm hp => ?_, fun h x hx => ?_⟩
  · exact (h _ (Table.get?_eq_some_iff.1 hm)).resolve_right (· hp)
  · by_cases hp : x.2.config.pin = d.config.pin
    · exact .inl (h (Table.get?_eq_some_iff.2 hx) hp)
    · exact .inr hp

/-- Where a step spares a driver it has no turn. -/
theorem Turned.of_spares (h : r.plant.Spares n d.config.pin r'.plant)
    (hd : r'.drivers.get? n = some d) : Turned e n d r r' :=
  .intro h .idle (.refl _ _ _) rfl hd

/-- What a driver on another pin does in a turn spares a driver. -/
theorem turn_spares {may : Command → Prop} {m : Nat} {d' : Driver} {o : Outcome}
    (hw : r.WellFormed) (ha : r.Alone n d.config.pin) (hm : r.drivers.get? m = some d') (hne : m ≠ n)
    (ht : Turn may d' r.plant o) : r.plant.Spares n d.config.pin o.plant := by
  refine Plant.Spares.of_frame (Frame.of_turn ht) ?_ fun hp => hne (ha hm hp.symm)
  rw [(hw.driver hm).1]
  exact Ne.symm hne

/-- A move is a turn of the driver, or spares it, unless it is given up. -/
theorem Move.turned (hw : r.WellFormed) (hd : r.drivers.get? n = some d)
    (hm : e.meddles d.config.pin = false) (ha : r.Alone n d.config.pin) (h : Move e r r') :
    e = .close n ∧ r'.drivers.get? n = none ∨ Turned e n d r r' := by
  cases h with
  | quiet quiet =>
    refine .inr (.of_spares ⟨quiet.now_le, quiet.board hm, ?_⟩ (quiet.drivers_eq ▸ hd))
    exact quiet.groups_eq ▸ .refl _ _
  | @turn _ m d' o live turn alike drivers_eq tokens_eq next_le =>
    by_cases hne : m = n
    · subst hne
      cases hd.symm.trans live
      refine .inr (.intro (.refl _ _ _) turn alike.spares ?_ ?_)
      · rw [alike.clock_eq, (Frame.of_turn turn).clock_eq]
      · rw [drivers_eq, Table.get?_insert_self]
    · refine .inr (.of_spares ((turn_spares hw ha live hne turn).trans alike.spares) ?_)
      rw [drivers_eq, Table.get?_insert_of_ne hne, hd]
  | @made _ c told drivers_eq tokens_eq next_eq clock_eq configured groups_eq =>
    have hn : r.next ≠ n := Nat.ne_of_gt (hw.driver hd).2
    have hp : c.pin ≠ d.config.pin := by simpa [told, Event.meddles] using hm
    refine .inr (.of_spares ⟨Nat.le_of_eq (by rw [clock_eq]), ?_, ?_⟩ ?_)
    · have hb : r.plant.board.Spares d.config.pin
          (r.plant.board.configure c.pin (.output (c.level false)) .disabled).2 :=
        Gpio.Board.configure_spares hp
      rwa [configured] at hb
    · rw [groups_eq]
      cases c.group with
      | none => exact .refl _ _
      | some g => exact Interlock.Groups.register_spares
    · rw [drivers_eq, Table.get?_insert_of_ne hn, hd]
  | @closed _ m d' told live drivers_eq tokens_eq next_eq clock_eq board groups_eq =>
    by_cases hne : m = n
    · subst hne
      exact .inl ⟨told, by rw [drivers_eq, Table.get?_erase_self]⟩
    · have hp : d'.config.pin ≠ d.config.pin := fun hp => hne (ha live hp)
      have hs : d'.token.serial ≠ n := by
        rw [Driver.token, (hw.driver live).1]
        exact hne
      refine .inr (.of_spares ⟨Nat.le_of_eq (by rw [clock_eq]), board hp, ?_⟩ ?_)
      · rw [groups_eq]
        exact ((Frame.free_groups d' r.plant).spares (Ne.symm hs)).trans
          (Interlock.Groups.forget_spares hs)
      · rw [drivers_eq, Table.get?_erase_of_ne hne, hd]
  | placed told alike drivers_eq tokens_eq next_eq =>
    refine .inr (.of_spares (.of_groups alike Interlock.Groups.register_spares) ?_)
    rw [drivers_eq, hd]
  | @claimed _ s t group groups told live frame alike drivers_eq tokens_eq next_eq =>
    refine .inr (.of_spares (.of_groups alike (frame.spares ?_)) ?_)
    · rw [(hw.token live).1]
      rintro rfl
      cases (hw.distinct hd).symm.trans live
    · rw [drivers_eq, hd]
  | minted id name => exact .inr (.of_spares (.refl _ _ _) hd)
  | @dropped s t told live =>
    refine .inr (.of_spares ⟨Nat.le_refl _, .refl _ _, Interlock.Groups.forget_spares ?_⟩ hd)
    rw [(hw.token live).1]
    rintro rfl
    cases (hw.distinct hd).symm.trans live

/-- No driver has two pulses that are over. -/
theorem due_nodup (r : Rig) : (r.due.map Prod.fst).Nodup := by
  unfold due
  refine ((List.mergeSort_perm _ _).map Prod.fst).nodup_iff.2 ?_
  have hp := r.drivers.ascending
  generalize r.drivers.entries = l at hp
  induction l with
  | nil => exact .nil
  | cons x rest ih =>
    obtain ⟨hx, hrest⟩ := List.pairwise_cons.1 hp
    rw [List.filterMap_cons]
    split
    · exact ih hrest
    · rename_i y hy
      rw [List.map_cons, List.nodup_cons]
      refine ⟨fun hmem => ?_, ih hrest⟩
      obtain ⟨z, hz, hzy⟩ := List.mem_map.1 hmem
      obtain ⟨x', hx', hxz⟩ := List.mem_filterMap.1 hz
      obtain ⟨q, -, rfl⟩ := Option.map_eq_some_iff.1 hy
      obtain ⟨q', -, rfl⟩ := Option.map_eq_some_iff.1 hxz
      have hzy : x'.1 = x.1 := hzy
      exact absurd (hx x' hx') (by rw [hzy]; exact Int.lt_irrefl _)

/-- What the end of a pulse leaves of a live driver. -/
theorem finish_eq (hd : r.drivers.get? n = some d) (q : Output.Pulse) :
    (r.finish n q).plant = (d.finishPulse r.plant q.number).plant ∧
      (r.finish n q).drivers = r.drivers.insert n (d.finishPulse r.plant q.number).driver := by
  unfold finish
  rw [hd]
  exact ⟨rfl, rfl⟩

theorem finish_alone {pin : Gpio.Pin} (ha : r.Alone n pin) (m : Nat) (q : Output.Pulse) :
    (r.finish m q).Alone n pin := by
  intro k d' hk hpin
  cases hm : r.drivers.get? m with
  | none =>
    unfold finish at hk
    rw [hm] at hk
    exact ha hk hpin
  | some d =>
    have ht : Turn (fun _ => False) d r.plant (d.finishPulse r.plant q.number) := .finish q.number
    rw [(finish_eq hm q).2, Table.get?_insert_eq_some_iff] at hk
    rcases hk with ⟨rfl, rfl⟩ | ⟨-, hk⟩
    · exact ha hm ((Frame.of_turn ht).config_eq ▸ hpin)
    · exact ha hk hpin

/-- The end of the pulse of another driver spares a driver. -/
theorem finish_spares {m : Nat} (hw : r.WellFormed) (hd : r.drivers.get? n = some d)
    (ha : r.Alone n d.config.pin) (hne : m ≠ n) (q : Output.Pulse) :
    r.plant.Spares n d.config.pin (r.finish m q).plant ∧
      (r.finish m q).plant.clock = r.plant.clock ∧ (r.finish m q).drivers.get? n = some d := by
  cases hm : r.drivers.get? m with
  | none =>
    unfold finish
    rw [hm]
    exact ⟨.refl _ _ _, rfl, hd⟩
  | some d' =>
    have ht : Turn (fun _ => False) d' r.plant (d'.finishPulse r.plant q.number) := .finish q.number
    obtain ⟨hp, hdr⟩ := finish_eq hm q
    rw [hp, hdr]
    exact ⟨turn_spares hw ha hm hne ht, (Frame.of_turn ht).clock_eq,
      (Table.get?_insert_of_ne hne).trans hd⟩

/-- So does the end of the pulses of several others. -/
theorem finishAll_spares (l : List (Nat × Output.Pulse)) (hw : r.WellFormed)
    (hd : r.drivers.get? n = some d) (ha : r.Alone n d.config.pin) (hl : n ∉ l.map Prod.fst) :
    r.plant.Spares n d.config.pin (r.finishAll l).plant ∧
      (r.finishAll l).plant.clock = r.plant.clock ∧
      (r.finishAll l).drivers.get? n = some d ∧
      (r.finishAll l).Alone n d.config.pin := by
  induction l generalizing r with
  | nil => exact ⟨.refl _ _ _, rfl, hd, ha⟩
  | cons x rest ih =>
    obtain ⟨m, q⟩ := x
    rw [List.map_cons, List.mem_cons, not_or] at hl
    obtain ⟨hne, hl⟩ := hl
    have hw' : (r.finish m q).WellFormed := hw.move (finish_move (.drift 0) r m q)
    obtain ⟨hs, hc, hd'⟩ := finish_spares hw hd ha (Ne.symm hne) q
    obtain ⟨hs', hc', hd'', ha'⟩ := ih hw' hd' (finish_alone ha m q) hl
    exact ⟨hs.trans hs', hc'.trans hc, hd'', ha'⟩

/-- When time passes a driver has a turn at most: the end of its pulse. -/
theorem advance_turned (millis : Int) (hw : r.WellFormed) (hd : r.drivers.get? n = some d)
    (ha : r.Alone n d.config.pin) : Turned (.advance millis) n d r (r.advance millis) := by
  obtain ⟨r₁, hq, he⟩ := advance_eq r millis
  rw [he]
  have hw₁ := hw.quiet hq
  have hd₁ : r₁.drivers.get? n = some d := hq.drivers_eq ▸ hd
  have ha₁ : r₁.Alone n d.config.pin := by
    unfold Alone
    rw [hq.drivers_eq]
    exact ha
  have hs₁ : r.plant.Spares n d.config.pin r₁.plant :=
    ⟨hq.now_le, hq.board rfl, hq.groups_eq ▸ .refl _ _⟩
  have hnd := r₁.due_nodup
  by_cases hmem : n ∈ r₁.due.map Prod.fst
  · -- The list of due pulses parts at the one of the driver.
    obtain ⟨⟨n', q⟩, hx, rfl⟩ := List.mem_map.1 hmem
    obtain ⟨l, l', hl⟩ := List.append_of_mem hx
    rw [hl] at hnd ⊢
    rw [List.map_append, List.map_cons, List.nodup_append] at hnd
    obtain ⟨-, hnd', hdisj⟩ := hnd
    have hn : n' ∉ l.map Prod.fst := fun h => hdisj _ h _ (List.mem_cons_self ..) rfl
    have hn' : n' ∉ l'.map Prod.fst := (List.nodup_cons.1 hnd').1
    rw [finishAll_append, finishAll_cons]
    obtain ⟨hs₂, -, hd₂, ha₂⟩ := finishAll_spares l hw₁ hd₁ ha₁ hn
    have hw₂ := hw₁.finishAll l
    generalize r₁.finishAll l = r₂ at hs₂ hd₂ ha₂ hw₂ ⊢
    have ht : Turn (fun c => Event.advance millis = .command n' c) d r₂.plant
        (d.finishPulse r₂.plant q.number) := .finish q.number
    have hf := Frame.of_turn ht
    obtain ⟨hp₃, hdr₃⟩ := finish_eq hd₂ q
    have hd₃ : (r₂.finish n' q).drivers.get? n' = some (d.finishPulse r₂.plant q.number).driver := by
      rw [hdr₃, Table.get?_insert_self]
    have hw₃ : (r₂.finish n' q).WellFormed := hw₂.move (finish_move (.drift 0) r₂ n' q)
    obtain ⟨hs₄, hc₄, hd₄, -⟩ :=
      finishAll_spares l' hw₃ hd₃ (hf.config_eq ▸ finish_alone ha₂ n' q) hn'
    refine .intro (hs₁.trans hs₂) ht (hp₃ ▸ hf.config_eq ▸ hs₄) ?_ hd₄
    rw [hc₄, hp₃, hf.clock_eq]
  · obtain ⟨hs₂, -, hd₂, -⟩ := finishAll_spares r₁.due hw₁ hd₁ ha₁ hmem
    exact .of_spares (hs₁.trans hs₂) hd₂

/-- At a step a driver whose pin nobody else touches has one turn at most, unless it is given up. -/
theorem step_turned (hw : r.WellFormed) (hd : r.drivers.get? n = some d) (hk : r.keeps n e = true) :
    e = .close n ∧ (r.step e).1.drivers.get? n = none ∨ Turned e n d r (r.step e).1 := by
  obtain ⟨hm, ha⟩ := (keeps_iff hd).1 hk
  cases e with
  | advance millis => exact .inr (advance_turned millis hw hd ha)
  | _ => exact Move.turned hw hd hm ha (step_move r _ nofun)

/-! ## How a driver comes about -/

/-- A move that a driver comes out of, without one before, has made it. -/
theorem Move.born (hw : r.WellFormed) (hn : r.drivers.get? n = none)
    (hd : r'.drivers.get? n = some d) (h : Move e r r') : d.Born r'.plant ∧ n = r.next := by
  cases h with
  | quiet quiet =>
    rw [quiet.drivers_eq, hn] at hd
    cases hd
  | turn live turn alike drivers_eq tokens_eq next_le =>
    rw [drivers_eq, Table.get?_insert_eq_some_iff] at hd
    rcases hd with ⟨rfl, -⟩ | ⟨-, hd⟩
    · cases hn.symm.trans live
    · cases hn.symm.trans hd
  | @made _ c told drivers_eq tokens_eq next_eq clock_eq configured groups_eq =>
    rw [drivers_eq, Table.get?_insert_eq_some_iff] at hd
    rcases hd with ⟨rfl, rfl⟩ | ⟨-, hd⟩
    · obtain ⟨hdr, hl⟩ := Gpio.Board.configure_output configured
      refine ⟨⟨rfl, hdr, hl, fun {group c'} hc hb => ?_, fun {group} hg => ?_⟩, rfl⟩
      · have hc' : r.plant.groups.claims.get? group = some c' ∨ c' = .free := by
          rw [groups_eq] at hc
          cases hg : c.group with
          | none => exact .inl (by simpa only [hg] using hc)
          | some g => exact Interlock.Groups.register_claim (by simpa only [hg] using hc)
        rcases hc' with hc' | rfl
        · obtain ⟨u, hu, hs⟩ := hb
          exact absurd (hs ▸ hw.owner_lt hc' hu) (Nat.lt_irrefl _)
        · exact Interlock.Claim.not_belongsTo_free hb
      · have hg : c.group = some group := hg
        rw [groups_eq]
        simp only [hg]
        exact Interlock.Groups.register_placed
    · cases hn.symm.trans hd
  | closed told live drivers_eq tokens_eq next_eq clock_eq board groups_eq =>
    rw [drivers_eq, Table.get?_erase_eq_some_iff, hn] at hd
    cases hd.2
  | placed told alike drivers_eq tokens_eq next_eq =>
    rw [drivers_eq, hn] at hd
    cases hd
  | claimed told live frame alike drivers_eq tokens_eq next_eq =>
    rw [drivers_eq, hn] at hd
    cases hd
  | minted id name => cases hn.symm.trans hd
  | dropped told live => cases hn.symm.trans hd

theorem finish_absent (hn : r.drivers.get? n = none) (m : Nat) (q : Output.Pulse) :
    (r.finish m q).drivers.get? n = none := by
  unfold finish
  split
  · exact hn
  · rename_i d' hm
    have hne : m ≠ n := by
      rintro rfl
      cases hn.symm.trans hm
    exact (Table.get?_insert_of_ne hne).trans hn

theorem finishAll_absent (hn : r.drivers.get? n = none) (l : List (Nat × Output.Pulse)) :
    (r.finishAll l).drivers.get? n = none := by
  induction l generalizing r with
  | nil => exact hn
  | cons x rest ih => exact ih (finish_absent hn x.1 x.2)

/-- A step that a driver comes out of, without one before, has made it. -/
theorem step_born (hw : r.WellFormed) (hn : r.drivers.get? n = none)
    (hd : (r.step e).1.drivers.get? n = some d) : d.Born (r.step e).1.plant ∧ n = r.next := by
  cases e with
  | advance millis =>
    obtain ⟨r₁, hq, he⟩ := advance_eq r millis
    simp only [step, he] at hd
    rw [finishAll_absent (by rw [hq.drivers_eq, hn])] at hd
    cases hd
  | _ => exact Move.born hw hn hd (step_move r _ nofun)

/-- Where no driver was, there is none after a move, unless one is made. -/
theorem Move.absent (hn : r.drivers.get? n = none) (he : ∀ c, e ≠ .create c) (h : Move e r r') :
    r'.drivers.get? n = none := by
  cases h with
  | quiet quiet => rw [quiet.drivers_eq, hn]
  | @turn _ m _ _ live turn alike drivers_eq tokens_eq next_le =>
    have hne : m ≠ n := by
      rintro rfl
      cases hn.symm.trans live
    rw [drivers_eq, Table.get?_insert_of_ne hne, hn]
  | made told drivers_eq tokens_eq next_eq clock_eq configured groups_eq => exact absurd told (he _)
  | @closed _ m _ told live drivers_eq tokens_eq next_eq clock_eq board groups_eq =>
    have hne : m ≠ n := by
      rintro rfl
      cases hn.symm.trans live
    rw [drivers_eq, Table.get?_erase_of_ne hne, hn]
  | placed told alike drivers_eq tokens_eq next_eq => rw [drivers_eq, hn]
  | claimed told live frame alike drivers_eq tokens_eq next_eq => rw [drivers_eq, hn]
  | minted id name => exact hn
  | dropped told live => exact hn

/-- So it is after a step. -/
theorem step_absent (hn : r.drivers.get? n = none) (he : ∀ c, e ≠ .create c) :
    (r.step e).1.drivers.get? n = none :=
  step_of_moves (fun h hn => h.absent hn he) hn

/-- A driver that a step makes is on a valid output. -/
theorem step_valid (hn : r.drivers.get? n = none) (hd : (r.step e).1.drivers.get? n = some d) :
    d.config.validate = .ok () := by
  by_cases he : ∃ c, e = .create c
  · obtain ⟨c, rfl⟩ := he
    have hends := Driver.create_cases r.next c r.plant
    simp only [step, create, fresh] at hd
    generalize Driver.create r.next c r.plant = x at hends hd
    cases hends with
    | unfit unfit => cases hn.symm.trans hd
    | failed configure alike => cases hn.symm.trans hd
    | made fit configure alike =>
      rcases Table.get?_insert_eq_some_iff.1 hd with ⟨-, rfl⟩ | ⟨-, hd⟩
      · exact fit.1
      · cases hn.symm.trans hd
  · cases (step_absent hn fun c hc => he ⟨c, hc⟩).symm.trans hd

/-! ## Runs -/

@[simp] theorem run_nil (r : Rig) : r.run [] = r := rfl

@[simp] theorem run_cons (r : Rig) (e : Event) (es : List Event) :
    r.run (e :: es) = (r.step e).1.run es := rfl

theorem run_append (r : Rig) (es es' : List Event) : r.run (es ++ es') = (r.run es).run es' :=
  List.foldl_append ..

theorem Move.next_le (h : Move e r r') : r.next ≤ r'.next := by
  cases h with
  | quiet quiet => exact quiet.next_le
  | turn live turn alike drivers_eq tokens_eq next_le => exact next_le
  | made told drivers_eq tokens_eq next_eq clock_eq configured groups_eq =>
    rw [next_eq]
    exact Nat.le_succ _
  | closed told live drivers_eq tokens_eq next_eq clock_eq board groups_eq => exact Nat.le_of_eq next_eq.symm
  | placed told alike drivers_eq tokens_eq next_eq => exact Nat.le_of_eq next_eq.symm
  | claimed told live frame alike drivers_eq tokens_eq next_eq => exact Nat.le_of_eq next_eq.symm
  | minted id name => exact Nat.le_succ _
  | dropped told live => exact Nat.le_refl _

/-- No serial is taken back. -/
theorem step_next_le (r : Rig) (e : Event) : r.next ≤ (r.step e).1.next :=
  step_of_moves (J := (r.next ≤ ·.next)) (fun h hle => Nat.le_trans hle h.next_le) (Nat.le_refl _)

theorem run_next_le (r : Rig) (es : List Event) : r.next ≤ (r.run es).next := by
  induction es generalizing r with
  | nil => exact Nat.le_refl _
  | cons e es ih => exact Nat.le_trans (step_next_le r e) (ih _)

/-- No move takes time back. -/
theorem Move.now_le (h : Move e r r') : r.plant.clock.now ≤ r'.plant.clock.now := by
  cases h with
  | quiet quiet => exact quiet.now_le
  | turn live turn alike drivers_eq tokens_eq next_le =>
    exact Nat.le_of_eq (by rw [alike.clock_eq, (Frame.of_turn turn).clock_eq])
  | made told drivers_eq tokens_eq next_eq clock_eq configured groups_eq =>
    exact Nat.le_of_eq (by rw [clock_eq])
  | closed told live drivers_eq tokens_eq next_eq clock_eq board groups_eq =>
    exact Nat.le_of_eq (by rw [clock_eq])
  | placed told alike drivers_eq tokens_eq next_eq => exact Nat.le_of_eq (by rw [alike.clock_eq])
  | claimed told live frame alike drivers_eq tokens_eq next_eq => exact Nat.le_of_eq (by rw [alike.clock_eq])
  | minted id name => exact Nat.le_refl _
  | dropped told live => exact Nat.le_refl _

/-- No step takes time back. -/
theorem step_now_le (r : Rig) (e : Event) : r.plant.clock.now ≤ (r.step e).1.plant.clock.now :=
  step_of_moves (J := (r.plant.clock.now ≤ ·.plant.clock.now))
    (fun h hle => Nat.le_trans hle h.now_le) (Nat.le_refl _)

theorem run_now_le (r : Rig) (es : List Event) : r.plant.clock.now ≤ (r.run es).plant.clock.now := by
  induction es generalizing r with
  | nil => exact Nat.le_refl _
  | cons e es ih => exact Nat.le_trans (step_now_le r e) (ih _)

theorem run_wellFormed (hw : r.WellFormed) (es : List Event) : (r.run es).WellFormed := by
  induction es generalizing r with
  | nil => exact hw
  | cons e es ih => exact ih (hw.step e)

/-- What every step of a well-formed rig keeps, a run keeps. -/
theorem run_of_steps {J : Rig → Prop} (step : ∀ {r} e, r.WellFormed → J r → J (r.step e).1)
    (hw : r.WellFormed) (hj : J r) (es : List Event) : J (r.run es) := by
  induction es generalizing r with
  | nil => exact hj
  | cons e es ih => exact ih (hw.step e) (step e hw hj)

/-- A driver that was given up does not come back. -/
theorem run_absent (hw : r.WellFormed) (hlt : n < r.next) (hn : r.drivers.get? n = none)
    (es : List Event) : (r.run es).drivers.get? n = none := by
  induction es generalizing r with
  | nil => exact hn
  | cons e es ih =>
    refine ih (hw.step e) (Nat.lt_of_lt_of_le hlt (step_next_le r e)) ?_
    cases hd : (r.step e).1.drivers.get? n with
    | none => rfl
    | some d => exact absurd (step_born hw hn hd).2 (Nat.ne_of_lt hlt)

/-- A driver that is there at two times of a run is there between them. -/
theorem live_between {d' : Driver} (hw : r.WellFormed) (hd : r.drivers.get? n = some d)
    (es es' : List Event) (hd' : ((r.run es).run es').drivers.get? n = some d') :
    ∃ d₁, (r.run es).drivers.get? n = some d₁ := by
  cases hn : (r.run es).drivers.get? n with
  | some d₁ => exact ⟨d₁, rfl⟩
  | none =>
    have hlt : n < (r.run es).next := Nat.lt_of_lt_of_le (hw.driver hd).2 (run_next_le r es)
    cases (run_absent (run_wellFormed hw es) hlt hn es').symm.trans hd'

theorem owns_append (r : Rig) (n : Nat) (es es' : List Event) :
    r.owns n (es ++ es') = true ↔ r.owns n es = true ∧ (r.run es).owns n es' = true := by
  induction es generalizing r with
  | nil => simp [owns]
  | cons e es ih => simp [owns, ih, and_assoc]

/-- A driver that has its pin for itself owns it. -/
theorem owns_of_apart {es : List Event} (n : Nat) (h : r.apart es = true) : r.owns n es = true := by
  induction es generalizing r with
  | nil => rfl
  | cons e es ih =>
    obtain ⟨hk, hes⟩ := Bool.and_eq_true_iff.1 h
    refine Bool.and_eq_true_iff.2 ⟨?_, ih hes⟩
    cases hd : r.drivers.get? n with
    | none => simp [keeps, hd]
    | some d => exact List.all_eq_true.1 hk n (Table.mem_keys_iff.2 (Table.contains_of_get? hd))

/-- What is kept by every deed that an event allows, and wherever a driver is spared, a step keeps of a
driver whose pin nobody else touches, unless it is given up. -/
theorem step_keeps {J : Driver → Plant → Prop}
    (spares : ∀ {d p p'}, J d p → p.Spares d.serial d.config.pin p' → J d p')
    (deed : ∀ {d d' p p'}, Deed (fun c => e = .command n c) d p d' p' → J d p → J d' p')
    (hw : r.WellFormed) (hd : r.drivers.get? n = some d) (hj : J d r.plant)
    (hk : r.keeps n e = true) :
    e = .close n ∧ (r.step e).1.drivers.get? n = none ∨
      ∃ d', (r.step e).1.drivers.get? n = some d' ∧ J d' (r.step e).1.plant := by
  rcases step_turned hw hd hk with h | ⟨before, turn, after, -, live⟩
  · exact .inl h
  · have hs := (hw.driver hd).1
    have hf := Frame.of_turn turn
    refine .inr ⟨_, live, spares ((turn.deeds).keeps deed (spares hj (hs ▸ before))) ?_⟩
    rw [hf.serial_eq, hf.config_eq, hs]
    exact after

/-- The same of a run. -/
theorem run_keeps {J : Driver → Plant → Prop} {es : List Event}
    (spares : ∀ {d p p'}, J d p → p.Spares d.serial d.config.pin p' → J d p')
    (deed : ∀ {e d d' p p'}, e ∈ es → Deed (fun c => e = .command n c) d p d' p' → J d p → J d' p')
    (hw : r.WellFormed) (hd : r.drivers.get? n = some d) (hj : J d r.plant)
    (ho : r.owns n es = true) (hc : Event.close n ∉ es) :
    ∃ d', (r.run es).drivers.get? n = some d' ∧ J d' (r.run es).plant := by
  induction es generalizing r d with
  | nil => exact ⟨d, hd, hj⟩
  | cons e es ih =>
    obtain ⟨hk, ho⟩ := Bool.and_eq_true_iff.1 ho
    rcases step_keeps spares (deed (List.mem_cons_self ..)) hw hd hj hk with ⟨rfl, -⟩ | ⟨d', hd', hj'⟩
    · exact absurd (List.mem_cons_self ..) hc
    · exact ih (fun he => deed (List.mem_cons_of_mem _ he)) (hw.step e) hd' hj' ho
        fun h => hc (List.mem_cons_of_mem _ h)

/-- What holds of a driver that has just been made, and is kept by every deed and wherever the driver is
spared, holds in every state that a run reaches. -/
theorem run_lasts {J : Driver → Plant → Prop} (born : ∀ {d p}, d.Born p → J d p)
    (spares : ∀ {d p p'}, J d p → p.Spares d.serial d.config.pin p' → J d p')
    (deed : ∀ {may d d' p p'}, Deed may d p d' p' → J d p → J d' p') (hw : r.WellFormed)
    (hj : ∀ d, r.drivers.get? n = some d → J d r.plant) {es : List Event}
    (ho : r.owns n es = true) :
    ∀ d, (r.run es).drivers.get? n = some d → J d (r.run es).plant := by
  induction es generalizing r with
  | nil => exact hj
  | cons e es ih =>
    obtain ⟨hk, ho⟩ := Bool.and_eq_true_iff.1 ho
    refine ih (hw.step e) ?_ ho
    intro d' hd'
    cases hd : r.drivers.get? n with
    | none => exact born (step_born hw hd hd').1
    | some d =>
      rcases step_keeps spares deed hw hd (hj d hd) hk with ⟨-, hn⟩ | ⟨d'', hd'', hj'⟩
      · cases hn.symm.trans hd'
      · cases hd''.symm.trans hd'
        exact hj'

end Rig

end Switchboard
