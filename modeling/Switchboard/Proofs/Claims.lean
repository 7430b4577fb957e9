import Switchboard.Interlock

/-!
# What happens to a claim

A driver relies on four facts about the interlock groups: what becomes of groups without a place, which
claims are its own, that a group that has a place keeps it, and that a full table stays full.
`Groups.Spares serial` says that an operation has left these alone for the token with that serial. What a
token does about its claim stays at a claim that is its own or nobody's (`Groups.Frame`), and so spares the
others (`Frame.spares`).

A token that passes the gate and goes on to be confirmed ends with the claim held (`confirm_reserve?`);
one that goes back leaves no more than it found (`abandon_reserve?`).
-/

namespace Switchboard.Interlock

namespace Claim

/-- The claim is that of the token with a serial. -/
def belongsTo (c : Claim) (serial : Nat) : Prop :=
  ∃ t, c.owner? = some t ∧ t.serial = serial

variable {c : Claim} {t : Token} {serial : Nat}

theorem isOf_iff : c.isOf t = true ↔ c.belongsTo t.serial := by
  cases h : c.owner? <;> simp [isOf, belongsTo, h]

theorem admits_iff : c.admits t = true ↔ ∀ u, c.owner? = some u → u.serial = t.serial := by
  cases h : c.owner? <;> simp [admits, h]

theorem admits_of_isOf (h : c.isOf t = true) : c.admits t = true := by
  obtain ⟨u, hu, hs⟩ := isOf_iff.1 h
  simp [admits, hu, hs]

/-- Two tokens do not have one claim. -/
theorem belongsTo_unique {s s' : Nat} (h : c.belongsTo s) (h' : c.belongsTo s') : s = s' := by
  obtain ⟨t, ht, rfl⟩ := h
  obtain ⟨u, hu, rfl⟩ := h'
  rw [ht] at hu
  cases hu
  rfl

/-- A claim that lets a token through is no other's. -/
theorem not_belongsTo_of_admits (h : c.admits t = true) (hs : serial ≠ t.serial) :
    ¬c.belongsTo serial := by
  rintro ⟨u, hu, rfl⟩
  exact hs (admits_iff.1 h u hu)

@[simp] theorem belongsTo_held : (held t).belongsTo serial ↔ t.serial = serial := by
  simp [belongsTo, owner?]

@[simp] theorem belongsTo_reserved : (reserved t).belongsTo serial ↔ t.serial = serial := by
  simp [belongsTo, owner?]

@[simp] theorem not_belongsTo_free : ¬free.belongsTo serial := by
  simp [belongsTo, owner?]

end Claim

namespace Groups

variable {g g' g'' : Groups} {group group' : Group} {t u : Token} {serial : Nat}

/-- No other group fits into the table. -/
def IsFull (g : Groups) : Prop :=
  g.capacity ≤ g.claims.size

/-- The claims of a token are as before, and every group that it may count on is still there. -/
structure Spares (serial : Nat) (g g' : Groups) : Prop where
  overflow_eq : g'.overflow = g.overflow
  claim_iff : ∀ {group c}, c.belongsTo serial →
    (g'.claims.get? group = some c ↔ g.claims.get? group = some c)
  registered : ∀ {group}, g.isRegistered group = true → g'.isRegistered group = true
  full : g.IsFull → g'.IsFull ∧ ∀ group, g'.isRegistered group = true → g.isRegistered group = true

theorem Spares.refl (serial : Nat) (g : Groups) : Spares serial g g :=
  ⟨rfl, fun _ => .rfl, id, fun h => ⟨h, fun _ => id⟩⟩

theorem Spares.trans (h : Spares serial g g') (h' : Spares serial g' g'') : Spares serial g g'' where
  overflow_eq := h'.overflow_eq.trans h.overflow_eq
  claim_iff hc := (h'.claim_iff hc).trans (h.claim_iff hc)
  registered hr := h'.registered (h.registered hr)
  full hf :=
    have ⟨hf', hr⟩ := h.full hf
    have ⟨hf'', hr'⟩ := h'.full hf'
    ⟨hf'', fun group hg => hr group (hr' group hg)⟩

/-- A new value for every claim spares a token if it leaves the token's claims and makes no others. -/
theorem spares_map {f : Group → Claim → Claim} (keeps : ∀ group c, c.belongsTo serial → f group c = c)
    (adds : ∀ group c, (f group c).belongsTo serial → c.belongsTo serial) :
    Spares serial g { g with claims := g.claims.map f } where
  overflow_eq := rfl
  claim_iff {group c} hc := by
    rw [Table.get?_map]
    constructor
    · intro h
      obtain ⟨a, ha, rfl⟩ := Option.map_eq_some_iff.1 h
      rw [ha, keeps group a (adds group a hc)]
    · intro h
      rw [h, Option.map_some, keeps group c hc]
  registered h := by simpa [isRegistered] using h
  full h := ⟨by simpa [IsFull] using h, fun group hr => by simpa [isRegistered] using hr⟩

/-! ## Places, and tokens given up -/

theorem forget_spares (ht : t.serial ≠ serial) : Spares serial g (g.forget t) := by
  refine spares_map (fun _ c hc => if_neg fun h => ?_) fun _ c hc => ?_
  · exact ht (Claim.belongsTo_unique (Claim.isOf_iff.1 h) hc)
  · split at hc
    · exact absurd hc Claim.not_belongsTo_free
    · exact hc

/-- Who has a claim when a token was forgotten had it before, and is another. -/
theorem forget_owner {c : Claim} (hc : (g.forget t).claims.get? group = some c)
    (hu : c.owner? = some u) : g.claims.get? group = some c ∧ u.serial ≠ t.serial := by
  simp only [forget, Table.get?_map] at hc
  obtain ⟨c', hc', he⟩ := Option.map_eq_some_iff.1 hc
  split at he
  · subst he
    cases hu
  · rename_i hn
    subst he
    exact ⟨hc', fun hs => hn (Claim.isOf_iff.2 ⟨u, hu, hs⟩)⟩

theorem holder?_eq_some_iff : g.holder? group = some t ↔ g.claims.get? group = some (.held t) := by
  unfold holder?
  constructor
  · intro h
    split at h
    · rename_i u hc
      cases h
      exact hc
    · cases h
  · intro h
    rw [h]

/-- A group that a token held is free when it was forgotten. -/
theorem forget_freed (h : g.holder? group = some t) :
    (g.forget t).claims.get? group = some .free := by
  have hof : (Claim.held t).isOf t = true := Claim.isOf_iff.2 (Claim.belongsTo_held.2 rfl)
  simp [forget, Table.get?_map, holder?_eq_some_iff.1 h, hof]

/-- A claim is as before a group was given a place, or free. -/
theorem register_claim {group' : Group} {c : Claim}
    (hc : (g.register group).2.claims.get? group' = some c) :
    g.claims.get? group' = some c ∨ c = .free := by
  unfold register at hc
  split at hc
  · exact .inl hc
  · split at hc
    · exact .inl hc
    · exact (Table.get?_insert_eq_some_iff.1 hc).symm.imp And.right And.right

theorem register_spares : Spares serial g (g.register group).2 := by
  unfold register
  split
  · exact .refl serial g
  · rename_i hr
    split
    · exact .refl serial g
    · rename_i hf
      refine ⟨rfl, fun {group' c} hc => ?_, fun {group'} h => ?_, fun h => absurd h hf⟩
      · by_cases hg : group = group'
        · subst hg
          have hn : g.claims.get? group = none := by
            simpa [isRegistered, Table.contains] using hr
          simp only [Table.get?_insert_self, hn, reduceCtorEq, iff_false, Option.some.injEq]
          rintro rfl
          exact Claim.not_belongsTo_free hc
        · rw [Table.get?_insert_of_ne hg]
      · simp only [isRegistered] at h ⊢
        simp [Table.contains_insert, h]

theorem register_registered {group' : Group} (h : (g.register group).2.isRegistered group' = true) :
    g.isRegistered group' = true ∨ group = group' := by
  unfold register at h
  split at h
  · exact .inl h
  · split at h
    · exact .inl h
    · simp only [isRegistered, Table.contains_insert, Bool.or_eq_true, decide_eq_true_eq] at h
      exact h.symm.imp_right rank_inj

/-- After an attempt to give it a place, a group has one or there is none left. -/
theorem register_placed :
    (g.register group).2.isRegistered group = true ∨ (g.register group).2.IsFull := by
  unfold register
  split
  · exact .inl ‹_›
  · split
    · exact .inr ‹_›
    · exact .inl (by simp [isRegistered, Table.contains_insert])

/-! ## The gate -/

/-- The gate lets a token through if nobody else has the group, and only then. -/
theorem isAvailable_eq_true_iff (hr : g.isRegistered group = true) :
    g.isAvailable group t = true ↔ ∀ c, g.claims.get? group = some c → c.admits t = true := by
  obtain ⟨c, hc⟩ := Option.isSome_iff_exists.1 hr
  simp [isAvailable, hc]

theorem admits_of_isAvailable (h : g.isAvailable group t = true) {c : Claim}
    (hc : g.claims.get? group = some c) : c.admits t = true := by
  simpa [isAvailable, hc] using h

/-- The claim on a group is held by a token, whoever had it before. -/
def hold (g : Groups) (group : Group) (t : Token) : Groups :=
  { g with claims := g.claims.modify group fun _ => .held t }

/-- The gate of a group and the question whether it would let a token through agree. Who passes it and has
no claim on the group yet has a reservation. -/
theorem reserve?_eq (g : Groups) (group : Group) (t : Token) :
    g.reserve? group t =
      if g.isAvailable group t then
        some { g with claims := g.claims.modify group fun c => if c.isOf t then c else .reserved t }
      else none := by
  unfold reserve? isAvailable
  cases hc : g.claims.get? group with
  | none =>
    have hnone : (g.claims.modify group fun c => if c.isOf t then c else .reserved t) = g.claims :=
      Table.modify_eq_self fun c h => by cases hc.symm.trans h
    simp only [hnone, beq_iff_eq]
  | some c =>
    rw [Table.modify_eq_insert hc]
    cases ho : c.owner? with
    | none => simp [Claim.admits, Claim.isOf, ho]
    | some u =>
      by_cases hu : u.serial = t.serial
      · simp [Claim.admits, Claim.isOf, ho, hu, Table.insert_eq_self hc]
      · simp [Claim.admits, ho, hu]

/-- To pass the gate and be confirmed is to hold the claim. -/
theorem confirm_reserve? (h : g.reserve? group t = some g') : g'.confirm group t = g.hold group t := by
  rw [reserve?_eq] at h
  split at h
  · cases h
    simp only [confirm, hold, Table.modify_modify, Groups.mk.injEq, true_and]
    refine Table.modify_congr fun c _ => ?_
    by_cases hc : c.isOf t = true
    · simp only [hc, if_true]
    · simp only [hc, Bool.false_eq_true, if_false]
      exact if_pos (Claim.isOf_iff.2 (Claim.belongsTo_reserved.2 rfl))
  · cases h

/-- To pass the gate and go back is to take back a reservation, if there was one before. -/
theorem abandon_reserve? (h : g.reserve? group t = some g') :
    g'.abandon group t = g.abandon group t := by
  rw [reserve?_eq] at h
  split at h
  · rename_i ha
    cases h
    simp only [abandon, Table.modify_modify, Groups.mk.injEq, true_and]
    refine Table.modify_congr fun c hg => ?_
    have hadm := Claim.admits_iff.1 (admits_of_isAvailable ha hg)
    cases c with
    | free => simp [Claim.isOf, Claim.owner?]
    | reserved u => simp [Claim.isOf, Claim.owner?, hadm u rfl]
    | held u => simp [Claim.isOf, Claim.owner?, hadm u rfl]
  · cases h

/-- A token without a reservation has none to take back. -/
theorem abandon_eq_self (h : ∀ u, g.claims.get? group = some (.reserved u) → u.serial ≠ t.serial) :
    g.abandon group t = g := by
  simp only [abandon]
  congr 1
  refine Table.modify_eq_self fun c hg => ?_
  cases c with
  | reserved u => exact if_neg (h u hg)
  | free => rfl
  | held u => rfl

/-! ## What a token does about its claim -/

/-- Nothing happened to the groups but, perhaps, to the claim on one group, which was nobody else's than a
token's before and after. -/
structure Frame (t : Token) (mine : Option Group) (g g' : Groups) : Prop where
  capacity_eq : g'.capacity = g.capacity
  overflow_eq : g'.overflow = g.overflow
  size_eq : g'.claims.size = g.claims.size
  registered_eq : ∀ group, g'.isRegistered group = g.isRegistered group
  claim : ∀ group, g'.claims.get? group = g.claims.get? group ∨
    mine = some group ∧
      (∀ c, g.claims.get? group = some c → c.admits t = true) ∧
      ∀ c, g'.claims.get? group = some c → c.admits t = true

variable {mine : Option Group}

theorem Frame.refl (t : Token) (mine : Option Group) (g : Groups) : Frame t mine g g :=
  ⟨rfl, rfl, rfl, fun _ => rfl, fun _ => .inl rfl⟩

theorem Frame.trans (h : Frame t mine g g') (h' : Frame t mine g' g'') : Frame t mine g g'' where
  capacity_eq := h'.capacity_eq.trans h.capacity_eq
  overflow_eq := h'.overflow_eq.trans h.overflow_eq
  size_eq := h'.size_eq.trans h.size_eq
  registered_eq group := (h'.registered_eq group).trans (h.registered_eq group)
  claim group := by
    have h2 := h'.claim group
    rcases h.claim group with h1 | ⟨hg, hb, ha⟩
    · rwa [h1] at h2
    · rcases h2 with h2 | ⟨-, -, ha'⟩
      · exact .inr ⟨hg, hb, by rwa [h2]⟩
      · exact .inr ⟨hg, hb, ha'⟩

/-- What stays at the claim of one token spares the others. -/
theorem Frame.spares (h : Frame t mine g g') (ht : serial ≠ t.serial) : Spares serial g g' where
  overflow_eq := h.overflow_eq
  claim_iff {group c} hc := by
    rcases h.claim group with he | ⟨-, hb, ha⟩
    · rw [he]
    · constructor
      · intro hg
        exact absurd hc (Claim.not_belongsTo_of_admits (ha c hg) ht)
      · intro hg
        exact absurd hc (Claim.not_belongsTo_of_admits (hb c hg) ht)
  registered hr := by rwa [h.registered_eq]
  full hf := by
    refine ⟨?_, fun group hr => by rwa [← h.registered_eq]⟩
    unfold IsFull at hf ⊢
    rwa [h.capacity_eq, h.size_eq]

/-- Who has a claim had it before, or is the token. -/
theorem Frame.owner (h : Frame t mine g g') {c : Claim} (hc : g'.claims.get? group = some c)
    (hu : c.owner? = some u) : g.claims.get? group = some c ∨ u.serial = t.serial := by
  rcases h.claim group with he | ⟨-, -, ha⟩
  · exact .inl (he ▸ hc)
  · exact .inr (Claim.admits_iff.1 (ha c hc) u hu)

/-- A change of one claim is in the frame of a token if it touches only what is the token's or nobody's. -/
theorem modify_frame {f : Claim → Claim}
    (hf : ∀ c, g.claims.get? group = some c →
      f c = c ∨ c.admits t = true ∧ (f c).admits t = true) :
    Frame t (some group) g { g with claims := g.claims.modify group f } where
  capacity_eq := rfl
  overflow_eq := rfl
  size_eq := Table.size_modify
  registered_eq _ := Table.contains_modify
  claim group' := by
    by_cases he : group = group'
    · subst he
      rw [Table.get?_modify_self]
      cases hc : g.claims.get? group with
      | none => exact .inl rfl
      | some c =>
        rcases hf c hc with hfc | ⟨hb, ha⟩
        · exact .inl (by rw [Option.map_some, hfc])
        · exact .inr ⟨rfl, by simpa using hb, by simpa using ha⟩
    · exact .inl (Table.get?_modify_of_ne he)

theorem hold_frame (h : g.isAvailable group t = true) : Frame t (some group) g (g.hold group t) :=
  modify_frame fun _ hc => .inr ⟨admits_of_isAvailable h hc, by simp [Claim.admits, Claim.owner?]⟩

theorem abandon_frame : Frame t (some group) g (g.abandon group t) := by
  refine modify_frame fun c _ => ?_
  cases c with
  | reserved u =>
    by_cases hu : u.serial = t.serial
    · exact .inr (by simp [Claim.admits, Claim.owner?, hu])
    · exact .inl (if_neg hu)
  | free => exact .inl rfl
  | held u => exact .inl rfl

theorem release_frame : Frame t (some group) g (g.release group t) := by
  refine modify_frame fun c _ => ?_
  by_cases hc : c.isOf t = true
  · exact .inr ⟨Claim.admits_of_isOf hc, by simp [hc, Claim.admits, Claim.owner?]⟩
  · exact .inl (if_neg hc)

theorem reserve?_frame (h : g.reserve? group t = some g') : Frame t (some group) g g' := by
  rw [reserve?_eq] at h
  split at h
  · rename_i ha
    cases h
    refine modify_frame fun c hg => .inr ⟨admits_of_isAvailable ha hg, ?_⟩
    split
    · exact admits_of_isAvailable ha hg
    · simp [Claim.admits, Claim.owner?]
  · cases h

theorem confirm_frame : Frame t (some group) g (g.confirm group t) := by
  refine modify_frame fun c _ => ?_
  by_cases hc : c.isOf t = true
  · exact .inr ⟨Claim.admits_of_isOf hc, by simp [hc, Claim.admits, Claim.owner?]⟩
  · exact .inl (if_neg hc)

end Groups

end Switchboard.Interlock
