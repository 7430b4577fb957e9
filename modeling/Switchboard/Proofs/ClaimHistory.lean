import Mathlib.Data.List.Induction
import Switchboard.Proofs.PendingPulse

/-!
# What the history of a group says of its claim

A token that is no driver's has a claim by its own calls alone. What it has of a group, its `Standing`, goes
through the steps of `Standing.next` at its calls on that group, and nothing else moves it but the end of
the token (`step_standing`): what the others do spares it (`Move.spares_serial`), and so do its calls on
other groups. So a token holds a group exactly if it passed the gate and was confirmed, and has not given the
group back since (`Secured`).

Whoever has a standing on a group keeps the others out of it. Whoever has none changes nothing that can be
asked of the group, but by passing its gate while it is free.
-/

namespace Switchboard

open Output (Driver Pulse)

namespace Interlock

/-- What a token has of a group. -/
inductive Standing where
  | out
  | reserved
  | held
  deriving DecidableEq, Repr

/-- What a token can do about one group. -/
inductive Call where
  | reserve
  | confirm
  | abandon
  | free
  deriving DecidableEq, Repr

/-- What a token has of a group after a call on it, if the gate lets it through or not. -/
def Standing.next (passes : Bool) : Standing → Call → Standing
  | .out, .reserve => if passes then .reserved else .out
  | .reserved, .confirm => .held
  | .reserved, .abandon => .out
  | _, .free => .out
  | s, _ => s

def Claim.standing (c : Claim) (serial : Nat) : Standing :=
  match c with
  | .free => .out
  | .reserved t => if t.serial = serial then .reserved else .out
  | .held t => if t.serial = serial then .held else .out

/-- What the token with a serial has of a group. -/
def Groups.standing (g : Groups) (group : Group) (serial : Nat) : Standing :=
  ((g.claims.get? group).map (·.standing serial)).getD .out

theorem Claim.standing_eq_out_iff {c : Claim} {serial : Nat} :
    c.standing serial = .out ↔ ¬c.belongsTo serial := by
  cases c <;> simp [standing]

namespace Groups

variable {g g' : Groups} {group : Group} {t u : Token} {serial : Nat} {c : Claim}

theorem standing_of_claim (h : g.claims.get? group = some c) :
    g.standing group serial = c.standing serial := by
  simp [standing, h]

theorem standing_of_unclaimed (h : g.claims.get? group = none) : g.standing group serial = .out := by
  simp [standing, h]

theorem standing_eq_out_iff :
    g.standing group serial = .out ↔ ∀ c, g.claims.get? group = some c → ¬c.belongsTo serial := by
  cases h : g.claims.get? group with
  | none => simp [standing, h]
  | some c => simp [standing, h, Claim.standing_eq_out_iff]

theorem standing_ne_out_iff :
    g.standing group serial ≠ .out ↔ ∃ c, g.claims.get? group = some c ∧ c.belongsTo serial := by
  simp [standing_eq_out_iff]

theorem standing_eq_held_iff :
    g.standing group serial = .held ↔ ∃ t, g.holder? group = some t ∧ t.serial = serial := by
  cases h : g.claims.get? group with
  | none => simp [standing, holder?, h]
  | some c =>
    cases c with
    | free => simp [standing, Claim.standing, holder?, h]
    | reserved u => by_cases hu : u.serial = serial <;> simp [standing, Claim.standing, holder?, h, hu]
    | held u => by_cases hu : u.serial = serial <;> simp [standing, Claim.standing, holder?, h, hu]

/-- What spares a token leaves what it has of each group. -/
theorem Spares.standing_eq (h : Spares serial g g') (group : Group) :
    g'.standing group serial = g.standing group serial := by
  by_cases hout : g.standing group serial = .out
  · rw [hout]
    refine standing_eq_out_iff.2 fun c hc hb => ?_
    exact standing_eq_out_iff.1 hout c ((h.claim_iff hb).1 hc) hb
  · obtain ⟨c, hc, hb⟩ := standing_ne_out_iff.1 hout
    rw [standing_of_claim hc, standing_of_claim ((h.claim_iff hb).2 hc)]

/-- A group that another token has does not let a token through. -/
theorem closed_of_standing (h : g.standing group serial ≠ .out) (hu : u.serial ≠ serial) :
    g.isAvailable group u = false ∧ g.reserve? group u = none := by
  obtain ⟨c, hc, hb⟩ := standing_ne_out_iff.1 h
  have ha : g.isAvailable group u = false := by
    rw [Bool.eq_false_iff]
    intro ha
    exact Claim.not_belongsTo_of_admits (admits_of_isAvailable ha hc) (Ne.symm hu) hb
  exact ⟨ha, by rw [reserve?_eq, ha]; rfl⟩

/-! ## What each call does -/

theorem reserve?_standing (h : g.reserve? group t = some g') :
    g'.standing group t.serial =
      (g.standing group t.serial).next (g.isRegistered group) .reserve := by
  rw [reserve?_eq] at h
  split at h
  · rename_i ha
    cases h
    cases hc : g.claims.get? group with
    | none =>
      have hr : g.isRegistered group = false := by simp [isRegistered, Table.contains, hc]
      rw [standing_of_unclaimed hc, hr]
      exact standing_of_unclaimed (by simp [Table.get?_modify_self, hc])
    | some c =>
      have hr : g.isRegistered group = true := Table.contains_of_get? hc
      have hadm := Claim.admits_iff.1 (admits_of_isAvailable ha hc)
      rw [standing_of_claim hc, hr, standing_of_claim (by rw [Table.get?_modify_self, hc, Option.map_some])]
      cases c with
      | free => simp [Claim.isOf, Claim.owner?, Claim.standing, Standing.next]
      | reserved u => simp [Claim.isOf, Claim.owner?, Claim.standing, Standing.next, hadm u rfl]
      | held u => simp [Claim.isOf, Claim.owner?, Claim.standing, Standing.next, hadm u rfl]
  · cases h

/-- A token that the gate of a group turns away has nothing of the group. -/
theorem standing_of_reserve?_eq_none (h : g.reserve? group t = none) :
    g.standing group t.serial = .out := by
  refine standing_eq_out_iff.2 fun c hc hb => ?_
  have ha : g.isAvailable group t = true :=
    (isAvailable_eq_true_iff (Table.contains_of_get? hc)).2 fun c' hc' => by
      cases hc.symm.trans hc'
      exact Claim.admits_of_isOf (Claim.isOf_iff.2 hb)
  rw [reserve?_eq, ha] at h
  cases h

/-- A change of the claim on a group that comes to a call changes the standing as the call does. -/
theorem standing_modify {f : Claim → Claim} {call : Call} {passes : Bool}
    (hout : Standing.out.next passes call = .out)
    (hf : ∀ c, (f c).standing serial = (c.standing serial).next passes call) :
    Groups.standing { g with claims := g.claims.modify group f } group serial =
      (g.standing group serial).next passes call := by
  cases hc : g.claims.get? group with
  | none =>
    rw [standing_of_unclaimed hc, hout]
    exact standing_of_unclaimed (by simp [Table.get?_modify_self, hc])
  | some c =>
    rw [standing_of_claim hc, ← hf c]
    exact standing_of_claim (by simp [Table.get?_modify_self, hc])

theorem confirm_standing (g : Groups) (group : Group) (t : Token) (passes : Bool) :
    (g.confirm group t).standing group t.serial = (g.standing group t.serial).next passes .confirm := by
  refine standing_modify rfl fun c => ?_
  cases c with
  | free => rfl
  | reserved u | held u =>
    by_cases hu : u.serial = t.serial <;>
      simp [Claim.isOf, Claim.owner?, Claim.standing, Standing.next, hu]

theorem abandon_standing (g : Groups) (group : Group) (t : Token) (passes : Bool) :
    (g.abandon group t).standing group t.serial = (g.standing group t.serial).next passes .abandon := by
  refine standing_modify rfl fun c => ?_
  cases c with
  | free => rfl
  | reserved u => by_cases hu : u.serial = t.serial <;> simp [Claim.standing, Standing.next, hu]
  | held u => by_cases hu : u.serial = t.serial <;> simp [Claim.standing, Standing.next, hu]

theorem release_standing (g : Groups) (group : Group) (t : Token) (passes : Bool) :
    (g.release group t).standing group t.serial = (g.standing group t.serial).next passes .free := by
  refine standing_modify rfl fun c => ?_
  cases c with
  | free => rfl
  | reserved u | held u =>
    by_cases hu : u.serial = t.serial <;>
      simp [Claim.isOf, Claim.owner?, Claim.standing, Standing.next, hu]

end Groups

/-! ## Who has a group after a call -/

namespace Groups

variable {g g' : Groups} {group group' : Group} {t u : Token} {c : Claim}

/-- Who has a group after a change of the claim on one had it before, or is the one that the change is for. -/
theorem owner_of_modify {f : Claim → Claim} (hf : ∀ c u, (f c).owner? = some u → f c = c ∨ u = t)
    (hc : (g.claims.modify group f).get? group' = some c) (hu : c.owner? = some u) :
    g.claims.get? group' = some c ∨ u = t := by
  by_cases hg : group = group'
  · subst hg
    rw [Table.get?_modify_self] at hc
    obtain ⟨c₀, hc₀, rfl⟩ := Option.map_eq_some_iff.1 hc
    rcases hf c₀ u hu with he | he
    · rw [he]
      exact .inl hc₀
    · exact .inr he
  · rw [Table.get?_modify_of_ne hg] at hc
    exact .inl hc

theorem owner_of_reserve? (h : g.reserve? group t = some g') (hc : g'.claims.get? group' = some c)
    (hu : c.owner? = some u) : g.claims.get? group' = some c ∨ u = t := by
  rw [reserve?_eq] at h
  split at h
  · cases h
    refine owner_of_modify (fun c₀ u₀ h₀ => ?_) hc hu
    split at h₀
    · rename_i hof
      exact .inl (if_pos hof)
    · exact .inr (Option.some.inj h₀).symm
  · cases h

theorem owner_of_confirm (hc : (g.confirm group t).claims.get? group' = some c) (hu : c.owner? = some u) :
    g.claims.get? group' = some c ∨ u = t := by
  refine owner_of_modify (fun c₀ u₀ h₀ => ?_) hc hu
  split at h₀
  · exact .inr (Option.some.inj h₀).symm
  · rename_i hof
    exact .inl (if_neg hof)

theorem owner_of_abandon (hc : (g.abandon group t).claims.get? group' = some c) (hu : c.owner? = some u) :
    g.claims.get? group' = some c ∨ u = t := by
  refine owner_of_modify (fun c₀ u₀ h₀ => ?_) hc hu
  cases c₀ with
  | free => cases h₀
  | held w => exact .inl rfl
  | reserved w =>
    dsimp only at h₀ ⊢
    split at h₀
    · cases h₀
    · rename_i hw
      exact .inl (if_neg hw)

theorem owner_of_release (hc : (g.release group t).claims.get? group' = some c) (hu : c.owner? = some u) :
    g.claims.get? group' = some c ∨ u = t := by
  refine owner_of_modify (fun c₀ u₀ h₀ => ?_) hc hu
  split at h₀
  · cases h₀
  · rename_i hof
    exact .inl (if_neg hof)

/-- The claim on a group that a token has nothing of does not change with what the token has. -/
theorem get?_modify_of_out {f : Claim → Claim} (hf : ∀ c, ¬c.belongsTo t.serial → f c = c)
    (hout : g.standing group t.serial = .out) :
    (g.claims.modify group f).get? group = g.claims.get? group := by
  rw [Table.modify_eq_self fun c hc => hf c (standing_eq_out_iff.1 hout c hc)]

end Groups

/-- A group is the same to whoever asks. -/
structure Groups.Agree (group : Group) (g g' : Groups) : Prop where
  registered_eq : g'.isRegistered group = g.isRegistered group
  available_eq : ∀ t, g'.isAvailable group t = g.isAvailable group t
  holder_eq : g'.holder? group = g.holder? group

theorem Groups.Agree.of_claim {group : Group} {g g' : Groups} (ho : g'.overflow = g.overflow)
    (hc : g'.claims.get? group = g.claims.get? group) : g.Agree group g' where
  registered_eq := by simp [isRegistered, Table.contains, hc]
  available_eq t := by simp [isAvailable, hc, ho]
  holder_eq := by simp [holder?, hc]

end Interlock

open Interlock (Group Token Standing Call)

/-- The event at which a token makes a call on a group. -/
def Event.ofCall (group : Group) (serial : Nat) : Call → Event
  | .reserve => .reserve group serial
  | .confirm => .confirm group serial
  | .abandon => .abandon group serial
  | .free => .free group serial

/-- What a token does about a group at an event. -/
def Event.call? (group : Group) (serial : Nat) : Event → Option Call
  | .reserve g s => if g = group ∧ s = serial then some .reserve else none
  | .confirm g s => if g = group ∧ s = serial then some .confirm else none
  | .abandon g s => if g = group ∧ s = serial then some .abandon else none
  | .free g s => if g = group ∧ s = serial then some .free else none
  | _ => none

namespace Rig

variable {r r' : Rig} {e : Event} {k : Nat} {t : Token} {group : Group}

/-! ## What others do -/

theorem Move.spares_serial (hw : r.WellFormed) (hk : r.drivers.get? k = none) (he : e.actor? ≠ some k)
    (h : Move e r r') : r.plant.groups.Spares k r'.plant.groups := by
  rcases h.spares_or hw fun ha => absurd ha he with ⟨hs, -⟩ | ⟨d, hd, -⟩
  · exact hs
  · cases hk.symm.trans hd

theorem finishAll_spares_serial (hw : r.WellFormed) (hk : r.drivers.get? k = none)
    (l : List (Nat × Pulse)) : r.plant.groups.Spares k (r.finishAll l).plant.groups := by
  induction l generalizing r with
  | nil => exact .refl _ _
  | cons x rest ih =>
    have hm : Move (.drift 0) r (r.finish x.1 x.2) := finish_move _ r x.1 x.2
    exact (hm.spares_serial hw hk (by simp [Event.actor?])).trans (ih (hw.move hm) (finish_absent hk x.1 x.2))

/-- What others do at a step spares whoever is no driver. -/
theorem step_spares_serial (hw : r.WellFormed) (hk : r.drivers.get? k = none) (he : e.actor? ≠ some k) :
    r.plant.groups.Spares k (r.step e).1.plant.groups := by
  cases e with
  | advance millis => exact finishAll_spares_serial (r := r.elapse millis) (hw.quiet (elapse_quiet r millis)) hk _
  | _ => exact Move.spares_serial hw hk he (step_move r _ nofun)

/-! ## Tokens over a run -/

theorem Move.token_cases (h : Move e r r') (hk : k < r.next) :
    r'.tokens.get? k = r.tokens.get? k ∨ e = .dropToken k ∧ r'.tokens.get? k = none := by
  cases h with
  | quiet quiet => exact .inl (by rw [quiet.tokens_eq])
  | turn live turn alike drivers_eq tokens_eq next_le => exact .inl (by rw [tokens_eq])
  | made told drivers_eq tokens_eq next_eq clock_eq configured groups_eq => exact .inl (by rw [tokens_eq])
  | closed told live drivers_eq tokens_eq next_eq clock_eq board groups_eq => exact .inl (by rw [tokens_eq])
  | placed told alike drivers_eq tokens_eq next_eq => exact .inl (by rw [tokens_eq])
  | claimed told live frame alike drivers_eq tokens_eq next_eq => exact .inl (by rw [tokens_eq])
  | minted id name => exact .inl (Table.get?_insert_of_ne (Nat.ne_of_gt hk))
  | @dropped s t told live =>
    by_cases hs : s = k
    · subst hs
      exact .inr ⟨told, Table.get?_erase_self⟩
    · exact .inl (Table.get?_erase_of_ne hs)

theorem finishAll_tokens (l : List (Nat × Pulse)) : (r.finishAll l).tokens = r.tokens := by
  induction l generalizing r with
  | nil => rfl
  | cons x rest ih =>
    rw [finishAll_cons, ih]
    unfold finish
    split <;> rfl

/-- A token stays who it is until it is dropped, and one that is gone does not come back. -/
theorem step_token (r : Rig) (e : Event) (hk : k < r.next) :
    (r.step e).1.tokens.get? k = r.tokens.get? k ∨
      e = .dropToken k ∧ (r.step e).1.tokens.get? k = none := by
  cases e with
  | advance millis => exact .inl (congrArg (·.get? k) (finishAll_tokens (r := r.elapse millis) _))
  | _ => exact Move.token_cases (step_move r _ nofun) hk

theorem run_token_absent (hk : k < r.next) (hn : r.tokens.get? k = none) (es : List Event) :
    (r.run es).tokens.get? k = none := by
  induction es generalizing r with
  | nil => exact hn
  | cons e es ih =>
    refine ih (Nat.lt_of_lt_of_le hk (step_next_le r e)) ?_
    rcases step_token r e hk with h | ⟨-, h⟩
    · rw [h, hn]
    · exact h

/-- A token that is there before and after an event was not dropped. -/
theorem token_of_step (hw : r.WellFormed) (hk : r.tokens.get? k = some t)
    (hend : (r.step e).1.tokens.get? k ≠ none) :
    e ≠ .dropToken k ∧ (r.step e).1.tokens.get? k = some t := by
  rcases step_token r e (hw.token hk).2 with h | ⟨-, h⟩
  · refine ⟨?_, h.trans hk⟩
    rintro rfl
    exact hend (by simp [step, dropToken, withToken, hk])
  · exact absurd h hend

/-- A token that is there now and at the end of a run was not dropped in between. -/
theorem token_of_run (hw : r.WellFormed) (hk : r.tokens.get? k = some t) {es : List Event}
    (hend : (r.run (e :: es)).tokens.get? k ≠ none) :
    e ≠ .dropToken k ∧ (r.step e).1.tokens.get? k = some t :=
  token_of_step hw hk fun hn =>
    hend (run_token_absent (Nat.lt_of_lt_of_le (hw.token hk).2 (step_next_le r e)) hn es)

/-! ## What a token does itself -/

/-- The gate of a group lets a token through at an event, and the group has a place. -/
def Grants (r : Rig) (group : Group) (k : Nat) : Prop :=
  r.plant.groups.isRegistered group = true ∧ (r.step (.reserve group k)).2 = .flag true

theorem reserve_step (hk : r.tokens.get? k = some t) (group : Group) :
    r.plant.groups.reserve? group t = none ∧ r.step (.reserve group k) = (r, .flag false) ∨
      ∃ g, r.plant.groups.reserve? group t = some g ∧
        r.step (.reserve group k) = (r.setGroups g, .flag true) := by
  simp only [step, reserve, withToken, hk]
  cases r.plant.groups.reserve? group t with
  | none => exact .inl ⟨rfl, rfl⟩
  | some g => exact .inr ⟨g, rfl, rfl⟩

theorem confirm_groups (hk : r.tokens.get? k = some t) (group : Group) :
    (r.step (.confirm group k)).1.plant.groups = r.plant.groups.confirm group t := by
  simp only [step, withToken, hk]
  exact (r.plant.confirm_alike group t).groups_eq

theorem abandon_groups (hk : r.tokens.get? k = some t) (group : Group) :
    (r.step (.abandon group k)).1.plant.groups = r.plant.groups.abandon group t := by
  simp only [step, withToken, hk]
  rfl

theorem free_groups (hk : r.tokens.get? k = some t) (group : Group) :
    (r.step (.free group k)).1.plant.groups = r.plant.groups.release group t := by
  simp only [step, withToken, hk]
  rfl

/-- What a token does about its claim on one group leaves the claims on the others. -/
theorem claim_elsewhere {g : Interlock.Groups} {group' : Group} (h : r.plant.groups.Frame t (some group') g)
    (hne : group' ≠ group) : g.claims.get? group = r.plant.groups.claims.get? group :=
  (h.claim group).resolve_right fun h => hne (Option.some.inj h.1)

/-- At a call that is not on a group the claim on the group stays as it is. -/
theorem step_elsewhere (hk : r.tokens.get? k = some t) (ha : e.actor? = some k)
    (hc : e.call? group k = none) (hdrop : e ≠ .dropToken k) :
    (r.step e).1.plant.groups.claims.get? group = r.plant.groups.claims.get? group := by
  cases e with
  | reserve g s =>
    obtain rfl : s = k := Option.some.inj ha
    have hne : g ≠ group := by simpa [Event.call?] using hc
    rcases reserve_step hk g with ⟨-, he⟩ | ⟨g', hg', he⟩
    · rw [he]
    · rw [he]
      exact claim_elsewhere (Interlock.Groups.reserve?_frame hg') hne
  | confirm g s =>
    obtain rfl : s = k := Option.some.inj ha
    have hne : g ≠ group := by simpa [Event.call?] using hc
    rw [confirm_groups hk]
    exact claim_elsewhere Interlock.Groups.confirm_frame hne
  | abandon g s =>
    obtain rfl : s = k := Option.some.inj ha
    have hne : g ≠ group := by simpa [Event.call?] using hc
    rw [abandon_groups hk]
    exact claim_elsewhere Interlock.Groups.abandon_frame hne
  | free g s =>
    obtain rfl : s = k := Option.some.inj ha
    have hne : g ≠ group := by simpa [Event.call?] using hc
    rw [free_groups hk]
    exact claim_elsewhere Interlock.Groups.release_frame hne
  | dropToken s =>
    obtain rfl : s = k := Option.some.inj ha
    exact absurd rfl hdrop
  | _ => cases ha

/-- What a token has of a group after a step is what its own call makes of it, if it makes one. -/
theorem step_standing (hw : r.WellFormed) (hk : r.tokens.get? k = some t) (hdrop : e ≠ .dropToken k)
    {passes : Bool} (hp : passes = true ↔ r.Grants group k) :
    (r.step e).1.plant.groups.standing group k =
      match e.call? group k with
      | some call => (r.plant.groups.standing group k).next passes call
      | none => r.plant.groups.standing group k := by
  have hdr : r.drivers.get? k = none := by
    cases hd : r.drivers.get? k with
    | none => rfl
    | some d => cases (hw.distinct hd).symm.trans hk
  have hs : t.serial = k := (hw.token hk).1
  cases hcall : e.call? group k with
  | none =>
    by_cases ha : e.actor? = some k
    · simp only [Interlock.Groups.standing, step_elsewhere hk ha hcall hdrop]
    · exact (step_spares_serial hw hdr ha).standing_eq group
  | some call =>
    dsimp only
    cases e with
    | reserve g s =>
      obtain ⟨⟨rfl, rfl⟩, rfl⟩ : (g = group ∧ s = k) ∧ Call.reserve = call := by
        simpa [Event.call?] using hcall
      rcases reserve_step hk g with ⟨hnone, he⟩ | ⟨g', hg', he⟩
      · have hout := Interlock.Groups.standing_of_reserve?_eq_none hnone
        have hno : passes = false := by
          rw [Bool.eq_false_iff]
          intro h
          cases (congrArg Prod.snd he).symm.trans (hp.1 h).2
        rw [hs] at hout
        rw [he, hout, hno]
        rfl
      · have hpasses : passes = r.plant.groups.isRegistered g := by
          rw [Bool.eq_iff_iff, hp, Grants, he]
          simp
        have hst := Interlock.Groups.reserve?_standing hg'
        rw [hs] at hst
        rw [he, hpasses]
        exact hst
    | confirm g s =>
      obtain ⟨⟨rfl, rfl⟩, rfl⟩ : (g = group ∧ s = k) ∧ Call.confirm = call := by
        simpa [Event.call?] using hcall
      rw [confirm_groups hk, ← hs]
      exact Interlock.Groups.confirm_standing ..
    | abandon g s =>
      obtain ⟨⟨rfl, rfl⟩, rfl⟩ : (g = group ∧ s = k) ∧ Call.abandon = call := by
        simpa [Event.call?] using hcall
      rw [abandon_groups hk, ← hs]
      exact Interlock.Groups.abandon_standing ..
    | free g s =>
      obtain ⟨⟨rfl, rfl⟩, rfl⟩ : (g = group ∧ s = k) ∧ Call.free = call := by
        simpa [Event.call?] using hcall
      rw [free_groups hk, ← hs]
      exact Interlock.Groups.release_standing ..
    | _ => cases hcall

/-- A call moves what a token has of a group, unless the call is the gate and does not let the token pass. -/
theorem standing_after (group : Group) (hw : r.WellFormed) (hk : r.tokens.get? k = some t)
    (hdrop : e ≠ .dropToken k) :
    ∃ passes, (passes = true → r.Grants group k) ∧
      (r.step e).1.plant.groups.standing group k =
        match e.call? group k with
        | some call => (r.plant.groups.standing group k).next passes call
        | none => r.plant.groups.standing group k := by
  by_cases hg : r.Grants group k
  · exact ⟨true, fun _ => hg, step_standing hw hk hdrop (by simpa using hg)⟩
  · exact ⟨false, nofun, step_standing hw hk hdrop (by simpa using hg)⟩

/-! ## Runs -/

/-- In a run a token was let through the gate of a group and has not given the group back since. -/
def Reserved (r : Rig) (group : Group) (k : Nat) (es : List Event) : Prop :=
  ∃ before after, es = before ++ .reserve group k :: after ∧ (r.run before).Grants group k ∧
    Event.abandon group k ∉ after ∧ Event.free group k ∉ after

/-- In a run a token was let through the gate of a group and then confirmed, and has not given the group
back: neither before the confirmation, be it as a reservation only, nor since. -/
def Secured (r : Rig) (group : Group) (k : Nat) (es : List Event) : Prop :=
  ∃ before between after, es = before ++ .reserve group k :: between ++ .confirm group k :: after ∧
    (r.run before).Grants group k ∧ Event.abandon group k ∉ between ∧ Event.free group k ∉ between ∧
    Event.free group k ∉ after

/-- The run up to now says what a token has of a group. -/
structure Told (r : Rig) (group : Group) (k : Nat) (es : List Event) : Prop where
  reserved : (r.run es).plant.groups.standing group k = .reserved → r.Reserved group k es
  held : (r.run es).plant.groups.standing group k = .held → r.Secured group k es

theorem Reserved.concat {es : List Event} (h : r.Reserved group k es) (ha : e ≠ .abandon group k)
    (hf : e ≠ .free group k) : r.Reserved group k (es ++ [e]) := by
  obtain ⟨before, after, rfl, hg, hna, hnf⟩ := h
  refine ⟨before, after ++ [e], by simp, hg, ?_, ?_⟩
  · simpa [hna] using Ne.symm ha
  · simpa [hnf] using Ne.symm hf

theorem Secured.concat {es : List Event} (h : r.Secured group k es) (hf : e ≠ .free group k) :
    r.Secured group k (es ++ [e]) := by
  obtain ⟨before, between, after, rfl, hg, hna, hnf, hnf'⟩ := h
  refine ⟨before, between, after ++ [e], by simp, hg, hna, hnf, ?_⟩
  simpa [hnf'] using Ne.symm hf

/-- A reservation that is confirmed is secured. -/
theorem Reserved.confirm {es : List Event} (h : r.Reserved group k es) :
    r.Secured group k (es ++ [.confirm group k]) := by
  obtain ⟨before, after, rfl, hg, hna, hnf⟩ := h
  exact ⟨before, after, [], rfl, hg, hna, hnf, List.not_mem_nil⟩

theorem call?_eq_some {call : Call} (h : e.call? group k = some call) : e = .ofCall group k call := by
  cases e with
  | reserve g s | confirm g s | abandon g s | free g s =>
    obtain ⟨⟨rfl, rfl⟩, rfl⟩ := by simpa [Event.call?] using h
    rfl
  | _ => cases h

/-- Whoever is neither a driver nor a token has nothing of any group. -/
theorem WellFormed.standing_of_absent (hw : r.WellFormed) (hd : r.drivers.get? k = none)
    (hk : r.tokens.get? k = none) (group : Group) : r.plant.groups.standing group k = .out := by
  refine Interlock.Groups.standing_eq_out_iff.2 fun c hc hb => ?_
  obtain ⟨u, hu, rfl⟩ := hb
  rcases hw.owner hc hu with h | h
  · simp [Table.contains, hd] at h
  · simp [Table.contains, hk] at h

/-- A token that is not there does nothing. -/
theorem step_of_missing (hk : r.tokens.get? k = none) (ha : e.actor? = some k) : (r.step e).1 = r := by
  cases e with
  | reserve g s | confirm g s | abandon g s | free g s | dropToken s =>
    obtain rfl : s = k := Option.some.inj ha
    simp only [step, reserve, dropToken, withToken, hk]
  | _ => cases ha

/-- A token that has just been made has nothing of any group. -/
theorem standing_of_minted (hw : r.WellFormed) (hk : r.tokens.get? k = none)
    (hlive : (r.step e).1.tokens.get? k ≠ none) (group : Group) :
    (r.step e).1.plant.groups.standing group k = .out := by
  have hd : r.drivers.get? k = none := by
    cases hd : r.drivers.get? k with
    | none => rfl
    | some d => exact absurd (run_token_absent (hw.driver hd).2 hk [e]) hlive
  have ha : e.actor? ≠ some k := by
    intro ha
    rw [step_of_missing hk ha] at hlive
    exact hlive hk
  rw [(step_spares_serial hw hd ha).standing_eq]
  exact hw.standing_of_absent hd hk group

/-- A run at whose end a token has nothing of a group has nothing to tell. -/
theorem Told.of_out {es : List Event} (h : (r.run es).plant.groups.standing group k = .out) :
    r.Told group k es := by
  constructor
  · intro hs
    cases h.symm.trans hs
  · intro hs
    cases h.symm.trans hs

/-- An event that is no call on the group leaves what there was. -/
theorem Told.other {es : List Event} (h : r.Told group k es) (hcall : e.call? group k = none)
    (hafter : (r.run (es ++ [e])).plant.groups.standing group k =
      (r.run es).plant.groups.standing group k) : r.Told group k (es ++ [e]) := by
  have ha : e ≠ .abandon group k := by
    rintro rfl
    simp [Event.call?] at hcall
  have hf : e ≠ .free group k := by
    rintro rfl
    simp [Event.call?] at hcall
  exact ⟨fun hs => (h.reserved (hafter ▸ hs)).concat ha hf, fun hs => (h.held (hafter ▸ hs)).concat hf⟩

/-- A call tells of itself what it makes of the claim. -/
theorem Told.call {es : List Event} {call : Call} {passes : Bool} (h : r.Told group k es)
    (hpass : passes = true → (r.run es).Grants group k)
    (hafter : (r.run (es ++ [.ofCall group k call])).plant.groups.standing group k =
      ((r.run es).plant.groups.standing group k).next passes call) :
    r.Told group k (es ++ [.ofCall group k call]) := by
  obtain ⟨hres, hheld⟩ := h
  generalize (r.run es).plant.groups.standing group k = before at hres hheld hafter
  constructor
  · intro hs
    rw [hafter] at hs
    cases call with
    | reserve =>
      cases before with
      | out =>
        cases passes with
        | true => exact ⟨es, [], rfl, hpass rfl, List.not_mem_nil, List.not_mem_nil⟩
        | false => cases hs
      | reserved => exact (hres rfl).concat nofun nofun
      | held => cases hs
    | confirm | abandon | free => cases before <;> cases hs
  · intro hs
    rw [hafter] at hs
    cases call with
    | reserve =>
      cases before with
      | out => cases passes <;> cases hs
      | reserved => cases hs
      | held => exact (hheld rfl).concat nofun
    | confirm =>
      cases before with
      | out => cases hs
      | reserved => exact (hres rfl).confirm
      | held => exact (hheld rfl).concat nofun
    | abandon =>
      cases before with
      | out | reserved => cases hs
      | held => exact (hheld rfl).concat nofun
    | free => cases before <;> cases hs

/-- What a token has of a group at the end of a run, the run tells. -/
theorem run_told (hw : r.WellFormed) (hr : ∀ group, r.plant.groups.standing group k = .out)
    (group : Group) (es : List Event) (hlive : (r.run es).tokens.get? k ≠ none) :
    r.Told group k es := by
  induction es using List.reverseRecOn with
  | nil => exact .of_out (hr group)
  | append_singleton es e ih =>
    have hw' := run_wellFormed hw es
    have hrun : r.run (es ++ [e]) = ((r.run es).step e).1 := run_append r es [e]
    cases hk : (r.run es).tokens.get? k with
    | none =>
      -- The token has just been made.
      rw [hrun] at hlive
      exact .of_out (by rw [hrun, standing_of_minted hw' hk hlive group])
    | some t =>
      have htold := ih (by simp [hk])
      obtain ⟨hdrop, -⟩ := token_of_step hw' hk (by rwa [← hrun])
      obtain ⟨passes, hpass, hafter⟩ := standing_after group hw' hk hdrop
      rw [← hrun] at hafter
      cases hcall : e.call? group k with
      | none => exact htold.other hcall (by simpa only [hcall] using hafter)
      | some call =>
        simp only [hcall] at hafter
        obtain rfl := call?_eq_some hcall
        exact htold.call hpass hafter

/-! ## From the history to the claim -/

/-- A token that is there at two times of a run is there between them, and the same. -/
theorem token_between (hw : r.WellFormed) (hk : r.tokens.get? k = some t) (es es' : List Event)
    (hend : ((r.run es).run es').tokens.get? k ≠ none) : (r.run es).tokens.get? k = some t := by
  induction es generalizing r with
  | nil => exact hk
  | cons e es ih =>
    have hlive : (r.run (e :: (es ++ es'))).tokens.get? k ≠ none := by
      rw [← List.cons_append, run_append]
      exact hend
    exact ih (hw.step e) (token_of_run hw hk hlive).2 hend

/-- What calls keep that a run may make, the run keeps. -/
theorem run_standing {J : Standing → Prop} (may : Call → Prop)
    (next : ∀ {s passes call}, may call → J s → J (Standing.next passes s call)) (hw : r.WellFormed)
    (hk : r.tokens.get? k = some t) {es : List Event} (hend : (r.run es).tokens.get? k ≠ none)
    (hes : ∀ call, Event.ofCall group k call ∈ es → may call)
    (hj : J (r.plant.groups.standing group k)) : J ((r.run es).plant.groups.standing group k) := by
  induction es generalizing r with
  | nil => exact hj
  | cons e es ih =>
    obtain ⟨hdrop, hk'⟩ := token_of_run hw hk hend
    obtain ⟨passes, -, hafter⟩ := standing_after group hw hk hdrop
    refine ih (hw.step e) hk' hend (fun call h => hes call (List.mem_cons_of_mem _ h)) ?_
    rw [hafter]
    cases hcall : e.call? group k with
    | none => exact hj
    | some call => exact next (hes call (by rw [← call?_eq_some hcall]; exact List.mem_cons_self ..)) hj

/-- A token that passes a gate is there. -/
theorem Grants.live (h : r.Grants group k) : ∃ t, r.tokens.get? k = some t := by
  cases hk : r.tokens.get? k with
  | some t => exact ⟨t, rfl⟩
  | none =>
    have hreply := h.2
    simp [step, reserve, withToken, hk] at hreply

/-- Whoever passes the gate of a group that has a place has a claim on it. -/
theorem Grants.standing (h : r.Grants group k) (hw : r.WellFormed) :
    (r.step (.reserve group k)).1.plant.groups.standing group k ≠ .out := by
  obtain ⟨t, hk⟩ := h.live
  have hdrop : Event.reserve group k ≠ .dropToken k := nofun
  have hp : true = true ↔ r.Grants group k := by simpa using h
  rw [step_standing hw hk hdrop hp]
  simp only [Event.call?, and_self, if_true]
  cases r.plant.groups.standing group k <;> simp [Standing.next]

/-- A token that has a claim on a group and confirms it holds the group. -/
theorem standing_of_confirm (hw : r.WellFormed) (hk : r.tokens.get? k = some t)
    (hs : r.plant.groups.standing group k ≠ .out) :
    (r.step (.confirm group k)).1.plant.groups.standing group k = .held := by
  have hcall : (Event.confirm group k).call? group k = some .confirm := by simp [Event.call?]
  obtain ⟨passes, -, hafter⟩ := standing_after (e := .confirm group k) group hw hk nofun
  rw [hafter, hcall]
  dsimp only
  cases hst : r.plant.groups.standing group k with
  | out => exact absurd hst hs
  | reserved | held => rfl

/-- A claim lasts as long as it is neither taken back nor freed. -/
theorem run_standing_ne_out (hw : r.WellFormed) (hk : r.tokens.get? k = some t) {es : List Event}
    (hend : (r.run es).tokens.get? k ≠ none) (ha : Event.abandon group k ∉ es)
    (hf : Event.free group k ∉ es) (hs : r.plant.groups.standing group k ≠ .out) :
    (r.run es).plant.groups.standing group k ≠ .out := by
  refine run_standing (J := (· ≠ .out)) (fun call => call ≠ .abandon ∧ call ≠ .free)
    (fun {s passes call} hmay hs => ?_) hw hk hend (fun call hcall => ⟨?_, ?_⟩) hs
  · cases s <;> cases call <;> cases passes <;> simp_all [Standing.next]
  · rintro rfl
    exact ha hcall
  · rintro rfl
    exact hf hcall

/-- A group that is held is held until it is freed. -/
theorem run_standing_held (hw : r.WellFormed) (hk : r.tokens.get? k = some t) {es : List Event}
    (hend : (r.run es).tokens.get? k ≠ none) (hf : Event.free group k ∉ es)
    (hs : r.plant.groups.standing group k = .held) :
    (r.run es).plant.groups.standing group k = .held := by
  refine run_standing (J := (· = .held)) (· ≠ .free) (fun {s passes call} hmay hs => ?_)
    hw hk hend (fun call hcall => ?_) hs
  · subst hs
    cases call with
    | free => exact absurd rfl hmay
    | reserve | confirm | abandon => rfl
  · rintro rfl
    exact hf hcall

/-- A token that is there and secured a group holds it. -/
theorem Secured.held (hw : r.WellFormed) {es : List Event} (h : r.Secured group k es)
    (hend : (r.run es).tokens.get? k = some t) : (r.run es).plant.groups.standing group k = .held := by
  obtain ⟨before, between, after, rfl, hg, hna, hnf, hnf'⟩ := h
  have hw₀ := run_wellFormed hw before
  obtain ⟨t₀, hk₀⟩ := hg.live
  have hout := hg.standing hw₀
  rw [run_append, run_append, run_cons, run_cons] at hend ⊢
  have hne : ((((((r.run before).step (.reserve group k)).1.run between).step
      (.confirm group k)).1.run after)).tokens.get? k ≠ none := by
    rw [hend]
    exact nofun
  -- From its reservation on, the token has a claim, and after the confirmation it holds the group.
  have hk₁ : ((r.run before).step (.reserve group k)).1.tokens.get? k = some t₀ :=
    token_between hw₀ hk₀ [.reserve group k] (between ++ .confirm group k :: after)
      (by rw [run_append]; exact hne)
  have hw₁ := hw₀.step (.reserve group k)
  clear hend
  generalize ((r.run before).step (.reserve group k)).1 = r₁ at hk₁ hout hw₁ hne ⊢
  have hk₂ := token_between hw₁ hk₁ between (.confirm group k :: after) hne
  have hout₂ := run_standing_ne_out hw₁ hk₁ (by simp [hk₂]) hna hnf hout
  have hw₂ := run_wellFormed hw₁ between
  generalize r₁.run between = r₂ at hk₂ hout₂ hw₂ hne ⊢
  exact run_standing_held (hw₂.step _) (token_of_run hw₂ hk₂ hne).2 hne hnf'
    (standing_of_confirm hw₂ hk₂ hout₂)

/-! ## Who a claim belongs to -/

/-- A claim that is no driver's is that of a token that is there. -/
def Named (r : Rig) : Prop :=
  ∀ group c u, r.plant.groups.claims.get? group = some c → c.owner? = some u →
    r.drivers.get? u.serial = none → r.tokens.get? u.serial = some u

/-- Who has a group after a call had it before, or is the token that made the call. -/
theorem call_owner (hk : r.tokens.get? k = some t) {call : Call} {c : Interlock.Claim} {u : Token}
    {group' : Group} (hc : (r.step (.ofCall group k call)).1.plant.groups.claims.get? group' = some c)
    (hu : c.owner? = some u) : r.plant.groups.claims.get? group' = some c ∨ u = t := by
  cases call with
  | reserve =>
    rw [Event.ofCall] at hc
    rcases reserve_step hk group with ⟨-, he⟩ | ⟨g', hg', he⟩
    · rw [he] at hc
      exact .inl hc
    · rw [he] at hc
      exact Interlock.Groups.owner_of_reserve? hg' hc hu
  | confirm =>
    rw [Event.ofCall, confirm_groups hk] at hc
    exact Interlock.Groups.owner_of_confirm hc hu
  | abandon =>
    rw [Event.ofCall, abandon_groups hk] at hc
    exact Interlock.Groups.owner_of_abandon hc hu
  | free =>
    rw [Event.ofCall, free_groups hk] at hc
    exact Interlock.Groups.owner_of_release hc hu

theorem Named.step (h : r.Named) (hw : r.WellFormed) (e : Event) : (r.step e).1.Named := by
  intro group c u hc hu hdr
  have hb : c.belongsTo u.serial := ⟨u, hu, rfl⟩
  obtain ⟨t', ht'⟩ : ∃ t', (r.step e).1.tokens.get? u.serial = some t' := by
    rcases (hw.step e).owner hc hu with hl | hl
    · simp [Table.contains, hdr] at hl
    · exact Option.isSome_iff_exists.1 hl
  cases hk : r.tokens.get? u.serial with
  | none =>
    have hout := standing_of_minted (e := e) hw hk (by simp [ht']) group
    exact absurd hb (Interlock.Groups.standing_eq_out_iff.1 hout c hc)
  | some t =>
    have hd : r.drivers.get? u.serial = none := by
      cases hd : r.drivers.get? u.serial with
      | none => rfl
      | some d => cases (hw.distinct hd).symm.trans hk
    obtain ⟨hdrop, hk'⟩ := token_of_step (e := e) hw hk (by simp [ht'])
    rw [hk']
    have hbefore : r.plant.groups.claims.get? group = some c ∨ u = t := by
      cases hcall : e.call? group u.serial with
      | some call =>
        obtain rfl := call?_eq_some hcall
        exact call_owner hk hc hu
      | none =>
        by_cases ha : e.actor? = some u.serial
        · exact .inl ((step_elsewhere hk ha hcall hdrop).symm.trans hc)
        · exact .inl (((step_spares_serial hw hd ha).claim_iff hb).1 hc)
    rcases hbefore with hbefore | rfl
    · exact hk.symm.trans (h group c u hbefore hu hd)
    · rfl

theorem run_named (s : Setup) (es : List Event) : (s.rig.run es).Named :=
  run_of_steps (fun e hw h => h.step hw e) (setup_wellFormed s) nofun es

/-! ## Others -/

/-- At an event a token gives a group back: it frees it, takes back a reservation that was not confirmed, or
is dropped. -/
def givesBack (group : Group) (k : Nat) (r : Rig) : Event → Bool
  | .free g s => g == group && s == k
  | .abandon g s => g == group && s == k && r.plant.groups.standing group k == .reserved
  | .dropToken s => s == k
  | _ => false

/-- A token that has a claim on a group keeps it until it gives the group back. -/
theorem run_standing_kept (hw : r.WellFormed) (hk : r.tokens.get? k = some t)
    (hs : r.plant.groups.standing group k ≠ .out) {es : List Event}
    (hes : r.never (givesBack group k) es = true) :
    (r.run es).plant.groups.standing group k ≠ .out := by
  induction es generalizing r with
  | nil => exact hs
  | cons e es ih =>
    obtain ⟨he, hes⟩ := Bool.and_eq_true_iff.1 hes
    have he : givesBack group k r e = false := by simpa using he
    have hdrop : e ≠ .dropToken k := by
      rintro rfl
      simp [givesBack] at he
    have hk' : (r.step e).1.tokens.get? k = some t := by
      rcases step_token r e (hw.token hk).2 with h | ⟨rfl, -⟩
      · rw [h, hk]
      · exact absurd rfl hdrop
    obtain ⟨passes, -, hafter⟩ := standing_after group hw hk hdrop
    refine ih (hw.step e) hk' ?_ hes
    rw [hafter]
    cases hcall : e.call? group k with
    | none => exact hs
    | some call =>
      obtain rfl := call?_eq_some hcall
      dsimp only
      cases call with
      | free => simp [Event.ofCall, givesBack] at he
      | abandon =>
        have hnot : r.plant.groups.standing group k ≠ .reserved := by
          simpa [Event.ofCall, givesBack] using he
        cases hst : r.plant.groups.standing group k with
        | out => exact absurd hst hs
        | reserved => exact absurd hst hnot
        | held => simp [Standing.next]
      | reserve | confirm =>
        cases hst : r.plant.groups.standing group k with
        | out => exact absurd hst hs
        | reserved => simp [Standing.next]
        | held => simp [Standing.next]

/-- A token that has nothing of a group leaves the group as it is, unless it passes the gate of the group
while it is free. -/
theorem call_claim (hw : r.WellFormed) (ha : e.actor? = some k)
    (hout : r.plant.groups.standing group k = .out) :
    (r.step e).1.plant.groups.claims.get? group = r.plant.groups.claims.get? group ∨
      e = .reserve group k ∧ r.Grants group k ∧ r.plant.groups.claims.get? group = some .free := by
  cases hk : r.tokens.get? k with
  | none =>
    rw [step_of_missing hk ha]
    exact .inl rfl
  | some t =>
    obtain rfl : t.serial = k := (hw.token hk).1
    cases hcall : e.call? group t.serial with
    | none =>
      by_cases hdrop : e = .dropToken t.serial
      · subst hdrop
        refine .inl ?_
        simp only [step, dropToken, withToken, hk]
        refine Table.get?_map.trans ?_
        cases hc : r.plant.groups.claims.get? group with
        | none => rfl
        | some c =>
          have hof : c.isOf t ≠ true := fun h =>
            Interlock.Groups.standing_eq_out_iff.1 hout c hc (Interlock.Claim.isOf_iff.1 h)
          simp [hof]
      · exact .inl (step_elsewhere hk ha hcall hdrop)
    | some call =>
      obtain rfl := call?_eq_some hcall
      have hnot : ∀ c : Interlock.Claim, ¬c.belongsTo t.serial → c.isOf t ≠ true := fun c hb h =>
        hb (Interlock.Claim.isOf_iff.1 h)
      cases call with
      | reserve =>
        rcases reserve_step hk group with ⟨-, he⟩ | ⟨g', hg', he⟩
        · exact .inl (by rw [Event.ofCall, he])
        · cases hc : r.plant.groups.claims.get? group with
          | none =>
            rw [Interlock.Groups.reserve?_eq] at hg'
            split at hg'
            · cases hg'
              refine .inl ?_
              rw [Event.ofCall, he]
              exact Table.get?_modify_self.trans (by rw [hc]; rfl)
            · cases hg'
          | some c =>
            refine .inr ⟨rfl, ⟨Table.contains_of_get? hc, by rw [he]⟩, ?_⟩
            rw [Interlock.Groups.reserve?_eq] at hg'
            split at hg'
            · rename_i hav
              have hadm := Interlock.Claim.admits_iff.1 (Interlock.Groups.admits_of_isAvailable hav hc)
              have hb := Interlock.Groups.standing_eq_out_iff.1 hout c hc
              cases c with
              | free => rfl
              | reserved u | held u => exact absurd ⟨u, rfl, hadm u rfl⟩ hb
            · cases hg'
      | confirm =>
        rw [Event.ofCall, confirm_groups hk]
        exact .inl (Interlock.Groups.get?_modify_of_out (fun c hb => if_neg (hnot c hb)) hout)
      | abandon =>
        rw [Event.ofCall, abandon_groups hk]
        refine .inl (Interlock.Groups.get?_modify_of_out (fun c hb => ?_) hout)
        cases c with
        | free | held _ => rfl
        | reserved u => exact if_neg fun hu => hb ⟨u, rfl, hu⟩
      | free =>
        rw [Event.ofCall, free_groups hk]
        exact .inl (Interlock.Groups.get?_modify_of_out (fun c hb => if_neg (hnot c hb)) hout)

/-- A step spares whoever is not there yet. -/
theorem step_spares_next (hw : r.WellFormed) (e : Event) :
    r.plant.groups.Spares r.next (r.step e).1.plant.groups := by
  by_cases ha : e.actor? = some r.next
  · rw [step_of_missing hw.fresh.2 ha]
    exact .refl _ _
  · exact step_spares_serial hw hw.fresh.1 ha

/-- How the claims of tokens go, after a run and at the next event. -/
structure Protocol (r : Rig) (es : List Event) : Prop where
  /-- The holder of a group, if it is no driver, is the token that secured it and is still there. -/
  holder_iff : ∀ group t,
    (r.run es).plant.groups.holder? group = some t ∧ (r.run es).drivers.get? t.serial = none ↔
      (r.run es).tokens.get? t.serial = some t ∧ r.Secured group t.serial es
  /-- Who was let through the gate of a group keeps everyone else out until it gives the group back. -/
  closed : ∀ {before after group k}, es = before ++ .reserve group k :: after →
    (r.run before).Grants group k →
    ((r.run before).step (.reserve group k)).1.never (givesBack group k) after = true →
    ∀ u, u.serial ≠ k → (r.run es).plant.groups.isAvailable group u = false ∧
      (r.run es).plant.groups.reserve? group u = none
  /-- A token without a claim on a group changes no answer about the group, but by passing its gate while
  it is free. -/
  bystander : ∀ {e k group}, e.actor? = some k →
    (∀ c, (r.run es).plant.groups.claims.get? group = some c → ¬c.belongsTo k) →
    (r.run es).plant.groups.Agree group ((r.run es).step e).1.plant.groups ∨
      e = .reserve group k ∧ (r.run es).Grants group k ∧
        (r.run es).plant.groups.claims.get? group = some .free
  /-- The gate of a group does what is foretold. -/
  gate : ∀ group t, ((r.run es).plant.groups.reserve? group t).isSome =
    (r.run es).plant.groups.isAvailable group t
  reply : ∀ {group k t}, (r.run es).tokens.get? k = some t →
    ((r.run es).step (.reserve group k)).2 = .flag ((r.run es).plant.groups.isAvailable group t)

/-- In every state that a run reaches the claims of tokens are what the history of the groups makes of
them. -/
theorem run_protocol (s : Setup) (es : List Event) : s.rig.Protocol es := by
  have hw := run_wellFormed (setup_wellFormed s) es
  have hgate : ∀ group t, ((s.rig.run es).plant.groups.reserve? group t).isSome =
      (s.rig.run es).plant.groups.isAvailable group t := by
    intro group t
    rw [Interlock.Groups.reserve?_eq]
    cases (s.rig.run es).plant.groups.isAvailable group t <;> rfl
  refine ⟨fun group t => ⟨?_, ?_⟩, ?_, ?_, hgate, ?_⟩
  · rintro ⟨hh, hd⟩
    have hc := Interlock.Groups.holder?_eq_some_iff.1 hh
    have hk := run_named s es _ _ _ hc rfl hd
    have htold := run_told (setup_wellFormed s) (k := t.serial) (fun _ => rfl) group es (by simp [hk])
    exact ⟨hk, htold.held (Interlock.Groups.standing_eq_held_iff.2 ⟨t, hh, rfl⟩)⟩
  · rintro ⟨hk, hsec⟩
    have hd : (s.rig.run es).drivers.get? t.serial = none := by
      cases hd : (s.rig.run es).drivers.get? t.serial with
      | none => rfl
      | some d => cases (hw.distinct hd).symm.trans hk
    obtain ⟨u, hu, hs⟩ := Interlock.Groups.standing_eq_held_iff.1 (hsec.held (setup_wellFormed s) hk)
    have hku := run_named s es _ _ _ (Interlock.Groups.holder?_eq_some_iff.1 hu) rfl (hs ▸ hd)
    rw [hs, hk] at hku
    exact ⟨Option.some.inj hku ▸ hu, hd⟩
  · rintro before after group k rfl hg hnever u hu
    have hw₀ := run_wellFormed (setup_wellFormed s) before
    obtain ⟨t, hk⟩ := hg.live
    have hk' : ((s.rig.run before).step (.reserve group k)).1.tokens.get? k = some t := by
      rcases step_token (s.rig.run before) (.reserve group k) (hw₀.token hk).2 with h | ⟨h, -⟩
      · rw [h, hk]
      · cases h
    rw [run_append, run_cons]
    have hkept := run_standing_kept (hw₀.step _) hk' (hg.standing hw₀) hnever
    exact Interlock.Groups.closed_of_standing hkept hu
  · intro e k group ha hout
    rcases call_claim hw ha (Interlock.Groups.standing_eq_out_iff.2 hout) with h | h
    · exact .inl (.of_claim (step_spares_next hw e).overflow_eq h)
    · exact .inr h
  · intro group k t hk
    rw [← hgate]
    rcases reserve_step hk group with ⟨hn, he⟩ | ⟨g', hg', he⟩
    · rw [he, hn]
      rfl
    · rw [he, hg']
      rfl

/-- A token that confirms without a reservation gets nothing, and one that holds a group has no reservation
to take back. -/
example : (((Setup.plain.rig.run [.register 5, .createToken 1 "pump", .createToken 1 "pump",
    .reserve 5 0, .confirm 5 0, .reserve 5 1, .confirm 5 1, .abandon 5 0]).plant.groups.holder? 5).map
      (·.serial)) = some 0 := by
  decide +kernel

end Rig

end Switchboard
