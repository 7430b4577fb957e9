import Switchboard.Proofs.Energised

/-!
# Outputs of one group exclude each other

Where every driver has its pin for itself, a group that has a place is held by exactly the driver whose
output is energised, in every state that a run reaches: through writes that fail, errors that forget what
is on the line, forced stops, pulses and drivers that come and go (`run_exclusive`). Between two operations
no driver waits with a reservation, so a group whose outputs are all off lets any of them on.
-/

namespace Switchboard

open Output (Driver)

namespace Rig

/-- What the table of the groups says of the outputs, and what it keeps them from. -/
structure Exclusive (r : Rig) : Prop where
  /-- The holder of a group is the driver whose output is energised. -/
  holder_iff : ∀ {group n d}, r.plant.groups.isRegistered group = true →
    r.drivers.get? n = some d → d.config.group = some group →
    (r.plant.groups.holder? group = some d.token ↔ d.isAt r.plant true)
  /-- Two outputs of one group are not energised together. -/
  unique : ∀ {group n n' d d'}, r.plant.groups.isRegistered group = true →
    r.drivers.get? n = some d → d.config.group = some group → d.isAt r.plant true →
    r.drivers.get? n' = some d' → d'.config.group = some group → d'.isAt r.plant true → n = n'
  /-- No driver has a reservation that it has not confirmed or taken back. -/
  settled : ∀ {group n d u}, r.drivers.get? n = some d →
    r.plant.groups.claims.get? group = some (.reserved u) → u.serial ≠ d.serial
  /-- A group with no output on, which no token of others has either, lets all its outputs on. -/
  available : ∀ {group}, r.plant.groups.isRegistered group = true →
    (∀ {n d}, r.drivers.get? n = some d → d.config.group = some group → ¬d.isAt r.plant true) →
    (∀ {s t c}, r.tokens.get? s = some t → r.plant.groups.claims.get? group = some c →
      c.isOf t = false) →
    ∀ {n d}, r.drivers.get? n = some d → d.config.group = some group →
      r.plant.groups.isAvailable group d.token = true

variable {r : Rig}

/-- Where every driver is sound and claims are with the living, the groups exclude their outputs. -/
theorem Exclusive.of_sound (hw : r.WellFormed)
    (hs : ∀ {n d}, r.drivers.get? n = some d → d.Sound r.plant) : r.Exclusive where
  holder_iff {group n d} hr hd hg := by
    constructor
    · intro hh
      have hc := Interlock.Groups.holder?_eq_some_iff.1 hh
      exact ((hs hd).claim hc Driver.belongsTo_token).2.2
    · intro hon
      exact Interlock.Groups.holder?_eq_some_iff.2 ((hs hd).holds hon hg hr)
  unique {group n n' d d'} hr hd hg hon hd' hg' hon' := by
    have hc := (hs hd).holds hon hg hr
    have hc' := (hs hd').holds hon' hg' hr
    have ht : d.token = d'.token := by simpa [hc] using hc'
    rw [← (hw.driver hd).1, ← (hw.driver hd').1]
    exact congrArg Interlock.Token.serial ht
  settled {group n d u} hd hc hu := by
    obtain ⟨-, he, -⟩ := (hs hd).claim hc (Interlock.Claim.belongsTo_reserved.2 hu)
    cases he
  available {group} hr hoff hfree := by
    intro n d hd hg
    rw [Interlock.Groups.isAvailable_eq_true_iff hr]
    intro c hc
    rw [Interlock.Claim.admits_iff]
    intro u hu
    -- A claim is with a driver or with a token; a driver's would be held, and its output on.
    rcases hw.owner hc hu with hl | hl
    · obtain ⟨d', hd'⟩ := Option.isSome_iff_exists.1 hl
      obtain ⟨hg', -, hon⟩ := (hs hd').claim hc ⟨u, hu, (hw.driver hd').1.symm⟩
      exact absurd hon (hoff hd' hg')
    · obtain ⟨t, ht⟩ := Option.isSome_iff_exists.1 hl
      have hof : c.isOf t = true := Interlock.Claim.isOf_iff.2 ⟨u, hu, (hw.token ht).1.symm⟩
      rw [hfree ht hc] at hof
      cases hof

/-- In every state that a run from the start reaches with every driver having its pin for itself, a group
that has a place is held by the driver whose output is energised and by no other. -/
theorem run_exclusive (s : Setup) (es : List Event) (h : s.rig.apart es = true) :
    (s.rig.run es).Exclusive :=
  .of_sound (run_wellFormed (setup_wellFormed s) es) fun hd => run_sound (owns_of_apart _ h) hd

/-- Two outputs of one group, of which the first fails to go off once. -/
def duel : List Event :=
  [.create { Output.Config.plain 1 "up" .relay 17 with group := some 5 },
    .create { Output.Config.plain 2 "down" .relay 18 with group := some 5 },
    .command 0 (.set true), .command 1 (.set true), .setFailing 17 true, .command 0 (.set false),
    .command 1 (.set true), .setFailing 17 false, .command 0 (.set false), .command 1 (.set true)]

/-- The second output of the duel is on in the end, and alone. -/
theorem duel_exclusive :
    Setup.plain.rig.apart duel = true ∧
      (Setup.plain.rig.run duel).plant.board.bench.level? 17 = some false ∧
      (Setup.plain.rig.run duel).plant.board.bench.level? 18 = some true ∧
      (Setup.plain.rig.run duel).Exclusive := by
  refine ⟨?_, ?_, ?_, ?_⟩
  · decide +kernel
  · decide +kernel
  · decide +kernel
  · exact run_exclusive Setup.plain duel (by decide +kernel)

end Rig

end Switchboard
