import Switchboard.Proofs.Parts

/-!
# The wall clock does no harm

The wall clock stamps statuses, and nothing else reads it. Two rigs that differ in the reading of the wall
clock and in their stamps (`Rig.undated` is the rig without them) answer every event alike, and still
differ in no more afterwards (`step_congr`). So it makes no difference to a run where the wall clock
starts, and whether and when it is set or goes back: apart from such steps of the wall clock the two runs
are the same events with the same answers (`run_undated`).

The proof goes up from the driver, where the stamps are made (`settle_undated`). Everything else either
leaves the clock alone, and then the dates can be taken off before or after, or is put together from such
operations. Where a driver has a part the dates are taken off on both sides, since a rig without dates
stamps its statuses as any other.
-/

namespace Switchboard

open Output (Driver Outcome Lockout Pulse)

/-- Something happens to the clocks only. -/
def Event.movesClock : Event → Bool
  | .drift _ | .setWall _ => true
  | _ => false

/-! ## Without dates -/

def Output.Status.undated (s : Status) : Status :=
  { s with lastChange := none, lastOn := none, lastOff := none }

def Output.Driver.undated (d : Driver) : Driver :=
  { d with status := d.status.undated }

def Plant.undated (p : Plant) : Plant :=
  { p with clock := { p.clock with wall := ⟨0, 0⟩ } }

def Output.Outcome.undated (o : Outcome) : Outcome where
  result := o.result
  driver := o.driver.undated
  plant := o.plant.undated

/-- The rig without the reading of its wall clock and without the dates in its statuses. -/
def Rig.undated (r : Rig) : Rig :=
  { r with plant := r.plant.undated, drivers := r.drivers.map fun _ d => d.undated }

namespace Table

variable {κ α β : Type} [Ranked κ] {t : Table κ α} {k : κ}

theorem map_insert (f : α → β) (a : α) :
    (t.insert k a).map (fun _ a => f a) = (t.map fun _ a => f a).insert k (f a) := by
  ext k' : 1
  simp only [get?_map, get?_insert]
  split <;> rfl

theorem map_erase (f : α → β) :
    (t.erase k).map (fun _ a => f a) = (t.map fun _ a => f a).erase k := by
  ext k' : 1
  simp only [get?_map, get?_erase]
  split <;> rfl

theorem map_modify {f : α → α} {g : α → α} (h : ∀ a, f (g a) = g (f a)) :
    (t.modify k g).map (fun _ a => f a) = (t.map fun _ a => f a).modify k g := by
  ext k' : 1
  simp only [get?_map, get?_modify]
  split
  · cases t.get? k' <;> simp [h]
  · rfl

end Table

/-! ## Operations of the plant -/

namespace Plant

variable (p : Plant)

theorem write_undated (pin : Gpio.Pin) (level : Bool) :
    p.undated.write pin level = ((p.write pin level).1, (p.write pin level).2.undated) := by
  unfold write
  rcases hw : p.board.write pin level with ⟨result, board⟩
  have hw' : p.undated.board.write pin level = (result, board) := hw
  rw [hw']
  cases result <;> rfl

theorem configure_undated (pin : Gpio.Pin) (mode : Gpio.Mode) (pull : Gpio.Pull) :
    p.undated.configure pin mode pull =
      ((p.configure pin mode pull).1, (p.configure pin mode pull).2.undated) := by
  unfold configure
  rcases hw : p.board.configure pin mode pull with ⟨result, board⟩
  have hw' : p.undated.board.configure pin mode pull = (result, board) := hw
  rw [hw']
  cases result <;> rfl

theorem release_undated (pin : Gpio.Pin) :
    p.undated.release pin = ((p.release pin).1, (p.release pin).2.undated) := by
  unfold release
  rcases hw : p.board.release pin with ⟨result, board⟩
  have hw' : p.undated.board.release pin = (result, board) := hw
  rw [hw']
  cases result <;> rfl

theorem confirm_undated (group : Interlock.Group) (t : Interlock.Token) :
    p.undated.confirm group t = (p.confirm group t).undated := by
  have hg : p.undated.groups = p.groups := rfl
  unfold confirm
  rw [hg]
  cases p.groups.isForeign group t <;> rfl

theorem register_undated (group : Interlock.Group) :
    p.undated.register group = ((p.register group).1, (p.register group).2.undated) := by
  unfold register
  rcases hr : p.groups.register group with ⟨placed, groups⟩
  have hr' : p.undated.groups.register group = (placed, groups) := hr
  rw [hr']
  cases placed <;> rfl

theorem note_congr {p p' : Plant} (hp : p.undated = p'.undated) (level : Log.Level)
    (channel : Log.Channel) (text : String) :
    (p.note level channel text).undated = (p'.note level channel text).undated :=
  congrArg (fun p : Plant => p.note level channel text) hp

theorem notes_undated (text : Gpio.Pin → String) (pins : List Gpio.Pin) :
    pins.foldl (fun p pin => p.note .debug .board (text pin)) p.undated =
      (pins.foldl (fun p pin => p.note .debug .board (text pin)) p).undated := by
  induction pins generalizing p with
  | nil => rfl
  | cons pin rest ih => exact ih (p.note .debug .board (text pin))

theorem access_undated (a : Gpio.Access) :
    p.undated.access a = ((p.access a).1, (p.access a).2.undated) := by
  cases a with
  | shutdown =>
    have hn := p.notes_undated (fun pin => "Releasing pin " ++ toString pin ++ " during shutdown: "
      ++ (Gpio.Error.notFound pin).message) p.board.strays
    simp only [access, shutdown]
    exact congrArg (fun q : Plant => ((Except.ok .done : Gpio.Answer),
      { q with board := p.board.shutdown }.note .info .board ("GPIO " ++ p.board.chip ++ " shut down"))) hn
  | configure pin mode pull => simp only [access, configure_undated]; rfl
  | release pin => simp only [access, release_undated]; rfl
  | write pin level => simp only [access, write_undated]; rfl
  | init | read _ | setEdge _ _ | waitEdge _ => rfl

theorem accessBench_undated (a : Gpio.Access) :
    p.undated.accessBench a = ((p.accessBench a).1, (p.accessBench a).2.undated) := by
  have hb : p.undated.board.bench.access a = p.board.bench.access a := rfl
  unfold accessBench
  rw [hb]
  dsimp only
  split <;> rfl

end Plant

/-! ## Operations of a driver -/

namespace Output.Status

variable (s : Status)

theorem refuse_undated (r : Lockout) : s.undated.refuse r = (s.refuse r).undated := by
  have hl : s.undated.latched? = s.latched? := rfl
  unfold refuse
  rw [hl]
  split <;> rfl

theorem relent_undated : s.undated.relent = s.relent.undated := by
  have hl : s.undated.latched? = s.latched? := rfl
  unfold relent
  rw [hl]
  split <;> rfl

end Output.Status

namespace Output.Driver

variable (d : Driver) (p : Plant)

/-- The one place where dates are made. -/
theorem settle_undated (on : Bool) (duty : Single) :
    (d.undated.settle p.undated on duty).undated = (d.settle p on duty).undated := by
  have hon : d.undated.status.isOn = d.status.isOn := rfl
  have hsince : d.undated.onSince = d.onSince := rfl
  unfold settle transit
  rw [hon, hsince]
  cases on <;> cases d.status.isOn <;> cases d.onSince <;> rfl

theorem free_undated : d.undated.free p.undated = (d.free p).undated := by
  have hc : d.undated.config = d.config := rfl
  unfold free
  rw [hc]
  cases d.config.group <;> rfl

theorem abandon_undated : d.undated.abandon p.undated = (d.abandon p).undated := by
  have hc : d.undated.config = d.config := rfl
  unfold abandon
  rw [hc]
  cases d.config.group <;> rfl

theorem confirm_undated : d.undated.confirm p.undated = (d.confirm p).undated := by
  have hc : d.undated.config = d.config := rfl
  unfold confirm
  rw [hc]
  cases d.config.group with
  | none => rfl
  | some g => exact p.confirm_undated g d.token

theorem reserve?_undated : d.undated.reserve? p.undated = (d.reserve? p).map Plant.undated := by
  have hc : d.undated.config = d.config := rfl
  have hg : p.undated.groups = p.groups := rfl
  have ht : d.undated.token = d.token := rfl
  unfold reserve?
  rw [hc, hg, ht]
  cases d.config.group with
  | none => rfl
  | some g =>
    simp only [Option.map_map]
    rfl

theorem refuse_undated (r : Lockout) :
    (d.undated.refuse p.undated r).undated = (d.refuse p r).undated := by
  have hs : d.undated.status.refuse r = (d.status.refuse r).undated := d.status.refuse_undated r
  unfold refuse
  rw [hs]
  rfl

theorem apply_undated (on : Bool) (duty : Single) :
    (d.undated.apply p.undated on duty).undated = (d.apply p on duty).undated := by
  have hr : d.undated.refusal? p.undated.clock.now on = d.refusal? p.clock.now on := rfl
  have hgate : (if on then d.undated.reserve? p.undated else some p.undated) =
      (if on then d.reserve? p else some p).map Plant.undated := by
    cases on with
    | true => exact d.reserve?_undated p
    | false => rfl
  have hrelent : { d.undated with status := d.undated.status.relent } =
      ({ d with status := d.status.relent } : Driver).undated := by
    rw [undated, undated, ← d.status.relent_undated]
  unfold apply
  rw [hr, hgate, hrelent]
  cases d.refusal? p.clock.now on with
  | some r =>
    exact d.refuse_undated p r
  | none =>
    cases (if on then d.reserve? p else some p) with
    | none =>
      exact d.refuse_undated p .interlockActive
    | some q =>
      have hw : q.undated.write d.undated.config.pin (d.undated.config.level on) = _ :=
        q.write_undated d.config.pin (d.config.level on)
      simp only [Option.map_some]
      rw [hw]
      rcases q.write d.config.pin (d.config.level on) with ⟨result, q'⟩
      cases result with
      | error e =>
        cases on with
        | true =>
          simp only [if_true, abandon_undated]
          rfl
        | false => rfl
      | ok u =>
        cases on with
        | true =>
          simp only [if_true, confirm_undated]
          exact settle_undated _ _ true duty
        | false =>
          simp only [Bool.false_eq_true, if_false, free_undated]
          exact settle_undated _ _ false duty

theorem close_undated : d.undated.close p.undated = (d.close p).undated := by
  have hw : p.undated.write d.undated.config.pin (d.undated.config.level false) = _ :=
    p.write_undated d.config.pin (d.config.level false)
  -- Once the pin was written, or the failure noted, the rest is the same for every plant.
  have hrest : ∀ q : Plant, (d.undated.free q.undated).release d.undated.config.pin =
      (((d.free q).release d.config.pin).1, ((d.free q).release d.config.pin).2.undated) := by
    intro q
    rw [free_undated]
    exact (d.free q).release_undated d.config.pin
  unfold close
  dsimp only
  rw [hw]
  rcases p.write d.config.pin (d.config.level false) with ⟨result, q⟩
  cases result with
  | error e =>
    have hnote : d.undated.note q.undated .error ("failed to switch off on release: " ++ e.message) =
        (d.note q .error ("failed to switch off on release: " ++ e.message)).undated := rfl
    dsimp only
    rw [hnote, hrest]
    rcases (d.free (d.note q .error ("failed to switch off on release: " ++ e.message))).release
      d.config.pin with ⟨result', q'⟩
    cases result' <;> rfl
  | ok u =>
    dsimp only
    rw [hrest q]
    rcases (d.free q).release d.config.pin with ⟨result', q'⟩
    cases result' <;> rfl

theorem create_undated (serial : Nat) (c : Config) :
    create serial c p.undated = ((create serial c p).1, (create serial c p).2.undated) := by
  have hcfg := p.configure_undated c.pin (.output (c.level false)) .disabled
  have hchip : p.undated.board.chip = p.board.chip := rfl
  unfold create
  rw [hcfg, hchip]
  cases c.validate with
  | error e => rfl
  | ok u =>
    dsimp only
    split
    · rfl
    · rcases p.configure c.pin (.output (c.level false)) .disabled with ⟨result, q⟩
      cases result with
      | error e => rfl
      | ok u =>
        cases hg : c.group with
        | none => rfl
        | some g =>
          dsimp only
          rw [Plant.register_undated]
          rfl

end Output.Driver

namespace Output

variable {d d' : Driver} {p p' : Plant}

theorem Outcome.undated_eq_iff {o o' : Outcome} :
    o.undated = o'.undated ↔ o.result = o'.result ∧ o.driver.undated = o'.driver.undated ∧
      o.plant.undated = o'.plant.undated := by
  simp [Outcome.undated]

namespace Driver

theorem apply_congr (hd : d.undated = d'.undated) (hp : p.undated = p'.undated) (on : Bool)
    (duty : Single) : (d.apply p on duty).undated = (d'.apply p' on duty).undated := by
  rw [← apply_undated, hd, hp, apply_undated]

theorem command_congr (hd : d.undated = d'.undated) (hp : p.undated = p'.undated) (on : Bool)
    (duty : Single) : (d.command p on duty).undated = (d'.command p' on duty).undated := by
  have ha := apply_congr hd hp on duty
  unfold command
  generalize d.apply p on duty = o at ha ⊢
  generalize d'.apply p' on duty = o' at ha ⊢
  obtain ⟨hr, hdr, hpl⟩ := Outcome.undated_eq_iff.1 ha
  dsimp only
  rw [hr]
  cases o'.result with
  | error e => exact ha
  | ok u => exact Outcome.undated_eq_iff.2 ⟨rfl, congrArg dropPulse hdr, hpl⟩

theorem config_congr (hd : d.undated = d'.undated) : d.config = d'.config :=
  congrArg (·.config) hd

theorem set_congr (hd : d.undated = d'.undated) (hp : p.undated = p'.undated) (on : Bool) :
    (d.set p on).undated = (d'.set p' on).undated := by
  unfold set
  rw [config_congr hd]
  exact command_congr hd hp on _

theorem setDuty_congr (hd : d.undated = d'.undated) (hp : p.undated = p'.undated) (x : Single) :
    (d.setDuty p x).undated = (d'.setDuty p' x).undated := by
  have hc := config_congr hd
  unfold setDuty name
  rw [hc]
  split
  · exact Outcome.undated_eq_iff.2 ⟨rfl, hd, hp⟩
  · split
    · exact command_congr hd hp _ _
    · exact set_congr hd hp _

theorem stopped_undated (d : Driver) (reason : Option Lockout) :
    d.undated.stopped reason = (d.stopped reason).undated := by
  cases reason <;> rfl

theorem forceOff_undated (d : Driver) (p : Plant) (reason : Option Lockout) :
    (d.undated.forceOff p.undated reason).undated = (d.forceOff p reason).undated := by
  have hw : p.undated.write d.undated.config.pin (d.undated.config.level false) = _ :=
    p.write_undated d.config.pin (d.config.level false)
  rw [forceOff_eq, forceOff_eq, hw]
  rcases p.write d.config.pin (d.config.level false) with ⟨result, q⟩
  cases result with
  | error e =>
    dsimp only
    rw [stopped_undated]
    rfl
  | ok u =>
    dsimp only
    rw [stopped_undated, free_undated]
    exact settle_undated _ _ false Duty.zero

theorem forceOff_congr (hd : d.undated = d'.undated) (hp : p.undated = p'.undated)
    (reason : Option Lockout) : (d.forceOff p reason).undated = (d'.forceOff p' reason).undated := by
  rw [← forceOff_undated, hd, hp, forceOff_undated]

theorem note_congr (hd : d.undated = d'.undated) (hp : p.undated = p'.undated) (level : Log.Level)
    (text : String) : (d.note p level text).undated = (d'.note p' level text).undated := by
  unfold note name
  rw [config_congr hd]
  exact Plant.note_congr hp level .driver _

theorem process_congr (hd : d.undated = d'.undated) (hp : p.undated = p'.undated) :
    (d.process p).undated = (d'.process p').undated := by
  have ho : d.overdue? p.clock.now = d'.overdue? p'.clock.now := by
    have h : d.undated.overdue? p.undated.clock.now = d'.undated.overdue? p'.undated.clock.now := by
      rw [hd, hp]
    exact h
  unfold process
  rw [ho, config_congr hd]
  split
  · exact Outcome.undated_eq_iff.2 ⟨rfl, hd, hp⟩
  · exact forceOff_congr hd (note_congr hd hp _ _) _

theorem resetLockout_congr (hd : d.undated = d'.undated) (hp : p.undated = p'.undated) :
    (d.resetLockout p).undated = (d'.resetLockout p').undated := by
  have hs : d.status.reason = d'.status.reason := congrArg (·.status.reason) hd
  refine Outcome.undated_eq_iff.2 ⟨rfl, ?_, ?_⟩
  · exact congrArg (fun d : Driver => { d with status := d.status.unlock }) hd
  · unfold resetLockout
    dsimp only
    rw [hs]
    split
    · exact note_congr hd hp _ _
    · exact hp

theorem pulseNow_congr (hd : d.undated = d'.undated) (hp : p.undated = p'.undated) :
    (d.pulseNow p).undated = (d'.pulseNow p').undated := by
  have hon := set_congr hd hp true
  obtain ⟨hr, hdr, hpl⟩ := Outcome.undated_eq_iff.1 hon
  unfold pulseNow
  dsimp only
  rw [hr]
  split
  · exact hon
  · exact set_congr hdr hpl false

/-- What a driver is told does not depend on dates, and neither does what it leaves apart from dates. -/
theorem obey_congr (hd : d.undated = d'.undated) (hp : p.undated = p'.undated) (c : Command) :
    (Rig.obey d p c).undated = (Rig.obey d' p' c).undated := by
  cases c with
  | set on => exact set_congr hd hp on
  | toggle =>
    have hs : d.status.isOn = d'.status.isOn := congrArg (·.status.isOn) hd
    simp only [Rig.obey, toggle, hs]
    exact set_congr hd hp _
  | duty x => exact setDuty_congr hd hp x
  | process => exact process_congr hd hp
  | emergencyStop => exact forceOff_congr hd (note_congr hd hp _ _) _
  | shutdown => exact forceOff_congr hd hp none
  | resetLockout => exact resetLockout_congr hd hp
  | restore total cycles =>
    exact Outcome.undated_eq_iff.2 ⟨rfl, congrArg (fun d : Driver => d.restore total cycles) hd, hp⟩
  | pulseNow => exact pulseNow_congr hd hp

theorem beginPulse_congr (hd : d.undated = d'.undated) (q : Pulse) (number : Nat) :
    ({ d with pulse := some q, pulses := number } : Driver).undated =
      ({ d' with pulse := some q, pulses := number } : Driver).undated :=
  congrArg (fun d : Driver => { d with pulse := some q, pulses := number }) hd

theorem startPulse_congr (hd : d.undated = d'.undated) (hp : p.undated = p'.undated)
    (serial timer : Nat) (millis : Option UInt32) :
    (d.startPulse p serial timer millis).undated = (d'.startPulse p' serial timer millis).undated := by
  have hon := set_congr hd hp true
  obtain ⟨hr, hdr, hpl⟩ := Outcome.undated_eq_iff.1 hon
  have hpulses : (d.set p true).driver.pulses = (d'.set p' true).driver.pulses :=
    congrArg (·.pulses) hdr
  unfold startPulse pulseLength name
  dsimp only
  rw [hr, config_congr hd, hpulses]
  split
  · exact hon
  · exact Outcome.undated_eq_iff.2 ⟨rfl, beginPulse_congr hdr _ _, Plant.note_congr hpl _ _ _⟩

theorem finishPulse_congr (hd : d.undated = d'.undated) (hp : p.undated = p'.undated) (number : Nat) :
    (d.finishPulse p number).undated = (d'.finishPulse p' number).undated := by
  have hq : d.pulse = d'.pulse := congrArg (·.pulse) hd
  have hdrop : d.dropPulse.undated = d'.dropPulse.undated := congrArg dropPulse hd
  have ha := apply_congr hdrop hp false Duty.zero
  obtain ⟨hr, hdr, hpl⟩ := Outcome.undated_eq_iff.1 ha
  unfold finishPulse name
  dsimp only
  rw [hq, hr, config_congr hd]
  split
  · split
    · exact ha
    · exact Outcome.undated_eq_iff.2 ⟨rfl, hdr, Plant.note_congr hpl _ _ _⟩
  · exact Outcome.undated_eq_iff.2 ⟨rfl, hd, note_congr hd hp _ _⟩

end Driver

end Output

/-! ## Events -/

namespace Rig

variable {r r' : Rig} {e : Event} {es es' : List Event} {n : Nat}

theorem undated_get? (r : Rig) (n : Nat) :
    r.undated.drivers.get? n = (r.drivers.get? n).map Driver.undated :=
  Table.get?_map

theorem get?_congr (hr : r.undated = r'.undated) (n : Nat) :
    r.drivers.get? n = none ∧ r'.drivers.get? n = none ∨
      ∃ d d', r.drivers.get? n = some d ∧ r'.drivers.get? n = some d' ∧ d.undated = d'.undated := by
  have h : (r.drivers.get? n).map Driver.undated = (r'.drivers.get? n).map Driver.undated := by
    rw [← undated_get?, ← undated_get?, hr]
  cases hd : r.drivers.get? n with
  | none =>
    rw [hd, Option.map_none, eq_comm, Option.map_eq_none_iff] at h
    exact .inl ⟨rfl, h⟩
  | some d =>
    rw [hd, Option.map_some, eq_comm, Option.map_eq_some_iff] at h
    obtain ⟨d', hd', he⟩ := h
    exact .inr ⟨d, d', rfl, hd', he.symm⟩

theorem plant_congr (hr : r.undated = r'.undated) : r.plant.undated = r'.plant.undated :=
  congrArg (·.plant) hr

theorem timer_congr (hr : r.undated = r'.undated) : r.timer = r'.timer :=
  congrArg (·.timer) hr

theorem started_congr (hr : r.undated = r'.undated) : r.started = r'.started :=
  congrArg (·.started) hr

theorem keep_undated (r : Rig) (n : Nat) (o : Outcome) :
    (r.keep n o).undated =
      { r.undated with
        plant := o.plant.undated
        drivers := r.undated.drivers.insert n o.driver.undated } := by
  simp only [undated, keep, Table.map_insert]

theorem keep_congr {o o' : Outcome} (hr : r.undated = r'.undated) (ho : o.undated = o'.undated)
    (n : Nat) : (r.keep n o).undated = (r'.keep n o').undated := by
  obtain ⟨-, hd, hp⟩ := Output.Outcome.undated_eq_iff.1 ho
  rw [keep_undated, keep_undated, hr, hd, hp]

theorem tell_congr (hr : r.undated = r'.undated) (n : Nat) (c : Command) :
    (r.tell n c).1.undated = (r'.tell n c).1.undated ∧ (r.tell n c).2 = (r'.tell n c).2 := by
  unfold tell
  rcases get?_congr hr n with ⟨hn, hn'⟩ | ⟨d, d', hd, hd', hdd⟩
  · simp only [hn, hn', and_true]
    exact hr
  · have ho := Driver.obey_congr hdd (plant_congr hr) c
    obtain ⟨hresult, -, -⟩ := Output.Outcome.undated_eq_iff.1 ho
    simp only [hd, hd', hresult, and_true]
    exact keep_congr hr ho n

theorem pulse_congr (hr : r.undated = r'.undated) (n : Nat) (millis : Option UInt32) (timed : Bool) :
    (r.pulse n millis timed).1.undated = (r'.pulse n millis timed).1.undated ∧
      (r.pulse n millis timed).2 = (r'.pulse n millis timed).2 := by
  obtain ⟨plant, timer, drivers, tokens, subscriptions, started, next⟩ := r
  obtain ⟨plant', timer', drivers', tokens', subscriptions', started', next'⟩ := r'
  -- The serial of the pulse and its due time come from the timer and not from a clock.
  obtain rfl : timer = timer' := congrArg (·.timer) hr
  obtain rfl : next = next' := congrArg (·.next) hr
  unfold Rig.pulse fresh
  rcases get?_congr hr n with ⟨hn, hn'⟩ | ⟨d, d', hd, hd', hdd⟩
  · simp only [hn, hn', and_true]
    exact hr
  · cases timed with
    | false =>
      simp only [hd, hd', Bool.not_false, if_true, and_true]
      exact hr
    | true =>
      simp only [hd, hd', Bool.not_true, Bool.false_eq_true, if_false]
      have ho := Driver.startPulse_congr hdd (plant_congr hr) next timer millis
      have hnext :
          (⟨plant, timer, drivers, tokens, subscriptions, started, next + 1⟩ : Rig).undated =
            (⟨plant', timer, drivers', tokens', subscriptions', started', next + 1⟩ : Rig).undated :=
        congrArg (fun r : Rig => { r with next := next + 1 }) hr
      have hk := keep_congr hnext ho n
      have hname : d.name = d'.name := congrArg (·.config.name) hdd
      have hresult : (d.startPulse plant next timer millis).result =
          (d'.startPulse plant' next timer millis).result :=
        (Output.Outcome.undated_eq_iff.1 ho).1
      rw [hresult, hname]
      cases (d'.startPulse plant' next timer millis).result with
      | error e => exact ⟨hk, rfl⟩
      | ok u =>
        refine ⟨?_, rfl⟩
        exact congrArg (fun r : Rig =>
          { r with started := r.started.insert next ⟨d'.name, n, none⟩ }) hk

theorem close_congr (hr : r.undated = r'.undated) (n : Nat) :
    (r.close n).1.undated = (r'.close n).1.undated ∧ (r.close n).2 = (r'.close n).2 := by
  unfold close
  rcases get?_congr hr n with ⟨hn, hn'⟩ | ⟨d, d', hd, hd', hdd⟩
  · simp only [hn, hn', and_true]
    exact hr
  · simp only [hd, hd', and_true]
    have hclose : (d.close r.plant).undated = (d'.close r'.plant).undated := by
      rw [← Driver.close_undated, hdd, plant_congr hr, Driver.close_undated]
    simp only [undated, Table.map_erase, hclose]
    exact congrArg (fun r : Rig => { r with
      plant := (d'.close r'.plant).undated, drivers := r.drivers.erase n }) hr

theorem cancelPulse_congr (hr : r.undated = r'.undated) (serial : Nat) :
    (r.cancelPulse serial).1.undated = (r'.cancelPulse serial).1.undated ∧
      (r.cancelPulse serial).2 = (r'.cancelPulse serial).2 := by
  have hm : ∀ d : Driver, (d.cancelPulse serial).undated = d.undated.cancelPulse serial := fun _ => rfl
  have hst : r.started.get? serial = r'.started.get? serial := by rw [started_congr hr]
  unfold cancelPulse
  cases hs : r'.started.get? serial with
  | none =>
    simp only [hst, hs, and_true]
    exact hr
  | some s =>
    simp only [hst, hs, and_true, undated, Table.map_modify hm]
    exact congrArg (fun r : Rig => { r with
      plant := r.plant.note .debug .pulse (s.output ++ ": pulse cancelled")
      drivers := r.drivers.modify s.driver (·.cancelPulse serial) }) hr

theorem isPending_congr (hr : r.undated = r'.undated) (serial : Nat) :
    r.isPending serial = r'.isPending serial := by
  unfold isPending
  rw [started_congr hr]
  congr 1
  funext s
  rcases get?_congr hr s.driver with ⟨hn, hn'⟩ | ⟨d, d', hd, hd', hdd⟩
  · rw [hn, hn']
  · have hq : d.pulse = d'.pulse := congrArg (·.pulse) hdd
    simp only [hd, hd', Option.any_some, Driver.awaits, hq]

theorem awaitPulse_congr (hr : r.undated = r'.undated) (serial : Nat) :
    (r.awaitPulse serial).1.undated = (r'.awaitPulse serial).1.undated ∧
      (r.awaitPulse serial).2 = (r'.awaitPulse serial).2 := by
  unfold awaitPulse
  rw [started_congr hr, isPending_congr hr]
  split
  · exact ⟨hr, rfl⟩
  · exact ⟨congrArg (fun r : Rig => { r with started := r'.started.erase serial }) hr, rfl⟩

theorem finish_congr (hr : r.undated = r'.undated) (n : Nat) (q : Pulse) :
    (r.finish n q).undated = (r'.finish n q).undated := by
  unfold finish
  rcases get?_congr hr n with ⟨hn, hn'⟩ | ⟨d, d', hd, hd', hdd⟩
  · simp only [hn, hn']
    exact hr
  · have ho := Driver.finishPulse_congr hdd (plant_congr hr) q.number
    obtain ⟨hresult, -, -⟩ := Output.Outcome.undated_eq_iff.1 ho
    simp only [hd, hd', hresult]
    exact congrArg (fun x : Rig => { x with
      started := x.started.modify q.serial fun s =>
        { s with ended := some (d'.finishPulse r'.plant q.number).result } }) (keep_congr hr ho n)

theorem finishAll_congr (hr : r.undated = r'.undated) (l : List (Nat × Pulse)) :
    (r.finishAll l).undated = (r'.finishAll l).undated := by
  induction l generalizing r r' with
  | nil => exact hr
  | cons x rest ih => exact ih (finish_congr hr x.1 x.2)

theorem ring_congr (hr : r.undated = r'.undated) (n number : Nat) :
    (r.ring n number).undated = (r'.ring n number).undated := by
  unfold ring
  rcases get?_congr hr n with ⟨hn, hn'⟩ | ⟨d, d', hd, hd', hdd⟩
  · simp only [hn, hn']
    exact hr
  · have hq : d.pulse = d'.pulse := congrArg (·.pulse) hdd
    simp only [hd, hd', hq, timer_congr hr]
    split
    · exact keep_congr hr (Driver.finishPulse_congr hdd (plant_congr hr) number) n
    · split
      · exact finish_congr hr n _
      · exact hr

theorem due_undated (r : Rig) : r.undated.due = r.due := by
  unfold due undated
  simp only [Table.map, List.filterMap_map]
  rfl

theorem advance_congr (hr : r.undated = r'.undated) (millis : Int) :
    (r.advance millis).undated = (r'.advance millis).undated := by
  have hlater : (r.elapse millis).undated = (r'.elapse millis).undated :=
    congrArg (fun r : Rig => { r with
      plant := { r.plant with clock := ⟨⟨0, 0⟩, r.plant.clock.now + (millis * Clock.perMilli).toNat⟩ }
      timer := r.timer + millis.toNat }) hr
  -- The same pulses are over, in the same order.
  have hdue : (r.elapse millis).due = (r'.elapse millis).due := by
    rw [← due_undated, hlater, due_undated]
  show ((r.elapse millis).finishAll (r.elapse millis).due).undated =
    ((r'.elapse millis).finishAll (r'.elapse millis).due).undated
  rw [← hdue]
  exact finishAll_congr hlater _

theorem create_congr (hr : r.undated = r'.undated) (c : Output.Config) :
    (r.create c).1.undated = (r'.create c).1.undated ∧ (r.create c).2 = (r'.create c).2 := by
  obtain ⟨plant, timer, drivers, tokens, subscriptions, started, next⟩ := r
  obtain ⟨plant', timer', drivers', tokens', subscriptions', started', next'⟩ := r'
  obtain rfl : next = next' := congrArg (·.next) hr
  have hp : plant.undated = plant'.undated := plant_congr hr
  have hc : ((Driver.create next c plant).1, (Driver.create next c plant).2.undated) =
      ((Driver.create next c plant').1, (Driver.create next c plant').2.undated) := by
    rw [← Driver.create_undated, hp, Driver.create_undated]
  obtain ⟨hresult, hplant⟩ := Prod.mk.inj hc
  unfold create fresh
  dsimp only
  generalize Driver.create next c plant = o at hresult hplant ⊢
  generalize Driver.create next c plant' = o' at hresult hplant ⊢
  obtain ⟨result, p⟩ := o
  obtain ⟨result', p'⟩ := o'
  obtain rfl : result = result' := hresult
  have hplant : p.undated = p'.undated := hplant
  cases result with
  | error e =>
    refine ⟨?_, rfl⟩
    simp only [undated, hplant]
    exact congrArg (fun r : Rig => { r with plant := p'.undated, next := next + 1 }) hr
  | ok d =>
    refine ⟨?_, rfl⟩
    simp only [undated, Table.map_insert, hplant]
    exact congrArg (fun r : Rig => { r with
      plant := p'.undated, drivers := r.drivers.insert next d.undated, next := next + 1 }) hr

/-! ## Events that no driver takes part in -/

theorem pump_undated (r : Rig) (s : Nat) : r.undated.pump s = (r.pump s).undated := by
  have hs : r.undated.subscriptions = r.subscriptions := rfl
  unfold pump
  rw [hs]
  split <;> rfl

theorem pumpPin_undated (r : Rig) (pin : Gpio.Pin) : r.undated.pumpPin pin = (r.pumpPin pin).undated := by
  have hs : r.undated.subscriptions = r.subscriptions := rfl
  unfold pumpPin
  rw [hs]
  generalize r.subscriptions.entries = l
  induction l generalizing r with
  | nil => rfl
  | cons x rest ih =>
    simp only [List.foldl_cons]
    by_cases hx : x.2.pin = pin
    · simp only [hx, if_true, pump_undated]
      exact ih (r.pump x.1) rfl
    · simp only [hx, if_false]
      exact ih r rfl

theorem subscribe_undated (r : Rig) (pin : Gpio.Pin) (edge : Gpio.EdgeMode) :
    r.undated.subscribe pin edge = ((r.subscribe pin edge).1.undated, (r.subscribe pin edge).2) := by
  have hb : r.undated.plant.board = r.plant.board := rfl
  unfold subscribe
  rw [hb]
  split
  · rfl
  · rcases r.plant.board.setEdge pin edge with ⟨result, board⟩
    cases result <;> rfl

theorem receive_undated (r : Rig) (s : Nat) :
    r.undated.receive s = ((r.receive s).1.undated, (r.receive s).2) := by
  unfold receive
  rw [pump_undated]
  generalize r.pump s = r₁
  have hs : r₁.undated.subscriptions = r₁.subscriptions := rfl
  dsimp only
  rw [hs]
  cases r₁.subscriptions.get? s with
  | none => rfl
  | some sub =>
    dsimp only
    exact congrArg (·, _) (pump_undated { r₁ with subscriptions := _ } s)

theorem withToken_undated (r : Rig) (s : Nat) {f g : Interlock.Token → Rig × Reply}
    (h : ∀ t, f t = ((g t).1.undated, (g t).2)) :
    r.undated.withToken s f = ((r.withToken s g).1.undated, (r.withToken s g).2) := by
  have ht : r.undated.tokens = r.tokens := rfl
  unfold withToken
  rw [ht]
  split
  · rfl
  · exact h _

/-- Apart from the clocks, an event that no driver takes part in does the same whether the dates are taken
off before or after it. -/
theorem beside_undated (r : Rig) (h : e.isBeside = true) (hclock : e.movesClock = false) :
    r.undated.step e = ((r.step e).1.undated, (r.step e).2) := by
  cases e with
  | create _ | close _ | command _ _ | pulse _ _ _ | cancelPulse _ | awaitPulse _ | advance _
  | ring _ _ => cases h
  | drift _ | setWall _ => cases hclock
  | lapse _ | setListener _ _ | setFailing _ _ | createToken _ _ => rfl
  | pin a =>
    have ha : r.undated.plant.access a = _ := r.plant.access_undated a
    simp only [step, ha]
    rfl
  | line a =>
    have ha : r.undated.plant.accessBench a = _ := r.plant.accessBench_undated a
    simp only [step, ha]
    rfl
  | inject pin level =>
    exact congrArg (·, Reply.done)
      (pumpPin_undated (r.setBench (r.plant.board.bench.inject pin level)) pin)
  | subscribe pin edge => exact subscribe_undated r pin edge
  | receive s => exact receive_undated r s
  | cancel s =>
    have hs : r.undated.subscriptions = r.subscriptions := rfl
    simp only [step, cancel, hs]
    split <;> rfl
  | unsubscribe s =>
    have hs : r.undated.subscriptions = r.subscriptions := rfl
    simp only [step, hs]
    split <;> rfl
  | register group =>
    have hp : r.undated.plant.register group = _ := r.plant.register_undated group
    simp only [step, hp]
    rfl
  | dropToken s => exact withToken_undated r s fun _ => rfl
  | reserve group s =>
    refine withToken_undated r s fun t => ?_
    have hg : r.undated.plant.groups = r.plant.groups := rfl
    rw [hg]
    split <;> rfl
  | confirm group s =>
    refine withToken_undated r s fun t => ?_
    have hp : r.undated.plant.confirm group t = _ := r.plant.confirm_undated group t
    rw [hp]
    rfl
  | abandon group s => exact withToken_undated r s fun _ => rfl
  | free group s => exact withToken_undated r s fun _ => rfl

theorem beside_congr (hr : r.undated = r'.undated) (h : e.isBeside = true)
    (hclock : e.movesClock = false) :
    (r.step e).1.undated = (r'.step e).1.undated ∧ (r.step e).2 = (r'.step e).2 := by
  have hs := beside_undated r h hclock
  rw [hr, beside_undated r' h hclock] at hs
  obtain ⟨hrig, hreply⟩ := Prod.mk.inj hs
  exact ⟨hrig.symm, hreply.symm⟩

/-- Two rigs that differ in dates answer an event alike, and differ in no more after it. -/
theorem step_congr (hr : r.undated = r'.undated) (e : Event) :
    (r.step e).1.undated = (r'.step e).1.undated ∧ (r.step e).2 = (r'.step e).2 := by
  cases e with
  | create c => exact create_congr hr c
  | close n => exact close_congr hr n
  | command n c => exact tell_congr hr n c
  | pulse n millis timed => exact pulse_congr hr n millis timed
  | cancelPulse serial => exact cancelPulse_congr hr serial
  | awaitPulse serial => exact awaitPulse_congr hr serial
  | advance millis => exact ⟨advance_congr hr millis, rfl⟩
  | ring n number => exact ⟨ring_congr hr n number, rfl⟩
  | drift nanos =>
    refine ⟨?_, rfl⟩
    exact congrArg (fun r : Rig => { r with
      plant := { r.plant with clock := ⟨⟨0, 0⟩, r.plant.clock.now + nanos.toNat⟩ } }) hr
  | setWall wall => exact ⟨hr, rfl⟩
  | _ => exact beside_congr hr rfl rfl

/-! ## Runs -/

theorem run_congr (hr : r.undated = r'.undated) (es : List Event) :
    (r.run es).undated = (r'.run es).undated := by
  induction es generalizing r r' with
  | nil => exact hr
  | cons e es ih => exact ih (step_congr hr e).1

/-- An event sets the wall clock or takes it back, and does nothing else. -/
def isWallStep (r : Rig) : Event → Bool
  | .setWall _ => true
  | .drift nanos => decide (nanos ≤ 0)
  | .advance millis => decide (millis ≤ 0) && r.due.isEmpty
  | _ => false

/-- The events of a run without the steps of the wall clock. -/
def proper (r : Rig) : List Event → List Event
  | [] => []
  | e :: es => if r.isWallStep e then (r.step e).1.proper es else e :: (r.step e).1.proper es

/-- What a run answers, except at the steps of the wall clock. -/
def replies (r : Rig) : List Event → List Reply
  | [] => []
  | e :: es =>
    if r.isWallStep e then (r.step e).1.replies es else (r.step e).2 :: (r.step e).1.replies es

/-- All that a run answers. -/
def answers (r : Rig) : List Event → List Reply
  | [] => []
  | e :: es => (r.step e).2 :: (r.step e).1.answers es

theorem answers_congr (hr : r.undated = r'.undated) (es : List Event) : r.answers es = r'.answers es := by
  induction es generalizing r r' with
  | nil => rfl
  | cons e es ih =>
    obtain ⟨hrig, hreply⟩ := step_congr hr e
    simp only [answers, hreply, ih hrig]

/-- A step of the wall clock is seen in dates only. -/
theorem wallStep_undated (h : r.isWallStep e = true) : (r.step e).1.undated = r.undated := by
  cases e with
  | setWall wall => rfl
  | drift nanos =>
    -- The steady clock never goes back.
    have hz : nanos.toNat = 0 := Int.toNat_of_nonpos (of_decide_eq_true h)
    simp only [step, undated, Plant.undated, Clock.advance, hz, Nat.add_zero]
  | advance millis =>
    simp only [isWallStep, Bool.and_eq_true, decide_eq_true_eq] at h
    obtain ⟨hneg, hdue⟩ := h
    have hz : millis.toNat = 0 := Int.toNat_of_nonpos hneg
    have hz' : (millis * Clock.perMilli).toNat = 0 :=
      Int.toNat_of_nonpos (Int.mul_nonpos_of_nonpos_of_nonneg hneg (Int.natCast_nonneg _))
    have hnone : (r.elapse millis).due = [] := by
      rw [← List.isEmpty_iff.1 hdue]
      simp only [due, elapse, hz, Nat.add_zero]
    show ((r.elapse millis).finishAll (r.elapse millis).due).undated = r.undated
    rw [hnone]
    simp only [finishAll, List.foldl_nil, elapse, undated, Plant.undated, Clock.advance, hz, hz', Nat.add_zero]
  | _ => cases h

theorem run_proper (r : Rig) (es : List Event) : (r.run es).undated = (r.run (r.proper es)).undated := by
  induction es generalizing r with
  | nil => rfl
  | cons e es ih =>
    unfold proper
    by_cases h : r.isWallStep e = true
    · rw [if_pos h, run_cons, ih, run_congr (wallStep_undated h)]
    · rw [if_neg h, run_cons, run_cons, ih]

theorem replies_proper (r : Rig) (es : List Event) : r.replies es = r.answers (r.proper es) := by
  induction es generalizing r with
  | nil => rfl
  | cons e es ih =>
    unfold proper replies
    by_cases h : r.isWallStep e = true
    · rw [if_pos h, if_pos h, ih, answers_congr (wallStep_undated h)]
    · rw [if_neg h, if_neg h, ih]
      rfl

/-- What two runs from rigs that differ in dates have in common if they are the same events apart from the
steps of the wall clock. -/
theorem proper_congr (hr : r.undated = r'.undated) (h : r.proper es = r'.proper es') :
    r.replies es = r'.replies es' ∧ (r.run es).undated = (r'.run es').undated := by
  constructor
  · rw [replies_proper, replies_proper, h]
    exact answers_congr hr _
  · rw [run_proper, run_proper r', h]
    exact run_congr hr _

/-- Two runs of one rig whose wall clocks start anywhere, and are set and taken back anywhere, are the same
apart from dates: if what happens otherwise is the same, so is every answer, and so is all that is reached
but the dates. -/
theorem run_undated (s : Setup) (wall wall' : Timestamp) {es es' : List Event}
    (h : { s with wall }.rig.proper es = { s with wall := wall' }.rig.proper es') :
    { s with wall }.rig.replies es = { s with wall := wall' }.rig.replies es' ∧
      ({ s with wall }.rig.run es).undated = ({ s with wall := wall' }.rig.run es').undated :=
  proper_congr rfl h

/-- An output that is pulsed for a while, and refuses to be switched off too early. -/
def steady : List Event :=
  [.create { Output.Config.plain 1 "lamp" .relay 17 with minOn := 5 }, .pulse 0 (some 9) true,
    .advance 3, .command 0 (.set false), .advance 6]

/-- The same while the wall clock jumps and goes back. -/
def unsteady : List Event :=
  [.setWall ⟨86400, 0⟩, .create { Output.Config.plain 1 "lamp" .relay 17 with minOn := 5 },
    .pulse 0 (some 9) true, .drift (-7000000), .advance 3, .command 0 (.set false),
    .setWall ⟨-1, 500⟩, .advance 6]

/-- The wall clock of the second rig starts a year later. -/
theorem unsteady_undated :
    let late := { Setup.plain with wall := ⟨31536000, 0⟩ }
    late.rig.proper unsteady = Setup.plain.rig.proper steady ∧
      late.rig.replies unsteady = Setup.plain.rig.replies steady ∧
      (late.rig.run unsteady).undated = (Setup.plain.rig.run steady).undated := by
  intro late
  have h : late.rig.proper unsteady = Setup.plain.rig.proper steady := by
    simp [unsteady, steady, proper, isWallStep]
  exact ⟨h, run_undated Setup.plain ⟨31536000, 0⟩ ⟨0, 0⟩ h⟩

end Rig

end Switchboard
