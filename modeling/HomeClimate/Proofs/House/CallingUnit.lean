import HomeClimate.Proofs.Filter.RateLimiter
import HomeClimate.Proofs.House.Replayed
import HomeClimate.Proofs.Zone.Demand

/-!
# The unit of a calling zone

Demands are read as exact numbers here.

*What is so.*  As long as a zone that may vote calls, the demand that the arbiter makes
is above zero (`Arbiter.demand_pos`).  The last command was made of a demand of that
value: a demand that the rate limiter holds back says the same as the one before it.
So the last command is that of a demand above zero, and the unit acts on it exactly
if its mode is cooling (`ReplaysTo.lastCommand_of_called`).

*What is not so.*  Gains are documented as positive for cooling and negative for
heating, and a unit as one that heats on a negative demand.  But the demand of a
calling zone is above zero in a house that heats, too, whatever its gains are, and a
unit that heats is turned off by it (`off_of_called_cabin`).
-/

namespace HomeClimate

/-! ## The rate limiter -/

/-- Two demands that are told apart by nothing are the same. -/
theorem UnitDemand.eq_of_beq {a b : UnitDemand Rat} (h : (a == b) = true) : a = b := by
  obtain ⟨demand, fanSpeed⟩ := a
  obtain ⟨demand', fanSpeed'⟩ := b
  have hboth : (demand == demand' && fanSpeed == fanSpeed') = true := h
  obtain ⟨hdemand, hfan⟩ := Bool.and_eq_true_iff.mp hboth
  rw [beq_iff_eq.mp hdemand, beq_iff_eq.mp hfan]

theorem value?_eq_of_sameValue {a b : Signal (UnitDemand Rat)} (h : sameValue a b = true) :
    a.value? = b.value? := by
  obtain ⟨-, hvalue⟩ := Bool.and_eq_true_iff.mp h
  cases ha : a.value? with
  | none =>
      cases hb : b.value? with
      | none => rfl
      | some d =>
          rw [ha, hb] at hvalue
          cases hvalue
  | some d =>
      cases hb : b.value? with
      | none =>
          rw [ha, hb] at hvalue
          cases hvalue
      | some d' =>
          rw [ha, hb] at hvalue
          rw [UnitDemand.eq_of_beq hvalue]

/-- After a demand the last one that was passed on says the same, and what is passed on is the last
one. -/
theorem RateLimiter.process_last {r : RateLimiter (UnitDemand Rat)} (hsame : r.same = sameValue)
    (demand : Signal (UnitDemand Rat)) :
    (∃ last, (r.process demand).1.last = some last ∧ last.value? = demand.value?) ∧
      (r.process demand).1.same = sameValue ∧
      ((r.process demand).2 = none ∧ (r.process demand).1.last = r.last ∨
        (r.process demand).2 = (r.process demand).1.last) := by
  rcases r.process_cases demand with ⟨last, hlast, hrepeats, heq⟩ | ⟨-, heq⟩
  · rw [heq]
    rw [hsame] at hrepeats
    exact ⟨⟨last, hlast, value?_eq_of_sameValue hrepeats⟩, hsame, .inl ⟨rfl, rfl⟩⟩
  · rw [heq]
    exact ⟨⟨demand, rfl, rfl⟩, hsame, .inr rfl⟩

/-! ## The invariant -/

namespace Replay

/-- What is so of every replay: all zones and statuses are earnest, the last demand that was
passed on is that of the statuses at hand, and the last command was made of it. -/
structure IsEarnest (mode : Mode) (r : Replay Rat) : Prop where
  unitMode : r.unit.mode = mode
  zones : ∀ e ∈ r.zones, e.2.IsEarnest
  statuses : ∀ e ∈ r.unit.arbiter.statuses, e.2.IsEarnestStatus
  same : r.unit.limiter.same = sameValue
  demand : r.unit.arbiter.statuses ≠ [] → ∃ last settings, r.unit.limiter.last = some last ∧
    last.value? = some ⟨r.unit.arbiter.demand settings, none⟩
  commands : r.commands.getLast? = r.unit.limiter.last.map (recordOf mode)

/-- An earnest status leaves a replay earnest. -/
theorem IsEarnest.arbitrate {mode : Mode} {r : Replay Rat} (h : r.IsEarnest mode)
    {status : Signal (ZoneStatus Rat)} (hstatus : status.IsEarnestStatus) :
    (r.arbitrate status).IsEarnest mode := by
  rw [Replay.arbitrate]
  rcases r.unit.process_cases r.zones.settings status with
    ⟨-, heq⟩ | ⟨name, demand, -, -, hvalue, heq⟩
  · rw [heq]
    refine ⟨h.unitMode, h.zones, h.statuses, h.same, h.demand, ?_⟩
    exact (congrArg List.getLast? (List.append_nil r.commands)).trans h.commands
  · rw [heq]
    obtain ⟨⟨last, hlast, hsays⟩, hsame, hpassed⟩ := RateLimiter.process_last h.same demand
    have hstatuses : ∀ e ∈ r.unit.arbiter.statuses.insert name status, e.2.IsEarnestStatus :=
      Table.forall_insert (P := fun _ s => Signal.IsEarnestStatus s) h.statuses hstatus
    refine ⟨h.unitMode, h.zones, hstatuses, hsame,
      fun _ => ⟨last, r.zones.settings.values, hlast, hsays.trans hvalue⟩, ?_⟩
    dsimp only
    rw [h.unitMode]
    rcases hpassed with ⟨hnone, hkept⟩ | hpassed
    · rw [hnone, hkept, ← h.commands]
      exact congrArg List.getLast? (List.append_nil r.commands)
    · rw [hpassed, hlast]
      exact List.getLast?_concat

theorem steady_isEarnest (mode : Mode) : Steady (IsEarnest mode) where
  frame := by
    intro r r' hzones hunit hcommands h
    refine ⟨?_, ?_, ?_, ?_, ?_, ?_⟩
    · rw [hunit]
      exact h.unitMode
    · rw [hzones]
      exact h.zones
    · rw [hunit]
      exact h.statuses
    · rw [hunit]
      exact h.same
    · rw [hunit]
      exact h.demand
    · rw [hunit, hcommands]
      exact h.commands
  retain := by
    intro r zones hretain h
    refine { h with zones := ?_ }
    refine hretain.forall_zones (P := fun _ z => Zone.IsEarnest z) ?_ h.zones
    intro _ z z' hz hearnest
    refine ⟨?_, ?_⟩
    · rw [hz.renderer]
      exact hearnest.renderer
    · rw [hz.lastVerdict]
      exact hearnest.verdict
  replayed := by
    intro r name status hstatus h
    obtain ⟨z, hz, hshown⟩ := Option.bind_eq_some_iff.mp hstatus
    exact h.arbitrate ((h.zones _ (Table.mem_of_get? hz)).replay hshown)

/-- The zone that takes a sample stays earnest and shows an earnest status. -/
theorem keptBySamples_isEarnest (mode : Mode) : KeptBySamples (IsEarnest mode) := by
  intro r r' now name sample hsample h
  rw [zoneSample] at hsample
  cases hz : r.zones.get? name with
  | none =>
      rw [hz] at hsample
      cases hsample
      exact h
  | some z =>
      rw [hz] at hsample
      obtain ⟨⟨z', status⟩, hcompute, rfl⟩ := Outcome.of_map_eq_ok hsample
      obtain ⟨hearnest, hstatus⟩ := (h.zones _ (Table.mem_of_get? hz)).compute hcompute
      have hzones : IsEarnest mode { r with zones := r.zones.modify name fun _ => z' } := by
        refine { h with zones := ?_ }
        exact Table.forall_modify (P := fun _ z => Zone.IsEarnest z)
          (fun e he _ => h.zones e he) fun _ _ => hearnest
      exact hzones.arbitrate hstatus

/-- A house that a configuration makes is earnest. -/
theorem isEarnest_create {config : SystemConfig Rat} {now : Instant} {r : Replay Rat}
    (h : create config now = .ok r) : r.IsEarnest config.unit.mode := by
  obtain ⟨built, zones, zones', ambient, scheduler, events, hbuilt, hzones, hretain, -, rfl⟩ :=
    create_eq_ok h
  have hsteady := steady_isEarnest config.unit.mode
  have hearnest : ∀ e ∈ zones, e.2.IsEarnest := by
    refine Zones.forall_create (P := fun _ z => Zone.IsEarnest z) hzones fun z hz => ?_
    obtain ⟨b, hb, rfl⟩ := List.mem_map.mp hz
    obtain ⟨_, -, hnew⟩ := Outcome.exists_of_mem_right hbuilt hb
    exact hnew.zone.isEarnest
  have hopening : IsEarnest config.unit.mode
      (opening config zones (built.map Prod.snd) ambient scheduler) :=
    ⟨rfl, hearnest, fun _ he => (nomatch he), rfl, fun hne => absurd rfl hne, rfl⟩
  exact hsteady.announceAll events (hsteady.retain _ zones' hretain hopening)

end Replay

theorem SystemConfig.ReplaysTo.isEarnest {config : SystemConfig Rat}
    {readings done : List (Reading Rat)} {r : Replay Rat} (h : config.ReplaysTo readings done r) :
    r.IsEarnest config.unit.mode := by
  obtain ⟨first, house, -, hhouse, hrun⟩ := h.reached
  exact (Replay.steady_isEarnest _).run (Replay.keptBySamples_isEarnest _) hrun
    (Replay.isEarnest_create hhouse)

/-! ## What the unit does -/

theorem Scalar.fraction_pos {x : Rat} : 0 < fraction x ↔ 0 < x := by
  have hnumber : isNaN x = false := by rw [isNaN, beq_self_eq_true, Bool.not_true]
  rw [fraction, hnumber, if_neg Bool.false_ne_true, clamp]
  split_ifs with hlow hhigh
  · exact ⟨fun h => absurd h (lt_irrefl 0), fun h => absurd h (lt_asymm hlow)⟩
  · exact ⟨fun _ => lt_trans one_pos hhigh, fun _ => one_pos⟩
  · exact Iff.rfl

theorem Scalar.fraction_of_neg {x : Rat} (h : x < 0) : fraction x = 0 := by
  have hnumber : isNaN x = false := by rw [isNaN, beq_self_eq_true, Bool.not_true]
  rw [fraction, hnumber, if_neg Bool.false_ne_true, clamp, if_pos h]

/-- A unit acts on a demand above zero exactly if it cools. -/
theorem unitCommand_pos {demand : Signal (UnitDemand Rat)} {asked : Rat}
    (hvalue : demand.value? = some ⟨asked, none⟩) (hpos : 0 < asked) (mode : Mode) :
    0 < (unitCommand mode demand).demand ↔ mode = .cooling := by
  rw [unitCommand, hvalue]
  dsimp only
  rw [Scalar.fraction_pos]
  cases mode with
  | cooling => exact ⟨fun _ => rfl, fun _ => hpos⟩
  | heating => exact ⟨fun h => absurd h (not_lt_of_gt (neg_lt_zero.mpr hpos)), nofun⟩

/-- A demand above zero turns a unit that heats off. -/
theorem unitCommand_heating {demand : Signal (UnitDemand Rat)} {asked : Rat}
    (hvalue : demand.value? = some ⟨asked, none⟩) (hpos : 0 < asked) :
    unitCommand .heating demand = .off (some .heating) := by
  have hpower : Scalar.fraction (demandFor .heating asked) = 0 :=
    Scalar.fraction_of_neg (neg_lt_zero.mpr hpos)
  rw [unitCommand, hvalue]
  dsimp only
  rw [hpower]
  rfl

namespace SystemConfig

/-- While a zone calls that may vote, the last demand was above zero, and the unit runs exactly if
it cools: one that heats is off. -/
theorem ReplaysTo.lastCommand_of_called {config : SystemConfig Rat}
    {readings done : List (Reading Rat)} {r : Replay Rat} (h : config.ReplaysTo readings done r)
    {name : String} (hcalled : r.unit.arbiter.isCalledBy name = true) :
    ∃ last, r.commands.getLast? = some last ∧ 0 < last.demand ∧
      (0 < last.command.demand ↔ config.unit.mode = .cooling) ∧
      (config.unit.mode = .heating → last.command = .off (some .heating)) := by
  have hearnest := h.isEarnest
  have hsome : r.unit.arbiter.statuses ≠ [] := by
    intro hnil
    rw [Arbiter.isCalledBy, hnil] at hcalled
    cases hcalled
  obtain ⟨demand, settings, hlast, hvalue⟩ := hearnest.demand hsome
  have hpos := Arbiter.demand_pos hearnest.statuses hcalled settings
  refine ⟨Replay.recordOf config.unit.mode demand, ?_, ?_, unitCommand_pos hvalue hpos _,
    fun hheating => ?_⟩
  · rw [hearnest.commands, hlast]
    rfl
  · rw [Replay.recordOf, hvalue]
    exact hpos
  · rw [hheating]
    exact unitCommand_heating hvalue hpos

/-- A cabin that cools, with a den of 22 degrees that is to have 20. -/
theorem lastCommand_of_called_cabin :
    let config : SystemConfig Rat := cabin .cooling 1 none
    let warm : Reading Rat := ⟨.ofEpoch 0 0, "wall", some 22, none⟩
    ∃ r, config.ReplaysTo [warm] [warm] r ∧ r.unit.arbiter.isCalledBy "den" = true ∧
      ∃ last, r.commands.getLast? = some last ∧ 0 < last.demand ∧ 0 < last.command.demand := by
  intro config warm
  obtain ⟨r, hr, hcalled⟩ := exists_replaysTo config warm []
    (fun r => r.unit.arbiter.isCalledBy "den") rfl (List.mergeSort_singleton _)
    (by decide +kernel)
  obtain ⟨last, hlast, hpos, hruns, -⟩ := hr.lastCommand_of_called hcalled
  exact ⟨r, hr, hcalled, last, hlast, hpos, hruns.mpr rfl⟩

/-- A cabin that heats, with a den of 18 degrees that is to have 20.  No gain is above zero, as it
should be, and the den calls, but the unit is off. -/
theorem off_of_called_cabin :
    let config : SystemConfig Rat := cabin .heating (-1) none
    let cold : Reading Rat := ⟨.ofEpoch 0 0, "wall", some 18, none⟩
    (∀ z ∈ config.zones, z.pid.p ≤ 0 ∧ z.pid.i ≤ 0 ∧ z.pid.d ≤ 0) ∧
      ∃ r, config.ReplaysTo [cold] [cold] r ∧ r.unit.arbiter.isCalledBy "den" = true ∧
        ∃ last, r.commands.getLast? = some last ∧ ¬ 0 < last.command.demand := by
  intro config cold
  refine ⟨by decide, ?_⟩
  obtain ⟨r, hr, htest⟩ := exists_replaysTo config cold []
    (fun r => r.unit.arbiter.isCalledBy "den" &&
      r.commands.getLast?.any fun (last : UnitRecord Rat) => !decide (0 < last.command.demand))
    rfl (List.mergeSort_singleton _) (by decide +kernel)
  obtain ⟨hcalled, hoff⟩ := Bool.and_eq_true_iff.mp htest
  obtain ⟨last, hlast, hnot⟩ := (Option.any_eq_true _ _).mp hoff
  exact ⟨r, hr, hcalled, last, hlast, by simpa using hnot⟩

end SystemConfig

end HomeClimate
