import HomeClimate.House.Unit
import HomeClimate.Proofs.Filter.RateLimiter
import HomeClimate.Proofs.Number.Equality

/-!
# Demands that are held back

The unit gets a command only for a demand that the rate limiter passes on.  It is not
left with an old one: the last command that it got says the same as a command for the
last demand would, although that demand may have been held back
(`UnitRun.current_and_spaced`).

Demands are doubles here.  Two of them say the same if they are equal as numbers, so a
demand that is no number is never held back, and the two zeros say the same but are
not the same.  A command is made of a share, which is a number in any case, and equal
demands make equal commands (`unitCommand_beq`).
-/

namespace HomeClimate

/-! ## Commands for demands that say the same -/

theorem Command.beq_intro {mode : Option Mode} {power power' speed speed' : Float}
    (hpower : (power == power') = true) (hspeed : (speed == speed') = true) :
    ((⟨mode, power, speed⟩ : Command Float) == ⟨mode, power', speed'⟩) = true := by
  change (mode == mode && (power == power' && speed == speed')) = true
  rw [hpower, hspeed, beq_self_eq_true]
  rfl

theorem fraction_demandFor_beq (mode : Mode) {x y : Float} (h : (x == y) = true) :
    (Scalar.fraction (demandFor mode x) == Scalar.fraction (demandFor mode y)) = true := by
  cases mode with
  | cooling => exact Double.fraction_beq h
  | heating => exact Double.fraction_neg_beq h

/-- The fan of a unit runs at the same speed for shares that are equal. -/
theorem fanSpeedFor_of_beq {power power' : Float} (h : (power == power') = true) :
    fanSpeedFor power = fanSpeedFor power' := by
  have hruns : 0 < power ↔ 0 < power' := (Double.lt_iff_of_beq h 0).2
  exact if_congr hruns rfl rfl

/-- A command equals itself, even that for a demand which is no number. -/
theorem unitCommand_beq_self (mode : Mode) (demand : Signal (UnitDemand Float)) :
    (unitCommand mode demand == unitCommand mode demand) = true := by
  rw [unitCommand]
  cases demand.value? with
  | none => exact Command.beq_intro (by decide +kernel) (by decide +kernel)
  | some asked =>
      exact Command.beq_intro (Double.fraction_beq_self _) (Double.fraction_beq_self _)

/-- Demands that say the same make equal commands. -/
theorem unitCommand_beq (mode : Mode) {a b : Signal (UnitDemand Float)}
    (h : sameValue a b = true) : (unitCommand mode a == unitCommand mode b) = true := by
  obtain ⟨-, hvalue⟩ := Bool.and_eq_true_iff.mp h
  rw [unitCommand, unitCommand]
  cases ha : a.value? with
  | none =>
      cases hb : b.value? with
      | none => exact Command.beq_intro (by decide +kernel) (by decide +kernel)
      | some _ =>
          rw [ha, hb] at hvalue
          cases hvalue
  | some asked =>
      obtain ⟨demand, speed⟩ := asked
      cases hb : b.value? with
      | none =>
          rw [ha, hb] at hvalue
          cases hvalue
      | some asked' =>
          obtain ⟨demand', speed'⟩ := asked'
          rw [ha, hb] at hvalue
          have hboth : (demand == demand' && speed == speed') = true := hvalue
          obtain ⟨hdemand, hspeed⟩ := Bool.and_eq_true_iff.mp hboth
          have hpower := fraction_demandFor_beq mode hdemand
          refine Command.beq_intro hpower ?_
          cases speed with
          | none =>
              cases speed' with
              | none =>
                  dsimp only [Option.getD_none]
                  rw [fanSpeedFor_of_beq hpower]
                  exact Double.fraction_beq_self _
              | some _ => cases hspeed
          | some x =>
              cases speed' with
              | none => cases hspeed
              | some y => exact Double.fraction_beq hspeed

/-! ## Statuses that come to the unit's control -/

/-- A status that comes, and the settings that the zones have at the moment. -/
structure Arrival (ν : Type) where
  /-- The settings of the zones. -/
  settings : Table String (ZoneSettings ν)
  /-- The status. -/
  status : Signal (ZoneStatus ν)

/-- The control of a unit, with the demands that the arbiter made so far and those of them that the
unit was given a command for. -/
structure UnitRun (ν : Type) where
  /-- The control. -/
  control : UnitControl ν
  /-- The demands that the arbiter made. -/
  asked : List (Signal (UnitDemand ν))
  /-- The demands that the unit was given a command for. -/
  given : List (Signal (UnitDemand ν))

namespace UnitRun

variable {ν : Type} [Scalar ν]

/-- A unit of a mode that no status came for, with a limiter of some interval. -/
def start (mode : Mode) (interval : Span) : UnitRun ν :=
  ⟨⟨mode, .empty, .byValue interval⟩, [], []⟩

/-- The demand that the arbiter makes at an arrival. -/
def demand? (r : UnitRun ν) (arrival : Arrival ν) : Option (Signal (UnitDemand ν)) :=
  (r.control.arbiter.process arrival.settings arrival.status).2

/-- The run after an arrival. -/
def step (r : UnitRun ν) (arrival : Arrival ν) : UnitRun ν where
  control := (r.control.process arrival.settings arrival.status).1
  asked := r.asked ++ (r.demand? arrival).toList
  given := r.given ++ (r.control.process arrival.settings arrival.status).2.toList

/-- The run after some arrivals. -/
def after (r : UnitRun ν) (arrivals : List (Arrival ν)) : UnitRun ν := arrivals.foldl step r

/-- The commands that the unit got. -/
def commands (r : UnitRun ν) : List (Command ν) := r.given.map (unitCommand r.control.mode)

/-- An arrival either makes no demand and leaves the limiter as it was, or it makes one that goes
to the limiter. -/
theorem step_cases (r : UnitRun ν) (arrival : Arrival ν) :
    (r.demand? arrival = none ∧ (r.step arrival).control.mode = r.control.mode ∧
        (r.step arrival).control.limiter = r.control.limiter ∧
        (r.step arrival).asked = r.asked ∧ (r.step arrival).given = r.given) ∨
      ∃ demand, r.demand? arrival = some demand ∧
        (r.step arrival).control.mode = r.control.mode ∧
        (r.step arrival).control.limiter = (r.control.limiter.process demand).1 ∧
        (r.step arrival).asked = r.asked ++ [demand] ∧
        (r.step arrival).given =
          r.given ++ (r.control.limiter.process demand).2.toList := by
  simp only [step, demand?, UnitControl.process]
  rcases r.control.arbiter.process arrival.settings arrival.status with ⟨arbiter, _ | demand⟩
  · exact .inl ⟨rfl, rfl, rfl, List.append_nil _, List.append_nil _⟩
  · exact .inr ⟨demand, rfl, rfl, rfl, rfl, rfl⟩

/-- What is so of every run. -/
structure IsCurrent (mode : Mode) (interval : Span) (r : UnitRun ν) : Prop where
  unitMode : r.control.mode = mode
  interval : r.control.limiter.interval = interval
  same : r.control.limiter.same = sameValue
  limiter : r.control.limiter.KeepsUp r.asked r.given

theorem isCurrent_start (mode : Mode) (interval : Span) :
    (start mode interval : UnitRun ν).IsCurrent mode interval :=
  ⟨rfl, rfl, rfl, RateLimiter.keepsUp_create interval sameValue⟩

theorem IsCurrent.step {mode : Mode} {interval : Span} {r : UnitRun ν}
    (h : r.IsCurrent mode interval) (arrival : Arrival ν) :
    (r.step arrival).IsCurrent mode interval := by
  rcases r.step_cases arrival with
    ⟨-, hmode, hlimiter, hasked, hgiven⟩ | ⟨demand, -, hmode, hlimiter, hasked, hgiven⟩
  · refine ⟨hmode.trans h.unitMode, ?_, ?_, ?_⟩
    · rw [hlimiter, h.interval]
    · rw [hlimiter, h.same]
    · rw [hlimiter, hasked, hgiven]
      exact h.limiter
  · refine ⟨hmode.trans h.unitMode, ?_, ?_, ?_⟩
    · rw [hlimiter, RateLimiter.interval_process, h.interval]
    · rw [hlimiter, RateLimiter.same_process, h.same]
    · rw [hlimiter, hasked, hgiven]
      exact h.limiter.process demand

theorem IsCurrent.after {mode : Mode} {interval : Span} {r : UnitRun ν}
    (h : r.IsCurrent mode interval) (arrivals : List (Arrival ν)) :
    (r.after arrivals).IsCurrent mode interval := by
  induction arrivals generalizing r with
  | nil => exact h
  | cons arrival rest ih => exact ih (h.step arrival)

/-- The last command of a run is that of the last demand. -/
theorem IsCurrent.lastCommand {mode : Mode} {interval : Span} {r : UnitRun Float}
    (h : r.IsCurrent mode interval) {demand : Signal (UnitDemand Float)}
    (hasked : r.asked.getLast? = some demand) :
    ∃ command, r.commands.getLast? = some command ∧
      (command == unitCommand mode demand) = true := by
  obtain ⟨last, hlast, hsays⟩ := h.limiter.current demand hasked
  refine ⟨unitCommand mode last, ?_, ?_⟩
  · rw [commands, List.getLast?_map, ← h.limiter.last, hlast, h.unitMode]
    rfl
  · rcases hsays with rfl | hsame
    · exact unitCommand_beq_self mode last
    · rw [h.same] at hsame
      exact unitCommand_beq mode hsame

/-- Whatever statuses came to the control of a unit, at whatever times and under whatever settings:
after one more that a demand is made for, the last command equals that for this demand, held back
or not.  One that no demand is made for gives no command.  And of two demands in a row that a
command was given for, the second is a repetition only if it comes after the interval. -/
theorem current_and_spaced (mode : Mode) (interval : Span) (arrivals : List (Arrival Float)) :
    let run := (start mode interval).after arrivals
    (∀ arrival demand, run.demand? arrival = some demand →
      ∃ command, (run.step arrival).commands.getLast? = some command ∧
        (command == unitCommand mode demand) = true) ∧
    (∀ arrival, run.demand? arrival = none → (run.step arrival).commands = run.commands) ∧
    run.given.IsChain fun a b =>
      sameValue a b = true → interval ≤ b.time.spanSince a.time := by
  intro run
  have hrun : run.IsCurrent mode interval := (isCurrent_start mode interval).after arrivals
  refine ⟨fun arrival demand hdemand => ?_, fun arrival hnone => ?_, ?_⟩
  · refine (hrun.step arrival).lastCommand ?_
    rw [step, hdemand, Option.toList_some, List.getLast?_concat]
  · rcases run.step_cases arrival with ⟨-, hmode, -, -, hgiven⟩ | ⟨demand, hdemand, -⟩
    · rw [commands, commands, hmode, hgiven]
    · cases hnone.symm.trans hdemand
  · have hspaced := hrun.limiter.spaced
    rwa [hrun.same, hrun.interval] at hspaced

/-- The den asks for one degree, half a minute before that for no number, and then twice for one
degree, the second time in vain.  The unit has three commands, and the last one is that for the
fourth demand. -/
theorem current_and_spaced_in_den :
    let asks (second : Int) (demand : Float) : Arrival Float :=
      ⟨[("den", {})], .healthy (.ofEpoch second 0) ⟨{}, ⟨none, demand, true⟩, none, none⟩
        (some "den")⟩
    let run : UnitRun Float :=
      (start .cooling (Span.seconds 60)).after [asks 30 1, asks 0 (0 / 0), asks 1 1]
    ∃ demand command, run.demand? (asks 2 1) = some demand ∧
      (run.step (asks 2 1)).asked.length = 4 ∧ (run.step (asks 2 1)).given.length = 3 ∧
      (run.step (asks 2 1)).commands.getLast? = some command ∧
      (command == unitCommand .cooling demand) = true ∧ (command.demand == 1) = true := by
  intro asks run
  obtain ⟨hcurrent, -, -⟩ := current_and_spaced .cooling (Span.seconds 60)
    [asks 30 1, asks 0 (0 / 0), asks 1 1]
  have hmakes : (run.demand? (asks 2 1)).isSome = true := by decide +kernel
  obtain ⟨demand, hdemand⟩ := Option.isSome_iff_exists.mp hmakes
  obtain ⟨command, hlast, hsays⟩ := hcurrent (asks 2 1) demand hdemand
  have hruns : ((run.step (asks 2 1)).commands.getLast?.any fun (command : Command Float) =>
      command.demand == 1) = true := by decide +kernel
  have hdegree : (command.demand == 1) = true := by
    rw [hlast] at hruns
    exact hruns
  exact ⟨demand, command, hdemand, by decide +kernel, by decide +kernel, hlast, hsays, hdegree⟩

end UnitRun

end HomeClimate
