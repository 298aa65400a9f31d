import HomeClimate.Proofs.House.Replayed
import HomeClimate.Proofs.Zone.Failures

/-!
# Zones and their records in a replay

The last verdict of a zone and its recorded status have failed exactly if the last
sample that the zone took had failed (`Replay.Tracks`).  A change of the schedule has
the verdict shown again, which does not make it another one, and no other zone has a
say in it.
-/

namespace HomeClimate

variable {ν : Type} [Scalar ν]

/-! ## Zones -/

/-- The zone of a name is there, and its last verdict has failed or not as it should. -/
structure Zones.Agree (zones : Zones ν) (name : String) (failed : Option Bool) : Prop where
  known : name ∈ zones.keys
  names : ∀ e ∈ zones, e.2.name = e.1
  verdicts : ∀ e ∈ zones, e.1 = name → e.2.lastVerdict.map Signal.isFailed = failed

theorem Zones.Agree.retain {zones zones' : Zones ν} {name : String} {failed : Option Bool}
    (h : Agree zones name failed) (hretain : Retain zones zones') : Agree zones' name failed := by
  refine ⟨hretain.keys ▸ h.known, ?_, ?_⟩
  · refine hretain.forall_zones (P := fun other z => z.name = other) ?_ h.names
    intro _ z z' hz hname
    exact hz.name.trans hname
  · refine hretain.forall_zones (P := fun other z => other = name →
      z.lastVerdict.map Signal.isFailed = failed) ?_ h.verdicts
    intro _ z z' hz hverdict
    rw [hz.lastVerdict]
    exact hverdict

omit [Scalar ν] in
/-- A zone that takes the place of one of its name decides for that name. -/
theorem Zones.Agree.modify {zones : Zones ν} {name : String} {failed : Option Bool}
    (h : Agree zones name failed) {z : Zone ν} {other : String} {decided : Bool}
    (hname : z.name = other) (hverdict : z.lastVerdict.map Signal.isFailed = some decided) :
    Agree (zones.modify other fun _ => z) name (if other = name then some decided else failed) := by
  refine ⟨?_, ?_, ?_⟩
  · rw [Table.keys_modify]
    exact h.known
  · exact Table.forall_modify (P := fun other z => z.name = other)
      (fun e he _ => h.names e he) fun _ _ => hname
  · refine Table.forall_modify (P := fun other' (z : Zone ν) => other' = name →
      z.lastVerdict.map Signal.isFailed = if other = name then some decided else failed) ?_ ?_
    · intro e he hne hown
      rw [if_neg fun heq => hne (hown.trans heq.symm)]
      exact h.verdicts e he hown
    · intro _ _ hown
      rw [if_pos hown]
      exact hverdict

namespace Replay

/-! ## Replays -/

/-- The zone of a name and what is recorded of it have failed, or not, as they should. -/
structure Tracks (r : Replay ν) (name : String) (failed : Option Bool) : Prop where
  zones : Zones.Agree r.zones name failed
  status : (r.unit.arbiter.statuses.get? name).map Signal.isFailed = failed
  sorted : Table.Sorted r.unit.arbiter.statuses

/-- A status of a zone that is there is recorded under the name of the zone. -/
theorem statuses_arbitrate {r : Replay ν} {status : Signal (ZoneStatus ν)} {name : String}
    (hsource : status.source = some name) (hknown : name ∈ r.zones.keys) :
    (r.arbitrate status).unit.arbiter.statuses = r.unit.arbiter.statuses.insert name status := by
  rw [arbitrate]
  rcases r.unit.process_cases r.zones.settings status with
    ⟨hunknown, -⟩ | ⟨name', demand, hsource', -, -, heq⟩
  · have hkeys : r.zones.settings.keys = r.zones.keys := by
      rw [Zones.settings, Table.keys, List.map_map]
      rfl
    have hhas := Table.has_iff.mpr (hkeys ▸ hknown)
    rw [hunknown name hsource] at hhas
    cases hhas
  · cases hsource.symm.trans hsource'
    rw [heq]
    rfl

/-- A status does no harm if it is of another zone, or has failed or not as it should. -/
theorem tracks_arbitrate {r : Replay ν} {name : String} {failed : Option Bool}
    (hzones : Zones.Agree r.zones name failed) (hsorted : Table.Sorted r.unit.arbiter.statuses)
    {status : Signal (ZoneStatus ν)} {other : String} (hsource : status.source = some other)
    (hknown : other ∈ r.zones.keys) (hown : other = name → some status.isFailed = failed)
    (hother : other ≠ name →
      (r.unit.arbiter.statuses.get? name).map Signal.isFailed = failed) :
    (r.arbitrate status).Tracks name failed := by
  have hstatuses := statuses_arbitrate hsource hknown
  refine ⟨hzones, ?_, ?_⟩
  · rw [hstatuses, Table.get?_insert]
    by_cases hname : other = name
    · rw [if_pos (beq_iff_eq.mpr hname)]
      exact hown hname
    · rw [if_neg (by simpa using hname)]
      exact hother hname
  · rw [hstatuses]
    exact Table.sorted_insert hsorted other status

theorem steady_tracks (name : String) (failed : Option Bool) :
    Steady fun r : Replay ν => r.Tracks name failed where
  frame := by
    intro r r' hzones hunit _ h
    refine ⟨?_, ?_, ?_⟩
    · rw [hzones]
      exact h.zones
    · rw [hunit]
      exact h.status
    · rw [hunit]
      exact h.sorted
  retain := fun r zones hretain h => { h with zones := h.zones.retain hretain }
  replayed := by
    intro r other status hstatus h
    obtain ⟨z, hz, hshown⟩ := Option.bind_eq_some_iff.mp hstatus
    obtain ⟨verdict, hverdict, rfl⟩ := Option.map_eq_some_iff.mp hshown
    have hmem := Table.mem_of_get? hz
    have hsource : (z.render verdict).source = some other := by
      rw [z.source_render, h.zones.names _ hmem]
    refine tracks_arbitrate h.zones h.sorted hsource (List.mem_map.mpr ⟨_, hmem, rfl⟩)
      (fun hname => ?_) fun _ => h.status
    rw [← h.zones.verdicts _ hmem hname, hverdict, z.isFailed_render]
    rfl

/-- A sample for a zone decides whether it should have failed, and a sample for another decides
nothing. -/
theorem Tracks.zoneSample {r r' : Replay ν} {name : String} {failed : Option Bool}
    (h : r.Tracks name failed) {now : Instant} {other : String} {sample : Signal ν}
    (hsample : r.zoneSample now other sample = .ok r') :
    r'.Tracks name (if other = name then some sample.isFailed else failed) := by
  rw [Replay.zoneSample] at hsample
  cases hz : r.zones.get? other with
  | none =>
      rw [hz] at hsample
      cases hsample
      have hother : other ≠ name := by
        rintro rfl
        obtain ⟨z, hsome⟩ := Table.exists_get? h.zones.known
        exact absurd (hz.symm.trans hsome) nofun
      rw [if_neg hother]
      exact h
  | some z =>
      rw [hz] at hsample
      obtain ⟨⟨z', status⟩, hcompute, rfl⟩ := Outcome.of_map_eq_ok hsample
      obtain ⟨hname, hverdict, hsource, hfailed⟩ := Zone.compute_ok hcompute
      have hmem := Table.mem_of_get? hz
      rw [h.zones.names _ hmem] at hname hsource
      have hknown : other ∈ (r.zones.modify other fun _ => z').keys := by
        rw [Table.keys_modify]
        exact List.mem_map.mpr ⟨(other, z), hmem, rfl⟩
      refine tracks_arbitrate (r := { r with zones := r.zones.modify other fun _ => z' })
        (h.zones.modify hname hverdict) h.sorted hsource hknown (fun hown => ?_) fun hother => ?_
      · rw [if_pos hown, hfailed]
      · rw [if_neg hother]
        exact h.status

end Replay

end HomeClimate
