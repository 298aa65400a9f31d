import HomeClimate.Config.Check
import HomeClimate.Proofs.Outcome
import Mathlib.Data.List.Nodup

/-!
# What an accepted configuration promises

No two zones have one name, and no source belongs to two places.  Both checks look
for the first repetition and remember what they have seen, so what is shown of them
by induction is about a list and what was seen before it (`FreshAfter`).
-/

namespace HomeClimate

/-! ## Repetitions -/

/-- Texts of which none comes twice and none was seen before. -/
def FreshAfter (seen l : List String) : Prop := l.Nodup ∧ ∀ s ∈ l, s ∉ seen

theorem FreshAfter.cons {seen l : List String} {s : String} (hs : s ∉ seen)
    (h : FreshAfter (s :: seen) l) : FreshAfter seen (s :: l) := by
  refine ⟨List.nodup_cons.mpr ⟨fun hmem => h.2 s hmem List.mem_cons_self, h.1⟩, ?_⟩
  intro s' hs'
  rcases List.mem_cons.mp hs' with rfl | hs'
  · exact hs
  · exact fun hseen => h.2 s' hs' (List.mem_cons_of_mem s hseen)

theorem freshAfter_of_firstRepeated? {seen l : List String} (h : firstRepeated? seen l = none) :
    FreshAfter seen l := by
  induction l generalizing seen with
  | nil => exact ⟨List.nodup_nil, fun s hs => nomatch hs⟩
  | cons s rest ih =>
      rw [firstRepeated?] at h
      split at h
      · cases h
      · rename_i hseen
        exact .cons (by simpa using hseen) (ih h)

/-! ## Configurations -/

namespace SystemConfig

variable {ν : Type} [Scalar ν]

theorem freshAfter_of_checkZones {hasAmbient : Bool} {seen : List String}
    {zones : List (ZoneConfig ν)} (h : checkZones hasAmbient seen zones = .ok ()) :
    FreshAfter seen (zones.map ZoneConfig.name) := by
  induction zones generalizing seen with
  | nil => exact ⟨List.nodup_nil, fun s hs => nomatch hs⟩
  | cons z rest ih =>
      rw [checkZones] at h
      split at h
      · cases h
      · rename_i hseen
        obtain ⟨_, -, h⟩ := Outcome.of_bind_eq_ok h
        split at h
        · cases h
        · exact .cons (by simpa using hseen) (ih h)

/-- Names and sources that tell apart what they name. -/
structure IsDistinct (c : SystemConfig ν) : Prop where
  zones : (c.zones.map ZoneConfig.name).Nodup
  sources : (c.sensors.flatMap SensorConfig.sources).Nodup

theorem isDistinct_of_check {c : SystemConfig ν} (h : c.check = .ok ()) : c.IsDistinct := by
  rw [check] at h
  split at h
  · cases h
  obtain ⟨_, hzones, h⟩ := Outcome.of_bind_eq_ok h
  refine ⟨(freshAfter_of_checkZones hzones).1, ?_⟩
  cases hfirst : firstRepeated? [] (c.sensors.flatMap SensorConfig.sources) with
  | none => exact (freshAfter_of_firstRepeated? hfirst).1
  | some source =>
      rw [hfirst] at h
      cases hambient : c.ambient with
      | none =>
          rw [hambient] at h
          cases h
      | some sensor =>
          rw [hambient] at h
          obtain ⟨_, -, h⟩ := Outcome.of_bind_eq_ok h
          cases h

end SystemConfig

end HomeClimate
