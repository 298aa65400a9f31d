import HomeClimate.Proofs.Outcome
import HomeClimate.Proofs.Table
import HomeClimate.Zone.Arbiter

/-!
# The zones of a house

A set of zones is made of a list by putting each zone under its name.  A name that
is taken is refused, so the table has exactly the zones of the list, and in the
order of their names.
-/

namespace HomeClimate.Zones

variable {ν : Type}

/-- The table with one more zone, if its name is not taken. -/
def insertNew (t : Zones ν) (z : Zone ν) : Except (ZoneError ν) (Zones ν) :=
  if t.has z.name then .error (.duplicateZone z.name) else .ok (t.insert z.name z)

theorem of_insertNew_eq_ok {t t' : Zones ν} {z : Zone ν} (h : insertNew t z = .ok t') :
    t' = t.insert z.name z := by
  rw [insertNew] at h
  split at h
  · cases h
  · exact (Except.ok.inj h).symm

/-- A set of zones is made by putting them into the empty table one by one. -/
theorem of_create_eq_ok {zones : List (Zone ν)} {t : Zones ν} (h : create zones = .ok t) :
    zones.foldlM insertNew [] = .ok t := by
  obtain ⟨t', ht', h⟩ := Outcome.of_bind_eq_ok h
  split at h
  · cases h
  · cases h
    exact ht'

theorem sorted_create {zones : List (Zone ν)} {t : Zones ν} (h : create zones = .ok t) :
    Table.Sorted t := by
  refine Outcome.foldlM_invariant (P := Table.Sorted) ?_ (of_create_eq_ok h) Table.sorted_nil
  intro t t₁ z _ hsorted hstep
  rw [of_insertNew_eq_ok hstep]
  exact Table.sorted_insert hsorted z.name z

/-- What is known of every zone of the list is known of every zone of the table. -/
theorem forall_create {P : String → Zone ν → Prop} {zones : List (Zone ν)} {t : Zones ν}
    (h : create zones = .ok t) (hP : ∀ z ∈ zones, P z.name z) : ∀ e ∈ t, P e.1 e.2 := by
  refine Outcome.foldlM_invariant (P := fun t => ∀ e ∈ t, P e.1 e.2) ?_ (of_create_eq_ok h)
    fun e he => nomatch he
  intro t t₁ z hz hall hstep
  rw [of_insertNew_eq_ok hstep]
  exact Table.forall_insert hall (hP z hz)

/-- Zones that can be put into a table one by one have names of their own, and these are the new
names of the table. -/
theorem names_of_foldlM_insertNew {zones : List (Zone ν)} {t t' : Zones ν}
    (h : zones.foldlM insertNew t = .ok t') :
    (zones.map Zone.name).Nodup ∧ (∀ z ∈ zones, z.name ∉ t.keys) ∧
      ∀ name, name ∈ t'.keys ↔ name ∈ t.keys ∨ name ∈ zones.map Zone.name := by
  induction zones generalizing t with
  | nil =>
      cases h
      simp
  | cons z rest ih =>
      rw [List.foldlM_cons] at h
      obtain ⟨t₁, hadded, hrest⟩ := Outcome.of_bind_eq_ok h
      obtain ⟨hnodup, hnew, hkeys⟩ := ih hrest
      have htaken : z.name ∉ t.keys := by
        rw [← Table.has_iff]
        intro htaken
        simp [insertNew, htaken] at hadded
      rw [of_insertNew_eq_ok hadded] at hnew hkeys
      simp only [Table.mem_keys_insert] at hnew hkeys
      refine ⟨?_, ?_, ?_⟩
      · rw [List.map_cons, List.nodup_cons]
        refine ⟨fun hmem => ?_, hnodup⟩
        obtain ⟨z', hz', heq⟩ := List.mem_map.mp hmem
        exact hnew z' hz' (.inl heq)
      · exact List.forall_mem_cons.mpr ⟨htaken, fun z' hz' hold => hnew z' hz' (.inr hold)⟩
      · intro name
        rw [hkeys, List.map_cons, List.mem_cons]
        tauto

/-- The names of a set of zones are those of the list, where none comes twice. -/
theorem names_create {zones : List (Zone ν)} {t : Zones ν} (h : create zones = .ok t) :
    (zones.map Zone.name).Nodup ∧ ∀ name, name ∈ t.keys ↔ name ∈ zones.map Zone.name := by
  obtain ⟨hnodup, -, hkeys⟩ := names_of_foldlM_insertNew (of_create_eq_ok h)
  exact ⟨hnodup, fun name => by simpa [Table.keys] using hkeys name⟩

/-- Every zone of the list is in the table. -/
theorem mem_keys_of_create {zones : List (Zone ν)} {t : Zones ν} (h : create zones = .ok t)
    {z : Zone ν} (hz : z ∈ zones) : z.name ∈ t.keys :=
  ((names_create h).2 z.name).mpr (List.mem_map_of_mem hz)

/-- Zones with names of their own can be put into a table one by one. -/
theorem succeeds_foldlM_insertNew {zones : List (Zone ν)} {t : Zones ν}
    (hnodup : (zones.map Zone.name).Nodup) (hnew : ∀ z ∈ zones, z.name ∉ t.keys) :
    Outcome.Succeeds (zones.foldlM insertNew t) := by
  induction zones generalizing t with
  | nil => exact Outcome.succeeds_ok t
  | cons z rest ih =>
      rw [List.map_cons, List.nodup_cons] at hnodup
      have hz : t.has z.name = false := by
        rw [Bool.eq_false_iff, ne_eq, Table.has_iff]
        exact hnew z List.mem_cons_self
      rw [List.foldlM_cons, insertNew, hz]
      refine ih hnodup.2 fun z' hz' hmem => ?_
      rcases Table.mem_keys_insert.mp hmem with heq | hold
      · exact hnodup.1 (heq ▸ List.mem_map_of_mem hz')
      · exact hnew z' (List.mem_cons_of_mem z hz') hold

/-- A set of zones can be made of zones with names of their own, if there are any. -/
theorem succeeds_create_iff {zones : List (Zone ν)} (hnodup : (zones.map Zone.name).Nodup) :
    Outcome.Succeeds (create zones) ↔ zones ≠ [] := by
  constructor
  · rintro ⟨t, ht⟩ rfl
    cases ht
  · intro hsome
    have hfresh : ∀ z ∈ zones, z.name ∉ Table.keys ([] : Zones ν) := fun _ _ => List.not_mem_nil
    obtain ⟨t, ht⟩ := succeeds_foldlM_insertNew hnodup hfresh
    obtain ⟨z, hz⟩ := List.exists_mem_of_ne_nil zones hsome
    have hname : z.name ∈ t.keys :=
      ((names_of_foldlM_insertNew ht).2.2 z.name).mpr (.inr (List.mem_map_of_mem hz))
    refine Outcome.succeeds_bind_iff.mpr ⟨t, ht, ?_⟩
    cases t with
    | nil => cases hname
    | cons e t => exact Outcome.succeeds_ok _

end HomeClimate.Zones
