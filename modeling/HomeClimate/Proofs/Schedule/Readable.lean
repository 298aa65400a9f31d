import HomeClimate.House.Assembly
import HomeClimate.Proofs.Outcome

/-!
# Reading the entries of a schedule

An entry of a schedule is a row of texts.  With seven marks for days, a period and its
settings can be made of it exactly if the other texts can be read
(`PeriodConfig.IsReadable`): the marks of a week are always a mask, and so what is left
to fail is the name, the two times and the words.
-/

namespace HomeClimate

variable {ν : Type} [Scalar ν]

namespace PeriodConfig

/-- An entry of a schedule that can be read: it has a name, its two times are times and differ, and
its words make settings. -/
structure IsReadable (ν : Type) [Scalar ν] (p : PeriodConfig) : Prop where
  name : Text.isBlankText p.name = false
  times : ∃ start stop, (Period.readTime p.start : Except (ScheduleError ν) _) = .ok start ∧
    (Period.readTime p.stop : Except (ScheduleError ν) _) = .ok stop ∧ start ≠ stop
  settings : Outcome.Succeeds (SettingsText.read p.settings : Except _ (ZoneSettings ν))

end PeriodConfig

namespace Period

/-- The mask of the marks of a week is one of the masks. -/
theorem dayMask_lt (marks : List Char) : dayMask marks < twoTo marks.length := by
  induction marks with
  | nil => exact Nat.one_pos
  | cons mark rest ih =>
      have hdouble : twoTo (rest.length + 1) = twoTo rest.length * 2 := rfl
      rw [dayMask, List.length_cons, hdouble]
      split <;> omega

omit [Scalar ν] in
/-- A period has no name if its name is blank, whatever else it is made of. -/
theorem create_eq_emptyName {id name : String} {start stop : TimeOfDay} {days : Nat} :
    (create id name start stop days : Except (ScheduleError ν) Period) = .error .emptyName ↔
      Text.isBlankText name = true := by
  rw [create]
  split
  next hblank => exact iff_of_true rfl hblank
  next hname =>
    refine iff_of_false (fun h => ?_) hname
    split at h
    · cases h
    · split at h <;> cases h

omit [Scalar ν] in
theorem succeeds_create_iff {id name : String} {start stop : TimeOfDay} {days : Nat}
    (hname : Text.isBlankText name = false) (hdays : days < dayMasks) :
    Outcome.Succeeds (create id name start stop days : Except (ScheduleError ν) Period) ↔
      start ≠ stop := by
  rw [create, hname, if_neg (by decide), if_neg (Nat.not_le.mpr hdays)]
  split
  · rename_i heq
    exact iff_of_false (Outcome.not_succeeds_error _) (not_not.mpr heq)
  · rename_i hne
    exact iff_of_true (Outcome.succeeds_ok _) hne

omit [Scalar ν] in
theorem succeeds_read_iff (id name start stop : String) {days : String}
    (hdays : days.toList.length = 7) :
    Outcome.Succeeds (read id name start stop days : Except (ScheduleError ν) Period) ↔
      Text.isBlankText name = false ∧
        ∃ from_ to_, (readTime start : Except (ScheduleError ν) _) = .ok from_ ∧
          (readTime stop : Except (ScheduleError ν) _) = .ok to_ ∧ from_ ≠ to_ := by
  have hmask : (readDays days : Except (ScheduleError ν) Nat) = .ok (dayMask days.toList) :=
    if_pos hdays
  have hlt : dayMask days.toList < dayMasks := by
    have hmarks := dayMask_lt days.toList
    rwa [hdays] at hmarks
  rw [read, hmask]
  cases hname : Text.isBlankText name with
  | true =>
      refine iff_of_false ?_ (by simp)
      exact Outcome.not_succeeds_error _
  | false =>
      rw [if_neg (by decide)]
      constructor
      · intro h
        obtain ⟨from_, hfrom, h⟩ := Outcome.succeeds_bind_iff.mp h
        obtain ⟨to_, hto, h⟩ := Outcome.succeeds_bind_iff.mp h
        obtain ⟨_, heq, h⟩ := Outcome.succeeds_bind_iff.mp h
        cases heq
        exact ⟨rfl, from_, to_, hfrom, hto, (succeeds_create_iff hname hlt).mp h⟩
      · rintro ⟨-, from_, to_, hfrom, hto, hne⟩
        refine Outcome.succeeds_bind_iff.mpr ⟨from_, hfrom, ?_⟩
        refine Outcome.succeeds_bind_iff.mpr ⟨to_, hto, ?_⟩
        refine Outcome.succeeds_bind_iff.mpr ⟨_, rfl, ?_⟩
        exact (succeeds_create_iff hname hlt).mpr hne

end Period

theorem PeriodConfig.succeeds_build_iff {p : PeriodConfig} (id : String)
    (hdays : p.days.toList.length = 7) :
    Outcome.Succeeds (p.build id : Except (HouseError ν) (Period × ZoneSettings ν)) ↔
      p.IsReadable ν := by
  have hread := Period.succeeds_read_iff (ν := ν) id p.name p.start p.stop hdays
  constructor
  · intro h
    obtain ⟨period, hperiod, h⟩ := Outcome.succeeds_bind_iff.mp h
    obtain ⟨settings, hsettings, -⟩ := Outcome.succeeds_bind_iff.mp h
    obtain ⟨hname, htimes⟩ := hread.mp ⟨period, Outcome.of_mapError_eq_ok hperiod⟩
    exact ⟨hname, htimes, settings, Outcome.of_mapError_eq_ok hsettings⟩
  · intro h
    obtain ⟨period, hperiod⟩ := Outcome.succeeds_mapError_iff.mpr (hread.mpr ⟨h.name, h.times⟩)
    obtain ⟨settings, hsettings⟩ := Outcome.succeeds_mapError_iff.mpr h.settings
    refine Outcome.succeeds_bind_iff.mpr ⟨period, hperiod, ?_⟩
    exact Outcome.succeeds_bind_iff.mpr ⟨settings, hsettings, Outcome.succeeds_ok _⟩

end HomeClimate
