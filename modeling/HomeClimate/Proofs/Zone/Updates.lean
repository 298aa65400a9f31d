import HomeClimate.Proofs.Zone.Consistency

/-!
# One update after another

An update sets some fields and says nothing of the others.  Settings with updates laid over them
one after the other have in each field what the last update says that sets it
(`ZoneSettings.field?_foldl_merge`).  Updates are settings themselves, so they can be merged
with one another first, those side by side in any order (`MergePlan`): it comes to the same
(`MergePlan.merge_merged`).

A zone that is told an update takes it or refuses it, and a refused one leaves the settings as
they are.  So what counts are the updates that it has taken (`Zone.taken`).  Which ones these
are could depend on what the zone was told before.  It does not: a zone whose places agree
looks at the update alone, and takes it later if it would take it now
(`Zone.IsConsistent.taken_eq_filter`).
-/

namespace HomeClimate

variable {ν : Type}

/-! ## Fields -/

/-- A field of the settings. -/
inductive SettingsField where
  | enabled
  | setpoint
  | voting
  | hold
  | dumpPriority
  | economizer

/-- What a field can be set to. -/
def SettingsField.Value (ν : Type) : SettingsField → Type
  | .enabled => Bool
  | .setpoint => ν
  | .voting => Bool
  | .hold => Bool
  | .dumpPriority => Int
  | .economizer => EconomizerSettings ν

namespace ZoneSettings

/-- What a field is set to, if it is set. -/
def field? (s : ZoneSettings ν) : (field : SettingsField) → Option (field.Value ν)
  | .enabled => s.enabled
  | .setpoint => s.setpoint
  | .voting => s.voting
  | .hold => s.hold
  | .dumpPriority => s.dumpPriority
  | .economizer => s.economizer

/-- Settings are what their fields are. -/
theorem ext_field? {s s' : ZoneSettings ν} (h : ∀ field, s.field? field = s'.field? field) :
    s = s' := by
  cases s
  cases s'
  congr
  · exact h .enabled
  · exact h .setpoint
  · exact h .voting
  · exact h .hold
  · exact h .dumpPriority
  · exact h .economizer

@[simp] theorem field?_empty (field : SettingsField) : ({} : ZoneSettings ν).field? field = none := by
  cases field <;> rfl

/-- A merge is made field by field. -/
@[simp] theorem field?_merge (s update : ZoneSettings ν) (field : SettingsField) :
    (s.merge update).field? field = (update.field? field).or (s.field? field) := by
  cases field <;> rfl

/-! ## Merging -/

theorem merge_assoc (s first second : ZoneSettings ν) :
    (s.merge first).merge second = s.merge (first.merge second) := by
  apply ext_field?
  intro field
  rw [field?_merge, field?_merge, field?_merge, field?_merge, Option.or_assoc]

/-- An update that sets nothing changes nothing. -/
theorem merge_empty (s : ZoneSettings ν) : s.merge {} = s := by
  apply ext_field?
  intro field
  rw [field?_merge, field?_empty, Option.none_or]

/-- Laid over nothing, an update is all there is. -/
theorem empty_merge (update : ZoneSettings ν) : merge {} update = update := by
  apply ext_field?
  intro field
  rw [field?_merge, field?_empty, Option.or_none]

theorem merge_self (s : ZoneSettings ν) : s.merge s = s := by
  apply ext_field?
  intro field
  rw [field?_merge, Option.or_self]

/-- An update that comes again changes nothing. -/
theorem merge_merge_self (s update : ZoneSettings ν) :
    (s.merge update).merge update = s.merge update := by
  rw [merge_assoc, merge_self]

/-- Of updates one after the other the last that sets a field decides on it. -/
theorem field?_foldl_merge (updates : List (ZoneSettings ν)) (s : ZoneSettings ν)
    (field : SettingsField) :
    (updates.foldl merge s).field? field =
      ((updates.filterMap (·.field? field)).getLast?).or (s.field? field) := by
  induction updates generalizing s with
  | nil => rfl
  | cons update rest ih =>
      rw [List.foldl_cons, ih, field?_merge]
      cases hset : update.field? field with
      | none => simp only [List.filterMap_cons, hset, Option.none_or]
      | some value =>
          simp only [List.filterMap_cons, hset, List.getLast?_cons]
          cases (rest.filterMap (·.field? field)).getLast? <;> rfl

/-- A field is set in the end if it was set or an update sets it. -/
theorem isSome_field?_foldl_merge (updates : List (ZoneSettings ν)) (s : ZoneSettings ν)
    (field : SettingsField) :
    ((updates.foldl merge s).field? field).isSome = true ↔
      (s.field? field).isSome = true ∨ ∃ update ∈ updates, (update.field? field).isSome = true := by
  induction updates generalizing s with
  | nil => simp
  | cons update rest ih =>
      rw [List.foldl_cons, ih, field?_merge, Option.isSome_or, Bool.or_eq_true,
        List.exists_mem_cons_iff]
      tauto

end ZoneSettings

/-- A way to merge updates: nothing, one of them, or what some come to with what the next come to. -/
inductive MergePlan (ν : Type) where
  | nothing
  | update (update : ZoneSettings ν)
  | join (first second : MergePlan ν)

namespace MergePlan

/-- The updates that are merged, the first one first. -/
def updates : MergePlan ν → List (ZoneSettings ν)
  | nothing => []
  | update u => [u]
  | join first second => first.updates ++ second.updates

/-- What they come to. -/
def merged : MergePlan ν → ZoneSettings ν
  | nothing => {}
  | update u => u
  | join first second => first.merged.merge second.merged

/-- To merge with what updates come to is to merge with one after the other. -/
theorem merge_merged (plan : MergePlan ν) (s : ZoneSettings ν) :
    s.merge plan.merged = plan.updates.foldl ZoneSettings.merge s := by
  induction plan generalizing s with
  | nothing => exact s.merge_empty
  | update u => rfl
  | join first second ihFirst ihSecond =>
      rw [merged, updates, List.foldl_append, ← ihFirst, ← ihSecond, ZoneSettings.merge_assoc]

end MergePlan

/-! ## Updates of a zone -/

namespace Zone

variable [Scalar ν]

/-- Whether a zone takes an update of a user. -/
def takes (z : Zone ν) (update : ZoneSettings ν) : Bool := (z.setSettings update).2.isOk

/-- The zone after some updates of a user, whether it takes them or not. -/
def updated (z : Zone ν) (updates : List (ZoneSettings ν)) : Zone ν :=
  updates.foldl (fun z update => (z.setSettings update).1) z

/-- Those of some updates that a zone takes, each of them in the state that those before it left. -/
def taken (z : Zone ν) : List (ZoneSettings ν) → List (ZoneSettings ν)
  | [] => []
  | update :: rest =>
    if z.takes update then update :: (z.setSettings update).1.taken rest
    else (z.setSettings update).1.taken rest

/-- An update that is taken is merged, and one that is refused leaves the settings alone. -/
theorem settings_setSettings (z : Zone ν) (update : ZoneSettings ν) :
    (z.setSettings update).1.settings =
      if z.takes update then z.settings.merge update else z.settings := by
  rw [takes, setSettings]
  rcases z.apply_outcome update with ⟨f, hf, hkept, -⟩ | ⟨thermostat, economizer, -, heq⟩
  · cases ha : z.apply update with
    | mk z' answer =>
        rw [ha] at hf hkept
        cases hf
        exact hkept
  · rw [heq]
    rfl

/-- The settings are those at the start with the updates laid over them that were taken. -/
theorem settings_updated (z : Zone ν) (updates : List (ZoneSettings ν)) :
    (z.updated updates).settings = (z.taken updates).foldl ZoneSettings.merge z.settings := by
  induction updates generalizing z with
  | nil => rfl
  | cons update rest ih =>
      have hstep := z.settings_setSettings update
      have hrest : (z.updated (update :: rest)).settings =
          ((z.setSettings update).1.taken rest).foldl ZoneSettings.merge
            (z.setSettings update).1.settings := ih _
      rw [hrest, hstep, taken]
      split <;> rfl

/-! ### What a consistent zone takes -/

theorem IsConsistent.takes_iff {z : Zone ν} (h : z.IsConsistent) (update : ZoneSettings ν) :
    z.takes update = true ↔ z.Accepts update := by
  rw [takes]
  rcases setSettings_cases h update with ⟨hnot, e, heq⟩ | ⟨haccepts, hok, -⟩
  · rw [heq]
    exact iff_of_false Bool.false_ne_true hnot
  · rw [hok]
    exact iff_of_true rfl haccepts

/-- After an update, taken or not, a zone takes what it would have taken before. -/
theorem IsConsistent.takes_setSettings {z : Zone ν} (h : z.IsConsistent)
    (update later : ZoneSettings ν) : (z.setSettings update).1.takes later = z.takes later := by
  have hrange := (z.adjusts_setSettings update).range
  rw [Bool.eq_iff_iff, (h.setSettings update).takes_iff, h.takes_iff]
  exact ⟨fun haccepts => haccepts.of_range hrange.symm, fun haccepts => haccepts.of_range hrange⟩

/-- What a zone takes of some updates is what it would take of them at the start. -/
theorem IsConsistent.taken_eq_filter {z : Zone ν} (h : z.IsConsistent)
    (updates : List (ZoneSettings ν)) : z.taken updates = updates.filter z.takes := by
  induction updates generalizing z with
  | nil => rfl
  | cons update rest ih =>
      have hrest : (z.setSettings update).1.taken rest = rest.filter z.takes := by
        rw [ih (h.setSettings update)]
        exact List.filter_congr fun later _ => h.takes_setSettings update later
      rw [taken, hrest, List.filter_cons]

/-! ### The settings in the end -/

/-- Whatever a zone is told by a user, its settings are those at the start with the updates that it
took laid over them one after the other, or with these merged in any way and laid over at once: in
each field what the last of them says that sets it.  A zone whose places agree takes of the updates
those that it would take at the start. -/
theorem updates_compose (z : Zone ν) (updates : List (ZoneSettings ν)) :
    let taken := z.taken updates
    let settings := (z.updated updates).settings
    settings = taken.foldl ZoneSettings.merge z.settings ∧
    (∀ plan : MergePlan ν, plan.updates = taken → settings = z.settings.merge plan.merged) ∧
    (∀ field, settings.field? field =
      ((taken.filterMap (·.field? field)).getLast?).or (z.settings.field? field)) ∧
    (∀ field, (settings.field? field).isSome = true ↔ (z.settings.field? field).isSome = true ∨
      ∃ update ∈ taken, (update.field? field).isSome = true) ∧
    (z.IsConsistent → taken = updates.filter z.takes) ∧
    (∀ s first second : ZoneSettings ν,
      (s.merge first).merge second = s.merge (first.merge second)) ∧
    (∀ s : ZoneSettings ν, s.merge {} = s ∧ ZoneSettings.merge {} s = s) ∧
    ∀ s update : ZoneSettings ν, (s.merge update).merge update = s.merge update := by
  intro taken settings
  have hsettings : settings = taken.foldl ZoneSettings.merge z.settings := z.settings_updated updates
  refine ⟨hsettings, ?_, ?_, ?_, ?_, ?_, ?_, ?_⟩
  · intro plan hplan
    rw [plan.merge_merged, hplan, hsettings]
  · intro field
    rw [hsettings, ZoneSettings.field?_foldl_merge]
  · intro field
    rw [hsettings, ZoneSettings.isSome_field?_foldl_merge]
  · exact fun h => h.taken_eq_filter updates
  · exact ZoneSettings.merge_assoc
  · exact fun s => ⟨s.merge_empty, s.empty_merge⟩
  · exact ZoneSettings.merge_merge_self

/-- A den that is set on hold, refuses a setpoint of 50 with the rest of that update, and then gets
a setpoint of 22: it is on hold at 22, and still enabled. -/
theorem updates_compose_in_den :
    let hold : ZoneSettings Rat := { hold := some true }
    let hot : ZoneSettings Rat := { enabled := some false, setpoint := some 50 }
    let warm : ZoneSettings Rat := { setpoint := some 22 }
    ∃ (thermostat : Thermostat Rat) (den : Zone Rat),
      Thermostat.create "den" 20 .standard (PidSettings.ofGains 1 1 0 0) = .ok thermostat ∧
      create thermostat { enabled := some true } none = .ok den ∧ den.IsConsistent ∧
      den.taken [hold, hot, warm] = [hold, warm] ∧
      (den.updated [hold, hot, warm]).settings = den.settings.merge (hold.merge warm) ∧
      (den.updated [hold, hot, warm]).settings.enabled = den.settings.enabled := by
  intro hold hot warm
  have hruns : Outcome.holds (do
      let thermostat ← Thermostat.create "den" 20 .standard (PidSettings.ofGains 1 1 0 0)
      let den ← create thermostat { enabled := some true } none
      return (thermostat, den))
    (fun (_, den) => den.takes hold && !den.takes hot && den.takes warm) = true := by
      decide +kernel
  obtain ⟨⟨thermostat, den⟩, hbuilt, htest⟩ := Outcome.exists_of_holds hruns
  obtain ⟨_, hthermostat, hbuilt⟩ := Outcome.of_bind_eq_ok hbuilt
  obtain ⟨_, hden, hbuilt⟩ := Outcome.of_bind_eq_ok hbuilt
  cases hbuilt
  simp only [Bool.and_eq_true, Bool.not_eq_true'] at htest
  obtain ⟨⟨hhold, hhot⟩, hwarm⟩ := htest
  have hconsistent := (isConsistent_create hden).1
  obtain ⟨-, hplan, -, -, htaken, -⟩ := updates_compose den [hold, hot, warm]
  have htaken : den.taken [hold, hot, warm] = [hold, warm] := by
    rw [htaken hconsistent]
    simp [hhold, hhot, hwarm]
  have hsettings := hplan (.join (.update hold) (.update warm)) htaken.symm
  refine ⟨thermostat, den, hthermostat, hden, hconsistent, htaken, hsettings, ?_⟩
  rw [hsettings]
  rfl

end Zone

end HomeClimate
