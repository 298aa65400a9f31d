import HomeClimate.Proofs.Schedule.Readable
import HomeClimate.Proofs.Schedule.SettingsWords
import HomeClimate.Proofs.Text.Blanks
import HomeClimate.Schedule.Event

/-!
# What is read from an event

An event that is read has a name and settings, each from the title or from the description.
Whichever they come from, the name is trimmed and the settings are ready to be used
(`CalendarEvent.read_usable`): they hold nothing, their economizer is a valid one, and those of a
title have a setpoint.

The name is what is left of a part of the title when it is trimmed.  Before a number sign something
must be left, but before a colon it is enough that there was something to trim.  So the name is
blank exactly if nothing is described and the title begins with blanks and a colon
(`CalendarEvent.StartsBlank`), and no period can be made of such an event.
-/

namespace HomeClimate

namespace SettingsDocument

theorem hold_of_zone? {d : Document} {s : ZoneSettings Float} (h : zone? d = some s) :
    s.hold = none := by
  simp only [zone?, Option.bind_eq_bind, Option.bind_eq_some_iff, Option.pure_def,
    Option.some.injEq] at h
  obtain ⟨_, _, _, _, _, _, _, _, _, _, _, _, rfl⟩ := h
  rfl

theorem sets_of_read {text : String} {s : ZoneSettings Float} (h : read text = .ok s) :
    s.hold = none ∧ ∀ e, s.economizer = some e → checkEconomizerSettings e = .ok () := by
  rw [read] at h
  split at h
  · cases h
  next s₁ hs₁ =>
    obtain ⟨d, -, hzone⟩ := Option.bind_eq_some_iff.mp hs₁
    have hhold := hold_of_zone? hzone
    split at h
    next hnone =>
      cases h
      exact ⟨hhold, fun e he => nomatch hnone ▸ he⟩
    next e he =>
      split at h
      next hcheck =>
        cases h
        exact ⟨hhold, fun e' he' => Option.some.inj (he.symm.trans he') ▸ hcheck⟩
      · cases h

end SettingsDocument

namespace CalendarEvent

/-! ## The name -/

/-- A title begins with a blank, or several, and a colon. -/
def StartsBlank (title : String) : Prop :=
  ∃ blanks after, blanks ≠ [] ∧ Text.AreBlanks blanks ∧ title.toList = blanks ++ ':' :: after

/-- A title that begins with blanks and a colon is cut after the blanks. -/
theorem startsBlank_iff_of_cutAt? {title : String} {c : Char} {before after : List Char}
    (h : Text.cutAt? (· = ':') title.toList = some (c :: before, after)) :
    StartsBlank title ↔ Text.AreBlanks (c :: before) := by
  constructor
  · rintro ⟨blanks, rest, -, hblanks, htitle⟩
    have hcolon : ∀ c ∈ blanks, decide (c = ':') = false := by
      intro c hc
      refine decide_eq_false fun heq => ?_
      have hblank := hblanks c hc
      rw [heq] at hblank
      exact absurd hblank (by decide)
    have hcut := Text.cutAt?_append hcolon (decide_eq_true rfl) rest
    rw [← htitle, h] at hcut
    cases hcut
    exact hblanks
  · intro hblanks
    obtain ⟨mark, hmark, htitle⟩ := Text.of_cutAt? h
    obtain rfl : mark = ':' := of_decide_eq_true hmark
    exact ⟨c :: before, after, List.cons_ne_nil c before, hblanks, htitle⟩

theorem periodName_usable {title name : String} {description : Option String}
    (h : periodName title description = .ok name) :
    Text.trimText name = name ∧
      (Text.isBlankText name = true ↔ written description = none ∧ StartsBlank title) := by
  rw [periodName] at h
  cases hwritten : written description with
  | none =>
      rw [hwritten] at h
      cases hcut : Text.cutAt? (· = ':') title.toList with
      | none =>
          rw [hcut] at h
          cases h
      | some parts =>
          rw [hcut] at h
          obtain ⟨before, after⟩ := parts
          cases before with
          | nil => cases h
          | cons c before =>
              -- something stands before the colon, but it may be blank
              cases h
              have hname : Text.trimText (String.ofList (c :: before)) =
                  String.ofList (Text.trim (c :: before)) := by
                rw [Text.trimText, String.toList_ofList]
              rw [hname, Text.isBlankText_ofList_trim, startsBlank_iff_of_cutAt? hcut]
              exact ⟨Text.trimText_ofList_trim _, (and_iff_right rfl).symm⟩
  | some d =>
      rw [hwritten] at h
      dsimp only at h
      split at h
      · cases h
      next hne =>
        cases h
        refine ⟨Text.trimText_ofList_trim _, ?_⟩
        rw [Text.isBlankText_ofList_trim, ← Text.trim_eq_nil, ← List.isEmpty_iff]
        refine iff_of_false hne ?_
        rintro ⟨hnone, -⟩
        cases hnone

/-! ## The settings -/

theorem sets_of_titleSettings {title : String} {s : ZoneSettings Float}
    (h : titleSettings title = .ok s) :
    s.setpoint.isSome = true ∧ s.hold = none ∧ s.economizer = none := by
  rw [titleSettings] at h
  split at h
  · exact SettingsText.sets_of_read h
  · exact SettingsText.sets_of_read h

/-- Settings are those of the description, if it can be read, or those of the title. -/
theorem settings_cases {title : String} {description : Option String} {s : ZoneSettings Float}
    (h : settings title description = .ok s) :
    (∃ d, written description = some d ∧ SettingsDocument.read d = .ok s) ∨
      (¬ ∃ d s', written description = some d ∧ SettingsDocument.read d = .ok s') ∧
        titleSettings title = .ok s := by
  rw [settings] at h
  split at h
  next s' hread =>
    cases h
    obtain ⟨d, hd, hread⟩ := Option.map_eq_some_iff.mp hread
    exact .inl ⟨d, hd, hread⟩
  next hnot =>
    refine .inr ⟨?_, h⟩
    rintro ⟨d, s', hd, hread⟩
    exact hnot s' (Option.map_eq_some_iff.mpr ⟨d, hd, hread⟩)

theorem settings_usable {title : String} {description : Option String} {s : ZoneSettings Float}
    (h : settings title description = .ok s) :
    s.hold = none ∧
      (∀ e, s.economizer = some e → checkEconomizerSettings e = .ok ()) ∧
      ((¬ ∃ d s', written description = some d ∧ SettingsDocument.read d = .ok s') →
        s.setpoint.isSome = true) := by
  rcases settings_cases h with ⟨d, hd, hread⟩ | ⟨-, htitle⟩
  · obtain ⟨hhold, heconomizer⟩ := SettingsDocument.sets_of_read hread
    exact ⟨hhold, heconomizer, fun hnot => absurd ⟨d, s, hd, hread⟩ hnot⟩
  · obtain ⟨hsetpoint, hhold, hnone⟩ := sets_of_titleSettings htitle
    exact ⟨hhold, fun e he => (nomatch hnone ▸ he), fun _ => hsetpoint⟩

/-! ## Events -/

/-- An event that is read has a trimmed name, which is not blank unless nothing is described and the
title begins with blanks and a colon, and settings that can be used, with a setpoint if they are
those of the title. -/
theorem read_usable {title name : String} {description : Option String} {s : ZoneSettings Float}
    (h : read title description = .ok (name, s)) :
    Text.trimText name = name ∧
      (Text.isBlankText name = true ↔ written description = none ∧ StartsBlank title) ∧
      (∀ id start stop days,
        (Period.create id name start stop days : Except (ScheduleError Float) Period) =
          .error .emptyName ↔ written description = none ∧ StartsBlank title) ∧
      s.hold = none ∧
      (∀ e, s.economizer = some e → checkEconomizerSettings e = .ok ()) ∧
      ((¬ ∃ d s', written description = some d ∧ SettingsDocument.read d = .ok s') →
        s.setpoint.isSome = true) := by
  obtain ⟨name', hname, h⟩ := Outcome.of_bind_eq_ok h
  obtain ⟨s', hs, h⟩ := Outcome.of_bind_eq_ok h
  cases h
  obtain ⟨htrimmed, hblank⟩ := periodName_usable hname
  refine ⟨htrimmed, hblank, fun id start stop days => ?_, settings_usable hs⟩
  rw [← hblank, Period.create_eq_emptyName]

/-- An event with settings in its title. -/
theorem read_usable_sleep :
    let title := "Sleep : setpoint 18, off"
    ∃ s, read title none = .ok ("Sleep", s) ∧ Text.isBlankText "Sleep" = false ∧
      ¬ StartsBlank title ∧ s.hold = none ∧ s.setpoint.isSome = true := by
  intro title
  have hholds : Outcome.holds (read title none) (fun r => r.1 == "Sleep") = true := by
    decide +kernel
  obtain ⟨⟨name, s⟩, hread, htest⟩ := Outcome.exists_of_holds hholds
  obtain rfl : name = "Sleep" := eq_of_beq htest
  obtain ⟨-, hblank, -, hhold, -, hsetpoint⟩ := read_usable hread
  have hname : Text.isBlankText "Sleep" = false := by decide +kernel
  refine ⟨s, hread, hname, fun hstart => ?_, hhold, hsetpoint ?_⟩
  · rw [hblank.mpr ⟨rfl, hstart⟩] at hname
    cases hname
  · rintro ⟨d, _, hd, -⟩
    cases hd

/-- An event with a blank before its colon has an empty name, of which no period can be made. -/
theorem read_blank_name :
    (∃ s, read " : setpoint 18" none = .ok ("", s)) ∧ Text.isBlankText "" = true ∧
      (Period.create "id" "" (.ofClock 8 0 0 0) (.ofClock 9 0 0 0) 127 :
        Except (ScheduleError Float) Period) = .error .emptyName := by
  have hholds : Outcome.holds (read " : setpoint 18" none) (fun r => r.1 == "") = true := by
    decide +kernel
  obtain ⟨⟨name, s⟩, hread, htest⟩ := Outcome.exists_of_holds hholds
  obtain rfl : name = "" := eq_of_beq htest
  exact ⟨⟨s, hread⟩, rfl, rfl⟩

end CalendarEvent

end HomeClimate
