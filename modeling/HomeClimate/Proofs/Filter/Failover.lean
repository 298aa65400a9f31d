import HomeClimate.Proofs.Filter.Preference
import HomeClimate.Proofs.Time.Order

/-!
# What a chain of sources passes on

The fallback filter is given one signal after another.  What it passes on of the next one
is a function of the signals so far, of which only the last from each source counts
(`Fallback.FollowsHistory`):

* A signal with a value is passed on if its source leads the chain, and one without if
  no source ends with a value.
* It keeps its time, its source and its value.  Only a healthy signal is changed, and only
  if a source ahead has failed: it is degraded by the oldest of those failures, of several
  by that of the best source.
* A signal of no source, or of a source that is not in the chain, has no effect.

The times of the signals decide which failure is the oldest.  They have no part in which
source is preferred.
-/

namespace HomeClimate

variable {ν : Type}

/-! ## Failures at the end of histories -/

/-- The last signal from a source is a failure. -/
def HasFailed (source : String) (signals : List (Signal ν)) : Prop :=
  ∃ s, lastFrom? source signals = some s ∧ s.isFailed = true

/-- The sources ahead of one in a chain. -/
def sourcesAhead (source : String) (sources : List String) : List String :=
  sources.takeWhile (· != source)

/-- A failure is the earliest of those that some sources end with, and that of the first of them if
several are as early. -/
def IsOldestFailure (failure : Signal ν) (sources : List String) (signals : List (Signal ν)) :
    Prop :=
  ∃ before source after, sources = before ++ source :: after ∧
    lastFrom? source signals = some failure ∧ failure.isFailed = true ∧
    (∀ other ∈ before, ∀ s, lastFrom? other signals = some s → s.isFailed = true →
      failure.time < s.time) ∧
    (∀ other ∈ after, ∀ s, lastFrom? other signals = some s → s.isFailed = true →
      failure.time ≤ s.time)

/-- A signal is one to be passed on, as signals that end with it say. -/
def IsEmitted (sources : List String) (signals : List (Signal ν)) (s : Signal ν) : Prop :=
  ∃ source ∈ sources, s.source = some source ∧
    (s.isFailed = false ∧ Leads source sources signals ∨
      s.isFailed = true ∧ NoValue sources signals)

/-- What is passed on of a signal, as signals that end with it say. -/
structure IsPassedOn (sources : List String) (signals : List (Signal ν)) (s out : Signal ν) :
    Prop where
  time : out.time = s.time
  attribution : out.source = s.source
  value : out.value? = s.value?
  /-- A partial or total failure keeps its own error. -/
  own : s.status ≠ .ok → out.health = s.health
  /-- A healthy signal stays healthy if no source ahead has failed, and only then. -/
  healthy : s.status = .ok → ∀ source, s.source = some source →
    (out.status = .ok ↔ ∀ other ∈ sourcesAhead source sources, ¬ HasFailed other signals)
  /-- A healthy signal that does not stay so gets the oldest error from ahead. -/
  degraded : s.status = .ok → ∀ source, s.source = some source → out.status ≠ .ok →
    out.status = .partialFailure ∧ ∃ failure,
      IsOldestFailure failure (sourcesAhead source sources) signals ∧ out.error? = failure.error?

namespace Fallback

theorem earliest?_eq_none_iff {signals : List (Signal ν)} :
    earliest? signals = none ↔ signals = [] := by
  cases signals with
  | nil => exact ⟨fun _ => rfl, fun _ => rfl⟩
  | cons s rest =>
      refine ⟨fun h => ?_, fun h => nomatch h⟩
      rw [earliest?] at h
      split at h
      · cases h
      · split at h
        · cases h
        · cases h

/-- The earliest signal is before those that precede it and no later than those that follow it. -/
theorem of_earliest?_eq_some {signals : List (Signal ν)} {t : Signal ν}
    (h : earliest? signals = some t) : ∃ before after, signals = before ++ t :: after ∧
      (∀ s ∈ before, t.time < s.time) ∧ ∀ s ∈ after, t.time ≤ s.time := by
  induction signals generalizing t with
  | nil => cases h
  | cons s rest ih =>
      rw [earliest?] at h
      split at h
      next hnone =>
        cases h
        rw [earliest?_eq_none_iff.mp hnone]
        exact ⟨[], [], rfl, by simp, by simp⟩
      next u hu =>
        obtain ⟨before, after, hrest, hbefore, hafter⟩ := ih hu
        split at h
        next hearlier =>
          cases h
          refine ⟨s :: before, after, by rw [hrest]; rfl, ?_, hafter⟩
          intro other hother
          rcases List.mem_cons.mp hother with rfl | hother
          · exact hearlier
          · exact hbefore other hother
        next hlater =>
          cases h
          refine ⟨[], rest, rfl, by simp, ?_⟩
          intro other hother
          have hfirst : s.time ≤ u.time := Instant.not_lt.mp hlater
          rw [hrest, List.mem_append, List.mem_cons] at hother
          rcases hother with hother | rfl | hother
          · exact Instant.le_trans hfirst (Instant.le_of_lt (hbefore other hother))
          · exact hfirst
          · exact Instant.le_trans hfirst (hafter other hother)

namespace Remembers

variable {f : Fallback ν} {sources : List String} {signals : List (Signal ν)}

theorem failuresAhead_eq (h : f.Remembers sources signals) {source : String}
    (hwinner : f.winner? = some source) :
    f.failuresAhead = (sourcesAhead source sources).filterMap (lastFrom? · signals) := by
  rw [h.winner?_eq] at hwinner
  rw [failuresAhead, h, List.takeWhile_map, List.filterMap_map, sourcesAhead,
    ← takeWhile_of_find? hwinner]
  rfl

end Remembers

/-! ## The failures ahead -/

section Ahead

variable {sources : List String} {signals : List (Signal ν)}

theorem earliest?_eq_none_iff_of_noValue (hvalue : NoValue sources signals) :
    earliest? (sources.filterMap (lastFrom? · signals)) = none ↔
      ∀ source ∈ sources, ¬ HasFailed source signals := by
  rw [earliest?_eq_none_iff, List.filterMap_eq_nil_iff]
  refine forall₂_congr fun source hsource => ?_
  constructor
  · rintro hnone ⟨s, hs, -⟩
    rw [hnone] at hs
    cases hs
  · intro hfailed
    rw [Option.eq_none_iff_forall_ne_some]
    intro s hs
    exact hfailed ⟨s, hs, hvalue source hsource s hs⟩

theorem isOldestFailure_of_earliest? (hvalue : NoValue sources signals) {failure : Signal ν}
    (h : earliest? (sources.filterMap (lastFrom? · signals)) = some failure) :
    IsOldestFailure failure sources signals := by
  obtain ⟨earlier, later, hsplit, hearlier, hlater⟩ := of_earliest?_eq_some h
  obtain ⟨front, rest, rfl, rfl, hrest⟩ := List.filterMap_eq_append_iff.mp hsplit
  obtain ⟨silent, source, after, rfl, hsilent, hsource, rfl⟩ := List.filterMap_eq_cons_iff.mp hrest
  refine ⟨front ++ silent, source, after, by simp, hsource,
    hvalue source (by simp) failure hsource, ?_, ?_⟩
  · intro other hother s hs _
    rcases List.mem_append.mp hother with hfront | hmem
    · exact hearlier s (List.mem_filterMap.mpr ⟨other, hfront, hs⟩)
    · rw [hsilent other hmem] at hs
      cases hs
  · intro other hother s hs _
    exact hlater s (List.mem_filterMap.mpr ⟨other, hother, hs⟩)

/-- A signal stays as it is if it is not healthy or nothing ahead has failed. -/
theorem isPassedOn_self {s : Signal ν}
    (h : s.status = .ok → ∀ source, s.source = some source →
      ∀ other ∈ sourcesAhead source sources, ¬ HasFailed other signals) :
    IsPassedOn sources signals s s where
  time := rfl
  attribution := rfl
  value := rfl
  own _ := rfl
  healthy hok source hs := ⟨fun _ => h hok source hs, fun _ => hok⟩
  degraded hok _ _ hne := absurd hok hne

/-- A signal is degraded by the oldest failure ahead of its source. -/
theorem isPassedOn_degrade {s failure : Signal ν} {source : String} {e : SignalError}
    (hs : s.source = some source)
    (hfailure : IsOldestFailure failure (sourcesAhead source sources) signals)
    (he : failure.error? = some e) : IsPassedOn sources signals s (s.degrade e) := by
  have hfailed : ∃ other ∈ sourcesAhead source sources, HasFailed other signals := by
    obtain ⟨before, other, after, hsplit, hlast, hfails, -⟩ := hfailure
    exact ⟨other, by simp [hsplit], failure, hlast, hfails⟩
  obtain ⟨time, attribution, health⟩ := s
  cases health with
  | ok v =>
      refine ⟨rfl, rfl, rfl, fun hne => absurd rfl hne, ?_, ?_⟩
      · intro _ source' hs'
        rw [Option.some.inj (hs'.symm.trans hs)]
        obtain ⟨other, hother, hfailed⟩ := hfailed
        refine ⟨fun hok => (nomatch hok), ?_⟩
        intro hnone
        exact absurd hfailed (hnone other hother)
      · intro _ source' hs' _
        rw [Option.some.inj (hs'.symm.trans hs)]
        exact ⟨rfl, failure, hfailure, he.symm⟩
  | partialFailure v e' =>
      exact ⟨rfl, rfl, rfl, fun _ => rfl, fun hok => (nomatch hok), fun hok => (nomatch hok)⟩
  | totalFailure e' =>
      exact ⟨rfl, rfl, rfl, fun _ => rfl, fun hok => (nomatch hok), fun hok => (nomatch hok)⟩

end Ahead

/-! ## A signal that has been stored -/

namespace Remembers

variable {f : Fallback ν} {sources : List String} {signals : List (Signal ν)} {source : String}
  {s : Signal ν}

theorem isSome_emit_iff (h : f.Remembers sources signals) (hs : s.source = some source)
    (hmem : source ∈ sources) (hlast : lastFrom? source signals = some s) :
    (f.emit source s).isSome = true ↔ IsEmitted sources signals s := by
  rw [Fallback.isSome_emit_iff, h.winner?_eq_none_iff, h.winner?_eq_some_iff hmem, hlast]
  have husable : isUsable (source, some s) = !s.isFailed := rfl
  rw [husable]
  constructor
  · rintro (hnone | ⟨hvalue, hleads⟩)
    · exact ⟨source, hmem, hs, Or.inr ⟨hnone source hmem s hlast, hnone⟩⟩
    · exact ⟨source, hmem, hs, Or.inl ⟨by simpa using hvalue, hleads⟩⟩
  · rintro ⟨source', -, hs', hcase⟩
    rw [← Option.some.inj (hs.symm.trans hs')] at hcase
    rcases hcase with ⟨hvalue, hleads⟩ | ⟨-, hnone⟩
    · exact Or.inr ⟨by simp [hvalue], hleads⟩
    · exact Or.inl hnone

theorem isPassedOn_emit (h : f.Remembers sources signals) (hs : s.source = some source)
    (hmem : source ∈ sources) (hlast : lastFrom? source signals = some s) {out : Signal ν}
    (hout : f.emit source s = some out) : IsPassedOn sources signals s out := by
  rw [emit] at hout
  split at hout
  next hwinner =>
    -- nothing has a value, so neither has this signal
    cases hout
    refine isPassedOn_self ?_
    intro hok
    have hfails : s.isFailed = true := (h.winner?_eq_none_iff.mp hwinner) source hmem s hlast
    rw [Signal.isFailed, hok] at hfails
    cases hfails
  next w hwinner =>
    split at hout
    next hw =>
      rw [hw] at hwinner
      have hleads : NoValue (sourcesAhead source sources) signals :=
        ((h.winner?_eq_some_iff hmem).mp hwinner).2
      rw [h.failuresAhead_eq hwinner] at hout
      generalize hearliest : earliest? _ = found at hout
      cases found with
      | none =>
          cases hout
          refine isPassedOn_self ?_
          intro _ source' hs'
          rw [Option.some.inj (hs'.symm.trans hs)]
          exact (earliest?_eq_none_iff_of_noValue hleads).mp hearliest
      | some failure =>
          have holdest := isOldestFailure_of_earliest? hleads hearliest
          obtain ⟨-, -, -, -, -, hfails, -⟩ := id holdest
          obtain ⟨e, he⟩ := Signal.exists_error (failure.isFailed_iff.mp hfails)
          rw [Option.bind_some, he] at hout
          cases hout
          exact isPassedOn_degrade hs holdest he
    next => cases hout

end Remembers

/-! ## Over time -/

/-- The chain after some signals. -/
def after (f : Fallback ν) (signals : List (Signal ν)) : Fallback ν :=
  signals.foldl (fun f s => (f.process s).1) f

theorem Remembers.after {f : Fallback ν} {sources : List String} {heard : List (Signal ν)}
    (h : f.Remembers sources heard) (signals : List (Signal ν)) :
    (f.after signals).Remembers sources (heard ++ signals) := by
  induction signals generalizing f heard with
  | nil =>
      rw [List.append_nil]
      exact h
  | cons s rest ih =>
      rw [List.append_cons]
      exact ih (h.process s)

/-- What a chain passes on is what the signals so far say. -/
structure FollowsHistory (f : Fallback ν) (sources : List String) : Prop where
  /-- Which signals are passed on. -/
  emits : ∀ heard s, ((f.after heard).process s).2.isSome = true ↔
    IsEmitted sources (heard ++ [s]) s
  /-- What is passed on of a signal. -/
  passes : ∀ heard s out, ((f.after heard).process s).2 = some out →
    IsPassedOn sources (heard ++ [s]) s out
  /-- A signal from outside the chain makes no difference to those after it. -/
  ignores : ∀ heard stray later s, (∀ source ∈ sources, stray.source ≠ some source) →
    ((f.after (heard ++ stray :: later)).process s).2 = ((f.after (heard ++ later)).process s).2

/-- A chain of different sources does with each signal what the last signals of its sources say. -/
theorem follows_history {sources : List String} (hnodup : sources.Nodup) (hsome : sources ≠ []) :
    ∃ f : Fallback ν, create sources = .ok f ∧ f.FollowsHistory sources := by
  refine ⟨_, create_eq_ok hnodup hsome, ?_⟩
  generalize hf : (⟨sources.map fun s => (s, none)⟩ : Fallback ν) = f
  have hstart : f.Remembers sources [] := remembers_create (hf ▸ create_eq_ok hnodup hsome)
  have hafter : ∀ heard, (f.after heard).Remembers sources heard := fun heard => hstart.after heard
  constructor
  case emits =>
    intro heard s
    have hcases := (f.after heard).process_cases s
    rw [(hafter heard).sources_eq] at hcases
    rcases hcases with ⟨hunknown, hprocess⟩ | ⟨source, hmem, hs, hprocess⟩
    · rw [hprocess]
      refine ⟨fun h => (nomatch h), ?_⟩
      rintro ⟨source, hmem, hs, -⟩
      exact absurd hs (hunknown source hmem)
    · rw [hprocess]
      refine ((hafter heard).store hs).isSome_emit_iff hs hmem ?_
      rw [lastFrom?_concat, if_pos hs]
  case passes =>
    intro heard s out hout
    have hcases := (f.after heard).process_cases s
    rw [(hafter heard).sources_eq] at hcases
    rcases hcases with ⟨-, hprocess⟩ | ⟨source, hmem, hs, hprocess⟩
    · rw [hprocess] at hout
      cases hout
    · rw [hprocess] at hout
      refine ((hafter heard).store hs).isPassedOn_emit hs hmem ?_ hout
      rw [lastFrom?_concat, if_pos hs]
  case ignores =>
    intro heard stray later s hstray
    have hsame : f.after (heard ++ stray :: later) = f.after (heard ++ later) := by
      have hskip := process_of_unknown (f.after heard) ((hafter heard).sources_eq ▸ hstray)
      simp only [Fallback.after, List.foldl_append, List.foldl_cons] at hskip ⊢
      rw [hskip]
    rw [hsame]

/-- The sensor on the wall is heard once the better one on the roof has failed. -/
theorem follows_history_of_den :
    let sources := ["roof", "wall"]
    let heard : List (Signal Float) := [.failure (.ofEpoch 5 0) (some "roof") (.sensor "wet")]
    let s : Signal Float := .healthy (.ofEpoch 3 0) 21 (some "wall")
    sources.Nodup ∧ sources ≠ [] ∧ ∃ f : Fallback Float, create sources = .ok f ∧
      f.FollowsHistory sources ∧ ((f.after heard).process s).2.isSome = true := by
  intro sources heard s
  have hnodup : sources.Nodup := by decide
  have hsome : sources ≠ [] := by decide
  obtain ⟨f, hf, hfollows⟩ := follows_history (ν := Float) hnodup hsome
  have hleads : Leads "wall" sources (heard ++ [s]) := by decide +kernel
  refine ⟨hnodup, hsome, f, hf, hfollows, (hfollows.emits heard s).mpr ?_⟩
  exact ⟨"wall", by simp [sources], rfl, Or.inl ⟨rfl, hleads⟩⟩

end Fallback

end HomeClimate
