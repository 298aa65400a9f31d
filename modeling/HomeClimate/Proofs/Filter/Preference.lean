import HomeClimate.Filter.Fallback
import HomeClimate.Proofs.Filter.Medians
import Mathlib.Data.List.TakeWhile

/-!
# What the fallback filter prefers

The fallback filter knows of each source the last signal that came from it, and knows
nothing else.  So what it does is a function of the signals that it was given
(`lastFrom?`): a source *leads* when no source before it in the chain has a last signal
with a value.  A value from a source that leads is passed on, whatever came from the
sources after it (`Fallback.Remembers.passes`).

How long ago the sources before it were heard of plays no part in that.

The median of signals among which there is a value is a value.
-/

namespace HomeClimate

variable {ν : Type}

/-! ## Histories -/

/-- The last of some signals that came from a source. -/
def lastFrom? (source : String) (signals : List (Signal ν)) : Option (Signal ν) :=
  (signals.filter fun s => s.source == some source).getLast?

/-- No source before this one in the chain has a last signal with a value. -/
def Leads (source : String) (sources : List String) (signals : List (Signal ν)) : Prop :=
  ∀ ahead ∈ sources.takeWhile (· != source), ∀ s, lastFrom? ahead signals = some s →
    s.isFailed = true

/-- No source ends with a value. -/
def NoValue (sources : List String) (signals : List (Signal ν)) : Prop :=
  ∀ source ∈ sources, ∀ s, lastFrom? source signals = some s → s.isFailed = true

instance (source : String) (sources : List String) (signals : List (Signal ν)) :
    Decidable (Leads source sources signals) :=
  inferInstanceAs (Decidable (∀ ahead ∈ sources.takeWhile (· != source), ∀ s,
    lastFrom? ahead signals = some s → s.isFailed = true))

theorem lastFrom?_concat (source : String) (signals : List (Signal ν)) (s : Signal ν) :
    lastFrom? source (signals ++ [s]) =
      if s.source = some source then some s else lastFrom? source signals := by
  rw [lastFrom?, List.filter_append]
  by_cases hs : s.source = some source
  · simp [hs]
  · simp [hs, lastFrom?]

/-- A signal of a source says nothing about those ahead of it. -/
theorem leads_concat_iff {source : String} {sources : List String} {signals : List (Signal ν)}
    {s : Signal ν} (hs : s.source = some source) :
    Leads source sources (signals ++ [s]) ↔ Leads source sources signals := by
  refine forall₂_congr fun other hother => ?_
  have hne : other ≠ source := by
    have htest := List.mem_takeWhile_imp hother
    simpa using htest
  rw [lastFrom?_concat, hs, if_neg (by simpa using Ne.symm hne)]

/-- A list gives the first of its members that passes a test. -/
theorem find?_of_takeWhile {p : String → Bool} {a : String} {l : List String} (ha : a ∈ l)
    (hp : p a = true) (hahead : ∀ b ∈ l.takeWhile (· != a), p b = false) : l.find? p = some a := by
  induction l with
  | nil => cases ha
  | cons b l ih =>
      by_cases hb : b = a
      · rw [hb, List.find?_cons_of_pos hp]
      · have htake : (b :: l).takeWhile (· != a) = b :: l.takeWhile (· != a) := by
          simp [hb]
        rw [htake] at hahead
        have hfails : p b = false := hahead b List.mem_cons_self
        rw [List.find?_cons_of_neg (by simp [hfails])]
        exact ih ((List.mem_cons.mp ha).resolve_left (Ne.symm hb))
          fun c hc => hahead c (List.mem_cons_of_mem b hc)

/-- The members of a list before the first that passes a test are those before that member. -/
theorem takeWhile_of_find? {p : String → Bool} {a : String} {l : List String}
    (h : l.find? p = some a) : (l.takeWhile fun b => !p b) = l.takeWhile (· != a) := by
  induction l with
  | nil => rfl
  | cons b l ih =>
      by_cases hp : p b = true
      · rw [List.find?_cons_of_pos hp] at h
        cases h
        simp [hp]
      · rw [List.find?_cons_of_neg hp] at h
        have hb : b ≠ a := by
          intro heq
          exact hp (heq ▸ List.find?_some h)
        have hfails : p b = false := Bool.not_eq_true _ ▸ hp
        simp [hfails, hb, ih h]

/-! ## The fallback filter -/

namespace Fallback

/-- The filter knows the last signal of each source of a chain, as signals that came left them. -/
def Remembers (f : Fallback ν) (sources : List String) (signals : List (Signal ν)) : Prop :=
  f.chain = sources.map fun source => (source, lastFrom? source signals)

theorem distinct_eq_ok {known sources : List String} (hnodup : sources.Nodup)
    (hnew : ∀ s ∈ sources, s ∉ known) : distinct known sources = .ok () := by
  induction sources generalizing known with
  | nil => rfl
  | cons source rest ih =>
      obtain ⟨hsource, hrest⟩ := List.nodup_cons.mp hnodup
      have hfresh : known.contains source = false := by
        simpa using hnew source List.mem_cons_self
      rw [distinct, hfresh]
      refine ih hrest ?_
      intro s hs hmem
      rcases List.mem_cons.mp hmem with rfl | hknown
      · exact hsource hs
      · exact hnew s (List.mem_cons_of_mem source hs) hknown

/-- Sources of which none comes twice make a chain in which nothing has arrived. -/
theorem create_eq_ok {sources : List String} (hnodup : sources.Nodup) (hsome : sources ≠ []) :
    (create sources : Except FilterError (Fallback ν)) = .ok ⟨sources.map fun s => (s, none)⟩ := by
  rw [create, distinct_eq_ok hnodup fun s _ => List.not_mem_nil]
  dsimp only
  rw [if_neg (by simpa using hsome)]
  rfl

theorem remembers_create {sources : List String} {f : Fallback ν} (h : create sources = .ok f) :
    f.Remembers sources [] := by
  cases hd : distinct [] sources with
  | error e => simp [create, hd, bind, Except.bind] at h
  | ok _ =>
      simp only [create, hd, bind, Except.bind] at h
      split at h
      · cases h
      · cases h
        rfl

theorem isUsable_eq_false_iff {source : String} {signals : List (Signal ν)} :
    isUsable (source, lastFrom? source signals) = false ↔
      ∀ s, lastFrom? source signals = some s → s.isFailed = true := by
  rw [isUsable]
  cases lastFrom? source signals with
  | none => simp
  | some s => simp

namespace Remembers

variable {f : Fallback ν} {sources : List String} {signals : List (Signal ν)}

theorem sources_eq (h : f.Remembers sources signals) : f.sources = sources := by
  rw [Fallback.sources, h, List.map_map]
  exact List.map_id sources

theorem store (h : f.Remembers sources signals) {s : Signal ν} {source : String}
    (hs : s.source = some source) : (f.store source s).Remembers sources (signals ++ [s]) := by
  rw [Remembers, Fallback.store, h]
  dsimp only
  rw [List.map_map]
  refine List.map_congr_left fun other _ => ?_
  rw [lastFrom?_concat, hs]
  by_cases hother : other = source
  · simp [hother]
  · simp [hother, Ne.symm hother]

/-- A signal that is not from the chain is not remembered. -/
theorem skip (h : f.Remembers sources signals) {s : Signal ν}
    (hs : ∀ source ∈ sources, s.source ≠ some source) : f.Remembers sources (signals ++ [s]) := by
  rw [Remembers, h]
  refine List.map_congr_left fun source hsource => ?_
  rw [lastFrom?_concat, if_neg (hs source hsource)]

theorem process (h : f.Remembers sources signals) (s : Signal ν) :
    (f.process s).1.Remembers sources (signals ++ [s]) := by
  rcases f.process_cases s with ⟨hunknown, hprocess⟩ | ⟨source, -, hs, hprocess⟩
  · rw [hprocess]
    exact h.skip (h.sources_eq ▸ hunknown)
  · rw [hprocess]
    exact h.store hs

theorem winner?_eq (h : f.Remembers sources signals) :
    f.winner? = sources.find? fun source => isUsable (source, lastFrom? source signals) := by
  rw [winner?, h, List.find?_map, Option.map_map]
  exact Option.map_id'

theorem winner?_eq_none_iff (h : f.Remembers sources signals) :
    f.winner? = none ↔ NoValue sources signals := by
  rw [h.winner?_eq, List.find?_eq_none]
  refine forall₂_congr fun source _ => ?_
  rw [Bool.not_eq_true]
  exact isUsable_eq_false_iff

/-- A source wins if it leads and ends with a value. -/
theorem winner?_eq_some_iff (h : f.Remembers sources signals) {source : String}
    (hmem : source ∈ sources) :
    f.winner? = some source ↔
      isUsable (source, lastFrom? source signals) = true ∧ Leads source sources signals := by
  rw [h.winner?_eq]
  constructor
  · intro hfind
    have husable := List.find?_some hfind
    refine ⟨husable, ?_⟩
    intro other hother
    rw [← takeWhile_of_find? hfind] at hother
    have hfails := List.mem_takeWhile_imp hother
    exact isUsable_eq_false_iff.mp (by simpa using hfails)
  · rintro ⟨husable, hleads⟩
    refine find?_of_takeWhile hmem husable ?_
    intro other hother
    exact isUsable_eq_false_iff.mpr (hleads other hother)

/-- A value from a source that leads the chain is passed on, at most degraded. -/
theorem passes (h : f.Remembers sources signals) {s : Signal ν} {source : String}
    (hs : s.source = some source) (hmem : source ∈ sources) (hvalue : s.isFailed = false)
    (hleads : Leads source sources signals) :
    ∃ out, (f.process s).2 = some out ∧ out.isFailed = false := by
  have husable : isUsable (source, lastFrom? source (signals ++ [s])) = true := by
    rw [lastFrom?_concat, if_pos hs, isUsable]
    simp [hvalue]
  have hwinner := ((h.store hs).winner?_eq_some_iff hmem).mpr
    ⟨husable, (leads_concat_iff hs).mpr hleads⟩
  have hemit : ((f.store source s).emit source s).isSome = true :=
    (isSome_emit_iff _ source s).mpr (Or.inr hwinner)
  obtain ⟨out, hout⟩ := Option.isSome_iff_exists.mp hemit
  rw [process_of_known f hs (h.sources_eq ▸ hmem)]
  refine ⟨out, hout, ?_⟩
  rw [← hvalue]
  rcases of_emit_eq_some hout with rfl | ⟨e, rfl⟩
  · rfl
  · exact s.isFailed_degrade e

end Remembers

end Fallback

/-! ## The median filter -/

/-- The median of signals of which one has a value is no failure. -/
theorem Median.isFailed_process [Scalar ν] (m : Median ν) {s : Signal ν} (h : s.isFailed = false) :
    (m.process s).2.isFailed = false := by
  rw [← Bool.not_eq_true, Signal.isFailed_iff] at h ⊢
  intro hnone
  rw [Median.process, Signal.value?, reduce] at hnone
  dsimp only at hnone
  rw [value?_reducedHealth, middle?_ascending_eq_none_iff] at hnone
  exact h (hnone s (by simp))

end HomeClimate
