import HomeClimate.Proofs.Filter.Medians
import HomeClimate.Proofs.Outcome
import HomeClimate.Proofs.Time.Elapsed

/-!
# The median over the last signals of several sources

The median set holds of each source the last signal that came from it, unless that was too
old when another came (`IsHeld`).  No source counts as a source.  That is all it knows of
the signals so far (`MedianSet.Holds`), and each signal leaves it so
(`MedianSet.Holds.process`).  It answers a signal exactly if it can be said what is too
old at its time (`MedianSet.succeeds_process_iff`).

Its answer is the median of what it holds (`MedianSet.answers_history`).  Nothing says in
what order that is gone through.  It makes no difference as long as no two of the errors
have one time, except that of values that share a place it may be another one that comes
out: for doubles this is the sign of a zero (`isSameness_mean`), and where no two values
share a place it is nothing (`MedianSet.Answers.reduce_eq`).
-/

namespace HomeClimate

variable {ν : Type}

/-! ## What is to be held -/

/-- At a time it can be said what is too old: there is an instant that is that much earlier. -/
def InRange (maxAge : Span) (time : Instant) : Prop :=
  maxAge = 0 ∨ ∀ age, maxAge.toDifference? = some age → (time.sub? age).isSome = true

/-- A signal is the last from a source, and was not too old when any other came since. -/
def IsHeld (maxAge : Span) (heard : List (Signal ν)) (source : Option String) (s : Signal ν) :
    Prop :=
  ∃ before later, heard = before ++ s :: later ∧ s.source = source ∧
    (∀ u ∈ later, u.source ≠ source) ∧
    (maxAge = 0 ∨ ∀ u ∈ later, s.time.IsWithin maxAge u.time)

/-- Another signal is held from its source, and makes those of other sources older. -/
theorem isHeld_concat_iff {maxAge : Span} {heard : List (Signal ν)} {s u : Signal ν}
    {source : Option String} :
    IsHeld maxAge (heard ++ [s]) source u ↔ s.source = source ∧ u = s ∨
      s.source ≠ source ∧ IsHeld maxAge heard source u ∧
        (maxAge = 0 ∨ u.time.IsWithin maxAge s.time) := by
  constructor
  · rintro ⟨before, later, hsplit, hu, hother, hage⟩
    rcases List.eq_nil_or_concat later with rfl | ⟨later, last, rfl⟩
    · obtain ⟨-, hlast⟩ := List.append_inj' hsplit rfl
      cases hlast
      exact Or.inl ⟨hu, rfl⟩
    · rw [List.concat_eq_append, ← List.cons_append, ← List.append_assoc] at hsplit
      obtain ⟨rfl, hlast⟩ := List.append_inj' hsplit rfl
      cases hlast
      simp only [List.concat_eq_append, List.forall_mem_append, List.forall_mem_singleton]
        at hother hage
      refine Or.inr ⟨hother.2, ⟨before, later, rfl, hu, hother.1, ?_⟩, ?_⟩
      · exact hage.imp_right And.left
      · exact hage.imp_right And.right
  · rintro (⟨hs, rfl⟩ | ⟨hs, ⟨before, later, rfl, hu, hother, hage⟩, hage'⟩)
    · exact ⟨heard, [], rfl, hs, by simp, Or.inr (by simp)⟩
    · refine ⟨before, later ++ [s], by simp, hu, ?_, ?_⟩
      · rw [List.forall_mem_append, List.forall_mem_singleton]
        exact ⟨hother, hs⟩
      · rcases hage with hnone | hage
        · exact Or.inl hnone
        · refine hage'.imp_right fun hage' => ?_
          rw [List.forall_mem_append, List.forall_mem_singleton]
          exact ⟨hage, hage'⟩

namespace MedianSet

/-- The signals that are held. -/
def held (m : MedianSet ν) : List (Signal ν) := m.latest.map Prod.snd

/-- The filter holds what it is to hold after some signals. -/
structure Holds (m : MedianSet ν) (average : ν → ν → ν) (maxAge : Span)
    (heard : List (Signal ν)) : Prop where
  settings : m.average = average ∧ m.maxAge = maxAge
  /-- Of each source it holds one signal at most. -/
  nodup : (m.latest.map Prod.fst).Nodup
  latest : ∀ source s, (source, s) ∈ m.latest ↔ IsHeld maxAge heard source s

theorem holds_create (average : ν → ν → ν) (maxAge : Span) :
    (create average maxAge).Holds average maxAge [] where
  settings := ⟨rfl, rfl⟩
  nodup := List.nodup_nil
  latest source s := by
    refine ⟨fun h => (nomatch h), ?_⟩
    rintro ⟨before, later, hsplit, -⟩
    simp at hsplit

theorem Holds.held_subset {m : MedianSet ν} {average : ν → ν → ν} {maxAge : Span}
    {heard : List (Signal ν)} (h : m.Holds average maxAge heard) : m.held ⊆ heard := by
  intro s hs
  obtain ⟨⟨source, s⟩, hmem, rfl⟩ := List.mem_map.mp hs
  obtain ⟨before, later, rfl, -⟩ := (h.latest source s).mp hmem
  simp

/-! ## One signal -/

/-- What is too old is dropped. -/
theorem exists_expire {m : MedianSet ν} {now : Instant} (hrange : InRange m.maxAge now) :
    ∃ keep : Option String × Signal ν → Bool,
      m.expire now = .ok { m with latest := m.latest.filter keep } ∧
      ∀ e, keep e = true ↔ m.maxAge = 0 ∨ e.2.time.IsWithin m.maxAge now := by
  have hall : m.latest.filter (fun _ => true) = m.latest := List.filter_eq_self.mpr fun e _ => rfl
  rw [expire]
  by_cases hzero : m.maxAge = 0
  · refine ⟨fun _ => true, ?_, fun e => by simp [hzero]⟩
    rw [if_pos hzero, hall]
  · rw [if_neg hzero]
    cases hage : m.maxAge.toDifference? with
    | none =>
        refine ⟨fun _ => true, by rw [hall], fun e => ?_⟩
        simp [Instant.IsWithin, hage]
    | some age =>
        obtain ⟨limit, hlimit⟩ := Option.isSome_iff_exists.mp (hrange.resolve_left hzero age hage)
        refine ⟨fun e => decide (limit ≤ e.2.time), by dsimp only; rw [hlimit], fun e => ?_⟩
        rw [decide_eq_true_iff, or_iff_right hzero, Instant.IsWithin, hage]
        simp [hlimit]

/-- The filter gives up where it cannot be said what is too old. -/
theorem expire_eq_error {m : MedianSet ν} {now : Instant} (hrange : ¬ InRange m.maxAge now) :
    m.expire now = .error .outOfRange := by
  obtain ⟨hzero, hlimit⟩ := not_or.mp hrange
  obtain ⟨age, hlimit⟩ := not_forall.mp hlimit
  obtain ⟨hage, hlimit⟩ := Classical.not_imp.mp hlimit
  have hnone : now.sub? age = none := by simpa using hlimit
  rw [expire, if_neg hzero, hage]
  dsimp only
  rw [hnone]

/-- The signal of a source takes the place of the one before. -/
theorem mem_store_iff {m : MedianSet ν} {s u : Signal ν} {source : Option String} :
    (source, u) ∈ (m.store s).latest ↔
      s.source = source ∧ u = s ∨ s.source ≠ source ∧ (source, u) ∈ m.latest := by
  rw [store]
  split
  next hany =>
    obtain ⟨⟨key, old⟩, hmem, hkey⟩ := List.any_eq_true.mp hany
    have hkey : key = s.source := by simpa using hkey
    simp only [List.mem_map]
    constructor
    · rintro ⟨⟨key', old'⟩, hmem', heq⟩
      split at heq
      next h =>
        cases heq
        exact Or.inl ⟨(by simpa using h : key' = s.source).symm, rfl⟩
      next h =>
        cases heq
        exact Or.inr ⟨fun hs => h (by simp [hs]), hmem'⟩
    · rintro (⟨hs, rfl⟩ | ⟨hs, hmem'⟩)
      · exact ⟨(key, old), hmem, by simp [hkey, hs]⟩
      · exact ⟨(source, u), hmem', by simp [Ne.symm hs]⟩
  next hnone =>
    have hnew : ∀ e ∈ m.latest, e.1 ≠ s.source := by
      intro e he hkey
      exact hnone (List.any_eq_true.mpr ⟨e, he, by simp [hkey]⟩)
    rw [List.mem_append, List.mem_singleton, Prod.mk.injEq]
    constructor
    · rintro (hmem | ⟨hs, hu⟩)
      · exact Or.inr ⟨(hnew _ hmem).symm, hmem⟩
      · exact Or.inl ⟨hs.symm, hu⟩
    · rintro (⟨hs, hu⟩ | ⟨-, hmem⟩)
      · exact Or.inr ⟨hs.symm, hu⟩
      · exact Or.inl hmem

theorem nodup_store {m : MedianSet ν} (h : (m.latest.map Prod.fst).Nodup) (s : Signal ν) :
    ((m.store s).latest.map Prod.fst).Nodup := by
  rw [store]
  split
  next =>
    have hkeys : (m.latest.map fun e => if e.1 == s.source then (e.1, s) else e).map Prod.fst =
        m.latest.map Prod.fst := by
      rw [List.map_map]
      refine List.map_congr_left fun e _ => ?_
      dsimp only [Function.comp]
      split <;> rfl
    rw [hkeys]
    exact h
  next hnone =>
    have hnew : s.source ∉ m.latest.map Prod.fst := by simpa using hnone
    rw [List.map_append]
    exact List.Nodup.append h (List.nodup_singleton _) (by simpa using hnew)

theorem settings_store (m : MedianSet ν) (s : Signal ν) :
    (m.store s).average = m.average ∧ (m.store s).maxAge = m.maxAge := by
  rw [store]
  split
  · exact ⟨rfl, rfl⟩
  · exact ⟨rfl, rfl⟩

variable [Scalar ν]

/-- A signal is answered exactly if it can be said what is too old at its time. -/
theorem succeeds_process_iff {m : MedianSet ν} {s : Signal ν} :
    Outcome.Succeeds (m.process s) ↔ InRange m.maxAge s.time := by
  rw [process, Outcome.succeeds_map_iff]
  by_cases hrange : InRange m.maxAge s.time
  · obtain ⟨keep, hexpire, -⟩ := exists_expire hrange
    exact iff_of_true ⟨_, hexpire⟩ hrange
  · rw [expire_eq_error hrange]
    exact iff_of_false (Outcome.not_succeeds_error _) hrange

/-- A signal leaves the filter with what it is to hold, and is answered from that. -/
theorem Holds.process {m : MedianSet ν} {average : ν → ν → ν} {maxAge : Span}
    {heard : List (Signal ν)} (h : m.Holds average maxAge heard) {s : Signal ν}
    (hrange : InRange maxAge s.time) :
    ∃ m' : MedianSet ν, m'.Holds average maxAge (heard ++ [s]) ∧
      m.process s = .ok (m', if m'.size < 2 then s
        else { s with health := reduce average m'.held }) := by
  obtain ⟨⟨haverage, hmaxAge⟩, hnodup, hlatest⟩ := h
  subst haverage hmaxAge
  obtain ⟨keep, hexpire, hkeep⟩ := exists_expire hrange
  let kept : MedianSet ν := { m with latest := m.latest.filter keep }
  have hsettings : (kept.store s).average = m.average ∧ (kept.store s).maxAge = m.maxAge :=
    settings_store kept s
  refine ⟨kept.store s, ⟨hsettings, ?_, ?_⟩, ?_⟩
  · exact nodup_store (hnodup.sublist (List.filter_sublist.map Prod.fst)) s
  · intro source u
    have hkept : (source, u) ∈ kept.latest ↔ IsHeld m.maxAge heard source u ∧
        (m.maxAge = 0 ∨ u.time.IsWithin m.maxAge s.time) := by
      rw [List.mem_filter, hlatest, hkeep]
    rw [mem_store_iff, isHeld_concat_iff, hkept]
  · rw [MedianSet.process, hexpire]
    show Except.ok (if (kept.store s).size < 2 then (kept.store s, s) else (kept.store s,
      { s with health := reduce (kept.store s).average (kept.store s).held })) = _
    rw [hsettings.1]
    split
    · rfl
    · rfl

/-! ## Over time -/

/-- The filter after some signals. -/
def after (m : MedianSet ν) (signals : List (Signal ν)) : Except (Fault ν) (MedianSet ν) :=
  signals.foldlM (fun m s => (m.process s).map Prod.fst) m

theorem Holds.after {m : MedianSet ν} {average : ν → ν → ν} {maxAge : Span}
    {heard signals : List (Signal ν)} (h : m.Holds average maxAge heard)
    (hrange : ∀ s ∈ signals, InRange maxAge s.time) :
    ∃ m' : MedianSet ν, m.after signals = .ok m' ∧ m'.Holds average maxAge (heard ++ signals) := by
  induction signals generalizing m heard with
  | nil =>
      rw [List.append_nil]
      exact ⟨m, rfl, h⟩
  | cons s rest ih =>
      rw [List.forall_mem_cons] at hrange
      obtain ⟨m', hholds, hprocess⟩ := h.process hrange.1
      rw [List.append_cons]
      obtain ⟨m'', hafter, hholds'⟩ := ih hholds hrange.2
      refine ⟨m'', ?_, hholds'⟩
      rw [MedianSet.after, List.foldlM_cons, hprocess]
      exact hafter

/-- What a filter answers to the last of some signals, and what it then holds. -/
structure Answers (average : ν → ν → ν) (maxAge : Span) (signals : List (Signal ν)) (s : Signal ν)
    (m : MedianSet ν) (out : Signal ν) : Prop where
  holds : m.Holds average maxAge signals
  /-- With one signal there is nothing to reduce. -/
  alone : m.size < 2 → out = s
  time : out.time = s.time
  source : out.source = s.source
  reduced : 2 ≤ m.size → out.health = reduce average m.held
  /-- It is a median in whatever order the signals are taken. -/
  median : 2 ≤ m.size → ∀ order, order.Perm m.held → IsMedianOf average order (reduce average order)
  /-- It is the same in whatever order, where errors are apart. -/
  anyOrder : 2 ≤ m.size → ErrorsApart m.held → ∀ same : ν → ν → Prop,
    IsSameness same average (m.held.filterMap Signal.value?) →
      ∀ order, order.Perm m.held → SameHealth same (reduce average order) out.health

theorem Holds.answers {m : MedianSet ν} {average : ν → ν → ν} {maxAge : Span}
    {signals : List (Signal ν)} (h : m.Holds average maxAge signals)
    (hranked : AreRanked (signals.filterMap Signal.value?)) (s : Signal ν) :
    Answers average maxAge signals s m
      (if m.size < 2 then s else { s with health := reduce average m.held }) := by
  have hvalues : AreRanked (m.held.filterMap Signal.value?) :=
    hranked.subset (List.filterMap_subset Signal.value? h.held_subset)
  have hvaluesOf : ∀ order : List (Signal ν), order.Perm m.held →
      AreRanked (order.filterMap Signal.value?) := by
    intro order horder
    exact hvalues.subset (horder.filterMap Signal.value?).subset
  constructor
  case holds => exact h
  case alone =>
    intro halone
    exact if_pos halone
  case time => split <;> rfl
  case source => split <;> rfl
  case reduced =>
    intro hsize
    rw [if_neg (Nat.not_lt.mpr hsize)]
  case median =>
    intro hsize order horder
    refine isMedianOf_reduce average ?_ (hvaluesOf order horder)
    rintro rfl
    rw [size, ← List.length_map Prod.snd, ← held, ← horder.length_eq] at hsize
    simp at hsize
  case anyOrder =>
    intro hsize hapart same hsame order horder
    rw [if_neg (Nat.not_lt.mpr hsize)]
    have hsub : order ⊆ m.held := horder.subset
    refine same_reduce_of_perm horder (hvaluesOf order horder)
      (hsame.subset (horder.filterMap Signal.value?).subset) ?_
    intro u hu v hv
    exact hapart u (hsub hu) v (hsub hv)

/-- If only identical values share a place, the answer is identical in whatever order. -/
theorem Answers.reduce_eq {average : ν → ν → ν} {maxAge : Span} {signals : List (Signal ν)}
    {s out : Signal ν} {m : MedianSet ν} (h : Answers average maxAge signals s m out)
    (hsize : 2 ≤ m.size) (hapart : ErrorsApart m.held)
    (hplaces : ∀ a ∈ m.held.filterMap Signal.value?, ∀ b ∈ m.held.filterMap Signal.value?,
      ¬ a < b → ¬ b < a → a = b) {order : List (Signal ν)} (horder : order.Perm m.held) :
    reduce average order = out.health := by
  have hsame : IsSameness Eq average (m.held.filterMap Signal.value?) := by
    refine ⟨hplaces, ?_⟩
    rintro a _ b _ rfl rfl
    rfl
  exact (h.anyOrder hsize hapart Eq hsame order horder).eq

/-- A filter in which nothing has arrived comes through all signals at whose times it can be said
what is too old, and answers the last with the median of what it is to hold. -/
theorem answers_history {average : ν → ν → ν} {maxAge : Span} {heard : List (Signal ν)}
    {s : Signal ν} (hrange : ∀ u ∈ heard ++ [s], InRange maxAge u.time)
    (hranked : AreRanked ((heard ++ [s]).filterMap Signal.value?)) :
    ∃ m m' out, (create average maxAge).after heard = .ok m ∧ m.process s = .ok (m', out) ∧
      Answers average maxAge (heard ++ [s]) s m' out := by
  rw [List.forall_mem_append, List.forall_mem_singleton] at hrange
  obtain ⟨m, hafter, hholds⟩ := (holds_create average maxAge).after hrange.1
  obtain ⟨m', hholds', hprocess⟩ := hholds.process hrange.2
  exact ⟨m, m', _, hafter, hprocess, hholds'.answers hranked s⟩

/-- Two sensors of a room with signals no more than ten minutes old, the one of which fails. -/
theorem answers_history_of_den :
    let heard : List (Signal Float) :=
      [.healthy (.ofEpoch 0 0) 20 (some "door"), .healthy (.ofEpoch 60 0) 21 (some "desk")]
    let s : Signal Float := .failure (.ofEpoch 120 0) (some "door") (.sensor "gone")
    let maxAge : Span := 600 * Span.perSecond
    (∀ u ∈ heard ++ [s], InRange maxAge u.time) ∧
      AreRanked ((heard ++ [s]).filterMap Signal.value?) ∧
      ∃ m m' out, (create Scalar.mean maxAge).after heard = .ok m ∧ m.process s = .ok (m', out) ∧
        Answers Scalar.mean maxAge (heard ++ [s]) s m' out ∧
        (2 ≤ m'.size → ∀ order, order.Perm m'.held →
          SameHealth Double.AreAlike (reduce Scalar.mean order) out.health) := by
  intro heard s maxAge
  have hrange : ∀ u ∈ heard ++ [s], InRange maxAge u.time := by
    have hlimits : ∀ u ∈ heard ++ [s], ∀ age ∈ maxAge.toDifference?,
        (u.time.sub? age).isSome = true := by
      decide +kernel
    exact fun u hu => Or.inr (hlimits u hu)
  have hnumbers : ∀ x ∈ (heard ++ [s]).filterMap Signal.value?, (x == x) = true := by
    decide +kernel
  have hranked := Double.areRanked_of_numbers hnumbers
  obtain ⟨m, m', out, hafter, hprocess, hanswers⟩ := answers_history hrange hranked
  refine ⟨hrange, hranked, m, m', out, hafter, hprocess, hanswers, ?_⟩
  intro hsize
  have hheld := hanswers.holds.held_subset
  have herror : ∀ u ∈ heard ++ [s], u.error? ≠ none → u = s := by
    intro u hu hne
    rcases List.mem_append.mp hu with hmem | hmem
    · have hnone : ∀ u ∈ heard, u.error? = none := by decide +kernel
      exact absurd (hnone u hmem) hne
    · exact List.mem_singleton.mp hmem
  have hapart : ErrorsApart m'.held := by
    intro u hu v hv hu' hv' _
    rw [herror u (hheld hu) hu', herror v (hheld hv) hv']
  refine hanswers.anyOrder hsize hapart Double.AreAlike (isSameness_mean ?_)
  intro x hx
  exact hnumbers x (List.filterMap_subset Signal.value? hheld hx)

end MedianSet

end HomeClimate
