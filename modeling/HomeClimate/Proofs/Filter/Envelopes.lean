import HomeClimate.Filter.Fallback
import HomeClimate.Filter.Median
import HomeClimate.Filter.OrderGuard
import HomeClimate.Filter.RateLimiter
import HomeClimate.Filter.SilenceGuard
import HomeClimate.Proofs.Signal.Envelope

/-!
# Filters on envelopes

The filters once more, on envelopes instead of signals.  They set the fields of what they
give one by one, from what they got and from what they keep, and they know nothing of
whether it is well formed.

*What they give.*  A median gives a well-formed envelope whatever it got (`wrap_eq`).  All
other filters give what they got, at most degraded, or a report of their own.

*That they are the filters.*  A filter on signals keeps signals.  With their envelopes in
their place it is a filter on envelopes, and what the one does with a signal the other does
with the envelope of the signal (`Median.process_envelopes` and its like).
-/

namespace HomeClimate

variable {α ν π : Type}

namespace Envelopes

/-! ## Medians -/

/-- The error with the greatest time, the last of several. -/
def latestError? (envelopes : List (Envelope α π)) : Option (Instant × SignalError) :=
  envelopes.foldl (fun found e =>
    match e.error?, found with
    | none, _ => found
    | some error, none => some (e.time, error)
    | some error, some (t, f) => if e.time < t then some (t, f) else some (e.time, error)) none

/-- The median of the values, and the latest of the errors. -/
def reduce [Scalar ν] (average : ν → ν → ν) (envelopes : List (Envelope ν π)) :
    Option ν × Option SignalError :=
  (middle? average (ascending (envelopes.filterMap Envelope.value?)),
    (latestError? envelopes).map Prod.snd)

/-- A median and an error in an envelope. -/
def wrap (time : Instant) (payload? : Option π) : Option α × Option SignalError → Envelope α π
  | (some value, none) =>
    (Envelope.healthy time value : Envelope α Unit).replacePayload payload?
  | (some value, some error) => .partialFailure time value payload? error
  | (none, error?) => .failure time payload? (error?.getD (.missing "median input"))

/-- The median over the last envelopes. -/
structure Median (ν π : Type) where
  /-- How many envelopes count. -/
  depth : Nat
  /-- The average of two values. -/
  average : ν → ν → ν
  /-- The envelopes that count, oldest first. -/
  buffer : List (Envelope ν π)

/-- The filter after an envelope, and the reduced one. -/
def Median.process [Scalar ν] (m : Median ν π) (e : Envelope ν π) : Median ν π × Envelope ν π :=
  let kept := if m.buffer.length = m.depth then m.buffer.drop 1 else m.buffer
  let buffer := kept ++ [e]
  ({ m with buffer }, wrap e.time e.payload? (reduce m.average buffer))

/-- The median over the last envelopes with several payloads. -/
structure MedianSet (ν π : Type) where
  /-- The average of two values. -/
  average : ν → ν → ν
  /-- How old an envelope may be, zero for any age. -/
  maxAge : Span
  /-- The last envelope with each payload; no payload counts as one. -/
  latest : List (Option π × Envelope ν π)

namespace MedianSet

/-- The filter without the envelopes that are too old at a time. -/
def expire (m : MedianSet ν π) (now : Instant) : Except (Fault ν) (MedianSet ν π) :=
  if m.maxAge = 0 then .ok m
  else
    match m.maxAge.toDifference? with
    | none => .ok m
    | some age =>
      match now.sub? age with
      | none => .error .outOfRange
      | some retire => .ok { m with latest := m.latest.filter fun e => decide (retire ≤ e.2.time) }

/-- The filter with the last envelope with a payload replaced. -/
def store [BEq π] (m : MedianSet ν π) (e : Envelope ν π) : MedianSet ν π :=
  if m.latest.any fun known => known.1 == e.payload? then
    { m with
      latest := m.latest.map fun known => if known.1 == e.payload? then (known.1, e) else known }
  else { m with latest := m.latest ++ [(e.payload?, e)] }

/-- The filter after an envelope, and what comes out. -/
def process [Scalar ν] [BEq π] (m : MedianSet ν π) (e : Envelope ν π) :
    Except (Fault ν) (MedianSet ν π × Envelope ν π) :=
  (m.expire e.time).map fun m =>
    let m := m.store e
    if m.latest.length < 2 then (m, e)
    else (m, wrap e.time e.payload? (reduce m.average (m.latest.map Prod.snd)))

end MedianSet

/-- However signals are reduced, the result is made of some health. -/
theorem wrap_eq (time : Instant) (payload? : Option π) (r : Option α × Option SignalError) :
    wrap time payload? r = .ofHealth time payload? (reducedHealth r.1 r.2) := by
  obtain ⟨value?, error?⟩ := r
  cases value? <;> cases error? <;> rfl

theorem isWellFormed_wrap (time : Instant) (payload? : Option π)
    (r : Option α × Option SignalError) : (wrap time payload? r).IsWellFormed := by
  rw [wrap_eq]
  exact Envelope.isWellFormed_ofHealth _ _ _

theorem Median.isWellFormed_process [Scalar ν] (m : Median ν π) (e : Envelope ν π) :
    (m.process e).2.IsWellFormed := isWellFormed_wrap _ _ _

theorem MedianSet.isWellFormed_process [Scalar ν] [BEq π] {m m' : MedianSet ν π}
    {e out : Envelope ν π} (he : e.IsWellFormed) (h : m.process e = .ok (m', out)) :
    out.IsWellFormed := by
  rw [MedianSet.process] at h
  cases hexpire : m.expire e.time with
  | error f =>
      rw [hexpire] at h
      cases h
  | ok kept =>
      rw [hexpire, Except.map] at h
      dsimp only at h
      split at h
      · cases h
        exact he
      · cases h
        exact isWellFormed_wrap _ _ _

theorem latestError?_envelopes (signals : List (Signal ν)) :
    latestError? (signals.map Signal.envelope) = HomeClimate.latestError? signals :=
  List.foldl_map

theorem reduce_envelopes [Scalar ν] (average : ν → ν → ν) (signals : List (Signal ν))
    (time : Instant) (payload? : Option String) :
    wrap time payload? (reduce average (signals.map Signal.envelope)) =
      .ofHealth time payload? (HomeClimate.reduce average signals) := by
  rw [wrap_eq, reduce, latestError?_envelopes, List.filterMap_map]
  rfl

end Envelopes

/-- The median with the envelopes of what it keeps. -/
def Median.envelopes (m : Median ν) : Envelopes.Median ν String :=
  ⟨m.depth, m.average, m.buffer.map Signal.envelope⟩

theorem Median.process_envelopes [Scalar ν] (m : Median ν) (s : Signal ν) :
    m.envelopes.process s.envelope = ((m.process s).1.envelopes, (m.process s).2.envelope) := by
  have hbuffer : (if m.envelopes.buffer.length = m.envelopes.depth then m.envelopes.buffer.drop 1
      else m.envelopes.buffer) ++ [s.envelope] =
      ((if m.buffer.length = m.depth then m.buffer.drop 1 else m.buffer) ++ [s]).map
        Signal.envelope := by
    simp only [envelopes, List.length_map, List.map_append, List.map_cons, List.map_nil]
    split
    · rw [List.map_drop]
    · rfl
  rw [Envelopes.Median.process, hbuffer, Envelopes.reduce_envelopes]
  rfl

/-- The filter with the envelopes of what it keeps. -/
def MedianSet.envelopes (m : MedianSet ν) : Envelopes.MedianSet ν String :=
  ⟨m.average, m.maxAge, m.latest.map fun e => (e.1, e.2.envelope)⟩

theorem MedianSet.expire_envelopes (m : MedianSet ν) (now : Instant) :
    m.envelopes.expire now = (m.expire now).map MedianSet.envelopes := by
  rw [Envelopes.MedianSet.expire, MedianSet.expire]
  by_cases hzero : m.maxAge = 0
  · rw [if_pos hzero, if_pos (show m.envelopes.maxAge = 0 from hzero)]
    rfl
  · rw [if_neg hzero, if_neg (show ¬ m.envelopes.maxAge = 0 from hzero)]
    show (match m.maxAge.toDifference? with | none => _ | some age => _) = _
    cases m.maxAge.toDifference? with
    | none => rfl
    | some age =>
        dsimp only
        cases now.sub? age with
        | none => rfl
        | some retire =>
            simp only [envelopes, Except.map, List.filter_map]
            rfl

theorem MedianSet.store_envelopes (m : MedianSet ν) (s : Signal ν) :
    m.envelopes.store s.envelope = (m.store s).envelopes := by
  have hany : (m.envelopes.latest.any fun known => known.1 == s.envelope.payload?) =
      m.latest.any fun e => e.1 == s.source := by
    rw [envelopes, List.any_map]
    rfl
  rw [Envelopes.MedianSet.store, MedianSet.store, hany]
  split
  · simp only [envelopes, List.map_map]
    congr 2
    funext e
    by_cases he : e.1 = s.source
    · simp [he, Signal.envelope, Signal.carrying, Envelope.ofHealth]
    · simp [he, Signal.envelope, Signal.carrying, Envelope.ofHealth]
  · simp only [envelopes, List.map_append]
    rfl

theorem MedianSet.process_envelopes [Scalar ν] (m : MedianSet ν) (s : Signal ν) :
    m.envelopes.process s.envelope =
      (m.process s).map fun r => (r.1.envelopes, r.2.envelope) := by
  rw [Envelopes.MedianSet.process, MedianSet.process]
  rw [show s.envelope.time = s.time from rfl, expire_envelopes]
  cases m.expire s.time with
  | error f => rfl
  | ok kept =>
      have hlength : (kept.store s).envelopes.latest.length = (kept.store s).size :=
        List.length_map _
      have hlatest : (kept.store s).envelopes.latest.map Prod.snd =
          ((kept.store s).latest.map Prod.snd).map Signal.envelope := by
        simp only [envelopes, List.map_map]
        rfl
      simp only [Except.map, store_envelopes, hlength, hlatest]
      split
      · rfl
      · rw [Envelopes.reduce_envelopes]
        rfl

namespace Envelopes

/-! ## Fallback -/

/-- Sources in order of preference, each with the last envelope that came from it. -/
structure Fallback (α π : Type) where
  /-- The sources, the best first. -/
  chain : List (π × Option (Envelope α π))

namespace Fallback

/-- Whether the last envelope of a source has not failed. -/
def isUsable (known : π × Option (Envelope α π)) : Bool := known.2.any fun e => !e.isFailed

/-- The first envelope with the least time. -/
def earliest? : List (Envelope α π) → Option (Envelope α π)
  | [] => none
  | e :: rest =>
    match earliest? rest with
    | none => some e
    | some e' => if e'.time < e.time then some e' else some e

/-- The oldest error of the sources ahead of the first one that is usable. -/
def oldestError? (f : Fallback α π) : Option SignalError :=
  (earliest? ((f.chain.takeWhile fun known => !isUsable known).filterMap Prod.snd)).bind
    Envelope.error?

variable [BEq π]

/-- The chain with the last envelope of a source replaced. -/
def store (f : Fallback α π) (source : π) (e : Envelope α π) : Fallback α π :=
  ⟨f.chain.map fun known => if known.1 == source then (known.1, some e) else known⟩

/-- The chain after an envelope, and what is passed on of it. -/
def process (f : Fallback α π) (e : Envelope α π) : Fallback α π × Option (Envelope α π) :=
  match e.payload? with
  | none => (f, none)
  | some source =>
    if (f.chain.map Prod.fst).contains source then
      let f := f.store source e
      match (f.chain.find? isUsable).map Prod.fst with
      | none => (f, some e)
      | some winner =>
        if winner == source then
          match f.oldestError? with
          | none => (f, some e)
          | some error => (f, some (e.degrade error))
        else (f, none)
    else (f, none)

/-- What is passed on is what came, at most degraded. -/
theorem isWellFormed_process {f : Fallback α π} {e out : Envelope α π} (he : e.IsWellFormed)
    (h : (f.process e).2 = some out) : out.IsWellFormed := by
  rw [process] at h
  cases hsource : e.payload? with
  | none =>
      rw [hsource] at h
      cases h
  | some source =>
      rw [hsource] at h
      dsimp only at h
      repeat' split at h
      all_goals cases h
      all_goals first | exact he | exact he.degrade _

end Fallback

/-! ## Filters that pass on what came -/

/-- Whether two envelopes have the same status and the same value. -/
def sameValue [BEq α] (a b : Envelope α π) : Bool := a.status == b.status && a.value? == b.value?

/-- A filter that drops repetitions. -/
structure RateLimiter (α π : Type) where
  /-- How long a repetition is dropped. -/
  interval : Span
  /-- Whether two envelopes say the same. -/
  same : Envelope α π → Envelope α π → Bool
  /-- The last envelope that was passed on. -/
  last : Option (Envelope α π)

/-- The filter after an envelope, and the envelope if it is passed on. -/
def RateLimiter.process (r : RateLimiter α π) (e : Envelope α π) :
    RateLimiter α π × Option (Envelope α π) :=
  if r.last.any fun last => decide (e.time.spanSince last.time < r.interval) && r.same last e then
    (r, none)
  else ({ r with last := some e }, some e)

/-- An order guard after an envelope, and the envelope if it is passed on. -/
def order (g : OrderGuard) (e : Envelope α π) : OrderGuard × Option (Envelope α π) :=
  if e.isFailed then (g, some e)
  else if g.drops e.time then (g, none)
  else (⟨some e.time⟩, some e)

/-- A silence guard after an envelope, which is passed on. -/
def watch (g : SilenceGuard) (e : Envelope α π) : SilenceGuard × Envelope α π :=
  ({ g with lastSeen := some e.time, inTimeout := false }, e)

/-- A silence guard when a silence has lasted too long, and the report if there is one. -/
def expire (g : SilenceGuard) (now : Instant) : SilenceGuard × Option (Envelope α π) :=
  let g := { g with lastSeen := some now }
  if g.inTimeout && !g.repeats then (g, none)
  else ({ g with inTimeout := true }, some (.failure now none (.timeout g.marker g.timeout)))

/-- A silence guard after it was asked, and the report if the silence is too long. -/
def check (g : SilenceGuard) (now : Instant) : SilenceGuard × Option (Envelope α π) :=
  let start := g.lastSeen.getD now
  if now.spanSince start < g.timeout then ({ g with lastSeen := some start }, none)
  else expire g now

theorem RateLimiter.isWellFormed_process {r : RateLimiter α π} {e out : Envelope α π}
    (he : e.IsWellFormed) (h : (r.process e).2 = some out) : out.IsWellFormed := by
  rw [process] at h
  split at h <;> cases h
  exact he

theorem isWellFormed_order {g : OrderGuard} {e out : Envelope α π} (he : e.IsWellFormed)
    (h : (order g e).2 = some out) : out.IsWellFormed := by
  rw [order] at h
  repeat' split at h
  all_goals cases h
  all_goals exact he

/-- A report is well formed, whether a timer asks for it or someone else. -/
theorem isWellFormed_expire {g : SilenceGuard} {now : Instant} {out : Envelope α π}
    (h : (expire g now).2 = some out) : out.IsWellFormed := by
  rw [expire] at h
  dsimp only at h
  split at h <;> cases h
  exact Envelope.isWellFormed_failure now none _

theorem isWellFormed_check {g : SilenceGuard} {now : Instant} {out : Envelope α π}
    (h : (check g now).2 = some out) : out.IsWellFormed := by
  rw [check] at h
  split at h
  · cases h
  · exact isWellFormed_expire h

end Envelopes

namespace Fallback

/-- The chain with the envelopes of what it keeps. -/
def envelopes (f : Fallback α) : Envelopes.Fallback α String :=
  ⟨f.chain.map fun known => (known.1, known.2.map Signal.envelope)⟩

theorem sources_envelopes (f : Fallback α) : f.envelopes.chain.map Prod.fst = f.sources := by
  rw [envelopes, List.map_map]
  rfl

theorem store_envelopes (f : Fallback α) (source : String) (s : Signal α) :
    f.envelopes.store source s.envelope = (f.store source s).envelopes := by
  simp only [Envelopes.Fallback.store, envelopes, store, List.map_map]
  congr 2
  funext known
  by_cases h : known.1 = source
  · simp [h]
  · simp [h]

theorem isUsable_envelope (known : FallbackEntry α) :
    Envelopes.Fallback.isUsable (known.1, known.2.map Signal.envelope) = isUsable known := by
  obtain ⟨source, last?⟩ := known
  cases last? <;> rfl

theorem winner_envelopes (f : Fallback α) :
    (f.envelopes.chain.find? Envelopes.Fallback.isUsable).map Prod.fst = f.winner? := by
  have hp : Envelopes.Fallback.isUsable ∘ (fun known : FallbackEntry α =>
      (known.1, known.2.map Signal.envelope)) = isUsable := funext isUsable_envelope
  rw [envelopes, List.find?_map, hp, Option.map_map]
  rfl

theorem earliest?_envelopes (signals : List (Signal α)) :
    Envelopes.Fallback.earliest? (signals.map Signal.envelope) =
      (earliest? signals).map Signal.envelope := by
  induction signals with
  | nil => rfl
  | cons s rest ih =>
      rw [List.map_cons, Envelopes.Fallback.earliest?, earliest?, ih]
      cases earliest? rest with
      | none => rfl
      | some t =>
          dsimp only [Option.map_some]
          rw [apply_ite (Option.map Signal.envelope)]
          rfl

theorem oldestError?_envelopes (f : Fallback α) :
    f.envelopes.oldestError? = (earliest? f.failuresAhead).bind Signal.error? := by
  have hp : (fun known => !Envelopes.Fallback.isUsable known) ∘ (fun known : FallbackEntry α =>
      (known.1, known.2.map Signal.envelope)) = fun known => !isUsable known :=
    funext fun known => congrArg not (isUsable_envelope known)
  have hahead : ((f.envelopes.chain.takeWhile fun known =>
      !Envelopes.Fallback.isUsable known).filterMap Prod.snd) =
      f.failuresAhead.map Signal.envelope := by
    rw [envelopes, List.takeWhile_map, hp, List.filterMap_map, failuresAhead, List.map_filterMap]
    rfl
  rw [Envelopes.Fallback.oldestError?, hahead, earliest?_envelopes]
  cases earliest? f.failuresAhead <;> rfl

theorem process_envelopes (f : Fallback α) (s : Signal α) :
    f.envelopes.process s.envelope =
      ((f.process s).1.envelopes, (f.process s).2.map Signal.envelope) := by
  rw [Envelopes.Fallback.process, process, show s.envelope.payload? = s.source from rfl]
  cases s.source with
  | none => rfl
  | some source =>
      dsimp only
      rw [sources_envelopes]
      by_cases hknown : f.sources.contains source = true
      · rw [if_pos hknown, if_pos hknown, store_envelopes, winner_envelopes,
          oldestError?_envelopes, emit]
        cases (f.store source s).winner? with
        | none => rfl
        | some winner =>
            dsimp only
            by_cases hw : winner = source
            · rw [if_pos (by simpa using hw), if_pos hw]
              cases (earliest? (f.store source s).failuresAhead).bind Signal.error? with
              | none => rfl
              | some error => simp only [Option.map_some, Signal.envelope_degrade]
            · rw [if_neg (by simpa using hw), if_neg hw]
              rfl
      · rw [if_neg hknown, if_neg hknown]
        rfl

end Fallback

theorem sameValue_envelopes [BEq α] (a b : Signal α) :
    Envelopes.sameValue a.envelope b.envelope = sameValue a b := rfl

/-- The filter with the envelope of what it keeps, and with something that compares envelopes. -/
def RateLimiter.envelopes (r : RateLimiter α)
    (same : Envelope α String → Envelope α String → Bool) :
    Envelopes.RateLimiter α String := ⟨r.interval, same, r.last.map Signal.envelope⟩

theorem RateLimiter.process_envelopes (r : RateLimiter α)
    {same : Envelope α String → Envelope α String → Bool}
    (hsame : ∀ a b : Signal α, same a.envelope b.envelope = r.same a b) (s : Signal α) :
    (r.envelopes same).process s.envelope =
      ((r.process s).1.envelopes same, (r.process s).2.map Signal.envelope) := by
  have hdrops : ((r.envelopes same).last.any fun last =>
      decide (s.envelope.time.spanSince last.time < r.interval) && same last s.envelope) =
      r.drops s := by
    rw [envelopes, drops]
    cases r.last with
    | none => rfl
    | some last => exact congrArg (_ && ·) (hsame last s)
  rw [Envelopes.RateLimiter.process, process]
  show (if ((r.envelopes same).last.any fun last =>
      decide (s.envelope.time.spanSince last.time < r.interval) && same last s.envelope) = true
    then _ else _) = _
  rw [hdrops]
  split <;> rfl

theorem OrderGuard.process_envelopes (g : OrderGuard) (s : Signal α) :
    Envelopes.order g s.envelope = ((g.process s).1, (g.process s).2.map Signal.envelope) := by
  rw [Envelopes.order, process, show s.envelope.isFailed = s.isFailed from rfl,
    show s.envelope.time = s.time from rfl]
  split
  · rfl
  · split <;> rfl

theorem SilenceGuard.process_envelopes (g : SilenceGuard) (s : Signal α) :
    Envelopes.watch g s.envelope = ((g.process s).1, (g.process s).2.envelope) := rfl

theorem SilenceGuard.expire_envelopes (g : SilenceGuard) (now : Instant) :
    (Envelopes.expire g now : _ × Option (Envelope α String)) =
      let result : _ × Option (Signal α) := g.expire now
      (result.1, result.2.map Signal.envelope) := by
  rw [Envelopes.expire, expire]
  dsimp only
  split <;> rfl

theorem SilenceGuard.check_envelopes (g : SilenceGuard) (now : Instant) :
    (Envelopes.check g now : _ × Option (Envelope α String)) =
      let result : _ × Option (Signal α) := g.check now
      (result.1, result.2.map Signal.envelope) := by
  rw [Envelopes.check, check, SilenceGuard.expire_envelopes]
  dsimp only
  split <;> rfl

end HomeClimate
