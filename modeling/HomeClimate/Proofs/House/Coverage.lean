import HomeClimate.Proofs.Filter.Preference
import HomeClimate.Proofs.House.Assembly
import HomeClimate.Proofs.Time.Elapsed

/-!
# What keeps a chain from reporting silence

A chain reports silence when nothing has come *out* of it for its timeout.  So a value
keeps it quiet for that long only if it gets through, and two filters stand in its way.

* The fallback filter lets it through if its source leads the chain when it comes.
* The order guard lets it through if it is later than the values before it.

`no_report_of_leading` says that this is enough: whatever readings came before it in
order of time, whatever comes after it, and whenever the chain is asked in between.  That
the source leads cannot be left out.  A source that fell silent after a value stays ahead
of all others, and then the chain reports silence although they deliver
(`reports_behind_silent_source`).  Nor can leap seconds be let in, since a difference of
times that ends in one may be longer than one that ends before it.
-/

namespace HomeClimate

variable {ν : Type}

/-- What can happen to a chain. -/
inductive ChainAct (ν : Type) where
  /-- It takes a reading. -/
  | take (reading : Signal ν)
  /-- It is asked about silence. -/
  | check (now : Instant)

namespace ChainAct

/-- The time of a reading, or the time at which the chain is asked. -/
def time : ChainAct ν → Instant
  | .take reading => reading.time
  | .check now => now

/-- The reading, if it is one. -/
def reading? : ChainAct ν → Option (Signal ν)
  | .take reading => some reading
  | .check _ => none

/-- The readings among some acts. -/
def readings (acts : List (ChainAct ν)) : List (Signal ν) := acts.filterMap reading?

@[simp] theorem readings_append (acts more : List (ChainAct ν)) :
    readings (acts ++ more) = readings acts ++ readings more :=
  List.filterMap_append

@[simp] theorem readings_cons_take (reading : Signal ν) (acts : List (ChainAct ν)) :
    readings (.take reading :: acts) = reading :: readings acts := rfl

@[simp] theorem readings_nil : readings ([] : List (ChainAct ν)) = [] := rfl

end ChainAct

/-! ## The silence guard -/

theorem SilenceGuard.lastSeen_check (g : SilenceGuard) (now : Instant) :
    (g.check now : SilenceGuard × Option (Signal ν)).1.lastSeen =
      if now.spanSince (g.lastSeen.getD now) < g.timeout then some (g.lastSeen.getD now)
      else some now := by
  rw [check]
  by_cases hspan : now.spanSince (g.lastSeen.getD now) < g.timeout
  · simp only [if_pos hspan]
  · simp only [if_neg hspan, expire]
    split <;> rfl

/-- A guard that has seen something less than its timeout ago has nothing to report. -/
theorem SilenceGuard.check_of_seen {g : SilenceGuard} {t now : Instant} (h : g.lastSeen = some t)
    (hspan : now.spanSince t < g.timeout) :
    (g.check now : SilenceGuard × Option (Signal ν)).2 = none := by
  rw [check, h]
  exact congrArg Prod.snd (if_pos hspan)

namespace SensorChain

variable [Scalar ν]

/-- The chain after an act. -/
def after (c : SensorChain ν) : ChainAct ν → SensorChain ν
  | .take reading => (c.process reading).1
  | .check now => (c.check now).1

/-- The chain after some acts. -/
def run (c : SensorChain ν) (acts : List (ChainAct ν)) : SensorChain ν := acts.foldl after c

@[simp] theorem run_nil (c : SensorChain ν) : c.run [] = c := rfl

@[simp] theorem run_cons (c : SensorChain ν) (act : ChainAct ν) (acts : List (ChainAct ν)) :
    c.run (act :: acts) = (c.after act).run acts := rfl

theorem run_append (c : SensorChain ν) (acts more : List (ChainAct ν)) :
    c.run (acts ++ more) = (c.run acts).run more :=
  List.foldl_append

/-! ## What a reading does to the filters -/

theorem fallback_process (c : SensorChain ν) (reading : Signal ν) :
    (c.process reading).1.fallback = (c.fallback.process reading).1 := by
  rw [process]
  cases c.fallback.process reading with
  | mk fallback picked =>
      cases picked with
      | none => rfl
      | some picked =>
          dsimp only
          cases c.order.process (c.median.process picked).2 with
          | mk order ordered => cases ordered <;> rfl

/-- The guards of a chain take note of a reading by its time, or not at all. -/
theorem guards_process (c : SensorChain ν) (reading : Signal ν) :
    ((c.process reading).1.order.last = c.order.last ∨
        (c.process reading).1.order.last = some reading.time) ∧
      ((c.process reading).1.silence = c.silence ∨
        (c.process reading).1.silence =
          { c.silence with lastSeen := some reading.time, inTimeout := false }) := by
  cases hp : c.process reading with
  | mk c' out =>
      cases out with
      | none =>
          obtain ⟨horder, hsilence⟩ := process_none hp
          exact ⟨.inl (congrArg OrderGuard.last horder), .inl hsilence⟩
      | some out =>
          have htime := time_of_process hp
          obtain ⟨hlast, hsilence⟩ := process_some hp
          rw [SilenceGuard.observe, htime] at hsilence
          refine ⟨?_, .inr hsilence⟩
          rcases hlast with ⟨-, hkept⟩ | ⟨-, hnew⟩
          · exact .inl hkept
          · exact .inr (hnew.trans (congrArg some htime))

/-- A value that gets past the fallback filter and is later than the values before it gets through
the chain, and the silence starts anew with it. -/
theorem lastSeen_process {c : SensorChain ν} {reading picked : Signal ν}
    (hpicked : (c.fallback.process reading).2 = some picked) (hvalue : picked.isFailed = false)
    (hafter : reading.time.IsAfter c.order.last) :
    (c.process reading).1.silence.lastSeen = some reading.time := by
  have hfallback : c.fallback.process reading = ((c.fallback.process reading).1, some picked) := by
    rw [← hpicked]
  have htime : picked.time = reading.time := Fallback.time_of_process hfallback
  have hsmooth : (c.median.process picked).2.isFailed = false := c.median.isFailed_process hvalue
  have hkept : c.order.drops reading.time = false := by
    rw [OrderGuard.drops]
    cases hlast : c.order.last with
    | none => rfl
    | some last => exact decide_eq_false (Instant.not_le.mpr (hafter last hlast))
  have horder : c.order.process (c.median.process picked).2 =
      (⟨some reading.time⟩, some (c.median.process picked).2) := by
    have hsame : (c.median.process picked).2.time = reading.time := htime
    rw [OrderGuard.process, hsmooth, hsame, hkept]
    rfl
  have hprocess : (c.process reading).1.silence = c.silence.observe (c.median.process picked).2 := by
    rw [process]
    cases hf : c.fallback.process reading with
    | mk fallback picked' =>
        rw [hf] at hpicked
        cases hpicked
        dsimp only
        rw [horder]
        rfl
  rw [hprocess]
  exact congrArg some htime

/-! ## What a chain knows of its past -/

/-- A chain of some sources and a timeout that has taken some readings: its fallback filter
remembers them, and the last time of its order guard is the time of one of them. -/
structure Follows (c : SensorChain ν) (sources : List String) (timeout : Span)
    (signals : List (Signal ν)) : Prop where
  remembers : c.fallback.Remembers sources signals
  order : ∀ t, c.order.last = some t → ∃ s ∈ signals, s.time = t
  patience : c.silence.timeout = timeout

variable {sources : List String} {timeout : Span} {signals : List (Signal ν)}

theorem follows_create {name : String} {config : SensorConfig} {c : SensorChain ν}
    (h : create name config = .ok c) :
    c.Follows config.sources (Span.millis config.timeoutMillis) [] := by
  have hpatience := (isNew_create h).timeout
  obtain ⟨fallback, hfallback, h⟩ := Outcome.of_bind_eq_ok h
  obtain ⟨median, -, h⟩ := Outcome.of_bind_eq_ok h
  obtain ⟨silence, -, h⟩ := Outcome.of_bind_eq_ok h
  cases h
  exact ⟨Fallback.remembers_create (Outcome.of_mapError_eq_ok hfallback), nofun, hpatience⟩

theorem Follows.process {c : SensorChain ν} (h : c.Follows sources timeout signals)
    (reading : Signal ν) :
    (c.process reading).1.Follows sources timeout (signals ++ [reading]) := by
  obtain ⟨horder, hsilence⟩ := c.guards_process reading
  refine ⟨c.fallback_process reading ▸ h.remembers.process reading, fun t ht => ?_, ?_⟩
  · rcases horder with hkept | hnew
    · obtain ⟨s, hs, rfl⟩ := h.order t (hkept.symm.trans ht)
      exact ⟨s, List.mem_append_left _ hs, rfl⟩
    · refine ⟨reading, by simp, ?_⟩
      exact Option.some.inj (hnew.symm.trans ht)
  · rcases hsilence with hkept | hnew
    · rw [hkept]
      exact h.patience
    · rw [hnew]
      exact h.patience

omit [Scalar ν] in
theorem Follows.check {c : SensorChain ν} (h : c.Follows sources timeout signals) (now : Instant) :
    (c.check now).1.Follows sources timeout signals :=
  ⟨h.remembers, h.order, (c.silence.check_rest now).2.trans h.patience⟩

theorem Follows.run {c : SensorChain ν} (h : c.Follows sources timeout signals)
    (acts : List (ChainAct ν)) :
    (c.run acts).Follows sources timeout (signals ++ ChainAct.readings acts) := by
  induction acts generalizing c signals with
  | nil => simpa using h
  | cons act rest ih =>
      cases act with
      | take reading => simpa [after] using ih (h.process reading)
      | check now => exact ih (h.check now)

/-! ## How long ago something came out -/

/-- The silence of a chain did not begin before a time. -/
def SeenSince (c : SensorChain ν) (t : Instant) : Prop :=
  ∃ s, c.silence.lastSeen = some s ∧ s.IsPlain ∧ t ≤ s

omit [Scalar ν] in
/-- To be asked about silence moves its beginning only forward. -/
theorem SeenSince.check {c : SensorChain ν} {t now : Instant} (h : c.SeenSince t)
    (htimeout : 0 < c.silence.timeout) (hnow : now.IsPlain) : (c.check now).1.SeenSince t := by
  obtain ⟨s, hs, hplain, hle⟩ := h
  have hseen : (c.check now).1.silence.lastSeen = _ := c.silence.lastSeen_check now
  rw [hs, Option.getD_some] at hseen
  by_cases hspan : now.spanSince s < c.silence.timeout
  · rw [if_pos hspan] at hseen
    exact ⟨s, hseen, hplain, hle⟩
  · rw [if_neg hspan] at hseen
    refine ⟨now, hseen, hnow, Instant.le_trans hle ?_⟩
    have hpositive : 0 < now.spanSince s := Nat.lt_of_lt_of_le htimeout (Nat.le_of_not_lt hspan)
    rw [Instant.spanSince, hnow.since_eq hplain, Span.ofDifference, Int.lt_toNat] at hpositive
    exact (hplain.le_iff hnow).mpr (by omega)

theorem SeenSince.process {c : SensorChain ν} {t : Instant} (h : c.SeenSince t)
    {reading : Signal ν} (hplain : reading.time.IsPlain) (hlater : t ≤ reading.time) :
    (c.process reading).1.SeenSince t := by
  rcases (c.guards_process reading).2 with hkept | hnew
  · rw [SeenSince, hkept]
    exact h
  · rw [SeenSince, hnew]
    exact ⟨reading.time, rfl, hplain, hlater⟩

theorem SeenSince.run {c : SensorChain ν} {t : Instant} {acts : List (ChainAct ν)}
    (h : c.SeenSince t) (hfollows : c.Follows sources timeout signals) (htimeout : 0 < timeout)
    (hplain : ∀ act ∈ acts, act.time.IsPlain)
    (hlater : ∀ reading ∈ ChainAct.readings acts, t ≤ reading.time) : (c.run acts).SeenSince t := by
  induction acts generalizing c signals with
  | nil => exact h
  | cons act rest ih =>
      have hact := hplain act List.mem_cons_self
      have hrest : ∀ act ∈ rest, act.time.IsPlain :=
        fun act hmem => hplain act (List.mem_cons_of_mem _ hmem)
      cases act with
      | take reading =>
          rw [ChainAct.readings_cons_take] at hlater
          have hseen := h.process hact (hlater reading List.mem_cons_self)
          exact ih hseen (hfollows.process reading) hrest
            fun reading hmem => hlater reading (List.mem_cons_of_mem _ hmem)
      | check now =>
          have hseen := h.check (hfollows.patience ▸ htimeout) hact
          exact ih hseen (hfollows.check now) hrest hlater

/-! ## Coverage -/

/-- A chain does not report silence as long as its timeout has not passed since a value whose source
led the chain when it came, whatever came from other sources since. -/
theorem no_report_of_leading {name : String} {config : SensorConfig} {c : SensorChain ν}
    (hcreate : create name config = .ok c) {before later : List (ChainAct ν)}
    {reading : Signal ν} {source : String} {now : Instant}
    (hplain : ∀ act ∈ before ++ .take reading :: later, act.time.IsPlain)
    (hnow : now.IsPlain)
    (hsorted : (ChainAct.readings (before ++ .take reading :: later)).Pairwise
      (·.time < ·.time))
    (hsource : reading.source = some source) (hmem : source ∈ config.sources)
    (hvalue : reading.isFailed = false)
    (hleads : Leads source config.sources (ChainAct.readings before))
    (hrecent : now.spanSince reading.time < Span.millis config.timeoutMillis) :
    ((c.run (before ++ .take reading :: later)).check now).2 = none := by
  have hpatient : 0 < Span.millis config.timeoutMillis :=
    (isNew_create hcreate).timeout ▸ (isNew_create hcreate).isPatient
  simp only [ChainAct.readings_append, ChainAct.readings_cons_take, List.pairwise_append,
    List.pairwise_cons, List.mem_cons] at hsorted
  obtain ⟨-, ⟨hlater, -⟩, hearlier⟩ := hsorted
  have hbefore := (follows_create hcreate).run before
  rw [List.nil_append] at hbefore
  -- the reading gets through
  obtain ⟨picked, hpicked, hpicked'⟩ := hbefore.remembers.passes hsource hmem hvalue hleads
  have hseen := lastSeen_process hpicked hpicked' fun t ht => by
    obtain ⟨s, hs, rfl⟩ := hbefore.order t ht
    exact hearlier s hs reading (.inl rfl)
  -- and the silence does not begin earlier than that from then on
  have hreading : reading.time.IsPlain := hplain (.take reading) (by simp)
  have hsince : ((c.run before).process reading).1.SeenSince reading.time :=
    ⟨reading.time, hseen, hreading, Instant.le_refl _⟩
  have hfollows := hbefore.process reading
  have hlaterPlain : ∀ act ∈ later, act.time.IsPlain := fun act hact => hplain act (by simp [hact])
  obtain ⟨s, hs, hsplain, hle⟩ := hsince.run hfollows hpatient hlaterPlain
    fun s hs => Instant.le_of_lt (hlater s hs)
  rw [run_append, run_cons, after]
  refine SilenceGuard.check_of_seen hs ?_
  rw [(hfollows.run later).patience]
  exact Nat.lt_of_le_of_lt (Instant.spanSince_le hnow hreading hsplain hle) hrecent

/-- The sensor on the wall has failed, and the one on the ceiling covers for it. -/
theorem no_report_of_ceiling :
    let config : SensorConfig := { sources := ["wall", "ceiling"], timeoutMillis := 60000 }
    let wall : Signal Rat := .failure (.ofEpoch 0 0) (some "wall") (.sensor "broken")
    let ceiling : Signal Rat := .healthy (.ofEpoch 50 0) 22 (some "ceiling")
    let now : Instant := .ofEpoch 100 0
    ∃ c : SensorChain Rat, create "den" config = .ok c ∧
      Leads "ceiling" config.sources [wall] ∧
      now.spanSince ceiling.time < Span.millis config.timeoutMillis ∧
      ((c.run ([.take wall] ++ .take ceiling :: [.check (.ofEpoch 90 0)])).check now).2 = none := by
  intro config wall ceiling now
  have hcreate : Outcome.holds (create (ν := Rat) "den" config) (fun _ => true) = true := by
    decide +kernel
  obtain ⟨c, hc, -⟩ := Outcome.exists_of_holds hcreate
  have hleads : Leads "ceiling" config.sources [wall] := by
    intro ahead hahead s hs
    have hwall : ahead = "wall" := by simpa [config] using hahead
    subst hwall
    have hlast : s = wall := by simpa [lastFrom?, wall, Signal.failure, eq_comm] using hs
    rw [hlast]
    rfl
  have hrecent : now.spanSince ceiling.time < Span.millis config.timeoutMillis := by
    decide +kernel
  refine ⟨c, hc, hleads, hrecent, ?_⟩
  refine no_report_of_leading hc ?_ (by decide +kernel) ?_ rfl (by decide) rfl hleads hrecent
  · intro act hact
    simp only [List.cons_append, List.nil_append, List.mem_cons, List.not_mem_nil, or_false] at hact
    rcases hact with rfl | rfl | rfl <;> decide +kernel
  · simp only [List.cons_append, List.nil_append, ChainAct.readings_cons_take]
    refine List.pairwise_cons.mpr ⟨fun s hs => ?_, List.pairwise_singleton _ _⟩
    rw [List.mem_singleton.mp hs]
    decide +kernel

/-- Without that: the sensor on the wall gave a value and fell silent, and a minute later the chain
reports silence although the one on the ceiling gave a value ten seconds ago.  And with a leap
second: the only sensor gave values at 59.9 and, in the leap second, at 60.0, and at 00.05 of the
next minute the chain that is patient for a second reports silence. -/
theorem reports_behind_silent_source :
    (let config : SensorConfig := { sources := ["wall", "ceiling"], timeoutMillis := 60000 }
     let wall : Signal Rat := .healthy (.ofEpoch 0 0) 21 (some "wall")
     let ceiling : Signal Rat := .healthy (.ofEpoch 50 0) 22 (some "ceiling")
     let now : Instant := .ofEpoch 60 0
     ∃ c : SensorChain Rat, create "den" config = .ok c ∧ wall.time < ceiling.time ∧
       ceiling.time ≤ now ∧ now.spanSince ceiling.time < Span.millis config.timeoutMillis ∧
       ((c.run [.take wall, .take ceiling]).check now).2.map Signal.error? =
         some (some (.timeout "den" (Span.seconds 60)))) ∧
    (let config : SensorConfig := { sources := ["wall"], timeoutMillis := 1000 }
     let wall : Signal Rat := .healthy ⟨0, ⟨59, 900000000⟩⟩ 21 (some "wall")
     let leap : Signal Rat := .healthy ⟨0, ⟨59, 1000000000⟩⟩ 21 (some "wall")
     let now : Instant := ⟨0, ⟨60, 50000000⟩⟩
     ∃ c : SensorChain Rat, create "den" config = .ok c ∧ wall.time < leap.time ∧
       leap.time ≤ now ∧ now.spanSince wall.time < Span.millis config.timeoutMillis ∧
       ((c.run [.take wall, .take leap]).check now).2.map Signal.error? =
         some (some (.timeout "den" (Span.seconds 1)))) := by
  constructor
  · intro config wall ceiling now
    have hruns : Outcome.holds (create (ν := Rat) "den" config) (fun c =>
        ((c.run [.take wall, .take ceiling]).check now).2.map Signal.error? ==
          some (some (.timeout "den" (Span.seconds 60)))) = true := by decide +kernel
    obtain ⟨c, hc, hreport⟩ := Outcome.exists_of_holds hruns
    exact ⟨c, hc, by decide +kernel, by decide +kernel, by decide +kernel, by simpa using hreport⟩
  · intro config wall leap now
    have hruns : Outcome.holds (create (ν := Rat) "den" config) (fun c =>
        ((c.run [.take wall, .take leap]).check now).2.map Signal.error? ==
          some (some (.timeout "den" (Span.seconds 1)))) = true := by decide +kernel
    obtain ⟨c, hc, hreport⟩ := Outcome.exists_of_holds hruns
    exact ⟨c, hc, by decide +kernel, by decide +kernel, by decide +kernel, by simpa using hreport⟩

end SensorChain

end HomeClimate
