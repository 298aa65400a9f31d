import HomeClimate.Proofs.House.Arbitration

/-!
# When the unit starts

The arbiter says after each status whether the unit is to start, and it remembers a number for
that: how many statuses of its table voted and called after the last one.  The number is what it
says it is (`Arbiter.IsCounted`), so that the unit is to start is a matter of the table before the
status and after it, and with that of the history: nobody had asked, and now somebody does
(`ZoneGroup.needsBump_iff`).

What is asked (`IsAsked`) is read off the last status of each zone.  A status of no zone of the
group is the last one of none, and neither is a change of a zone, so only a status that the
arbiter takes can make an end of it (`exists_silencing`).  Hence the unit does not start twice
unless such a status came in between.
-/

namespace HomeClimate

variable {ν : Type}

/-! ## What is asked -/

/-- Whether a zone that was heard last like this asks the unit to start. -/
def asksToStart (last : Option (Signal (ZoneStatus ν))) : Bool :=
  (last.bind Signal.value?).any fun status =>
    status.settings.isEnabled && status.settings.isVoting && status.calling.calling

/-- Some of these zones asked the unit to start when it was heard last. -/
def IsAsked (names : List String) (heard : List (Signal (ZoneStatus ν))) : Prop :=
  ∃ name ∈ names, asksToStart (latest? heard name) = true

instance (names : List String) (heard : List (Signal (ZoneStatus ν))) :
    Decidable (IsAsked names heard) :=
  inferInstanceAs (Decidable (∃ name ∈ names, asksToStart (latest? heard name) = true))

/-- A status is that of one of some zones. -/
def IsFrom (names : List String) (status : Signal (ZoneStatus ν)) : Prop :=
  ∃ name ∈ names, status.source = some name

/-- A status of another zone is none that counts. -/
theorem isAsked_concat_of_not_isFrom {names : List String} {status : Signal (ZoneStatus ν)}
    (h : ¬ IsFrom names status) (heard : List (Signal (ZoneStatus ν))) :
    IsAsked names (heard ++ [status]) ↔ IsAsked names heard := by
  refine exists_congr fun name => and_congr_right fun hname => ?_
  rw [latest?_concat, if_neg fun hsource => h ⟨name, hname, hsource⟩]

/-- Where somebody asks and nobody does in the end, a status came of one of the zones after which
nobody did. -/
theorem exists_silencing {names : List String} {heard : List (Signal (ZoneStatus ν))}
    (hasked : IsAsked names heard) {events : List (GroupEvent ν)}
    (hsilent : ¬ IsAsked names (heard ++ events.filterMap GroupEvent.status?)) :
    ∃ earlier status later, events = earlier ++ .status status :: later ∧ IsFrom names status ∧
      ¬ IsAsked names (heard ++ earlier.filterMap GroupEvent.status? ++ [status]) := by
  induction events generalizing heard with
  | nil =>
      rw [List.filterMap_nil, List.append_nil] at hsilent
      exact absurd hasked hsilent
  | cons event rest ih =>
      cases event with
      | change z =>
          obtain ⟨earlier, status, later, rfl, hfrom, hends⟩ := ih hasked hsilent
          exact ⟨.change z :: earlier, status, later, rfl, hfrom, hends⟩
      | status first =>
          by_cases hstill : IsAsked names (heard ++ [first])
          · rw [List.filterMap_cons, GroupEvent.status?_status, List.append_cons] at hsilent
            obtain ⟨earlier, status, later, rfl, hfrom, hends⟩ := ih hstill hsilent
            rw [List.append_assoc heard, List.singleton_append] at hends
            exact ⟨.status first :: earlier, status, later, rfl, hfrom, hends⟩
          · refine ⟨[], first, rest, rfl, ?_, ?_⟩
            · by_contra hother
              exact hstill ((isAsked_concat_of_not_isFrom hother heard).mpr hasked)
            · rw [List.filterMap_nil, List.append_nil]
              exact hstill

/-! ## What is counted -/

namespace Arbiter

/-- There is a vote if a status of the table asks for a start. -/
theorem votes_pos_iff (a : Arbiter ν) :
    0 < a.votes.length ↔ ∃ s ∈ a.statuses.values, asksToStart (some s) = true := by
  rw [List.length_pos_iff_exists_mem]
  constructor
  case mp =>
    rintro ⟨status, hstatus⟩
    obtain ⟨hasking, hvoting⟩ := List.mem_filter.mp hstatus
    obtain ⟨s, hs, hasked⟩ := List.mem_filterMap.mp hasking
    obtain ⟨hvalue, hasks⟩ := Option.filter_eq_some_iff.mp hasked
    obtain ⟨henabled, hcalling⟩ := Bool.and_eq_true_iff.mp hasks
    exact ⟨s, hs, by simp [asksToStart, hvalue, henabled, hvoting, hcalling]⟩
  case mpr =>
    rintro ⟨s, hs, hasks⟩
    obtain ⟨status, hvalue, hstatus⟩ := (Option.any_eq_true _ _).mp hasks
    obtain ⟨hmay, hcalling⟩ := Bool.and_eq_true_iff.mp hstatus
    obtain ⟨henabled, hvoting⟩ := Bool.and_eq_true_iff.mp hmay
    have hasked : asked? s = some status :=
      Option.filter_eq_some_iff.mpr ⟨hvalue, Bool.and_eq_true_iff.mpr ⟨henabled, hcalling⟩⟩
    exact ⟨status, List.mem_filter.mpr ⟨List.mem_filterMap.mpr ⟨s, hs, hasked⟩, hvoting⟩⟩

/-- The number that the arbiter remembers is that of the votes in its table. -/
def IsCounted (a : Arbiter ν) : Prop := a.lastCalling = a.votes.length

theorem isCounted_empty : (empty : Arbiter ν).IsCounted := rfl

theorem isCounted_record (a : Arbiter ν) (name : String) (status : Signal (ZoneStatus ν)) :
    (a.record name status).IsCounted := rfl

/-- The unit is to start if there was no vote and now there is one. -/
theorem IsCounted.needsBump_record {a : Arbiter ν} (h : a.IsCounted) (name : String)
    (status : Signal (ZoneStatus ν)) :
    (a.record name status).needsBump = true ↔
      ¬ 0 < a.votes.length ∧ 0 < (a.record name status).votes.length := by
  have hbump : (a.record name status).needsBump =
      (a.lastCalling == 0 && decide (0 < (a.record name status).votes.length)) := rfl
  rw [hbump, h, Bool.and_eq_true, beq_iff_eq, decide_eq_true_iff, Nat.not_lt, Nat.le_zero]

end Arbiter

namespace ZoneGroup

variable [Scalar ν]

omit [Scalar ν] in
/-- Whether there is a vote is a matter of the last status of each zone. -/
theorem Remembers.votes_pos_iff {g : ZoneGroup ν} {names : List String}
    {heard : List (Signal (ZoneStatus ν))} (h : g.Remembers names heard) :
    0 < g.arbiter.votes.length ↔ IsAsked names heard := by
  rw [Arbiter.votes_pos_iff]
  constructor
  case mp =>
    rintro ⟨s, hs, hasks⟩
    obtain ⟨⟨name, s'⟩, hentry, rfl⟩ := List.mem_map.mp hs
    have hget : g.arbiter.statuses.get? name = some s' := Table.get?_of_mem h.sorted.nodup hentry
    rw [h.statuses] at hget
    split at hget
    next hname => exact ⟨name, hname, by rw [hget]; exact hasks⟩
    next => cases hget
  case mpr =>
    rintro ⟨name, hname, hasks⟩
    cases hlast : latest? heard name with
    | none =>
        rw [hlast] at hasks
        cases hasks
    | some s =>
        rw [hlast] at hasks
        have hget : g.arbiter.statuses.get? name = some s := by
          rw [h.statuses, if_pos hname, hlast]
        exact ⟨s, List.mem_map.mpr ⟨_, Table.mem_of_get? hget, rfl⟩, hasks⟩

theorem isCounted_process {g : ZoneGroup ν} (h : g.arbiter.IsCounted)
    (status : Signal (ZoneStatus ν)) : (g.process status).1.arbiter.IsCounted := by
  by_cases hknown : ∃ name ∈ g.zones.keys, status.source = some name
  · obtain ⟨name, hmem, hsource⟩ := hknown
    rw [process_of_known hsource hmem]
    exact g.arbiter.isCounted_record name status
  · rw [process_of_unknown fun name hmem hsource => hknown ⟨name, hmem, hsource⟩]
    exact h

theorem isCounted_after {g : ZoneGroup ν} (h : g.arbiter.IsCounted) (events : List (GroupEvent ν)) :
    (g.after events).arbiter.IsCounted := by
  induction events generalizing g with
  | nil => exact h
  | cons event rest ih =>
      cases event with
      | status s => exact ih (isCounted_process h s)
      | change z => exact ih h

omit [Scalar ν] in
theorem isCounted_create {zones : List (Zone ν)} {g : ZoneGroup ν} (h : create zones = .ok g) :
    g.arbiter.IsCounted := by
  obtain ⟨table, -, h⟩ := Outcome.of_bind_eq_ok h
  cases h
  exact Arbiter.isCounted_empty

/-- After a status of one of its zones a group says that the unit is to start if nobody had asked
and now somebody does. -/
theorem needsBump_iff {g : ZoneGroup ν} {names : List String}
    {heard : List (Signal (ZoneStatus ν))} (h : g.Remembers names heard)
    (hcounted : g.arbiter.IsCounted) {status : Signal (ZoneStatus ν)} (hfrom : IsFrom names status) :
    (g.process status).1.arbiter.needsBump = true ↔
      ¬ IsAsked names heard ∧ IsAsked names (heard ++ [status]) := by
  obtain ⟨name, hname, hsource⟩ := hfrom
  have hnext := h.process status
  rw [process_of_known hsource ((h.keys name).mpr hname)] at hnext ⊢
  rw [hcounted.needsBump_record, h.votes_pos_iff]
  exact and_congr_right fun _ => hnext.votes_pos_iff

/-! ## Starts -/

/-- The unit is to start after a status of a zone of the group exactly if no zone that may vote had
asked for it before and one does after it, going by the last status of each; any other status does
nothing.  Between two statuses after which it is to start there is one after which no such zone
asks. -/
theorem unit_starts_when_asked {zones : List (Zone ν)} {g : ZoneGroup ν}
    (h : create zones = .ok g) (events : List (GroupEvent ν)) (status : Signal (ZoneStatus ν)) :
    let names := zones.map Zone.name
    let heard := events.filterMap GroupEvent.status?
    let group := g.after events
    (IsFrom names status →
      ((group.process status).1.arbiter.needsBump = true ↔
        ¬ IsAsked names heard ∧ IsAsked names (heard ++ [status]))) ∧
    (¬ IsFrom names status → group.process status = (group, none)) ∧
    ∀ (more : List (GroupEvent ν)) (later : Signal (ZoneStatus ν)),
      IsFrom names status → (group.process status).1.arbiter.needsBump = true →
      IsFrom names later →
      ((g.after (events ++ .status status :: more)).process later).1.arbiter.needsBump = true →
      ∃ earlier between rest, more = earlier ++ .status between :: rest ∧ IsFrom names between ∧
        ¬ IsAsked names
          (heard ++ [status] ++ earlier.filterMap GroupEvent.status? ++ [between]) := by
  intro names heard group
  obtain ⟨hstart, -⟩ := remembers_create h
  have hcounted := isCounted_create h
  have hgroup : group.Remembers names heard := hstart.after events
  have hstarts : IsFrom names status → ((group.process status).1.arbiter.needsBump = true ↔
      ¬ IsAsked names heard ∧ IsAsked names (heard ++ [status])) :=
    needsBump_iff hgroup (isCounted_after hcounted events)
  refine ⟨hstarts, ?_, ?_⟩
  · intro hother
    refine process_of_unknown fun name hmem hsource => ?_
    exact hother ⟨name, (hgroup.keys name).mp hmem, hsource⟩
  · intro more later hfrom hfirst hlater hsecond
    have hmore := hstart.after (events ++ .status status :: more)
    have hquiet := ((needsBump_iff hmore (isCounted_after hcounted _) hlater).mp hsecond).1
    refine exists_silencing ((hstarts hfrom).mp hfirst).2 ?_
    simpa [heard] using hquiet

/-- The den calls, then the attic too, and a cellar that the group does not know says that it is
happy.  Then the attic is happy, the den fails, and the attic calls again.  The unit is to start
when the den calls and when the attic calls again. -/
theorem unit_starts_when_asked_in_house :
    let reports (name : String) (calling : Bool) : Signal (ZoneStatus Rat) :=
      .healthy (.ofEpoch 0 0) ⟨{}, ⟨none, 1, calling⟩, none, none⟩ (some name)
    let fails (name : String) : Signal (ZoneStatus Rat) :=
      .failure (.ofEpoch 0 0) (some name) (.sensor "gone")
    let more : List (GroupEvent Rat) :=
      [.status (reports "attic" true), .status (reports "cellar" false),
       .status (reports "attic" false), .status (fails "den")]
    ∃ (den attic : Zone Rat) (g : ZoneGroup Rat), create [den, attic] = .ok g ∧
      [den, attic].map Zone.name = ["den", "attic"] ∧
      (g.process (reports "den" true)).1.arbiter.needsBump = true ∧
      ((g.after [.status (reports "den" true)]).process
        (reports "attic" true)).1.arbiter.needsBump = false ∧
      ((g.after (.status (reports "den" true) :: more)).process
        (reports "attic" true)).1.arbiter.needsBump = true ∧
      ∃ earlier between rest, more = earlier ++ .status between :: rest ∧
        ¬ IsAsked ["den", "attic"] (reports "den" true :: earlier.filterMap GroupEvent.status? ++
          [between]) := by
  intro reports fails more
  have hruns : Outcome.holds (do
      let thermostat ← Thermostat.create "den" (20 : Rat) .standard (PidSettings.ofGains 1 1 0 0)
      let den ← Zone.create thermostat {} none
      let thermostat ← Thermostat.create "attic" 20 .standard (PidSettings.ofGains 1 1 0 0)
      let attic ← Zone.create thermostat {} none
      let g ← create [den, attic]
      return (den, attic, g))
    (fun (den, attic, _) => den.name == "den" && attic.name == "attic") = true := by
    decide +kernel
  obtain ⟨⟨den, attic, g⟩, hbuilt, htest⟩ := Outcome.exists_of_holds hruns
  obtain ⟨_, -, hbuilt⟩ := Outcome.of_bind_eq_ok hbuilt
  obtain ⟨_, -, hbuilt⟩ := Outcome.of_bind_eq_ok hbuilt
  obtain ⟨_, -, hbuilt⟩ := Outcome.of_bind_eq_ok hbuilt
  obtain ⟨_, -, hbuilt⟩ := Outcome.of_bind_eq_ok hbuilt
  obtain ⟨_, hg, hbuilt⟩ := Outcome.of_bind_eq_ok hbuilt
  cases hbuilt
  simp only [Bool.and_eq_true, beq_iff_eq] at htest
  have hnames : [den, attic].map Zone.name = ["den", "attic"] := by simp [htest]
  have hden : IsFrom ["den", "attic"] (reports "den" true) := ⟨"den", by decide, rfl⟩
  have hattic : IsFrom ["den", "attic"] (reports "attic" true) := ⟨"attic", by decide, rfl⟩
  obtain ⟨hfirst, -, hbetween⟩ := unit_starts_when_asked hg [] (reports "den" true)
  obtain ⟨hsecond, -⟩ :=
    unit_starts_when_asked hg [.status (reports "den" true)] (reports "attic" true)
  obtain ⟨hthird, -⟩ :=
    unit_starts_when_asked hg (.status (reports "den" true) :: more) (reports "attic" true)
  rw [hnames] at hfirst hbetween hsecond hthird
  have hfirst := (hfirst hden).mpr (by decide +kernel)
  have hthird := (hthird hattic).mpr (by decide +kernel)
  simp only [List.nil_append] at hbetween
  obtain ⟨earlier, between, rest, hmore, -, hquiet⟩ :=
    hbetween more (reports "attic" true) hden hfirst hattic hthird
  refine ⟨den, attic, g, hg, hnames, hfirst, ?_, hthird, earlier, between, rest, hmore, hquiet⟩
  rw [← Bool.not_eq_true, hsecond hattic]
  decide +kernel

end ZoneGroup

end HomeClimate
