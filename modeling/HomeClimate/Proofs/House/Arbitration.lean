import HomeClimate.House.Unit
import HomeClimate.Proofs.House.CallingUnit
import HomeClimate.Zone.Group

/-!
# Votes and pushes

Demands are read as exact numbers here, and of any sign.

What the arbiter makes of all statuses depends on two sums.  Each zone of the group adds
its *share*: the demand of the last status that it gave, if that one has not failed and
is of a zone that is enabled and calls, and nothing otherwise.  The *total* is the sum
of all shares and the *vote* is the sum of the shares of those that vote.  Both are read
off the history alone; the table of the arbiter is no part of them.

* The demand is zero, the vote, or the total.
* Where the vote is not zero, the demand has its sign and is no smaller.
* Where the vote is zero although some zone could vote, the demand is zero.
* Where the vote is zero and no zone could vote, the demand is the total.

`IsFair` says this of a demand.  The statuses are those of the past, but who could vote
is read off the settings of the moment, so no relation between the two is assumed: the
zones may change in any way between two statuses.

A unit then starts only in the direction of the vote, or if no zone could vote.
-/

namespace HomeClimate

variable {ν : Type} [Scalar ν]

/-! ## History -/

/-- What happens to a group of zones. -/
inductive GroupEvent (ν : Type) where
  /-- A status arrives, of whatever zone. -/
  | status (status : Signal (ZoneStatus ν))
  /-- A zone of the group is not what it was. -/
  | change (zone : Zone ν)

/-- The status that arrived, if it was one. -/
def GroupEvent.status? : GroupEvent ν → Option (Signal (ZoneStatus ν))
  | .status s => some s
  | .change _ => none

omit [Scalar ν] in
@[simp] theorem GroupEvent.status?_status (s : Signal (ZoneStatus ν)) :
    (GroupEvent.status s).status? = some s := rfl

omit [Scalar ν] in
@[simp] theorem GroupEvent.status?_change (z : Zone ν) : (GroupEvent.change z).status? = none := rfl

/-- The last status of a zone among those that were heard. -/
def latest? (heard : List (Signal (ZoneStatus ν))) (name : String) :
    Option (Signal (ZoneStatus ν)) :=
  (heard.filter fun s => s.source == some name).getLast?

omit [Scalar ν] in
@[simp] theorem latest?_nil (name : String) :
    latest? ([] : List (Signal (ZoneStatus ν))) name = none := rfl

omit [Scalar ν] in
theorem latest?_concat (heard : List (Signal (ZoneStatus ν))) (s : Signal (ZoneStatus ν))
    (name : String) :
    latest? (heard ++ [s]) name = if s.source = some name then some s else latest? heard name := by
  by_cases h : s.source = some name <;> simp [latest?, List.filter_append, h]

/-- What the last status of a zone adds to a sum of those that count. -/
def share (counts : ZoneStatus Rat → Bool) (last : Option (Signal (ZoneStatus Rat))) : Rat :=
  match last.bind Signal.value? with
  | some s =>
    if s.settings.isEnabled && s.calling.calling && counts s then s.calling.demand else 0
  | none => 0

/-- The sum of what some zones ask for, of those statuses that count. -/
def sharesOf (counts : ZoneStatus Rat → Bool) (names : List String)
    (heard : List (Signal (ZoneStatus Rat))) : Rat :=
  Scalar.sum (names.map fun name => share counts (latest? heard name))

/-- The sum of what all zones ask for. -/
def totalOf (names : List String) (heard : List (Signal (ZoneStatus Rat))) : Rat :=
  sharesOf (fun _ => true) names heard

/-- The sum of what those ask for that vote. -/
def voteOf (names : List String) (heard : List (Signal (ZoneStatus Rat))) : Rat :=
  sharesOf (fun s => s.settings.isVoting) names heard

/-! ## Arbitration -/

/-- A demand that follows a vote, and a total as far as the vote goes the same way. -/
structure IsFair (total vote : Rat) (mayVote : Prop) (demand : Rat) : Prop where
  among : demand = 0 ∨ demand = vote ∨ demand = total
  pos_iff : vote ≠ 0 → (0 < demand ↔ 0 < vote)
  neg_iff : vote ≠ 0 → (demand < 0 ↔ vote < 0)
  abs_le : vote ≠ 0 → |vote| ≤ |demand|
  withheld : vote = 0 → mayVote → demand = 0
  unopposed : vote = 0 → ¬ mayVote → demand = total

theorem Scalar.abs_eq_abs (x : Rat) : Scalar.abs x = |x| := by
  change (if x < 0 then -x else x) = |x|
  split_ifs with h
  · exact (abs_of_neg h).symm
  · exact (abs_of_nonneg (not_lt.mp h)).symm

theorem arbitrate_isFair (total vote : Rat) (voters : Nat) :
    IsFair total vote (0 < voters) (arbitrate total vote voters) := by
  by_cases hvote : vote = 0
  · subst hvote
    by_cases hvoters : 0 < voters
    · have hzero : arbitrate total 0 voters = 0 := by simp [arbitrate, hvoters]
      rw [hzero]
      constructor <;> simp [hvoters]
    · have htotal : arbitrate total 0 voters = total := by
        by_cases ht : total = 0
        · simp [arbitrate, hvoters, Scalar.abs_eq_abs, ht]
        · simp [arbitrate, hvoters, Scalar.abs_eq_abs, ht]
      rw [htotal]
      constructor <;> simp [hvoters]
  · have hne : (vote == 0) = false := by simpa using hvote
    by_cases hpush : 0 ≤ vote * total ∧ |vote| < |total|
    · have htotal : arbitrate total vote voters = total := by
        simp [arbitrate, hne, Scalar.abs_eq_abs, hpush]
      -- The total is no smaller than a vote that is not zero, so it is not zero either, and a
      -- product that is not below zero says that the two have one sign.
      have hnonzero : total ≠ 0 := abs_pos.mp (lt_of_le_of_lt (abs_nonneg vote) hpush.2)
      have hpos : 0 < vote * total := lt_of_le_of_ne hpush.1 (mul_ne_zero hvote hnonzero).symm
      rw [htotal]
      refine ⟨by simp, fun _ => ?_, fun _ => ?_, fun _ => hpush.2.le, by simp [hvote],
        by simp [hvote]⟩
      · exact (pos_iff_pos_of_mul_pos hpos).symm
      · exact (neg_iff_neg_of_mul_pos hpos).symm
    · have hown : arbitrate total vote voters = vote := by
        simp only [arbitrate, hne, Scalar.abs_eq_abs]
        simpa using fun h h' => absurd ⟨h, h'⟩ hpush
      rw [hown]
      constructor <;> simp [hvote]

omit [Scalar ν] in
theorem countVoters_pos_iff {settings : List (ZoneSettings ν)} :
    0 < Arbiter.countVoters settings ↔ ∃ s ∈ settings, s.isEnabled = true ∧ s.isVoting = true := by
  simp [Arbiter.countVoters, List.length_pos_iff_exists_mem]

/-! ## The table of the arbiter -/

theorem share_some (counts : ZoneStatus Rat → Bool) (s : Signal (ZoneStatus Rat)) :
    share counts (some s) =
      ((Arbiter.asked? s).filter counts).elim 0 fun status => status.calling.demand := by
  cases hv : s.value? with
  | none => simp [share, Arbiter.asked?, hv]
  | some status =>
      cases hasks : status.settings.isEnabled && status.calling.calling <;>
        cases hc : counts status <;>
          simp [share, Arbiter.asked?, hv, hasks, hc, Option.filter]

/-- The sum over what the arbiter picks out is the sum of the shares. -/
theorem sumDemand_filter_asked (counts : ZoneStatus Rat → Bool)
    (signals : List (Signal (ZoneStatus Rat))) :
    Arbiter.sumDemand ((signals.filterMap Arbiter.asked?).filter counts) =
      Scalar.sum (signals.map fun s => share counts (some s)) := by
  rw [Arbiter.sumDemand]
  induction signals with
  | nil => rfl
  | cons s rest ih =>
      cases ha : Arbiter.asked? s with
      | none => simpa [share_some, ha, Scalar.sum_cons] using ih
      | some status =>
          cases hc : counts status <;>
            simpa [share_some, ha, hc, Option.filter, Scalar.sum_cons] using ih

/-- Zones that gave no status add nothing. -/
theorem sum_share_filterMap (counts : ZoneStatus Rat → Bool)
    (last : String → Option (Signal (ZoneStatus Rat))) (names : List String) :
    Scalar.sum ((names.filterMap last).map fun s => share counts (some s)) =
      Scalar.sum (names.map fun name => share counts (last name)) := by
  induction names with
  | nil => rfl
  | cons name rest ih =>
      cases hl : last name with
      | none => simpa [hl, share, Scalar.sum_cons] using ih
      | some s => simpa [hl, Scalar.sum_cons] using ih

namespace ZoneGroup

/-- Whether some zone could vote at the moment. -/
def MayVote (g : ZoneGroup ν) : Prop :=
  ∃ e ∈ g.zones, e.2.settings.isEnabled = true ∧ e.2.settings.isVoting = true

/-- The group after an event. -/
def step (g : ZoneGroup ν) : GroupEvent ν → ZoneGroup ν
  | .status s => (g.process s).1
  | .change z => g.setZone z

/-- The group after some events. -/
def after (g : ZoneGroup ν) (events : List (GroupEvent ν)) : ZoneGroup ν := events.foldl step g

/-- The group has zones of these names, and the last status of each of them. -/
structure Remembers (names : List String) (heard : List (Signal (ZoneStatus ν)))
    (g : ZoneGroup ν) : Prop where
  keys : ∀ name, name ∈ g.zones.keys ↔ name ∈ names
  sorted : Table.Sorted g.arbiter.statuses
  statuses : ∀ name, g.arbiter.statuses.get? name = if name ∈ names then latest? heard name else none

omit [Scalar ν] in
theorem has_settings (zones : Zones ν) (name : String) :
    zones.settings.has name = true ↔ name ∈ zones.keys := by
  rw [Table.has_iff]
  simp [Zones.settings, Table.keys]

theorem process_of_known {g : ZoneGroup ν} {status : Signal (ZoneStatus ν)} {name : String}
    (hsource : status.source = some name) (hknown : name ∈ g.zones.keys) :
    g.process status = (⟨g.zones, g.arbiter.record name status⟩,
      some (.healthy status.time
        ⟨(g.arbiter.record name status).demand g.zones.settings.values, none⟩)) := by
  simp [process, Arbiter.process, hsource, (has_settings g.zones name).mpr hknown]

theorem process_of_unknown {g : ZoneGroup ν} {status : Signal (ZoneStatus ν)}
    (hunknown : ∀ name ∈ g.zones.keys, status.source ≠ some name) :
    g.process status = (g, none) := by
  cases hsource : status.source with
  | none => simp [process, Arbiter.process, hsource]
  | some name =>
      have hnot : g.zones.settings.has name = false := by
        rw [← Bool.not_eq_true, has_settings]
        exact fun hmem => hunknown name hmem hsource
      simp [process, Arbiter.process, hsource, hnot]

theorem Remembers.process {g : ZoneGroup ν} {names : List String}
    {heard : List (Signal (ZoneStatus ν))} (h : g.Remembers names heard)
    (status : Signal (ZoneStatus ν)) :
    (g.process status).1.Remembers names (heard ++ [status]) := by
  by_cases hknown : ∃ name ∈ g.zones.keys, status.source = some name
  · obtain ⟨name, hmem, hsource⟩ := hknown
    rw [process_of_known hsource hmem]
    refine ⟨h.keys, Table.sorted_insert h.sorted name status, fun other => ?_⟩
    have hnames := (h.keys name).mp hmem
    simp only [Arbiter.record, Table.get?_insert, h.statuses, latest?_concat, hsource]
    by_cases heq : name = other
    · subst heq
      simp [hnames]
    · simp [heq]
  · have hunknown : ∀ name ∈ g.zones.keys, status.source ≠ some name :=
      fun name hmem hsource => hknown ⟨name, hmem, hsource⟩
    rw [process_of_unknown hunknown]
    refine ⟨h.keys, h.sorted, fun name => ?_⟩
    rw [h.statuses, latest?_concat]
    split_ifs with hmem hsource
    · exact absurd hsource (hunknown name ((h.keys name).mpr hmem))
    · rfl
    · rfl

omit [Scalar ν] in
theorem Remembers.setZone {g : ZoneGroup ν} {names : List String}
    {heard : List (Signal (ZoneStatus ν))} (h : g.Remembers names heard) (z : Zone ν) :
    (g.setZone z).Remembers names heard :=
  ⟨by simpa [ZoneGroup.setZone] using h.keys, h.sorted, h.statuses⟩

/-- The group remembers the last statuses after whatever happened. -/
theorem Remembers.after {g : ZoneGroup ν} {names : List String}
    {heard : List (Signal (ZoneStatus ν))} (h : g.Remembers names heard)
    (events : List (GroupEvent ν)) :
    (g.after events).Remembers names (heard ++ events.filterMap GroupEvent.status?) := by
  induction events generalizing g heard with
  | nil => simpa [ZoneGroup.after] using h
  | cons event rest ih =>
      cases event with
      | status s => simpa [ZoneGroup.after, step] using ih (h.process s)
      | change z => simpa [ZoneGroup.after, step, List.filterMap_cons] using ih (h.setZone z)

omit [Scalar ν] in
theorem remembers_create {zones : List (Zone ν)} {g : ZoneGroup ν} (h : create zones = .ok g) :
    g.Remembers (zones.map Zone.name) [] ∧ (zones.map Zone.name).Nodup := by
  obtain ⟨table, htable, h⟩ := Outcome.of_bind_eq_ok h
  obtain ⟨hnodup, hkeys⟩ := Zones.names_create htable
  cases h
  refine ⟨⟨hkeys, Table.sorted_nil, fun name => ?_⟩, hnodup⟩
  simp [Arbiter.empty, Table.get?]

/-- The sum over the table is the sum over the zones. -/
theorem Remembers.sum_shares {g : ZoneGroup Rat} {names : List String}
    {heard : List (Signal (ZoneStatus Rat))} (h : g.Remembers names heard) (hnames : names.Nodup)
    (counts : ZoneStatus Rat → Bool) :
    Arbiter.sumDemand (g.arbiter.asking.filter counts) = sharesOf counts names heard := by
  have hsub : g.arbiter.statuses.keys ⊆ names := by
    intro name hmem
    obtain ⟨s, hs⟩ := Table.exists_get? hmem
    by_contra hnot
    simp [h.statuses, hnot] at hs
  have hperm := Table.perm_values h.sorted.nodup hnames hsub
  have hlast : ∀ name ∈ names, share counts (g.arbiter.statuses.get? name) =
      share counts (latest? heard name) := by
    intro name hmem
    simp [h.statuses, hmem]
  rw [Arbiter.asking, sumDemand_filter_asked, ← Scalar.sum_eq_of_perm (hperm.map _),
    sum_share_filterMap, List.map_congr_left hlast, sharesOf]

theorem Remembers.isFair {g : ZoneGroup Rat} {names : List String}
    {heard : List (Signal (ZoneStatus Rat))} (h : g.Remembers names heard) (hnames : names.Nodup) :
    IsFair (totalOf names heard) (voteOf names heard) g.MayVote
      (g.arbiter.demand g.zones.settings.values) := by
  have htotal := h.sum_shares hnames fun _ => true
  have hvote := h.sum_shares hnames fun s => s.settings.isVoting
  have hmay : 0 < Arbiter.countVoters g.zones.settings.values ↔ g.MayVote := by
    rw [countVoters_pos_iff]
    simp [MayVote, Zones.settings, Table.values]
  have hfair := arbitrate_isFair (Arbiter.sumDemand g.arbiter.asking)
    (Arbiter.sumDemand g.arbiter.votes) (Arbiter.countVoters g.zones.settings.values)
  rw [List.filter_true] at htotal
  rw [totalOf, voteOf, ← htotal, ← hvote, ← propext hmay]
  exact hfair

end ZoneGroup

/-! ## Commands -/

theorem unitCommand_zero (mode : Mode) (time : Instant) :
    unitCommand mode (.healthy time (⟨0, none⟩ : UnitDemand Rat)) = .off (some mode) := by
  have hfraction : Scalar.fraction (0 : Rat) = 0 := by decide
  cases mode <;> simp [unitCommand, Signal.healthy, Signal.value?, Health.value?, demandFor,
    hfraction, fanSpeedFor, Command.off]

theorem unitCommand_pos_iff (mode : Mode) (time : Instant) (demand : Rat) :
    0 < (unitCommand mode (.healthy time ⟨demand, none⟩)).demand ↔ 0 < demandFor mode demand := by
  simp [unitCommand, Signal.healthy, Signal.value?, Health.value?, Scalar.fraction_pos]

/-- A fair demand starts a unit if the vote does, or if no zone could vote and the total does. -/
theorem IsFair.starts_iff {total vote demand : Rat} {mayVote : Prop}
    (h : IsFair total vote mayVote demand) (mode : Mode) :
    0 < demandFor mode demand ↔
      0 < demandFor mode vote ∨ vote = 0 ∧ ¬ mayVote ∧ 0 < demandFor mode total := by
  by_cases hvote : vote = 0
  · subst hvote
    have hnone : ¬ 0 < demandFor mode (0 : Rat) := by cases mode <;> simp [demandFor]
    by_cases hmay : mayVote
    · simp [h.withheld rfl hmay, hnone, hmay]
    · simp [h.unopposed rfl hmay, hnone, hmay]
  · cases mode with
    | cooling => simpa [demandFor, hvote] using h.pos_iff hvote
    | heating => simpa [demandFor, hvote] using h.neg_iff hvote

namespace ZoneGroup

/-- A status of a zone of the group makes a demand that is fair to the vote, whatever happened
before, and so does the command that is made of it.  A status of any other zone does nothing. -/
theorem process_follows_vote {zones : List (Zone Rat)} {g : ZoneGroup Rat}
    (h : create zones = .ok g) (events : List (GroupEvent Rat)) (status : Signal (ZoneStatus Rat)) :
    let names := zones.map Zone.name
    let heard := events.filterMap GroupEvent.status? ++ [status]
    let total := totalOf names heard
    let vote := voteOf names heard
    let group := g.after events
    (∀ name ∈ names, status.source = some name → ∃ demand,
      (group.process status).2 = some (.healthy status.time ⟨demand, none⟩) ∧
      IsFair total vote group.MayVote demand ∧
      ∀ mode, let command := unitCommand mode (.healthy status.time ⟨demand, none⟩)
        (vote = 0 → group.MayVote → command.demand = 0 ∧ command.fanSpeed = 0) ∧
        (0 < command.demand ↔ 0 < demandFor mode vote ∨
          vote = 0 ∧ ¬ group.MayVote ∧ 0 < demandFor mode total)) ∧
    ((∀ name ∈ names, status.source ≠ some name) → group.process status = (group, none)) := by
  intro names heard total vote group
  obtain ⟨hstart, hnames⟩ := remembers_create h
  have hgroup : group.Remembers names (events.filterMap GroupEvent.status?) := by
    simpa using hstart.after events
  constructor
  · intro name hmem hsource
    have hprocess := process_of_known hsource ((hgroup.keys name).mpr hmem)
    have hfair := (hgroup.process status).isFair hnames
    rw [hprocess] at hfair ⊢
    refine ⟨_, rfl, hfair, fun mode => ⟨fun hvote hmay => ?_, ?_⟩⟩
    · rw [hfair.withheld hvote hmay, unitCommand_zero]
      exact ⟨rfl, rfl⟩
    · rw [unitCommand_pos_iff]
      exact hfair.starts_iff mode
  · intro hunknown
    exact process_of_unknown fun name hmem => hunknown name ((hgroup.keys name).mp hmem)

/-- A den that votes is happy and an attic that does not vote calls, after a status of a cellar that
the group does not know.  The unit stays off. -/
theorem process_follows_vote_of_den :
    let calls (demand : Rat) : CallingStatus Rat := ⟨none, demand, true⟩
    let reports (name : String) (voting : Bool) (calling : CallingStatus Rat) :
        Signal (ZoneStatus Rat) :=
      .healthy (.ofEpoch 0 0) ⟨{ voting := some voting }, calling, none, none⟩ (some name)
    let events : List (GroupEvent Rat) :=
      [.status (reports "cellar" true (calls 3)), .status (reports "den" true .idle)]
    ∃ (den attic : Zone Rat) (g : ZoneGroup Rat) (demand : Rat),
      create [den, attic] = .ok g ∧ (g.after events).MayVote ∧
      ((g.after events).process (reports "attic" false (calls 5))).2 =
        some (.healthy (.ofEpoch 0 0) ⟨demand, none⟩) ∧
      IsFair 5 0 True demand ∧
      ∀ mode, (unitCommand mode (.healthy (.ofEpoch 0 0) ⟨demand, none⟩)).demand = 0 := by
  intro calls reports events
  have hruns : Outcome.holds (do
      let thermostat ← Thermostat.create "den" 20 .standard (PidSettings.ofGains 1 1 0 0)
      let den ← Zone.create thermostat {} none
      let thermostat ← Thermostat.create "attic" 20 .standard (PidSettings.ofGains 1 1 0 0)
      let attic ← Zone.create thermostat { voting := some false } none
      let g ← create [den, attic]
      return (den, attic, g))
    (fun (den, attic, g) => den.name == "den" && attic.name == "attic" &&
      (g.after events).zones.any fun e => e.2.settings.isEnabled && e.2.settings.isVoting) =
      true := by decide +kernel
  obtain ⟨⟨den, attic, g⟩, hbuilt, htest⟩ := Outcome.exists_of_holds hruns
  obtain ⟨_, -, hbuilt⟩ := Outcome.of_bind_eq_ok hbuilt
  obtain ⟨_, -, hbuilt⟩ := Outcome.of_bind_eq_ok hbuilt
  obtain ⟨_, -, hbuilt⟩ := Outcome.of_bind_eq_ok hbuilt
  obtain ⟨_, -, hbuilt⟩ := Outcome.of_bind_eq_ok hbuilt
  obtain ⟨_, hg, hbuilt⟩ := Outcome.of_bind_eq_ok hbuilt
  cases hbuilt
  simp only [Bool.and_eq_true, beq_iff_eq, List.any_eq_true] at htest
  obtain ⟨⟨hden, hattic⟩, hmay⟩ := htest
  have hnames : [den, attic].map Zone.name = ["den", "attic"] := by simp [hden, hattic]
  obtain ⟨hknown, -⟩ := process_follows_vote hg events (reports "attic" false (calls 5))
  rw [hnames] at hknown
  obtain ⟨demand, hdemand, hfair, hcommand⟩ := hknown "attic" (by decide) rfl
  have htotal : totalOf ["den", "attic"]
      (events.filterMap GroupEvent.status? ++ [reports "attic" false (calls 5)]) = 5 := by
    decide +kernel
  have hvote : voteOf ["den", "attic"]
      (events.filterMap GroupEvent.status? ++ [reports "attic" false (calls 5)]) = 0 := by
    decide +kernel
  have hvoter : (g.after events).MayVote := hmay
  rw [htotal, hvote, eq_true hvoter] at hfair
  exact ⟨den, attic, g, demand, hg, hvoter, hdemand, hfair,
    fun mode => ((hcommand mode).1 hvote hvoter).1⟩

end ZoneGroup

end HomeClimate
