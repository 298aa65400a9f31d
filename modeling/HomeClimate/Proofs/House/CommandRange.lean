import HomeClimate.Proofs.House.Replayed
import HomeClimate.Proofs.House.Shutdown
import HomeClimate.Proofs.Number.Shares
import HomeClimate.Proofs.Zone.Power
import HomeClimate.Proofs.Zone.SharedEconomizer

/-!
# Commands are within range

A command asks for a share of the power of a device and for a share of its fan speed.
Numbers are doubles here, of any kind: readings, demands and settings may be infinite or
no number at all.

* A command to the unit is made by `unitCommand`, which makes shares of whatever it gets.
  So it is enough that the unit gets no command but these, and to be off is one of them
  (`Command.isUnitCommand_off`).
* A command to the device of an economizer is to be off or to run at the power of the
  settings.  The settings were checked before they were stored, whoever stored them, so
  their power is a share at all times (`Economizer.IsBounded`).

A house and a replay are *wired* if their unit got commands of the first kind only and
the economizers of their zones were set up at some point.  Nothing that is done to a house
or to its parts unwires it.
-/

namespace HomeClimate

variable {ν : Type} [Scalar ν]

/-- A scalar between nothing and all. -/
def Scalar.IsShare (x : ν) : Prop := 0 ≤ x ∧ x ≤ 1

instance (x : ν) : Decidable (Scalar.IsShare x) := inferInstanceAs (Decidable (_ ∧ _))

/-- A command that asks for shares. -/
structure Command.IsInRange (c : Command ν) : Prop where
  demand : Scalar.IsShare c.demand
  fanSpeed : Scalar.IsShare c.fanSpeed

/-! ## Commands to the unit -/

theorem Scalar.isShare_zero : IsShare (0 : Float) := by decide +kernel

theorem Command.isInRange_off (mode : Option Mode) : (off mode : Command Float).IsInRange :=
  ⟨Scalar.isShare_zero, Scalar.isShare_zero⟩

/-- Whatever a demand asks for, the command for it is within range. -/
theorem isInRange_unitCommand (mode : Mode) (demand : Signal (UnitDemand Float)) :
    (unitCommand mode demand).IsInRange := by
  rw [unitCommand]
  split
  · exact Command.isInRange_off (some mode)
  · exact ⟨Double.fraction_between _, Double.fraction_between _⟩

/-- A command was made of some demand. -/
def Command.IsUnitCommand (c : Command ν) : Prop := ∃ mode demand, c = unitCommand mode demand

/-- To be off is what a failure asks for. -/
theorem Command.isUnitCommand_off (mode : Mode) : (off (some mode) : Command ν).IsUnitCommand :=
  ⟨mode, .failure (.ofEpoch 0 0) none (.missing "demand"), rfl⟩

theorem Command.IsUnitCommand.isInRange {c : Command Float} (h : c.IsUnitCommand) :
    c.IsInRange := by
  obtain ⟨mode, demand, rfl⟩ := h
  exact isInRange_unitCommand mode demand

/-! ## Commands to the device of an economizer -/

/-- Settings that are found to be right have a share for their power. -/
theorem EconomizerSettings.isShare_maxPower {s : EconomizerSettings ν} (h : s.check = .ok ()) :
    Scalar.IsShare s.maxPower := by
  unfold check at h
  split at h
  · cases h
  · split at h
    · cases h
    · split at h
      · cases h
      · rename_i hpower
        simpa [Scalar.IsShare] using hpower

namespace Economizer

/-- The power of an economizer is a share, and every command that it gave is within range. -/
structure IsBounded (e : Economizer ν) : Prop where
  power : Scalar.IsShare e.settings.maxPower
  issued : ∀ c ∈ e.issued, c.IsInRange

theorem isBounded_create {name : String} {setup : EconomizerSetup ν} {device : Device}
    {e : Economizer ν} (h : create name setup device = .ok e) : e.IsBounded := by
  have hnew := isNew_create h
  refine ⟨?_, fun c hc => ?_⟩
  · rw [create] at h
    split at h
    · cases h
    · obtain ⟨_, hcheck, h⟩ := Outcome.of_bind_eq_ok h
      obtain ⟨controller, -, h⟩ := Outcome.of_bind_eq_ok h
      obtain ⟨renderer, -, h⟩ := Outcome.of_bind_eq_ok h
      cases h
      exact EconomizerSettings.isShare_maxPower (checkEconomizerSettings_eq_ok_iff.mp hcheck)
  · rw [hnew.issued] at hc
    cases hc

theorem isInRange_driveCommand {e : Economizer Float}
    (h : Scalar.IsShare e.settings.maxPower) (on : Bool) : (e.driveCommand on).IsInRange := by
  cases on with
  | true => exact ⟨h, h⟩
  | false => exact Command.isInRange_off (some e.mode)

/-- Settings that are stored were checked. -/
theorem checked_after (e : Economizer ν) (call : EconomizerCall ν) :
    (e.after call).settings = e.settings ∨ (e.after call).settings.check = .ok () := by
  rcases e.settings_after call with hsame | hcall
  · exact .inl hsame
  · obtain ⟨s, rfl⟩ : ∃ s, call = .settings s := ⟨_, hcall⟩
    rw [Economizer.after]
    cases hset : e.setSettings s with
    | error f => exact .inl rfl
    | ok e' =>
        obtain ⟨hcheck, hsettings⟩ := setSettings_settings hset
        exact .inr (hsettings ▸ hcheck)

/-- Whatever is done to an economizer, it stays bounded: settings that it takes over were
checked. -/
theorem IsBounded.after {e : Economizer Float} (h : e.IsBounded) (call : EconomizerCall Float) :
    (e.after call).IsBounded := by
  have hpower : Scalar.IsShare (e.after call).settings.maxPower := by
    rcases e.checked_after call with hsame | hcheck
    · rw [hsame]
      exact h.power
    · exact EconomizerSettings.isShare_maxPower hcheck
  refine ⟨hpower, ?_⟩
  by_cases hcall : call = .close
  · rw [hcall, Economizer.after, close]
    split
    · exact h.issued
    · exact List.forall_mem_append.mpr
        ⟨h.issued, List.forall_mem_singleton.mpr (Command.isInRange_off (some e.mode))⟩
  · cases (e.becomes_after hcall).tells with
    | nothing _ hissued => exact hissued ▸ h.issued
    | order on _ _ _ hissued =>
        rw [hissued]
        exact List.forall_mem_append.mpr
          ⟨h.issued, List.forall_mem_singleton.mpr (isInRange_driveCommand hpower on)⟩

theorem IsBounded.run {e : Economizer Float} (h : e.IsBounded)
    (calls : List (EconomizerCall Float)) : (e.run calls).IsBounded := by
  induction calls generalizing e with
  | nil => exact h
  | cons call rest ih => exact ih (h.after call)

theorem IsReachable.isBounded {e : Economizer Float} (h : e.IsReachable) : e.IsBounded := by
  obtain ⟨name, setup, device, e₀, calls, hcreate, rfl⟩ := h
  exact (isBounded_create hcreate).run calls

end Economizer

theorem Zone.IsEquipped.isInRange {z : Zone Float} (h : z.IsEquipped) :
    ∀ c ∈ z.commands, c.IsInRange := by
  rw [commands]
  cases he : z.economizer with
  | none =>
      intro c hc
      cases hc
  | some e => exact (h e he).isBounded.issued

/-! ## Houses -/

/-- What can be done to a house, and by others to one of its zones. -/
inductive HouseCall (ν : Type) where
  /-- Something happens to the house. -/
  | house (event : HouseEvent ν)
  /-- Something is done to a zone, or to its economizer. -/
  | zone (name : String) (call : SharedCall ν)

namespace House

/-- A house after a call of it or of one of its zones. -/
def meet (h : House ν) : HouseCall ν → House ν
  | .house event => h.after event
  | .zone name call =>
    { h with zones := h.zones.modify name fun l => { l with zone := l.zone.meet call } }

/-- A house after some calls of it and of its zones. -/
def throughout (h : House ν) (calls : List (HouseCall ν)) : House ν := calls.foldl meet h

/-- The unit of a house got unit commands only, and the economizers of its zones were set up at some
point. -/
structure IsEquipped (h : House ν) : Prop where
  keys : h.zones.keys.Nodup
  zones : ∀ e ∈ h.zones, e.2.zone.IsEquipped
  issued : ∀ c ∈ h.issued, c.IsUnitCommand

theorem isEquipped_start {config : SystemConfig ν} {options : HouseOptions ν} {now : Instant}
    {h : House ν} (hstart : start config options now = .ok h) : h.IsEquipped := by
  refine ⟨(orderly_start hstart).keys, ?_, ?_⟩
  all_goals
    obtain ⟨_, -, hstart⟩ := Outcome.of_bind_eq_ok hstart
    obtain ⟨unit, -, hstart⟩ := Outcome.of_bind_eq_ok hstart
    obtain ⟨source, -, hstart⟩ := Outcome.of_bind_eq_ok hstart
    obtain ⟨built, hbuilt, hstart⟩ := Outcome.of_bind_eq_ok hstart
    obtain ⟨ambient, -, hstart⟩ := Outcome.of_bind_eq_ok hstart
    obtain ⟨zones, hzones, hstart⟩ := Outcome.of_bind_eq_ok hstart
    obtain ⟨scheduler, -, hstart⟩ := Outcome.of_bind_eq_ok hstart
    cases hstart
  · have hnew : ∀ z ∈ built.map Prod.fst, z.IsEquipped := by
      intro z hz
      obtain ⟨e, he, rfl⟩ := List.mem_map.mp hz
      obtain ⟨c, -, hc⟩ := Outcome.exists_of_mem_right (Outcome.forall₂_of_mapM hbuilt) he
      obtain ⟨zone, hzone, hc⟩ := Outcome.of_bind_eq_ok hc
      obtain ⟨chain, -, hc⟩ := Outcome.of_bind_eq_ok hc
      cases hc
      exact (ZoneConfig.isNew_build hzone).economizer
    have hequipped := Zones.forall_create (P := fun _ z => Zone.IsEquipped z)
      (Outcome.of_mapError_eq_ok hzones) hnew
    intro e he
    obtain ⟨e₀, he₀, rfl⟩ := List.mem_map.mp he
    exact hequipped e₀ he₀
  · exact fun c hc => nomatch hc

theorem IsEquipped.moves {h h' : House ν} (hw : h.IsEquipped) (hm : h.Moves h') :
    h'.IsEquipped := by
  refine ⟨hm.keys.symm ▸ hw.keys, ?_, ?_⟩
  · exact Table.Related.forall_values (fun _ _ hr hz => hr.operates.isEquipped hz) hm.zones hw.zones
  · obtain ⟨demands, hdemands⟩ := hm.gives
    rw [hdemands]
    refine List.forall_mem_append.mpr ⟨hw.issued, fun c hc => ?_⟩
    obtain ⟨demand, -, rfl⟩ := List.mem_map.mp hc
    exact ⟨_, demand, rfl⟩

theorem IsEquipped.shutDown {h : House ν} (hw : h.IsEquipped) : h.shutDown.IsEquipped := by
  rw [House.shutDown]
  split
  · exact hw
  · refine ⟨?_, fun e he => ?_, ?_⟩
    · rw [Table.keys, List.map_map]
      exact hw.keys
    · obtain ⟨e₀, he₀, rfl⟩ := List.mem_map.mp he
      exact e₀.2.zone.operates_close.isEquipped (hw.zones e₀ he₀)
    · exact List.forall_mem_append.mpr
        ⟨hw.issued, List.forall_mem_singleton.mpr (Command.isUnitCommand_off _)⟩

theorem IsEquipped.meet {h : House ν} (hw : h.IsEquipped) (call : HouseCall ν) :
    (h.meet call).IsEquipped := by
  cases call with
  | house event =>
      by_cases hevent : event = .shutDown
      · rw [hevent]
        exact hw.shutDown
      · exact hw.moves (moves_after hw.keys event fun he => absurd he hevent)
  | zone name call =>
      rw [House.meet]
      refine ⟨?_, ?_, hw.issued⟩
      · rw [Table.keys_modify]
        exact hw.keys
      · dsimp only
        refine Table.forall_modify (P := fun _ (l : ZoneLoop ν) => l.zone.IsEquipped)
          (fun e he _ => hw.zones e he) fun l hl => ?_
        exact (l.zone.operates_meet call).isEquipped (hw.zones _ hl)

/-- Whatever is done to a house and to its parts, it stays wired. -/
theorem IsEquipped.throughout {h : House ν} (hw : h.IsEquipped) (calls : List (HouseCall ν)) :
    (h.throughout calls).IsEquipped := by
  induction calls generalizing h with
  | nil => exact hw
  | cons call rest ih => exact ih (hw.meet call)

theorem IsEquipped.isInRange {h : House Float} (hw : h.IsEquipped) :
    (∀ c ∈ h.issued, c.IsInRange) ∧ ∀ zone, ∀ c ∈ h.damperCommands zone, c.IsInRange := by
  refine ⟨fun c hc => (hw.issued c hc).isInRange, fun zone => ?_⟩
  rw [damperCommands_eq]
  cases hl : h.zones.get? zone with
  | none => exact fun c hc => nomatch hc
  | some l => exact (hw.zones _ (Table.mem_of_get? hl)).isInRange

end House

/-! ## Replays -/

namespace Replay

/-- The unit of a replay got unit commands only, and the economizers of its zones were set up at
some point. -/
structure IsEquipped (r : Replay ν) : Prop where
  zones : ∀ e ∈ r.zones, e.2.IsEquipped
  commands : ∀ record ∈ r.commands, record.command.IsUnitCommand

theorem IsEquipped.arbitrate {r : Replay ν} (h : r.IsEquipped) (status : Signal (ZoneStatus ν)) :
    (r.arbitrate status).IsEquipped := by
  refine ⟨h.zones, List.forall_mem_append.mpr ⟨h.commands, fun record hrecord => ?_⟩⟩
  obtain ⟨demand, -, rfl⟩ := Option.map_eq_some_iff.mp (Option.mem_toList.mp hrecord)
  exact ⟨_, demand, rfl⟩

theorem steady_isEquipped : Steady (IsEquipped (ν := ν)) where
  frame := fun _ _ hzones _ hcommands h => ⟨hzones ▸ h.zones, hcommands ▸ h.commands⟩
  retain := by
    intro r zones hretain h
    refine ⟨hretain.forall_zones (P := fun _ z => Zone.IsEquipped z) ?_ h.zones, h.commands⟩
    exact fun _ _ _ hz hequipped => hz.operates.isEquipped hequipped
  replayed := fun _ _ status _ h => h.arbitrate status

theorem keptBySamples_isEquipped : KeptBySamples (IsEquipped (ν := ν)) := by
  intro r r' now name sample hsample h
  rw [zoneSample] at hsample
  cases hz : r.zones.get? name with
  | none =>
      rw [hz] at hsample
      cases hsample
      exact h
  | some z =>
      rw [hz] at hsample
      obtain ⟨⟨z', status⟩, hcompute, rfl⟩ := Outcome.of_map_eq_ok hsample
      obtain ⟨answer, -, hanswer⟩ := Outcome.of_map_eq_ok hcompute
      cases hanswer
      have hequipped :=
        (z.operates_attempt now sample).isEquipped (h.zones _ (Table.mem_of_get? hz))
      have hfitted :
          IsEquipped { r with zones := r.zones.modify name fun _ => (z.attempt now sample).1 } :=
        ⟨Table.forall_modify (P := fun _ z => Zone.IsEquipped z) (fun e he _ => h.zones e he)
          fun _ _ => hequipped, h.commands⟩
      exact hfitted.arbitrate status

theorem isEquipped_create {config : SystemConfig ν} {now : Instant} {r : Replay ν}
    (h : create config now = .ok r) : r.IsEquipped := by
  obtain ⟨built, zones, zones', ambient, scheduler, events, hbuilt, hzones, hretain, -, rfl⟩ :=
    create_eq_ok h
  have hequipped : ∀ e ∈ zones, e.2.IsEquipped := by
    refine Zones.forall_create (P := fun _ z => Zone.IsEquipped z) hzones fun z hz => ?_
    obtain ⟨b, hb, rfl⟩ := List.mem_map.mp hz
    obtain ⟨_, -, hnew⟩ := Outcome.exists_of_mem_right hbuilt hb
    exact hnew.zone.economizer
  have hopening : IsEquipped (opening config zones (built.map Prod.snd) ambient scheduler) :=
    ⟨hequipped, fun _ he => nomatch he⟩
  exact steady_isEquipped.announceAll events (steady_isEquipped.retain _ zones' hretain hopening)

end Replay

theorem SystemConfig.ReplaysTo.isEquipped {config : SystemConfig ν}
    {readings done : List (Reading ν)} {r : Replay ν} (h : config.ReplaysTo readings done r) :
    r.IsEquipped := by
  obtain ⟨first, house, -, hhouse, hrun⟩ := h.reached
  exact Replay.steady_isEquipped.run Replay.keptBySamples_isEquipped hrun
    (Replay.isEquipped_create hhouse)

/-! ## All commands -/

/-- Every command is within range: whatever the unit is asked for, and whatever is done to an
economizer that was set up, to a zone and its economizer, to a house and its parts, and to the zones
of a replay over any readings. -/
theorem commands_in_range :
    (∀ mode (demand : Signal (UnitDemand Float)), (unitCommand mode demand).IsInRange) ∧
    (∀ name setup device (e : Economizer Float), Economizer.create name setup device = .ok e →
      ∀ calls, ∀ c ∈ (e.run calls).issued, c.IsInRange) ∧
    (∀ thermostat settings economizer (z : Zone Float),
      (∀ e, economizer = some e → e.IsReachable) →
      Zone.create thermostat settings economizer = .ok z →
      ∀ calls, ∀ c ∈ (z.throughout calls).commands, c.IsInRange) ∧
    (∀ config options now (h : House Float), House.start config options now = .ok h →
      ∀ calls, (∀ c ∈ (h.throughout calls).issued, c.IsInRange) ∧
        ∀ zone, ∀ c ∈ (h.throughout calls).damperCommands zone, c.IsInRange) ∧
    ∀ (config : SystemConfig Float) readings done r, config.ReplaysTo readings done r →
      (∀ record ∈ r.commands, record.command.IsInRange) ∧
        ∀ e ∈ r.zones, ∀ calls, ∀ c ∈ (e.2.throughout calls).commands, c.IsInRange := by
  refine ⟨isInRange_unitCommand, ?_, ?_, ?_, ?_⟩
  · intro name setup device e hcreate calls
    exact ((Economizer.isBounded_create hcreate).run calls).issued
  · intro thermostat settings economizer z heconomizer hcreate calls
    have hequipped := Zone.isEquipped_create hcreate heconomizer
    exact ((z.operates_throughout calls).isEquipped hequipped).isInRange
  · intro config options now h hstart calls
    exact ((House.isEquipped_start hstart).throughout calls).isInRange
  · intro config readings done r hreplays
    have hfitted := hreplays.isEquipped
    refine ⟨fun record hrecord => (hfitted.commands record hrecord).isInRange, fun e he calls => ?_⟩
    exact ((e.2.operates_throughout calls).isEquipped (hfitted.zones e he)).isInRange

/-- A den that becomes endlessly hot and then gives no number at all, with an economizer that is to
have a power that is no number, a unit that is asked for endless power, and an endless heat outside.
Economizer and unit are shut down in the end. -/
theorem commands_in_range_of_endless_heat :
    let settings : EconomizerSettings Float := .ofTarget (Scalar.ofInt 2) (Scalar.ofInt 18)
    let shows (second : Int) (x : Float) : Signal Float := .healthy (.ofEpoch second 0) x
    let calls : List (SharedCall Float) :=
      [.economizer (.settings { settings with maxPower := 0 / 0 }),
       .zone (.ambient (.ofEpoch 0 0) (shows 0 10)), .zone (.sample (.ofEpoch 0 0) (shows 0 25)),
       .zone (.sample (.ofEpoch 1 0) (shows 1 (1 / 0))),
       .zone (.sample (.ofEpoch 2 0) (shows 2 (0 / 0))), .economizer .close]
    let cabin : SystemConfig Float := .cabin .cooling 1 (some .cellar)
    let events : List (HouseCall Float) :=
      [.house (.demand (.healthy (.ofEpoch 0 0) ⟨1 / 0, none⟩)), .house .drive,
       .zone "den" (.zone (.settings { setpoint := some (0 / 0) })),
       .house (.samples "den" [shows 0 25]), .house (.takeSample "den" (.ofEpoch 0 0)),
       .house .shutDown]
    let readings : List (Reading Float) :=
      [⟨.ofEpoch 0 0, "wall", some 22, none⟩, ⟨.ofEpoch 30 0, "roof", some (1 / 0), none⟩]
    ∃ e thermostat z h r,
      Economizer.create "den" (.standard .cooling settings) ⟨"damper", [.cooling]⟩ = .ok e ∧
      Zone.create thermostat {} (some e) = .ok z ∧
      ((z.throughout calls).commands.length = 3 ∧
        ∀ c ∈ (z.throughout calls).commands, c.IsInRange) ∧
      House.start cabin {} (.ofEpoch 0 0) = .ok h ∧
      ((h.throughout events).issued.length = 2 ∧
        ∀ c ∈ (h.throughout events).issued, c.IsInRange) ∧
      cabin.ReplaysTo readings readings r ∧
      (r.commands.length = 1 ∧ ∀ record ∈ r.commands, record.command.IsInRange) := by
  intro settings shows calls cabin events readings
  obtain ⟨-, -, hzone, hhouse, hreplay⟩ := commands_in_range
  have hzoneRuns : Outcome.holds (do
      let e ← Economizer.create "den" (.standard .cooling settings) ⟨"damper", [.cooling]⟩
      let thermostat ← Thermostat.create "den" 20 .standard (PidSettings.ofGains 1 1 0 0)
      let z ← Zone.create thermostat {} (some e)
      return (e, thermostat, z))
    (fun (_, _, z) => (z.throughout calls).commands.length == 3) = true := by decide +kernel
  have hhouseRuns : Outcome.holds (House.start cabin {} (.ofEpoch 0 0))
    (fun h => (h.throughout events).issued.length == 2) = true := by decide +kernel
  obtain ⟨⟨e, thermostat, z⟩, hbuilt, hzoneGives⟩ := Outcome.exists_of_holds hzoneRuns
  obtain ⟨_, he, hbuilt⟩ := Outcome.of_bind_eq_ok hbuilt
  obtain ⟨_, -, hbuilt⟩ := Outcome.of_bind_eq_ok hbuilt
  obtain ⟨_, hz, hbuilt⟩ := Outcome.of_bind_eq_ok hbuilt
  cases hbuilt
  obtain ⟨h, hstart, hhouseGives⟩ := Outcome.exists_of_holds hhouseRuns
  obtain ⟨_, haccepted, -⟩ := Outcome.exists_of_holds
    (show Outcome.holds cabin.validate (fun _ => true) = true by decide +kernel)
  have hsorted : Reading.sorted readings = readings :=
    List.mergeSort_of_pairwise (by decide +kernel)
  obtain ⟨r, hr, hreplayGives⟩ := SystemConfig.exists_replaysTo cabin _ _
    (fun r => r.commands.length == 1) haccepted hsorted (by decide +kernel)
  have hreachable : ∀ e', some e = some e' → e'.IsReachable := by
    rintro _ ⟨⟩
    exact Economizer.isReachable_create he
  exact ⟨e, thermostat, z, h, r, he, hz,
    ⟨by simpa using hzoneGives, hzone _ _ _ z hreachable hz calls⟩, hstart,
    ⟨by simpa using hhouseGives, (hhouse _ _ _ h hstart events).1⟩, hr,
    by simpa using hreplayGives, (hreplay _ _ _ r hr).1⟩

end HomeClimate
