import HomeClimate.Config.Check
import HomeClimate.House.Assembly
import HomeClimate.House.Reading
import HomeClimate.House.SensorChain
import HomeClimate.House.Unit

/-!
# Replaying recorded readings

A replay runs a house over recorded readings, in the order of their times.  The
clock shows the time of the reading at hand.  For each reading it looks at the
schedule, then asks every chain about silence, and then hands the reading to the
chain that its source belongs to.

Every status of a zone goes to the unit's control at once.  What a schedule
changes is shown by the zone's last verdict under the new settings.

`Replay.step` is one reading.  `SystemConfig.replay` is the whole: it checks the
configuration, sorts the readings and reports.
-/

namespace HomeClimate

variable {ν : Type} [Scalar ν]

/-- A command that was given to the unit. -/
structure UnitRecord (ν : Type) where
  /-- The time of the demand. -/
  time : Instant
  /-- The demand. -/
  demand : ν
  /-- The command. -/
  command : Command ν

/-- What came of a replay. -/
structure ReplayReport (ν : Type) where
  /-- The commands, the first one first. -/
  commands : List (UnitRecord ν)
  /-- The last status of every zone that had one, in one word. -/
  zones : Table String ZoneState
  /-- The changes of periods, the first one first. -/
  schedule : List (ScheduleEvent ν)
  /-- The number of readings. -/
  readings : Nat
  /-- The number of readings that no chain took. -/
  unrouted : Nat

/-- What comes of no readings. -/
def ReplayReport.empty : ReplayReport ν := ⟨[], [], [], 0, 0⟩

/-- A house that is run over recorded readings. -/
structure Replay (ν : Type) where
  /-- The zones. -/
  zones : Zones ν
  /-- The chains of the zones, each under the name of its zone. -/
  chains : List (SensorChain ν)
  /-- The chain of the sensors outside. -/
  ambient : Option (SensorChain ν)
  /-- What sets the periods. -/
  scheduler : Scheduler ν
  /-- What makes commands of statuses. -/
  unit : UnitControl ν
  /-- The commands so far, the first one first. -/
  commands : List (UnitRecord ν)
  /-- The changes of periods so far, the first one first. -/
  events : List (ScheduleEvent ν)
  /-- The number of readings so far. -/
  readings : Nat
  /-- The number of readings so far that no chain took. -/
  unrouted : Nat

namespace Replay

/-! ## Statuses -/

/-- The record of a demand that the unit got. -/
def recordOf (mode : Mode) (demand : Signal (UnitDemand ν)) : UnitRecord ν :=
  ⟨demand.time, (demand.value?.map UnitDemand.demand).getD 0, unitCommand mode demand⟩

/-- The replay after a status went to the unit's control. -/
def arbitrate (r : Replay ν) (status : Signal (ZoneStatus ν)) : Replay ν :=
  let (unit, demand) := r.unit.process r.zones.settings status
  { r with unit, commands := r.commands ++ (demand.map (recordOf unit.mode)).toList }

/-- The status that a zone shows after a change of its settings. -/
def replayed? (r : Replay ν) (zone : String) : Option (Signal (ZoneStatus ν)) :=
  (r.zones.get? zone).bind Zone.replay?

/-- The replay after a change of the period of a zone. -/
def announce (r : Replay ν) (event : ScheduleEvent ν) : Replay ν :=
  let r := { r with events := r.events ++ [event] }
  match r.replayed? event.zone with
  | some status => r.arbitrate status
  | none => r

/-- The replay after changes of periods. -/
def announceAll (r : Replay ν) (events : List (ScheduleEvent ν)) : Replay ν :=
  events.foldl announce r

/-- The replay after a zone took a sample. -/
def zoneSample (r : Replay ν) (now : Instant) (name : String) (sample : Signal ν) :
    Except (Fault ν) (Replay ν) :=
  match r.zones.get? name with
  | none => .ok r
  | some z =>
    (z.compute now sample).map fun (z, status) =>
      { r with zones := r.zones.modify name fun _ => z }.arbitrate status

/-- The replay after every economizer took a reading outside. -/
def ambientSample (r : Replay ν) (now : Instant) (sample : Signal ν) :
    Except (Fault ν) (Replay ν) := do
  let zones ← r.zones.mapM fun (name, z) => do
    let (z, ()) ← (z.recordAmbient now (sample.attributed none)).complete
    return (name, z)
  return { r with zones }

/-! ## Steps -/

/-- The replay after a look at the schedule. -/
def tick (r : Replay ν) (now : Instant) : Replay ν :=
  let (scheduler, zones, events) := r.scheduler.tick r.zones now
  { r with scheduler, zones }.announceAll events

/-- The replay with the chain of a zone replaced. -/
def setChain (r : Replay ν) (chain : SensorChain ν) : Replay ν :=
  { r with chains := r.chains.map fun c => if c.name == chain.name then chain else c }

/-- The replay after the chain of a zone was asked about silence. -/
def checkChain (now : Instant) (r : Replay ν) (chain : SensorChain ν) :
    Except (Fault ν) (Replay ν) :=
  match chain.check now with
  | (chain, none) => .ok (r.setChain chain)
  | (chain, some report) => (r.setChain chain).zoneSample now chain.name report

/-- The replay after the sensors outside were asked about silence. -/
def checkAmbient (now : Instant) (r : Replay ν) : Except (Fault ν) (Replay ν) :=
  match r.ambient.map fun chain => chain.check now with
  | none => .ok r
  | some (chain, none) => .ok { r with ambient := some chain }
  | some (chain, some report) => { r with ambient := some chain }.ambientSample now report

/-- The replay after every chain was asked about silence. -/
def checkAll (now : Instant) (r : Replay ν) : Except (Fault ν) (Replay ν) := do
  let r ← r.chains.foldlM (checkChain now) r
  checkAmbient now r

/-- The chain of a zone that a source belongs to. -/
def chainOf? (r : Replay ν) (source : String) : Option (SensorChain ν) :=
  r.chains.find? fun c => c.sources.contains source

/-- The chain outside, if a source belongs to it. -/
def ambientOf? (r : Replay ν) (source : String) : Option (SensorChain ν) :=
  r.ambient.filter fun c => c.sources.contains source

/-- The replay after a reading went to the chain of its source. -/
def route (r : Replay ν) (reading : Reading ν) : Except (Fault ν) (Replay ν) :=
  match r.chainOf? reading.source, r.ambientOf? reading.source with
  | some chain, _ =>
    match chain.process reading.signal with
    | (chain, none) => .ok (r.setChain chain)
    | (chain, some sample) => (r.setChain chain).zoneSample reading.time chain.name sample
  | none, some chain =>
    match chain.process reading.signal with
    | (chain, none) => .ok { r with ambient := some chain }
    | (chain, some sample) => { r with ambient := some chain }.ambientSample reading.time sample
  | none, none => .ok { r with unrouted := r.unrouted + 1 }

/-- The replay after a reading. -/
def step (r : Replay ν) (reading : Reading ν) : Except (Fault ν) (Replay ν) := do
  let r := { r with readings := r.readings + 1 }.tick reading.time
  let r ← r.checkAll reading.time
  r.route reading

/-- The replay after readings. -/
def run (r : Replay ν) (readings : List (Reading ν)) : Except (Fault ν) (Replay ν) :=
  readings.foldlM step r

/-! ## The whole -/

/-- A zone with its chain. -/
def buildZone (z : ZoneConfig ν) : Except (HouseError ν) (Zone ν × SensorChain ν) := do
  let zone ← z.build (z.economizer.map fun e => e.standardDevice z.name)
  let chain ← SensorChain.create z.name z.sensor
  return (zone, chain)

/-- A house before its first reading, with the schedule applied at an instant. -/
def create (config : SystemConfig ν) (now : Instant) : Except (HouseError ν) (Replay ν) := do
  let built ← config.zones.mapM buildZone
  let ambient ← config.ambient.mapM (SensorChain.create "ambient")
  let scheduler ← HouseError.ofSchedule (Scheduler.create config.scheduler.settings)
  let zones ← HouseError.ofZone (Zones.create (built.map Prod.fst))
  let schedules ← config.schedules
  let (scheduler, zones, events) := scheduler.update zones now schedules
  let house : Replay ν :=
    { zones, chains := built.map Prod.snd, ambient, scheduler, unit := .ofConfig config.unit,
      commands := [], events := [], readings := 0, unrouted := 0 }
  return house.announceAll events

/-- What came of it. -/
def report (r : Replay ν) : ReplayReport ν :=
  ⟨r.commands, r.unit.states, r.events, r.readings, r.unrouted⟩

end Replay

/-- Readings in the order of their times.  Those of one time keep their order. -/
def Reading.sorted (readings : List (Reading ν)) : List (Reading ν) :=
  readings.mergeSort fun a b => decide (a.time ≤ b.time)

/-- What comes of running a house over readings. -/
def SystemConfig.replay (config : SystemConfig ν) (readings : List (Reading ν)) :
    Except (HouseError ν) (ReplayReport ν) := do
  config.validate
  match Reading.sorted readings with
  | [] => return .empty
  | first :: rest =>
    let house ← Replay.create config first.time
    let house ← HouseError.ofFault (house.run (first :: rest))
    return house.report

end HomeClimate
