import HomeClimate.Config.Check
import HomeClimate.House.Assembly
import HomeClimate.House.Line
import HomeClimate.House.Unit
import HomeClimate.Schedule.Loop
import HomeClimate.Zone.Loop

/-!
# Houses that run

A house takes readings, gives commands to its unit, and can be asked and changed
meanwhile.  Its parts run side by side with queues between them.

* Each place with sensors has a line.  What leaves it goes to the zone of that
  name, or to all economizers if it is outside.
* Each zone turns temperatures into statuses.
* The unit's control turns statuses into demands, and the driver turns the demands
  into commands.
* The scheduler sets the periods of the zones.

`settle` lets all parts work until no queue holds anything.  Time goes on in
`wait` only, from one timer to the next.  What is due at the start, the first look
at the schedule, is done after the first thing that happens to the house.

After `shutDown` the unit is off for good: the driver drops every demand that is
still on its way, and economizers give no command any more.

A fault stops a zone, and then its line stops too, bit by bit (`SensorLine`).  All
else goes on.
-/

namespace HomeClimate

variable {ν : Type} [Scalar ν]

/-- What a house is given besides its configuration. -/
structure HouseOptions (ν : Type) where
  /-- The unit, if it is not the one of the configuration. -/
  unit : Option Device := none
  /-- The devices of economizers, by zone. -/
  dampers : Table String Device := []
  /-- Where schedules come from, if not from the configuration. -/
  source : Option (ScheduleSource ν) := none

/-- A house that runs. -/
structure House (ν : Type) where
  /-- What it is called. -/
  name : String
  /-- The unit. -/
  unit : Device
  /-- What makes demands of statuses. -/
  control : UnitControl ν
  /-- The zones with their queues. -/
  zones : Table String (ZoneLoop ν)
  /-- The lines of the zones, each under the name of its zone. -/
  lines : List (SensorLine ν)
  /-- The line of the sensors outside. -/
  ambient : Option (SensorLine ν)
  /-- What sets the periods. -/
  scheduling : SchedulerLoop ν
  /-- The last change of the period of each zone. -/
  lastEvents : Table String (ScheduleEvent ν)
  /-- The demands that wait for the driver, the oldest first. -/
  pending : List (Signal (UnitDemand ν))
  /-- Every command given to the unit, the first one first. -/
  issued : List (Command ν)
  /-- The commands that the driver gave and that nobody looked at yet, the oldest first. -/
  announced : List (Signal (Command ν))
  /-- When the house was started. -/
  started : Instant
  /-- The time since then. -/
  elapsed : Span
  /-- Whether readings may still come. -/
  isOpen : Bool
  /-- Whether it was shut down. -/
  isClosed : Bool

namespace House

/-! ## Starting -/

/-- A zone with its chain. -/
def buildZone (options : HouseOptions ν) (z : ZoneConfig ν) :
    Except (HouseError ν) (Zone ν × SensorChain ν) := do
  let damper := z.economizer.map fun e =>
    (options.dampers.get? z.name).getD (e.standardDevice z.name)
  let zone ← z.build damper
  let chain ← SensorChain.create z.name z.sensor
  return (zone, chain)

/-- The unit of a house, which can do what is asked of it. -/
def chooseUnit (unit : UnitConfig) (given : Option Device) : Except (HouseError ν) Device :=
  let device := given.getD ⟨unit.name, [unit.mode]⟩
  if device.modes.contains unit.mode then .ok device
  else .error (.zone (.modeUnavailable unit.mode device))

/-- Where the schedules of a house come from. -/
def chooseSource (config : SystemConfig ν) :
    Option (ScheduleSource ν) → Except (HouseError ν) (ScheduleSource ν)
  | some source => .ok source
  | none => config.schedules.map fun schedules => ⟨schedules, 0⟩

/-- A house that starts at an instant. -/
def start (config : SystemConfig ν) (options : HouseOptions ν) (now : Instant) :
    Except (HouseError ν) (House ν) := do
  config.validate
  let unit ← chooseUnit config.unit options.unit
  let source ← chooseSource config options.source
  let built ← config.zones.mapM (buildZone options)
  let ambient ← config.ambient.mapM (SensorChain.create "ambient")
  let zones ← HouseError.ofZone (Zones.create (built.map Prod.fst))
  let scheduler ← HouseError.ofSchedule (Scheduler.create config.scheduler.settings)
  return {
    name := config.name, unit, control := .ofConfig config.unit
    zones := zones.map fun e => (e.1, .start e.2)
    lines := built.map fun e => .start e.2 0
    ambient := ambient.map fun c => .start c 0
    scheduling := .start scheduler source
    lastEvents := [], pending := [], issued := [], announced := [], started := now, elapsed := 0
    isOpen := true, isClosed := false }

/-! ## Looking -/

/-- What the clock shows at a time of the timers. -/
def clock (h : House ν) (elapsed : Span) : Instant := (h.started.add? elapsed).getD h.started

/-- What the clock shows. -/
def now (h : House ν) : Instant := h.clock h.elapsed

/-- The zones as they are. -/
def zoneTable (h : House ν) : Zones ν := h.zones.map fun e => (e.1, e.2.zone)

/-- The house with its zones as they are given. -/
def setZones (h : House ν) (zones : Zones ν) : House ν :=
  { h with
    zones := h.zones.map fun e => (e.1, { e.2 with zone := (zones.get? e.1).getD e.2.zone }) }

/-- The sources that readings are taken from. -/
def sources (h : House ν) : List String :=
  if h.isOpen then
    ((h.lines ++ h.ambient.toList).flatMap SensorLine.sources).mergeSort fun a b => decide (a ≤ b)
  else []

/-- The zone of a name. -/
def zone (h : House ν) (name : String) : Except (HouseError ν) (Zone ν) :=
  match h.zones.get? name with
  | some loop => .ok loop.zone
  | none => .error (.unknownZone name)

/-- The last status of each zone in one word. -/
def states (h : House ν) : Table String ZoneState := h.control.states

/-- Every command given to the device of the economizer of a zone, the first one first. -/
def damperCommands (h : House ν) (zone : String) : List (Command ν) :=
  (((h.zones.get? zone).bind fun l => l.zone.economizer).map Economizer.issued).getD []

/-- The house in a few words. -/
def text (h : House ν) : String :=
  Text.showRecord "Runtime"
    [("name", Text.quote h.name), ("mode", h.control.mode.label), ("unit", Text.quote h.unit.name),
     ("zones", Text.showList (h.zones.keys.map Text.quote))]

/-! ## The parts at work -/

/-- The zones with temperatures that wait for one of them. -/
def sendSamples (zones : Table String (ZoneLoop ν)) (name : String) (samples : List (Signal ν)) :
    Table String (ZoneLoop ν) :=
  zones.modify name fun l => { l with samples := l.samples ++ samples }

/-- The zones with readings outside that wait for each of them. -/
def sendReadings (zones : Table String (ZoneLoop ν)) (readings : List (Signal ν)) :
    Table String (ZoneLoop ν) :=
  let readings := readings.map fun r => r.attributed none
  zones.map fun e => (e.1, { e.2 with readings := e.2.readings ++ readings })

/-- Whether the zone of a name takes temperatures. -/
def takesSamples (h : House ν) (zone : String) : Bool :=
  ((h.zones.get? zone).map ZoneLoop.isRunning).getD false

/-- The house after its lines did something, each giving some signals and told whether they are
taken.  What is measured outside always is. -/
def runLines (h : House ν) (run : Bool → SensorLine ν → SensorLine ν × List (Signal ν)) :
    House ν :=
  let lines := h.lines.map fun l => run (h.takesSamples l.name) l
  let ambient := h.ambient.map (run true)
  let zones := lines.foldl (fun zones e => sendSamples zones e.1.name e.2) h.zones
  { h with
    lines := lines.map Prod.fst
    ambient := ambient.map Prod.fst
    zones := sendReadings zones ((ambient.map Prod.snd).getD []) }

/-- The house after a status went to the unit's control. -/
def arbitrate (h : House ν) (status : Signal (ZoneStatus ν)) : House ν :=
  let (control, demand) := h.control.process h.zoneTable.settings status
  { h with control, pending := h.pending ++ demand.toList }

/-- The house after its zones took what waits for them. -/
def runZones (h : House ν) : House ν :=
  let settled := h.zones.map fun e => (e.1, (e.2.settle h.now).takeStatuses)
  (settled.flatMap fun e => e.2.2).foldl arbitrate
    { h with zones := settled.map fun e => (e.1, e.2.1) }

/-- The house after the driver took one demand. -/
def drive (h : House ν) : House ν :=
  match h.pending with
  | [] => h
  | demand :: rest =>
    if h.isClosed then { h with pending := rest }
    else
      let command := unitCommand h.control.mode demand
      { h with pending := rest, issued := h.issued ++ [command],
               announced := h.announced ++ [demand.withValue command] }

/-- The house after the driver took so many demands. -/
def driveTimes : Nat → House ν → House ν
  | 0, h => h
  | n + 1, h => driveTimes n h.drive

/-- The house when no queue holds anything. -/
def settle (h : House ν) : House ν :=
  let h := (h.runLines fun isTaken l => l.settle isTaken h.elapsed).runZones
  driveTimes h.pending.length h

/-! ## Time -/

/-- The house after the timers of lines went off that are due. -/
def fireLines (h : House ν) : House ν :=
  h.runLines fun isTaken l => l.goOff isTaken h.elapsed h.now

/-- The house after the scheduler did what is due. -/
def fireScheduler (h : House ν) : House ν :=
  let (scheduling, zones, events) := h.scheduling.act h.zoneTable h.elapsed h.now
  let news := events.map fun e => (e.zone, e)
  { h with scheduling, lastEvents := h.lastEvents.insertAll news }.setZones zones

/-- The house when nothing is left to do at this time.  One that was shut down does nothing. -/
def idle (h : House ν) : House ν :=
  if h.isClosed then h else h.settle.fireLines.fireScheduler.settle

/-- When a timer goes off next. -/
def nextDue (h : House ν) : Span :=
  ((h.lines ++ h.ambient.toList).filterMap SensorLine.due?).foldl min h.scheduling.nextDue

/-- How many times a timer can go off up to a time. -/
def timesUntil (h : House ν) (until_ : Span) : Nat :=
  (h.lines ++ h.ambient.toList).foldl (fun n l => n + l.timesBetween h.elapsed until_)
    (h.scheduling.timesBetween h.elapsed until_)

/-- The house as its timers go off up to a time, so many times at most. -/
def fireUntil (until_ : Span) : (times : Nat) → House ν → House ν
  | 0, h => h
  | times + 1, h =>
    if h.isClosed then h
    else if h.nextDue ≤ until_ then fireUntil until_ times { h with elapsed := h.nextDue }.idle
    else h

/-- The house some time later. -/
def wait (h : House ν) (span : Span) : House ν :=
  let until_ := h.elapsed + span
  { fireUntil until_ (h.timesUntil until_) h.idle with elapsed := until_ }

/-! ## What is done to it -/

/-- The house with a reading in the line of its source, or an error. -/
def feed (h : House ν) (source : String) (reading : Signal ν) : Except (HouseError ν) (House ν) :=
  let reading := reading.attributed (some source)
  let feedLine (l : SensorLine ν) := if l.sources.contains source then l.feed reading else l
  let isBroken := (h.lines ++ h.ambient.toList).any fun l => l.isBroken && l.sources.contains source
  if h.sources.contains source then
    if isBroken then .error .closed
    else .ok { h with lines := h.lines.map feedLine, ambient := h.ambient.map feedLine }
  else if h.isClosed then .error .closed
  else .error (.unknownSource source)

/-- The house after an update of the settings of a zone by a user, and the merged settings or an
error. -/
def setSettings (h : House ν) (name : String) (update : ZoneSettings ν) :
    House ν × Except (HouseError ν) (ZoneSettings ν) :=
  match h.zone name with
  | .error e => (h, .error e)
  | .ok z =>
    let (z, merged) := z.setSettings update
    (h.setZones (h.zoneTable.modify name fun _ => z), HouseError.ofZone merged)

/-- The house after the last reading.  What waits is done, and then lines and zones stop. -/
def closeInputs (h : House ν) : House ν :=
  let h := if h.isClosed then h else h.settle
  { h with
    isOpen := false
    lines := h.lines.map SensorLine.close
    ambient := h.ambient.map SensorLine.close
    zones := h.zones.map fun e => (e.1, { e.2 with isRunning := false, readsAmbient := false }) }

/-- The house after it was shut down. -/
def shutDown (h : House ν) : House ν :=
  if h.isClosed then h
  else
    { h with
      isOpen := false, isClosed := true
      zones := h.zones.map fun e => (e.1, { e.2 with zone := e.2.zone.close })
      issued := h.issued ++ [.off (some h.control.mode)] }

/-- The house with its commands looked at, and the commands. -/
def takeCommands (h : House ν) : House ν × List (Signal (Command ν)) :=
  ({ h with announced := [] }, h.announced)

end House

end HomeClimate
