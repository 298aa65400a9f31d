import HomeClimate.Config.Basic
import HomeClimate.Number.Layout
import HomeClimate.Text.Blank
import HomeClimate.Text.Quoted

/-!
# Checking a configuration

`SystemConfig.check` finds the first fault of a configuration.  It looks at the
version, then at the zones in order, the sensors outside, the sources of all
sensors together, the scheduler, and the periods in order.

A reading finds its way by the name of its source, so no source may belong to two
places.
-/

namespace HomeClimate

variable {ν : Type}

/-! ## Faults -/

/-- Whose settings are at fault. -/
inductive ConfigPlace where
  /-- A zone. -/
  | zone (name : String)
  /-- The economizer of a zone. -/
  | economizerOf (zone : String)
  /-- The sensors outside. -/
  | ambient
  deriving Repr, DecidableEq

/-- A place as a message names it. -/
def ConfigPlace.text : ConfigPlace → String
  | .zone name => "zone '" ++ name ++ "'"
  | .economizerOf owner => "zone '" ++ owner ++ "' economizer"
  | .ambient => "ambient"

/-- The windows of a controller. -/
inductive PidWindow where
  | integral
  | slope
  deriving Repr, DecidableEq

/-- A window as a configuration names it. -/
def PidWindow.name : PidWindow → String
  | .integral => "integral_span_s"
  | .slope => "derivative_span_s"

/-- What is wrong with a configuration. -/
inductive ConfigFault (ν : Type) where
  | unsupportedVersion (version : Nat)
  | duplicateZone (name : String)
  | emptyZoneName (name : String)
  | badRange (zone : String) (range : RangeConfig ν)
  | setpointOutsideRange (zone : String) (setpoint : ν)
  | gainsNotFinite (place : ConfigPlace) (p i d : ν)
  | noGain (place : ConfigPlace) (p i d : ν)
  | badLimit (place : ConfigPlace) (limit : ν)
  | badWindow (place : ConfigPlace) (window : PidWindow) (seconds : ν)
  | noSource (place : ConfigPlace)
  | repeatedSource (place : ConfigPlace) (source : String)
  | noDepth (place : ConfigPlace)
  | noTimeout (place : ConfigPlace)
  | badDelta (zone : String) (delta : ν)
  | badTarget (zone : String) (target : ν)
  | badPower (zone : String) (power : ν)
  | noEconomizerTimeout (zone : String)
  | ambientMissing (zone : String)
  | sharedSource (source : String)
  | noGranularity
  | noPollInterval
  | unknownZone (zone period : String)
  | malformedDays (period days : String)

namespace ConfigFault

/-- A field with a wrong value, and what is wrong with it. -/
def invalid (field value reason : String) : String :=
  "Invalid value: " ++ field ++ " = " ++ value ++ " (" ++ reason ++ ")"

/-- A name that occurs twice. -/
def duplicate (name context : String) : String := "Duplicate ID: " ++ name ++ " in " ++ context

/-- A name that does not occur. -/
def missing (name context : String) : String := "Missing reference: " ++ name ++ " in " ++ context

/-- Gains as a message shows them. -/
def gainsText (p i d : Float) : String := Text.showList ([p, i, d].map NumberLayout.precise.write)

/-- A fault as a text. -/
def message (fault : ConfigFault Float) : String :=
  let number := NumberLayout.plain.write
  let zoneText := fun name => (ConfigPlace.zone name).text
  let economizer := fun zone field => zoneText zone ++ " economizer." ++ field
  match fault with
  | .unsupportedVersion version => "Unsupported version: " ++ toString version
  | .duplicateZone name => duplicate name "zones"
  | .emptyZoneName name => invalid "zone name" name "must not be empty"
  | .badRange zone range =>
    invalid (zoneText zone ++ " range") (number range.min ++ ".." ++ number range.max)
      "must be finite with min < max"
  | .setpointOutsideRange zone setpoint =>
    invalid (zoneText zone ++ " setpoint") (number setpoint) "outside of setpoint range"
  | .gainsNotFinite place p i d =>
    invalid (place.text ++ " pid") (gainsText p i d) "gains must be finite"
  | .noGain place p i d =>
    invalid (place.text ++ " pid") (gainsText p i d) "at least one gain must be non-zero"
  | .badLimit place limit =>
    invalid (place.text ++ " pid.limit") (number limit) "must be non-negative"
  | .badWindow place window seconds =>
    invalid (place.text ++ " pid." ++ window.name) (number seconds) "must be positive"
  | .noSource place =>
    invalid (place.text ++ " sensor.sources") "[]" "at least one source required"
  | .repeatedSource place source => duplicate source (place.text ++ " sensor sources")
  | .noDepth place => invalid (place.text ++ " sensor.median_depth") "0" "must be at least 1"
  | .noTimeout place => invalid (place.text ++ " sensor.timeout_ms") "0" "must be positive"
  | .badDelta zone delta =>
    invalid (economizer zone "changeover_delta") (number delta) "must be non-negative"
  | .badTarget zone target =>
    invalid (economizer zone "target_temperature") (number target) "must be finite"
  | .badPower zone power =>
    invalid (economizer zone "max_power") (number power) "must be within 0..1"
  | .noEconomizerTimeout zone => invalid (economizer zone "timeout_s") "0" "must be positive"
  | .ambientMissing zone => missing "ambient" (ConfigPlace.economizerOf zone).text
  | .sharedSource source => duplicate source "sensor sources"
  | .noGranularity => invalid "scheduler.granularity_s" "0" "must be positive"
  | .noPollInterval => invalid "scheduler.poll_interval_s" "0" "must be positive"
  | .unknownZone zone period => missing zone ("schedule period '" ++ period ++ "'")
  | .malformedDays period days =>
    invalid ("schedule '" ++ period ++ "' days") days "seven characters, Monday first"

end ConfigFault

/-! ## Checks -/

/-- The first text of a list that occurs a second time. -/
def firstRepeated? (seen : List String) : List String → Option String
  | [] => none
  | s :: rest => if seen.contains s then some s else firstRepeated? (s :: seen) rest

/-- The version of the format that is read and written. -/
def latestVersion : Nat := 1

/-- The first version of the format. -/
def firstVersion : Nat := 1

namespace SensorConfig

/-- Nothing, or the first fault of some sensors. -/
def check (s : SensorConfig) (place : ConfigPlace) : Except (ConfigFault ν) Unit :=
  if s.sources.isEmpty then .error (.noSource place)
  else
    match firstRepeated? [] s.sources with
    | some source => .error (.repeatedSource place source)
    | none =>
      if s.medianDepth = 0 then .error (.noDepth place)
      else if s.timeoutMillis = 0 then .error (.noTimeout place)
      else .ok ()

end SensorConfig

variable [Scalar ν]

namespace PidConfig

/-- Nothing, or a fault if a window is given and is not positive. -/
def checkWindow (place : ConfigPlace) (window : PidWindow) :
    Option ν → Except (ConfigFault ν) Unit
  | none => .ok ()
  | some seconds =>
    if !Scalar.isFinite seconds || decide (seconds ≤ 0) then
      .error (.badWindow place window seconds)
    else .ok ()

/-- Nothing, or the first fault of a controller. -/
def check (c : PidConfig ν) (place : ConfigPlace) : Except (ConfigFault ν) Unit := do
  if !(Scalar.isFinite c.p && Scalar.isFinite c.i && Scalar.isFinite c.d) then
    throw (.gainsNotFinite place c.p c.i c.d)
  if c.p == 0 && c.i == 0 && c.d == 0 then throw (.noGain place c.p c.i c.d)
  if !Scalar.isFinite c.limit || decide (c.limit < 0) then throw (.badLimit place c.limit)
  checkWindow place .integral c.integralSeconds
  checkWindow place .slope c.slopeSeconds

end PidConfig

namespace EconomizerConfig

/-- Nothing, or the first fault of the economizer of a zone. -/
def check (e : EconomizerConfig ν) (zone : String) : Except (ConfigFault ν) Unit := do
  if !Scalar.isFinite e.changeoverDelta || decide (e.changeoverDelta < 0) then
    throw (.badDelta zone e.changeoverDelta)
  if !Scalar.isFinite e.target then throw (.badTarget zone e.target)
  if !(decide (0 ≤ e.maxPower) && decide (e.maxPower ≤ 1)) then throw (.badPower zone e.maxPower)
  if e.timeoutSeconds = 0 then throw (.noEconomizerTimeout zone)
  match e.pid with
  | some pid => pid.check (.economizerOf zone)
  | none => return ()

end EconomizerConfig

namespace ZoneConfig

/-- Nothing, or the first fault of a zone. -/
def check (z : ZoneConfig ν) : Except (ConfigFault ν) Unit := do
  if Text.isBlankText z.name then throw (.emptyZoneName z.name)
  if !Scalar.isFinite z.range.min || !Scalar.isFinite z.range.max ||
      decide (z.range.max ≤ z.range.min) then
    throw (.badRange z.name z.range)
  if !(decide (z.range.min ≤ z.setpoint) && decide (z.setpoint ≤ z.range.max)) then
    throw (.setpointOutsideRange z.name z.setpoint)
  z.pid.check (.zone z.name)
  z.sensor.check (.zone z.name)
  match z.economizer with
  | some e => e.check z.name
  | none => return ()

end ZoneConfig

namespace SystemConfig

/-- Nothing, or the first fault of some zones, after zones of the given names. -/
def checkZones (hasAmbient : Bool) (seen : List String) :
    List (ZoneConfig ν) → Except (ConfigFault ν) Unit
  | [] => .ok ()
  | z :: rest => do
    if seen.contains z.name then throw (.duplicateZone z.name)
    z.check
    if z.economizer.isSome && !hasAmbient then throw (.ambientMissing z.name)
    checkZones hasAmbient (z.name :: seen) rest

/-- Nothing, or the fault of a period. -/
def checkPeriod (zones : List String) (p : PeriodConfig) : Except (ConfigFault ν) Unit :=
  if !zones.contains p.zone then .error (.unknownZone p.zone p.name)
  else if p.days.toList.length ≠ 7 then .error (.malformedDays p.name p.days)
  else .ok ()

/-- Nothing, or the first fault of a configuration. -/
def check (c : SystemConfig ν) : Except (ConfigFault ν) Unit := do
  if latestVersion < c.version then throw (.unsupportedVersion c.version)
  checkZones c.ambient.isSome [] c.zones
  match c.ambient with
  | some sensor => sensor.check .ambient
  | none => pure ()
  match firstRepeated? [] (c.sensors.flatMap SensorConfig.sources) with
  | some source => throw (.sharedSource source)
  | none => pure ()
  if c.scheduler.granularitySeconds = 0 then throw .noGranularity
  if c.scheduler.pollSeconds = 0 then throw .noPollInterval
  c.schedule.forM (checkPeriod (c.zones.map ZoneConfig.name))

end SystemConfig

end HomeClimate
