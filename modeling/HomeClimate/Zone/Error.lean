import HomeClimate.Control.Basic
import HomeClimate.Zone.Device
import HomeClimate.Zone.Settings

/-!
# Errors of zones

Why a zone, a part of it or a set of zones cannot be set up or changed as asked.
-/

namespace HomeClimate

/-- Why a zone or a part of it cannot be set up or changed as asked. -/
inductive ZoneError (ν : Type) where
  /-- The economizer's settings are wrong. -/
  | economizer (e : EconomizerSettingsError)
  /-- A range of setpoints is not finite or has no width. -/
  | badRange
  /-- There is no zone at all. -/
  | noZones
  /-- A setpoint is outside of its range. -/
  | outsideRange (setpoint min max : ν)
  /-- Two zones have one name. -/
  | duplicateZone (name : String)
  /-- A device cannot do what is asked of it. -/
  | modeUnavailable (mode : Mode) (device : Device)
  /-- A controller cannot be set up as asked. -/
  | control (e : ControlError ν)

/-- An error as a text. -/
def ZoneError.message : ZoneError Float → String
  | .economizer e => "Invalid argument: " ++ e.what
  | .badRange => "Invalid argument: setpoint range must be finite with min < max"
  | .noZones => "Invalid argument: zone controller needs at least one zone"
  | .outsideRange setpoint min max =>
    let number := NumberLayout.plain.write
    number setpoint ++ " is outside of " ++ number min ++ ".." ++ number max
  | .duplicateZone name => "Duplicate zone name: " ++ name
  | .modeUnavailable mode device =>
    "Requested mode " ++ mode.name ++ " is not among available on " ++ device.name ++ ": " ++
      Text.showList (device.modes.map Mode.label)
  | .control e => e.message

/-- A controller's error as an error of the zone that it is part of. -/
def ZoneError.ofControl {ν α : Type} : Except (ControlError ν) α → Except (ZoneError ν) α
  | .ok a => .ok a
  | .error e => .error (.control e)

/-- Nothing, or what is wrong with the settings of an economizer. -/
def checkEconomizerSettings {ν : Type} [Scalar ν] (s : EconomizerSettings ν) :
    Except (ZoneError ν) Unit :=
  match s.check with
  | .ok () => .ok ()
  | .error e => .error (.economizer e)

end HomeClimate
