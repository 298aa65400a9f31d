import HomeClimate.Config.Check

/-!
# Errors of configurations

Why a text is not taken for a configuration.
-/

namespace HomeClimate

/-- Why a text is not taken for a configuration. -/
inductive ConfigError (ν : Type) where
  /-- It has a fault. -/
  | fault (f : ConfigFault ν)
  /-- It is of a version that nothing is known of. -/
  | unknownVersion (version : Nat)
  /-- It is not YAML, or not of a configuration. -/
  | yaml
  /-- It is not JSON, or not of a configuration. -/
  | json
  /-- Its file cannot be read or written. -/
  | file

/-- An error as a text. -/
def ConfigError.message : ConfigError Float → String
  | .fault f => "Validation error: " ++ f.message
  | .unknownVersion version =>
    "Migration error: No migration path from version " ++ toString version ++
      " (the first supported version is " ++ toString firstVersion ++ ")"
  | .yaml => "YAML error"
  | .json => "JSON error"
  | .file => "I/O error"

end HomeClimate
