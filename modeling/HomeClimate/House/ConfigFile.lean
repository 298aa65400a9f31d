import HomeClimate.Config.Document
import HomeClimate.House.Error

/-!
# Files with configurations

What a file says, by its name and its content.  The name decides about the format.
A file whose content is not known cannot be read.
-/

namespace HomeClimate.ConfigFile

/-- The configuration of a file. -/
def load (path : String) (content : Option String) :
    Except (HouseError Float) (SystemConfig Float) :=
  match content with
  | none => .error (.unreadableConfig path)
  | some text => ((ConfigFormat.ofPath path).read text).mapError .config

/-- The content of a file with a configuration. -/
def save (path : String) (config : SystemConfig Float) : Except (HouseError Float) String :=
  HouseError.ofCheck ((ConfigFormat.ofPath path).write config)

end HomeClimate.ConfigFile
