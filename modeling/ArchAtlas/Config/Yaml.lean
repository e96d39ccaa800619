import ArchAtlas.Config.Validation
import ArchAtlas.Json.Printer
import ArchAtlas.Yaml.Medium
import ArchAtlas.Yaml.Printer

/-!
Configurations as YAML text. What is read is also validated.
-/

namespace ArchAtlas.Config

/-- Reads and validates a configuration. A text without content is the default. -/
def ofYaml (text : String) : Except Error Config := do
  match Yaml.parse? text with
  | none => throw .unreadable
  | some document =>
    match (codec Yaml.Value).decode (.ofDocument document) with
    | .error _ => throw .unreadable
    | .ok config =>
      config.validate
      return config

def toYaml (c : Config) : String :=
  Yaml.render ((codec Json).encode c)

/-- Whether a configuration is the one that is read from its text. -/
def isStable (c : Config) : Bool :=
  match ofYaml c.toYaml with
  | .ok again => again = c
  | .error _ => false

end ArchAtlas.Config
