import Waystation.Report
/-!
Why a node has no usable configuration.
-/
namespace Waystation

/-- What is wrong with a configuration, or with where it should be. -/
inductive ConfigError
  | read (path reason : String)
  | parse (origin : String)
  | notFound (searched : String)
  | invalid (reason : String)
  deriving DecidableEq, Repr

namespace ConfigError

def label : ConfigError → String
  | read .. => "FileRead"
  | parse _ => "Parse"
  | notFound _ => "NotFound"
  | invalid _ => "Invalid"

def report : ConfigError → Report
  | read path reason =>
    { message := s!"failed to read config file at {path}: {reason}"
      code := some "nodekit::config::read"
      causes := [reason] }
  | parse origin =>
    { message := s!"failed to parse YAML config {origin}"
      code := some "nodekit::config::parse" }
  | notFound searched =>
    { message := s!"no configuration found (searched: {searched})"
      code := some "nodekit::config::not_found"
      help := some
        "Provide config.yaml or app.yaml in the working directory or in APP_CONFIG_PATH." }
  | invalid reason =>
    { message := s!"invalid configuration: {reason}", code := some "nodekit::config::invalid" }

instance : Reportable ConfigError := ⟨label, report⟩

end ConfigError
end Waystation
