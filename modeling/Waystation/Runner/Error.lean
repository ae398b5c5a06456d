import Waystation.Config.Error
import Waystation.Hook.Error
/-!
Why a runner ended, other than by being asked to.
-/
namespace Waystation

/-- Why a runner could not start, or what broke it. -/
inductive RunnerError
  | missingDefaultHandler
  | missingRunnerFunction
  | config (source : ConfigError)
  | connect (url : String) (source : TransportError)
  | stream (name : String) (source : TransportError)
  | scopedConfig (source : ScopedConfigError)
  | initializer (source : HookError)
  | noInputs
  | subscribe (subject : String) (source : TransportError)
  | runnerFunction (source : HookError)
  | join (message : String)
  deriving DecidableEq, Repr

namespace RunnerError

def label : RunnerError → String
  | missingDefaultHandler => "MissingDefaultHandler"
  | missingRunnerFunction => "MissingRunnerFunction"
  | config _ => "Config"
  | connect .. => "Connect"
  | stream .. => "Stream"
  | scopedConfig _ => "ScopedConfig"
  | initializer _ => "Initializer"
  | noInputs => "NoInputs"
  | subscribe .. => "Subscribe"
  | runnerFunction _ => "RunnerFunction"
  | join _ => "Join"

def report : RunnerError → Report
  | missingDefaultHandler =>
    { message := "undefined default handler"
      code := some "nodekit::runner::missing_default_handler"
      help := some "Call `with_handler` before `run`." }
  | missingRunnerFunction =>
    { message := "undefined runner function"
      code := some "nodekit::runner::missing_runner_function"
      help := some "Call `with_runner` before `run`." }
  | config source => source.report
  | connect url source =>
    { message := s!"error connecting to {url}: {source.message}"
      code := some "nodekit::runner::connect"
      causes := source.report.chain }
  | stream name source =>
    { message := s!"error accessing stream {name}: {source.message}"
      code := some "nodekit::runner::stream"
      causes := source.report.chain }
  | scopedConfig source => source.report
  | initializer source =>
    { message := s!"error executing initializer: {source.message}"
      code := some "nodekit::runner::initializer"
      causes := source.report.chain }
  | noInputs =>
    { message := "input subjects undefined"
      code := some "nodekit::runner::no_inputs"
      help := some "Configure at least one subject in `nats.inputs`." }
  | subscribe subject source =>
    { message := s!"error subscribing to subject {subject}: {source.message}"
      code := some "nodekit::runner::subscribe"
      causes := source.report.chain }
  | runnerFunction source =>
    { message := s!"runner function failed: {source.message}"
      code := some "nodekit::runner::runner_function"
      causes := source.report.chain }
  | join message =>
    { message := s!"runner function task failed: {message}"
      code := some "nodekit::runner::join" }

instance : Reportable RunnerError := ⟨label, report⟩

end RunnerError
end Waystation
