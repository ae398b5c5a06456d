import Waystation.Messaging.Error
import Waystation.Scope
/-!
How user code fails, and how the processing of a message fails with it.
-/
namespace Waystation

/-- How user code fails. -/
inductive HookError
  | failed (message : String)
  | panicked (message : String)
  | messaging (source : MessagingError)
  | config (source : ScopedConfigError)
  | payload (source : Wire.DecodeError)
  deriving DecidableEq, Repr

namespace HookError

def label : HookError → String
  | failed _ => "Failed"
  | panicked _ => "Panicked"
  | messaging _ => "Messaging"
  | config _ => "Config"
  | payload _ => "Payload"

def report : HookError → Report
  | failed message => { message, code := some "nodekit::hooks::failed" }
  | panicked message =>
    { message := s!"user code panicked: {message}"
      code := some "nodekit::hooks::panicked"
      help := some "The panic was contained; the message was reported as an error envelope." }
  | messaging source => source.report
  | config source => source.report
  | payload source =>
    { message := s!"failed unpacking payload: {source.message}"
      code := some "nodekit::hooks::payload"
      causes := [source.message] }

def message (e : HookError) : String := e.report.message

instance : Reportable HookError := ⟨label, report⟩

end HookError

/-- The user code that a message goes through. -/
inductive Stage
  | preprocessor | handler | postprocessor
  deriving DecidableEq, Repr

def Stage.label : Stage → String
  | preprocessor => "handler preprocessor"
  | handler => "handler"
  | postprocessor => "handler postprocessor"

/-- Why a message was not processed to its end. -/
inductive PipelineError
  | stageFailed (stage : Stage) (fromNode toNode : String) (source : HookError)
  | decode (source : EnvelopeError)
  | noHandler (fromNode : String)
  deriving DecidableEq, Repr

namespace PipelineError

/-- The stage that failed, if one did. -/
def stage? : PipelineError → Option Stage
  | stageFailed stage _ _ _ => some stage
  | _ => none

def report : PipelineError → Report
  | stageFailed stage fromNode toNode source =>
    { message := s!"error in node {fromNode} executing {stage.label} for node {toNode}: "
        ++ source.message
      code := some "nodekit::subscriber::stage_failed"
      causes := source.report.chain }
  | decode source =>
    { message := s!"error creating new request message: {source.message}"
      code := some "nodekit::subscriber::decode"
      help := some "The message is neither a valid envelope nor a gzip-framed one."
      causes := source.report.chain }
  | noHandler fromNode =>
    { message := s!"no handler defined for {fromNode}"
      code := some "nodekit::subscriber::no_handler"
      help := some "Register a custom handler for this node or a default handler." }

def message (e : PipelineError) : String := e.report.message

end PipelineError
end Waystation
