import Waystation.Envelope.Frame
import Waystation.Hook.Outcome
import Waystation.Hook.Registry
/-!
The way of a message through a node: it is decoded, routed to a handler by the node it comes from,
and worked on by the preprocessor, the handler and the postprocessor in turn. In the end it is
acknowledged, whatever happened; what failed is reported as an error for the request. Only a hook
that panics before it has begun to run breaks the work off: the panic goes on to whoever works on
the message.
-/
namespace Waystation

/-- The hooks a message goes through. -/
structure Pipeline (H : Type) where
  registry : Registry H := {}
  preprocessor : Option H := none
  postprocessor : Option H := none

/-- What the processing of a message needs from around it. -/
structure Services (m : Type → Type) (H : Type) where
  /-- The name of this node. -/
  toNode : String
  /-- Runs a hook on a request and its payload, unless it panics before it has begun to run. -/
  call : H → Envelope → Payload → m (Except Panic HookOutcome)
  acknowledge : m Unit
  /-- Publishes an error for a request; an empty identity leaves it uncorrelated. -/
  report : (text requestId : String) → m Unit

namespace Pipeline

variable {H : Type} {m : Type → Type} [Monad m]

/-- The hooks around a handler, in order. -/
def stages (p : Pipeline H) (handler : H) : List (Stage × H) :=
  (p.preprocessor.map (Stage.preprocessor, ·)).toList ++ [(.handler, handler)]
    ++ (p.postprocessor.map (Stage.postprocessor, ·)).toList

/-- Runs hooks up to the first that fails. -/
def runStages (s : Services m H) (request : Envelope) :
    List (Stage × H) → m (Except Panic (Except PipelineError Unit))
  | [] => pure (.ok (.ok ()))
  | (stage, hook) :: rest => do
    match ← s.call hook request (request.payload.getD {}) with
    | .error panic => pure (.error panic)
    | .ok outcome => match outcome.guarded with
      | .ok () => runStages s request rest
      | .error e => pure (.ok (.error (.stageFailed stage request.fromNode s.toNode e)))

/-- Routes a request and runs its hooks. -/
def execute (p : Pipeline H) (s : Services m H) (request : Envelope) :
    m (Except Panic (Except PipelineError Unit)) :=
  match p.registry.resolve request.fromNode with
  | some handler => runStages s request (p.stages handler)
  | none => pure (.ok (.error (.noHandler request.fromNode)))

/-- Acknowledges a message and reports what went wrong with it. -/
def fail (s : Services m H) (requestId : String) (e : PipelineError) : m Unit := do
  s.acknowledge
  s.report e.message requestId

/-- Processes a blob as it was delivered, and acknowledges it whatever comes of it, unless a panic
breaks the processing off. -/
def process (p : Pipeline H) (s : Services m H) (blob : Bytes) : m (Except Panic Unit) :=
  match Envelope.decode blob with
  | .error e => do
    fail s "" (.decode e)
    pure (.ok ())
  | .ok request => do
    match ← p.execute s request with
    | .error panic => pure (.error panic)
    | .ok (.ok ()) => do
      s.acknowledge
      pure (.ok ())
    | .ok (.error e) => do
      fail s request.requestId e
      pure (.ok ())

def describe (p : Pipeline H) : String :=
  let shown := fun (h : Option H) => if h.isSome then "Some(dyn Handler)" else "None"
  Text.record "Pipeline"
    [("registry", p.registry.describe), ("preprocessor", shown p.preprocessor),
      ("postprocessor", shown p.postprocessor)]

end Pipeline
end Waystation
