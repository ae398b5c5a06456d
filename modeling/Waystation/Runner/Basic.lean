import Waystation.Node.Lifecycle
import Waystation.Node.Machine
/-!
Runners: nodes ready to be run. Task and exit runners work on messages with handlers of their own;
trigger runners start requests and wait for the responses.
-/
namespace Waystation

/-- What a node that works on messages is for. -/
inductive PipelineKind
  | task | exit
  deriving DecidableEq, Repr

def PipelineKind.label : PipelineKind → String
  | task => "task runner"
  | exit => "exit runner"

/-- A runner that works on messages. -/
structure PipelineRunner where
  kind : PipelineKind
  pipeline : Pipeline Handler := {}
  initializer : Option Hook := none
  finalizer : Option Hook := none

/-- A runner that starts requests. -/
structure TriggerRunner where
  function : Option RunnerFunction := none
  initializer : Option Hook := none
  finalizer : Option Hook := none

namespace PipelineRunner

/-- Sets the handler for nodes that have none of their own. -/
def withHandler (r : PipelineRunner) (h : Handler) : PipelineRunner :=
  { r with pipeline := { r.pipeline with registry := r.pipeline.registry.setDefault h } }

/-- Sets the handler for one node. -/
def withCustomHandler (r : PipelineRunner) (fromNode : String) (h : Handler) : PipelineRunner :=
  { r with pipeline := { r.pipeline with registry := r.pipeline.registry.insert fromNode h } }

def describe (r : PipelineRunner) : String :=
  Text.record "PipelineRunner"
    [("kind", Text.quoted r.kind.label), ("pipeline", r.pipeline.describe)]

/-- What the tasks of the node run. -/
def duties (r : PipelineRunner) : Duties := { work := r.pipeline.work }

/-- The life of the runner, which must have a default handler. -/
def life (r : PipelineRunner) (config : Config) : Program NodeSignature Ended :=
  if r.pipeline.registry.hasDefault then
    { config, initializer := r.initializer, finalizer := r.finalizer : Plan }.supervise
  else return .ok (.error .missingDefaultHandler)

end PipelineRunner

namespace TriggerRunner

def describe (r : TriggerRunner) : String :=
  Text.record "TriggerRunner" [("has_runner", toString r.function.isSome)]

/-- The pipeline of every trigger: responses go to whoever waits for them. -/
def pipeline : Pipeline Handler := { registry := Registry.empty.setDefault responseHandler }

/-- What the tasks of the node run. -/
def duties (r : TriggerRunner) : Duties := { work := pipeline.work, launched := r.function }

/-- The life of the runner, which must have a runner function. -/
def life (r : TriggerRunner) (config : Config) : Program NodeSignature Ended :=
  if r.function.isSome then
    { config, initializer := r.initializer, finalizer := r.finalizer, isTrigger := true
      : Plan }.supervise
  else return .ok (.error .missingRunnerFunction)

end TriggerRunner

/-- A runner of either kind. -/
inductive Runner
  | pipeline (r : PipelineRunner)
  | trigger (r : TriggerRunner)

namespace Runner

def describe : Runner → String
  | pipeline r => r.describe
  | trigger r => r.describe

/-- What the tasks of the node run. -/
def duties : Runner → Duties
  | pipeline r => r.duties
  | trigger r => r.duties

/-- The life of the node from its start to its end. -/
def life : Runner → Config → Program NodeSignature Ended
  | pipeline r => r.life
  | trigger r => r.life

/-- A runner about to be run in a network. -/
def machine (r : Runner) (config : Config) (network : Network) : Machine :=
  { node := { network, runner := some .built }, duties := r.duties : Machine }.drive (r.life config)

end Runner

/-- What a configuration that is to be run shows of itself. -/
def Config.describe (c : Config) : String :=
  Text.record "Runner"
    [("process", Text.quoted c.identity.process), ("url", Text.quoted c.wiring.url)]

end Waystation
