import Waystation.Context
import Waystation.Correlation
import Waystation.Hook.Outcome
import Waystation.Program
/-!
What user code asks of its node, and the hooks that user code is made of.
-/
namespace Waystation

/-- The life of a runner. -/
inductive RunnerState
  | built | initializing | running | shuttingDown | terminated
  deriving DecidableEq, Repr

def RunnerState.label : RunnerState → String
  | built => "Built"
  | initializing => "Initializing"
  | running => "Running"
  | shuttingDown => "ShuttingDown"
  | terminated => "Terminated"

/-- What a trigger sees of its own node. -/
structure TriggerStatus where
  pending : Nat
  shuttingDown : Bool
  deriving DecidableEq, Repr

def TriggerStatus.describe (s : TriggerStatus) : String :=
  Text.record "TriggerHandle"
    [("pending", toString s.pending), ("shutting_down", toString s.shuttingDown)]

/-- A line of the journal that hooks keep. -/
inductive Note
  | text (s : String)
  /-- Something was published under an identity. -/
  | published (requestId : String)
  | error (e : HookError)
  | request (c : Context)
  | payload (p : Payload)
  | identity (i : Identity)
  | value (text : Option String)
  | deleted (found : Bool)
  | scopes (scopes : List Scope)
  | state (s : Option RunnerState)
  | reply (e : Option Envelope)
  | trigger (s : TriggerStatus)
  | cancelled
  deriving DecidableEq, Repr

/-- What user code asks of its node. -/
inductive HookRequest
  /-- Publishes something. -/
  | publish (p : Publisher) (what : Publication)
  /-- Looks up a key. -/
  | get (s : Settings) (key : String) (scope : Option Scope)
  | set (s : Settings) (key : String) (value : Bytes) (scope : Option Scope)
  | delete (s : Settings) (key : String) (scope : Option Scope)
  | close (connection : Nat)
  | note (n : Note)
  /-- Waits until a gate is open. -/
  | pass (gate : String)
  /-- Opens a gate for good. -/
  | unlock (gate : String)
  /-- Waits until nothing else goes on. -/
  | settle
  | state
  /-- Hands a response to whoever waits for it. -/
  | deliver (response : Envelope)
  | register (id : String)
  | await (id : String)
  /-- Waits for the response to a registered request. -/
  | response (w : Waiter)
  | release (w : Waiter)
  | status
  /-- Waits until the node shuts down. -/
  | cancelled

/-- What comes back for a request. -/
def HookRequest.Reply : HookRequest → Type
  | publish .. => Except MessagingError (Option String)
  | get .. => Except ScopedConfigError (Option String)
  | set .. => Except ScopedConfigError Unit
  | delete .. => Except ScopedConfigError Bool
  | close .. => Except TransportError Unit
  | state => Option RunnerState
  | deliver .. => Bool
  | register .. | await .. => Waiter
  | response .. => Option Envelope
  | status => TriggerStatus
  | note .. | pass .. | unlock .. | settle | release .. | cancelled => Unit

def HookSignature : Signature := ⟨HookRequest, HookRequest.Reply⟩

/-- Code run when a node starts or stops. It may panic before it has begun to run. -/
abbrev Hook := Context → Except Panic (Program HookSignature HookOutcome)

/-- Code run for a message. It may panic before it has begun to run. -/
abbrev Handler := Context → Payload → Except Panic (Program HookSignature HookOutcome)

/-- Code run beside the messages of a trigger. It may panic before it has begun to run. -/
abbrev RunnerFunction := Context → Except Panic (Program HookSignature HookOutcome)

/-- Asks something of the node. -/
def HookRequest.ask (r : HookRequest) : Program HookSignature r.Reply := .ask r .done

/-- Handles responses: each goes to whoever waits for it, and one that nobody waits for is dropped.
-/
def responseHandler : Handler := fun c _ => .ok <|
  match c.request with
  | some response => do
    discard (HookRequest.deliver response).ask
    return .succeeded
  | none => return .succeeded

end Waystation
