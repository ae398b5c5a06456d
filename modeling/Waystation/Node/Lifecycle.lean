import Waystation.Node.Work
/-!
The life of a runner: it connects, checks its stream, opens its settings, seeds them, and runs the
initializer; then it subscribes and serves until something ends it; then it stops its listeners,
turns away whoever waits for a response, runs the finalizer, ends its runner function and what is
still being worked on, and closes its connection. An initializer or finalizer that panics before it
has begun to run ends the life of the runner where it stands: what comes next in it is left undone.
-/
namespace Waystation

/-- What a runner adds to its configuration. -/
structure Plan where
  config : Config
  initializer : Option Hook := none
  finalizer : Option Hook := none
  /-- Whether a runner function runs beside the messages. -/
  isTrigger : Bool := false

namespace Plan

open NodeRequest

/-- Runs a hook, if there is one. -/
def call (h : Option Hook) (c : Context) : Program NodeSignature Returned :=
  match h with
  | none => return .ok (.ok ())
  | some h => match h c with
    | .error panic => return .error panic
    | .ok program => return .ok (← program.ofHook).guarded

/-- Puts entries into the process scope; what cannot be written is passed over. -/
def seed (c : Context) : List (String × String) → Program NodeSignature Unit
  | [] => return ()
  | (key, value) :: rest => do
    discard (HookRequest.set c.settings key (Bytes.ofText value) (some .process)).ask.ofHook
    seed c rest

/-- Makes the context of a connected node. -/
def bootstrap (p : Plan) (connection : Nat) :
    Program NodeSignature (Except Panic (Except RunnerError Context)) := do
  let stream := p.config.wiring.stream
  match ← (streamMax connection stream).ask with
  | .error e => return .ok (.error (.stream stream e))
  | .ok _ =>
    match ← (openSettings connection p.config.sections.buckets).ask with
    | .error e => return .ok (.error (.scopedConfig e))
    | .ok settings =>
      let c := Context.ofConfig p.config connection settings
      seed c p.config.sections.processEntries
      match ← call p.initializer c with
      | .error panic => return .error panic
      | .ok (.error e) => return .ok (.error (.initializer e))
      | .ok (.ok ()) => return .ok (.ok c)

/-- Connects and makes the context; a connection of no use is closed again, unless a panic goes
through. -/
def connect (p : Plan) : Program NodeSignature (Except Panic (Except RunnerError Context)) := do
  let url := p.config.wiring.url
  match ← (NodeRequest.connect url).ask with
  | .error e => return .ok (.error (.connect url e))
  | .ok connection =>
    match ← p.bootstrap connection with
    | .error panic => return .error panic
    | .ok (.error e) =>
      (close connection).ask
      return .ok (.error e)
    | .ok (.ok c) => return .ok (.ok c)

/-- What a panic says that a runner function met before it began to run. -/
def joinMessage (task : Nat) : Panic → String
  | .text message => s!"task {task} panicked with message {Text.quoted message}"
  | .other => s!"task {task} panicked"

/-- Serves until the end; it answers the fault that ended the node, if one did, and whether the
runner function may still be running. A runner function that returns without a fault ends nothing.
-/
def serve (p : Plan) (c : Context) : Program NodeSignature (Option RunnerError × Bool) := do
  if p.isTrigger then
    let task ← (launch c).ask
    match ← awaitEnd.ask with
    | .signal | .exhausted => return (none, true)
    | .returned (.ok (.ok ())) =>
      awaitStop.ask
      return (none, false)
    | .returned (.ok (.error e)) => return (some (.runnerFunction e), false)
    | .returned (.error panic) => return (some (.join (joinMessage task panic)), false)
  else
    awaitStop.ask
    return (none, false)

/-- What is done behind the finalizer, by how that came back. A panic that goes through takes the
listeners with it and leaves everything else as it is. -/
def release (c : Context) (launchedIsLeft : Bool) :
    Returned → Program NodeSignature (Except Panic Unit)
  | .error panic => do
    abortListeners.ask
    return .error panic
  | .ok _ => do
    cancel.ask
    Program.when launchedIsLeft abortLaunched.ask
    Subscriber.abort
    (close c.publisher.connection).ask
    return .ok ()

/-- Shuts a running node down. -/
def shutDown (p : Plan) (c : Context) (launchedIsLeft : Bool) :
    Program NodeSignature (Except Panic Unit) := do
  (setRunner .shuttingDown).ask
  Subscriber.stop
  Program.when p.isTrigger turnAway.ask
  release c launchedIsLeft (← call p.finalizer c)

/-- The whole life of a runner. -/
def supervise (p : Plan) : Program NodeSignature Ended := do
  (setRunner .initializing).ask
  match ← p.connect with
  | .error panic => return .error panic
  | .ok (.error e) =>
    (setRunner .terminated).ask
    return .ok (.error e)
  | .ok (.ok c) =>
    match ← Subscriber.start c p.config.wiring.inputs with
    | .error e =>
      (close c.publisher.connection).ask
      (setRunner .terminated).ask
      abortListeners.ask
      return .ok (.error e)
    | .ok () =>
      (setRunner .running).ask
      let (fault, launchedIsLeft) ← p.serve c
      match ← p.shutDown c launchedIsLeft with
      | .error panic => return .error panic
      | .ok () =>
        (setRunner .terminated).ask
        match fault with
        | some e => return .ok (.error e)
        | none => return .ok (.ok ())

end Plan
end Waystation
