import Waystation.Node.Request
import Waystation.Pipeline
/-!
How a node works on messages, and how its listeners take them one at a time. A listener that is told
to stop while it works leaves its group at the next point where the work would wait, and then sees
the message through. A panic that breaks the work off ends the listener.
-/
namespace Waystation

/-- What the processing of a delivery gets from the node. -/
def Delivery.services (c : Context) (d : Delivery) : Services (Program WorkSignature) Handler where
  toNode := c.identity.process
  call h request payload := match h (c.forRequest request) payload with
    | .error panic => return .error panic
    | .ok program => return .ok (← program.embed fun r => .ask (.user r) .done)
  acknowledge := .ask (.acknowledge d.number) fun _ => .done ()
  report text requestId :=
    .ask (.user (.publish c.publisher (.error text (some requestId)))) fun _ => .done ()

/-- The processing of a delivery. -/
def Pipeline.work (p : Pipeline Handler) (c : Context) (d : Delivery) : Work :=
  p.process (d.services c) d.message.payload

/-- Work among the tasks of a node. -/
def Program.ofWork {α : Type} (p : Program WorkSignature α) : Program NodeSignature α :=
  p.embed fun r => (NodeRequest.work r).ask

/-- Whether a task goes on with another round. -/
inductive Turn
  | again
  | finished
  deriving DecidableEq, Repr

namespace Listener

open NodeRequest

/-- Leaves the group and tells so. -/
def depart (subscription : Nat) : Program NodeSignature Unit := do
  (leave subscription).ask
  (tellLeft subscription).ask

/-- Does work to its end, departing as soon as it would wait while the listeners are to stop. -/
def serve (subscription : Nat) : Work → Program NodeSignature Turn
  | .done (.ok ()) => return .again
  | .done (.error _) => return .finished
  | .ask r next => .ask (watched r) fun
    | some reply => serve subscription (next reply)
    | none => do
      depart subscription
      let _ ← Program.ofWork (.ask r next)
      return .finished

/-- Takes one message and works on it. -/
def round (subscription : Nat) (toWork : Delivery → Work) : Program NodeSignature Turn := do
  match ← (take subscription).ask with
  | .stopped =>
    depart subscription
    return .finished
  | .closed =>
    (tellLeft subscription).ask
    return .finished
  | .broken => return .finished
  | .delivery d => serve subscription (toWork d)

end Listener

namespace Subscriber

open NodeRequest

/-- Tells the listeners to stop and waits until each has left; a second call does nothing. -/
def stop : Program NodeSignature Unit := do
  match ← subscriber.ask with
  | .unsubscribing | .stopped => return ()
  | _ =>
    (setSubscriber .unsubscribing).ask
    stopListeners.ask
    awaitLeft.ask

/-- Stops, and gives up the messages that are still worked on. -/
def abort : Program NodeSignature Unit := do
  stop
  abortListeners.ask
  (setSubscriber .stopped).ask

/-- Subscribes to subjects up to the first that fails. -/
def subscribeAll (c : Context) : List String → Program NodeSignature (Except RunnerError Unit)
  | [] => return .ok ()
  | subject :: rest => do
    match ← (subscribe c.publisher.connection (.forProcess subject c.identity.process)).ask with
    | .ok subscription =>
      (listen subscription c).ask
      subscribeAll c rest
    | .error e => return .error (.subscribe subject e)

/-- Starts a listener for every subject; if one cannot be subscribed to, those before it stop. -/
def start (c : Context) (inputs : List String) : Program NodeSignature (Except RunnerError Unit) :=
  if inputs.isEmpty then return .error .noInputs
  else do
    (setSubscriber .subscribing).ask
    match ← subscribeAll c inputs with
    | .ok () =>
      (setSubscriber .listening).ask
      return .ok ()
    | .error e =>
      stop
      return .error e

end Subscriber
end Waystation
