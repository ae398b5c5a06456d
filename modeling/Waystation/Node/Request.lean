import Waystation.Node.Basic
/-!
What the tasks of a node ask for, and how the node answers. A request has a list of possible
answers, each with the node after it; while the list is empty whoever asked waits.
-/
namespace Waystation

/-- What the processing of a message asks for. -/
inductive WorkRequest
  | user (r : HookRequest)
  | acknowledge (delivery : Nat)

/-- What comes back for a request. -/
def WorkRequest.Reply : WorkRequest → Type
  | user r => r.Reply
  | acknowledge _ => Except TransportError Unit

def WorkSignature : Signature := ⟨WorkRequest, WorkRequest.Reply⟩

/-- The work on a message. A panic breaks it off if a hook met it before it began to run. -/
abbrev Work := Program WorkSignature (Except Panic Unit)

/-- What a listener gets when it wants a message. -/
inductive Taken
  | delivery (d : Delivery)
  | closed
  | stopped
  /-- The subscription broke. -/
  | broken
  deriving DecidableEq, Repr

/-- Why a running node comes to its end. -/
inductive End
  | signal
  | exhausted
  | returned (r : Returned)

/-- What a task asks of its node. -/
inductive NodeRequest
  | work (r : WorkRequest)
  /-- Work that gives way once the listeners are told to stop. -/
  | watched (r : WorkRequest)
  | take (subscription : Nat)
  | leave (subscription : Nat)
  | tellLeft (subscription : Nat)
  | subscriber
  | setSubscriber (s : SubscriberState)
  | subscribe (connection : Nat) (o : ConsumerOptions)
  | listen (subscription : Nat) (c : Context)
  | stopListeners
  /-- Waits until every listener has left its group or ended. -/
  | awaitLeft
  /-- Waits until every listener has ended. -/
  | awaitListeners
  | abortListeners
  | setRunner (s : RunnerState)
  | connect (url : String)
  | streamMax (connection : Nat) (stream : String)
  | openSettings (connection : Nat) (buckets : List (Scope × String))
  | close (connection : Nat)
  /-- Starts the runner function; the reply is the number of its task. -/
  | launch (c : Context)
  | returned (r : Returned)
  /-- Waits until something ends the node. -/
  | awaitEnd
  /-- Waits for an end that the runner function has no part in. -/
  | awaitStop
  | turnAway
  | cancel
  | abortLaunched
  | conclude (r : Ended)

/-- What comes back for a request. -/
def NodeRequest.Reply : NodeRequest → Type
  | work r => r.Reply
  | watched r => Option r.Reply
  | take _ => Taken
  | subscriber => SubscriberState
  | subscribe .. => Except TransportError Nat
  | connect _ => Except TransportError Nat
  | streamMax .. => Except TransportError (Option Nat)
  | openSettings .. => Except ScopedConfigError Settings
  | launch _ => Nat
  | awaitEnd => End
  | leave _ | tellLeft _ | setSubscriber _ | listen .. | stopListeners | awaitLeft | awaitListeners
  | abortListeners | setRunner _ | close _ | returned _ | awaitStop | turnAway | cancel
  | abortLaunched | conclude _ => Unit

def NodeSignature : Signature := ⟨NodeRequest, NodeRequest.Reply⟩

/-- Asks something of the node. -/
def NodeRequest.ask (r : NodeRequest) : Program NodeSignature r.Reply := .ask r .done

/-- User code among the tasks of a node. -/
def Program.ofHook {α : Type} (p : Program HookSignature α) : Program NodeSignature α :=
  p.embed fun r => (NodeRequest.work (.user r)).ask

namespace Node

/-- An answer when a condition holds. -/
def once {α : Type} (condition : Bool) (answer : α × Node) : List (α × Node) :=
  if condition then [answer] else []

/-- The answers that user code may get now; none while it has to wait. -/
def hookAnswers (n : Node) : (r : HookRequest) → List (r.Reply × Node)
  | .publish p what => [n.withNetwork (p.send what n.network)]
  | .get s key scope => [(s.get key scope n.network.broker, n)]
  | .set s key value scope => [n.withBroker (s.set key value scope n.network.broker)]
  | .delete s key scope => [n.withBroker (s.delete key scope n.network.broker)]
  | .close connection => [n.withNetwork (n.network.close connection)]
  | .note line => [((), { n with journal := n.journal ++ [line] })]
  | .pass gate => once (gate ∈ n.gates) ((), n)
  | .unlock gate => [((), { n with gates := gate :: n.gates })]
  | .settle => once n.quiet ((), { n with quiet := false })
  | .state => [(n.runner, n)]
  | .deliver e =>
    let (found, correlation) := n.correlation.deliver e.requestId e
    [(found, { n with correlation })]
  | .register id =>
    let (w, correlation) := n.correlation.register id
    [(w, { n with correlation })]
  | .await id =>
    let (w, correlation) := n.correlation.await id
    [(w, { n with correlation })]
  | .response w => match n.correlation.poll w with
    | (.resolved e, correlation) => [(e, { n with correlation })]
    | (.pending, _) => []
  | .release w => [((), { n with correlation := n.correlation.release w })]
  | .status => [({ pending := n.correlation.pending, shuttingDown := n.cancelled }, n)]
  | .cancelled => once n.cancelled ((), n)

/-- The answers that the processing of a message may get now. -/
def workAnswers (n : Node) : (r : WorkRequest) → List (r.Reply × Node)
  | .user r => n.hookAnswers r
  | .acknowledge delivery =>
    let n := { n with acknowledged := n.acknowledged ++ [delivery] }
    [n.withNetwork (n.network.acknowledge delivery)]

/-- The subject of a subscription. -/
def subjectOf (n : Node) (subscription : Nat) : String :=
  match n.network.broker.subscription? subscription with
  | some s => s.subject
  | none => ""

/-- The next message for a listener; being told to stop comes first. -/
def takeAnswers (n : Node) (subscription : Nat) : List (Taken × Node) :=
  if n.stopping then [(.stopped, n)]
  else match n.network.broker.next subscription with
    | (.delivery d, broker) =>
      let n := { n with network := { n.network with broker } }
      [(if n.subjectOf subscription ∈ n.network.faults.broken then .broken else .delivery d, n)]
    | (.closed, _) => [(.closed, n)]
    | (.pending, _) => []

/-- Have all listeners ended? -/
def isExhausted (n : Node) : Bool := n.listeners.all (·.hasEnded)

/-- What can end the node now. -/
def endAnswers (n : Node) : List (End × Node) :=
  once n.shutdownRequested (.signal, n) ++ once n.isExhausted (.exhausted, n)
    ++ match n.returned with
      | some r => [(.returned r, { n with returned := none })]
      | none => []

/-- The answers that a task may get now, each with the node after it. -/
def answers (n : Node) : (r : NodeRequest) → List (r.Reply × Node)
  | .work r => n.workAnswers r
  | .watched r => match n.workAnswers r with
    | [] => once n.stopping (none, n)
    | answers => answers.map fun (reply, n) => (some reply, n)
  | .take subscription => n.takeAnswers subscription
  | .leave subscription => [((), (n.withNetwork (n.network.unsubscribe subscription)).2)]
  | .tellLeft subscription =>
    [((), n.changeListener subscription fun l => { l with hasLeft := true })]
  | .subscriber => [(n.subscriber, n)]
  | .setSubscriber s => [((), { n with subscriber := s })]
  | .subscribe connection o => [n.withNetwork (n.network.subscribe connection o)]
  | .listen subscription c => [((), { n with
      listeners := n.listeners ++ [{ subscription }]
      awaited := n.awaited ++ [subscription]
      starting := n.starting ++ [.listen subscription c]
      tasks := n.tasks + 1 })]
  | .stopListeners => [((), { n with stopping := true })]
  | .awaitLeft => once (n.awaited.all n.isGone) ((), { n with awaited := [] })
  | .awaitListeners => once n.isExhausted ((), n)
  | .abortListeners => [((), { n with
      ending := n.ending
        ++ (n.listeners.filter (!·.hasEnded)).map fun l => .listener l.subscription })]
  | .setRunner s => [((), { n with runner := some s })]
  | .connect url => [n.withNetwork (n.network.connect url)]
  | .streamMax connection stream => [(n.network.streamMax connection stream, n)]
  | .openSettings connection buckets => [(Settings.connect n.network connection buckets, n)]
  | .close connection => [((), (n.withNetwork (n.network.close connection)).2)]
  | .launch c => [(n.tasks + 1, { n with
      starting := n.starting ++ [.launch c], tasks := n.tasks + 1 })]
  | .returned r => [((), { n with returned := some r })]
  | .awaitEnd => n.endAnswers
  | .awaitStop => once (n.shutdownRequested || n.isExhausted) ((), n)
  | .turnAway => [((), { n with correlation := n.correlation.closeAll })]
  | .cancel => [((), { n with cancelled := true })]
  | .abortLaunched => [((), { n with ending := n.ending ++ [.launched] })]
  | .conclude r => [((), { n with result := some r })]

end Node
end Waystation
