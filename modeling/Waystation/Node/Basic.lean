import Waystation.Hook.Request
import Waystation.Runner.Error
/-!
A node at work: the network around it, what its hooks share, the states of its runner and of its
subscriber, and the tasks it has started or is to end.
-/
namespace Waystation

/-- The life of a subscriber. -/
inductive SubscriberState
  | idle | subscribing | listening | unsubscribing | stopped
  deriving DecidableEq, Repr

def SubscriberState.label : SubscriberState → String
  | idle => "Idle"
  | subscribing => "Subscribing"
  | listening => "Listening"
  | unsubscribing => "Unsubscribing"
  | stopped => "Stopped"

/-- The task that reads a subscription. -/
structure Listener where
  subscription : Nat
  /-- Whether it has told that it takes no more messages. -/
  hasLeft : Bool := false
  hasEnded : Bool := false
  deriving DecidableEq, Repr

/-- How user code came back: it panicked before it began to run, or it returned. -/
abbrev Returned := Except Panic (Except HookError Unit)

/-- How the driving task came to its end: a panic went through it, or it returned. -/
abbrev Ended := Except Panic (Except RunnerError Unit)

/-- Work to be started as a task of its own. -/
inductive Job
  | listen (subscription : Nat) (c : Context)
  | launch (c : Context)
  deriving DecidableEq, Repr

/-- The tasks of a node: the one that drives it, its listeners and its runner function. -/
inductive TaskId
  | main
  | listener (subscription : Nat)
  | launched
  deriving DecidableEq, Repr

/-- What the tasks of a node share. -/
structure Node where
  network : Network
  /-- The gates that are open. -/
  gates : List String := []
  journal : List Note := []
  /-- The deliveries that were to be acknowledged. -/
  acknowledged : List Nat := []
  correlation : Correlation Envelope := {}
  /-- None while no runner drives the node. -/
  runner : Option RunnerState := none
  subscriber : SubscriberState := .idle
  listeners : List Listener := []
  /-- The listeners whose leaving is yet to be awaited. -/
  awaited : List Nat := []
  /-- Whether the listeners have been told to stop. -/
  stopping : Bool := false
  /-- Whether triggers have been told that the node shuts down. -/
  cancelled : Bool := false
  /-- Whether the node has been asked to shut down. -/
  shutdownRequested : Bool := false
  /-- What the runner function returned, until somebody looks. -/
  returned : Option Returned := none
  /-- What the driving task came to. -/
  result : Option Ended := none
  /-- Whether nothing else goes on just now. -/
  quiet : Bool := false
  /-- How many tasks have been started. -/
  tasks : Nat := 1
  starting : List Job := []
  ending : List TaskId := []

namespace Node

/-- Changes the network around the node. -/
def withNetwork {α : Type} (n : Node) (r : α × Network) : α × Node :=
  (r.1, { n with network := r.2 })

/-- Puts in the broker that an operation leaves behind. -/
def withBroker {α : Type} (n : Node) (r : α × Broker) : α × Node :=
  (r.1, { n with network := { n.network with broker := r.2 } })

/-- The listener of a subscription. -/
def listener? (n : Node) (subscription : Nat) : Option Listener :=
  n.listeners.find? (·.subscription = subscription)

/-- Changes the listener of a subscription. -/
def changeListener (n : Node) (subscription : Nat) (f : Listener → Listener) : Node :=
  { n with listeners := n.listeners.map fun l => if l.subscription = subscription then f l else l }

/-- Will nobody hear from a listener any more, or has it told that it takes no more messages? -/
def isGone (n : Node) (subscription : Nat) : Bool :=
  match n.listener? subscription with
  | some l => l.hasLeft || l.hasEnded
  | none => true

/-- What a task leaves behind: a listener lets go of its subscription. -/
def endTask (n : Node) : TaskId → Node
  | .listener subscription =>
    let n := n.changeListener subscription fun l => { l with hasEnded := true }
    { n with network := { n.network with broker := n.network.broker.drop subscription } }
  | .main | .launched => n

end Node
end Waystation
