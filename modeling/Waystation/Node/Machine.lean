import Waystation.Node.Work
/-!
Tasks taking turns. Those that can go on stand in a queue; the first goes on until it has to wait or
is finished. A task that waits comes back to the end of the queue once it has an answer; of several,
the one that has waited longest comes first. When the queue is empty it is quiet, unless a task
waits for the node to shut down, and whoever waits for quiet goes on.
-/
namespace Waystation

/-- What the tasks of a node run. -/
structure Duties where
  work : Context → Delivery → Work
  launched : Option RunnerFunction := none

/-- A task: what it runs now, and what it runs when that is done. -/
structure Task where
  id : TaskId
  /-- What the task does again and again until it is finished. -/
  body : Program NodeSignature Turn
  current : Program NodeSignature Turn

/-- A node with its tasks: those that can go on, and those that wait for something. -/
structure Machine where
  node : Node
  duties : Duties
  queue : List Task := []
  waiting : List Task := []

namespace Duties

/-- What a job does. -/
def body (d : Duties) : Job → Program NodeSignature Turn
  | .listen subscription c => Listener.round subscription (d.work c)
  | .launch c => match d.launched with
    | none => return .finished
    | some f => match f c with
      | .error p => do
        (NodeRequest.returned (.error p)).ask
        return .finished
      | .ok program => do
        (NodeRequest.returned (.ok (← program.ofHook).guarded)).ask
        return .finished

/-- The task for a job. -/
def task (d : Duties) (j : Job) : Task :=
  { id := match j with
      | .listen subscription _ => .listener subscription
      | .launch _ => .launched
    body := d.body j
    current := d.body j }

end Duties

/-- A task that does something once. -/
def Task.once (id : TaskId) (p : Program NodeSignature Unit) : Task :=
  let body := do
    p
    return Turn.finished
  { id, body, current := body }

/-- Can a task go on? -/
def Task.canGoOn (t : Task) (n : Node) : Bool :=
  match t.current with
  | .done _ => true
  | .ask r _ => !(n.answers r).isEmpty

/-- Does a task wait for the node to shut down? -/
def Task.awaitsShutdown (t : Task) : Bool :=
  match t.current with
  | .ask (.work (.user .cancelled)) _ | .ask (.watched (.user .cancelled)) _ => true
  | _ => false

namespace Machine

/-- Ends tasks, wherever they stand. -/
def endTasks (m : Machine) (ids : List TaskId) : Machine :=
  { m with
    node := ids.foldl Node.endTask m.node
    queue := m.queue.filter fun t => t.id ∉ ids
    waiting := m.waiting.filter fun t => t.id ∉ ids }

/-- Starts and ends the tasks that the node asks for. -/
def comply (m : Machine) : Machine :=
  let m := { m with
    node := { m.node with starting := [] }
    queue := m.queue ++ m.node.starting.map m.duties.task }
  let m := m.endTasks m.node.ending
  { m with node := { m.node with ending := [] } }

/-- Puts those who can go on into the queue. -/
def wake (m : Machine) : Machine :=
  { m with
    queue := m.queue ++ m.waiting.filter (·.canGoOn m.node)
    waiting := m.waiting.filter fun t => !t.canGoOn m.node }

/-- Lets the first in the queue go on by one request. -/
def step (m : Machine) : Machine :=
  match m.queue with
  | [] => m
  | t :: rest => match t.current with
    | .done .again => { m with queue := { t with current := t.body } :: rest }
    | .done .finished => ({ m with queue := rest }.endTasks [t.id]).wake
    | .ask r next => match m.node.answers r with
      | (reply, node) :: _ =>
        { m with node, queue := { t with current := next reply } :: rest }.comply.wake
      | [] => { m with queue := rest, waiting := m.waiting ++ [t] }

/-- Tells the one who has waited longest for quiet that it is quiet, if anybody has. It is not while
somebody waits for the node to shut down. -/
def hush (m : Machine) : Option Machine :=
  let node := { m.node with quiet := true }
  if m.waiting.any (·.awaitsShutdown) then none
  else match m.waiting.find? (·.canGoOn node) with
    | some t => some { m with node, queue := [t], waiting := m.waiting.filter (·.id ≠ t.id) }
    | none => none

/-- Lets tasks take turns until all of them wait, for as many steps as are given. -/
def run : Nat → Machine → Machine
  | 0, m => m
  | steps + 1, m =>
    if m.queue.isEmpty then
      match m.hush with
      | some m => run steps m
      | none => m
    else run steps m.step

/-- More steps than any task takes that does not feed itself with messages. -/
def stepLimit : Nat := 10000000

/-- Lets tasks take turns until all of them wait. -/
def toIdle (m : Machine) : Machine := m.run stepLimit

/-- Adds the driving task. -/
def drive (m : Machine) (p : Program NodeSignature Ended) : Machine :=
  let body := do
    (NodeRequest.conclude (← p)).ask
  { m with
    node := { m.node with result := none }
    queue := m.queue ++ [Task.once .main body] }

/-- Does something, and lets tasks take turns until all of them wait. -/
def perform (m : Machine) (p : Program NodeSignature Unit) : Machine :=
  (m.drive do
    p
    return .ok (.ok ())).toIdle

/-! What happens from outside. -/

/-- Something happens to the node. -/
def affect (m : Machine) (f : Node → Node) : Machine := { m with node := f m.node }.wake

/-- Changes the broker from outside and wakes whoever waits. -/
def affectBroker (m : Machine) (f : Broker → Broker) : Machine :=
  m.affect fun n => { n with network := { n.network with broker := f n.network.broker } }

/-- Another node publishes. -/
def inject (m : Machine) (message : Message) : Machine := m.affectBroker (·.inject message)

/-- Opens a gate. -/
def unlock (m : Machine) (gate : String) : Machine :=
  m.affect fun n => { n with gates := gate :: n.gates }

/-- Asks the runner to shut down. -/
def requestShutdown (m : Machine) : Machine :=
  m.affect fun n => { n with shutdownRequested := true }

/-- Works on a message that no broker has delivered. -/
def workOn (m : Machine) (c : Context) (message : Message) : Machine :=
  m.perform do
    let _ ← (m.duties.work c
      { number := m.node.network.broker.history.nextDelivery, message }).ofWork

end Machine
end Waystation
