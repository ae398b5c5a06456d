import Mathlib.Data.List.Perm.Basic
import Waystation.Node.Machine
import Waystation.Proofs.Broker.Run
import Waystation.Proofs.Program.Leads
/-!
Schedules. Any task may be the next to go on, with any of the answers it may get, and between that
anything may happen from outside. What one event can do to the tasks and to the node is told once.
-/
namespace Waystation

/-- A request that a task has made, and the reply it got. -/
structure Move where
  task : TaskId
  exchange : Exchange NodeSignature

namespace Machine

/-- All tasks, wherever they stand. -/
def tasks (m : Machine) : List Task := m.queue ++ m.waiting

/-- What can happen: the task at a place goes on, with one of its answers, or something happens from
outside. -/
inductive Event
  | go (place answer : Nat)
  | unlock (gate : String)
  | shutDown
  | hush
  | broker (op : Broker.Operation)

/-- Lets the task at a place go on by one request, with the answer of a number. -/
def go (m : Machine) (place answer : Nat) : Machine × List Move :=
  match m.tasks[place]? with
  | none => (m, [])
  | some t =>
    let rest := m.tasks.eraseIdx place
    match t.current with
    | .done .again => ({ m with queue := { t with current := t.body } :: rest, waiting := [] }, [])
    | .done .finished => ({ m with queue := rest, waiting := [] }.endTasks [t.id], [])
    | .ask r next => match (m.node.answers r)[answer]? with
      | some (reply, node) =>
        ({ m with node, queue := { t with current := next reply } :: rest, waiting := [] }.comply,
          [⟨t.id, r, reply⟩])
      | none => (m, [])

def after (m : Machine) : Event → Machine
  | .go place answer => (m.go place answer).1
  | .unlock gate => { m with node := { m.node with gates := gate :: m.node.gates } }
  | .shutDown => { m with node := { m.node with shutdownRequested := true } }
  | .hush => { m with node := { m.node with quiet := true } }
  | .broker op => { m with node := { m.node with
      network := { m.node.network with broker := m.node.network.broker.after op } } }

/-- The request that an event makes, with its reply. -/
def moves (m : Machine) : Event → List Move
  | .go place answer => (m.go place answer).2
  | _ => []

def during (m : Machine) (es : List Event) : Machine := es.foldl after m

/-- The requests made over a schedule. -/
def log (m : Machine) (es : List Event) : List Move := logged after moves m es

end Machine

/-- What one task has exchanged. -/
def exchanged (id : TaskId) (log : List Move) : List (Exchange NodeSignature) :=
  log.filterMap fun x => if x.task = id then some x.exchange else none

@[simp] theorem exchanged_append (id : TaskId) (log log' : List Move) :
    exchanged id (log ++ log') = exchanged id log ++ exchanged id log' :=
  List.filterMap_append

theorem exchanged_own (id : TaskId) (x : Exchange NodeSignature) :
    exchanged id [⟨id, x⟩] = [x] := by
  simp [exchanged]

theorem exchanged_other {id other : TaskId} (h : other ≠ id) (x : Exchange NodeSignature) :
    exchanged id [⟨other, x⟩] = [] := by
  simp [exchanged, h]

namespace Machine

variable {m m' : Machine} {moved : List Move}

/-- What may happen to a node from outside. -/
structure Outside (n n' : Node) : Prop where
  same : n' = { n with
    network := n'.network, gates := n'.gates, quiet := n'.quiet
    shutdownRequested := n'.shutdownRequested }
  network : n'.network = n.network
    ∨ ∃ op, n'.network = { n.network with broker := n.network.broker.after op }
  requested : n.shutdownRequested = true → n'.shutdownRequested = true

/-- A node whose jobs have been started and whose tasks have been ended as it asked. -/
def complied (n : Node) : Node :=
  { (n.ending.foldl Node.endTask { n with starting := [] }) with ending := [] }

/-- What an event can do: nothing to the tasks, or a task starts over, is finished, or is answered. -/
inductive Effect (m : Machine) : List Move → Machine → Prop
  | outside {m' : Machine} (htasks : m'.tasks = m.tasks) (hduties : m'.duties = m.duties)
      (hnode : Outside m.node m'.node) : Effect m [] m'
  | again {m' : Machine} {t : Task} {rest : List Task} (htasks : m.tasks.Perm (t :: rest))
      (hdone : t.current = .done .again) (hduties : m'.duties = m.duties) (hnode : m'.node = m.node)
      (htasks' : m'.tasks = { t with current := t.body } :: rest) : Effect m [] m'
  | finished {m' : Machine} {t : Task} {rest : List Task} (htasks : m.tasks.Perm (t :: rest))
      (hdone : t.current = .done .finished) (hduties : m'.duties = m.duties)
      (hnode : m'.node = m.node.endTask t.id)
      (htasks' : m'.tasks = rest.filter fun other => other.id ≠ t.id) : Effect m [] m'
  | answered {m' : Machine} {t : Task} {rest : List Task} {r : NodeRequest}
      {next : r.Reply → Program NodeSignature Turn} {reply : r.Reply} {node : Node}
      (htasks : m.tasks.Perm (t :: rest)) (hask : t.current = .ask r next)
      (hanswer : (reply, node) ∈ m.node.answers r) (hduties : m'.duties = m.duties)
      (hnode : m'.node = complied node)
      (htasks' : m'.tasks = (({ t with current := next reply } :: rest)
        ++ node.starting.map m.duties.task).filter fun other => other.id ∉ node.ending) :
      Effect m [⟨t.id, r, reply⟩] m'

theorem outside_refl (n : Node) : Outside n n := ⟨rfl, .inl rfl, fun h => h⟩

theorem go_effect (m : Machine) (place answer : Nat) :
    Effect m (m.go place answer).2 (m.go place answer).1 := by
  rw [go]
  split
  next => exact .outside rfl rfl (outside_refl _)
  next t ht =>
    obtain ⟨hlt, hget⟩ := List.getElem?_eq_some_iff.1 ht
    have htasks : m.tasks.Perm (t :: m.tasks.eraseIdx place) := by
      rw [← hget]
      exact (List.getElem_cons_eraseIdx_perm hlt).symm
    split
    next hdone => exact .again htasks hdone rfl rfl (by simp [tasks])
    next hdone =>
      refine .finished htasks hdone rfl rfl ?_
      simp [tasks, endTasks]
    next r next hask =>
      split
      next reply node hanswer =>
        have hmem := List.mem_of_getElem? hanswer
        refine .answered htasks hask hmem rfl rfl ?_
        simp only [tasks, comply, endTasks, List.filter_nil, List.append_nil]
      next => exact .outside rfl rfl (outside_refl _)

theorem after_effect (m : Machine) (e : Event) : Effect m (m.moves e) (m.after e) := by
  cases e with
  | go place answer => exact m.go_effect place answer
  | unlock gate => exact .outside rfl rfl ⟨rfl, .inl rfl, fun h => h⟩
  | shutDown => exact .outside rfl rfl ⟨rfl, .inl rfl, fun _ => rfl⟩
  | hush => exact .outside rfl rfl ⟨rfl, .inl rfl, fun h => h⟩
  | broker op => exact .outside rfl rfl ⟨rfl, .inr ⟨op, rfl⟩, fun h => h⟩

/-- A relation between the machine and what was asked so far holds at all times if every event keeps
it. -/
theorem invariant_during {I : Machine → List Move → Prop}
    (hstep : ∀ m log moved m', I m log → Effect m moved m' → I m' (log ++ moved))
    {log : List Move} (h : I m log) (es : List Event) : I (m.during es) (log ++ m.log es) :=
  invariant_logged (fun m log e hm => hstep m log _ _ hm (m.after_effect e)) h es

end Machine
end Waystation
