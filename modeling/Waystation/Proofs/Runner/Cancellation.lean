import Waystation.Proofs.Runner.Shutdown
/-!
What user code is told about a shutdown. Its triggers learn of it when the finalizer has returned, and
never forget it. Until then whoever waits for the shutdown keeps waiting, and so does a finalizer that
waits for them. A finalizer that panics before it begins to run leaves them waiting for good.
-/
namespace Waystation

open NodeRequest Program

/-- Requests that tell triggers of the shutdown. -/
def NodeRequest.IsCancel : NodeRequest → Prop
  | cancel => True
  | _ => False

theorem NodeRequest.IsSilent.not_isCancel {r : NodeRequest} (h : r.IsSilent) : ¬r.IsCancel := by
  cases r <;> first | exact h.elim | exact fun h => h

theorem NodeRequest.IsStarting.not_isCancel {r : NodeRequest} (h : r.IsStarting) : ¬r.IsCancel := by
  cases r <;> first | exact h.elim | exact fun h => h

namespace Node

variable (n : Node)

theorem hookAnswers_cancelled : n.hookAnswers .cancelled ≠ [] ↔ n.cancelled = true := by
  cases hcancelled : n.cancelled <;> simp [hookAnswers, once, hcancelled]

end Node

/-- Whoever waits for the shutdown can go on once it is told. -/
theorem Task.canGoOn_of_cancelled {t : Task} {n : Node} (ht : t.awaitsShutdown = true)
    (hcancelled : n.cancelled = true) : t.canGoOn n = true := by
  obtain ⟨id, body, current⟩ := t
  have hanswer : n.workAnswers (.user .cancelled) = [((), n)] := by
    rw [Node.workAnswers, Node.hookAnswers, Node.once, if_pos hcancelled]
    rfl
  simp only [Task.awaitsShutdown] at ht
  split at ht
  next =>
    simp only [Task.canGoOn, Node.answers, hanswer]
    rfl
  next =>
    simp only [Task.canGoOn, Node.answers, hanswer]
    rfl
  next => cases ht

namespace Plan

variable {p : Plan}

theorem unwinding_not_isCancel : ∀ x ∈ p.unwinding, ¬x.1.IsCancel := by
  rw [unwinding]
  split <;> simp [IsCancel]

namespace Served

variable (life : p.Served) {exchanges : List (Exchange NodeSignature)}

/-- What is exchanged until the finalizer has come back. -/
def finalized : List (Exchange NodeSignature) :=
  life.starting ++ life.serving ++ p.unwinding ++ life.finalizing

/-- The finalizer has returned, and user code has been told of the shutdown right after it. -/
def Announced (exchanges : List (Exchange NodeSignature)) : Prop :=
  life.finalized ++ [⟨.cancel, ()⟩] <+: exchanges

theorem path_eq : life.path = life.finalized ++ closing life.context life.left life.final
    ++ [⟨.conclude (ended life.fault life.final), ()⟩] := by
  simp [path, finalized, shutting]

theorem exists_path {returned : Except HookError Unit} (hfinal : life.final = .ok returned) :
    ∃ rest, life.path = life.finalized ++ ⟨.cancel, ()⟩ :: rest := by
  rw [path_eq, hfinal, List.append_assoc]
  exact ⟨_, rfl⟩

theorem statesSet_finalized :
    statesSet life.finalized = [.initializing, .running, .shuttingDown] := by
  rw [finalized, statesSet_append, statesSet_append, statesSet_append, life.starts.statesSet,
    statesSet_of_silent life.serves.isSilent, statesSet_unwinding,
    statesSet_of_silent fun x hx => (life.finalizing_isWork x hx).isSilent]
  rfl

theorem finalized_not_isCancel : ∀ x ∈ life.finalized, ¬x.1.IsCancel := by
  simp only [finalized, List.forall_mem_append]
  refine ⟨⟨⟨fun x hx => ?_, fun x hx => ?_⟩, unwinding_not_isCancel⟩, fun x hx => ?_⟩
  · exact (life.starts.phases.1 x hx).not_isCancel
  · exact (life.serves.isSilent x hx).not_isCancel
  · exact (life.finalizing_isWork x hx).isSilent.not_isCancel

variable {life}

/-- A finalizer behind which the shutdown is told has returned. -/
theorem exists_returned_of_cancel (hcancel : ⟨.cancel, ()⟩ ∈ life.path) :
    ∃ returned, life.final = .ok returned := by
  cases hfinal : life.final with
  | ok returned => exact ⟨returned, rfl⟩
  | error panic =>
    rw [path_eq, hfinal, List.append_assoc] at hcancel
    rcases List.mem_append.1 hcancel with hmem | hlast
    · exact absurd trivial (life.finalized_not_isCancel _ hmem)
    · rcases mem_snoc.1 hlast with hclosing | hconclude
      · cases List.mem_singleton.1 hclosing
      · cases hconclude

/-- The shutdown is announced once, when the finalizer has returned. -/
theorem announced_iff (hpath : exchanges <+: life.path) :
    life.Announced exchanges ↔ ⟨.cancel, ()⟩ ∈ exchanges := by
  constructor
  · exact fun hannounced => hannounced.subset (by simp)
  · intro hcancel
    obtain ⟨returned, hfinal⟩ := exists_returned_of_cancel (hpath.subset hcancel)
    obtain ⟨rest, hrest⟩ := life.exists_path hfinal
    exact (mem_iff_begun (hrest ▸ hpath) fun hmem =>
      life.finalized_not_isCancel ⟨.cancel, ()⟩ hmem trivial).1 hcancel

theorem Announced.shuttingDown (h : life.Announced exchanges) : .shuttingDown ∈ statesSet exchanges := by
  refine (h.filterMap _).subset ?_
  rw [← statesSet, statesSet_append, life.statesSet_finalized]
  simp

theorem exists_returned_of_terminated (hpath : exchanges <+: life.path)
    (hterminated : .terminated ∈ statesSet exchanges) : ∃ returned, life.final = .ok returned := by
  have hmem := (hpath.filterMap _).subset hterminated
  rw [← statesSet, life.statesSet_path] at hmem
  cases hfinal : life.final with
  | ok returned => exact ⟨returned, rfl⟩
  | error panic => simp [hfinal, lastStates] at hmem

/-- A runner is not terminated before its shutdown is announced. -/
theorem announced_of_terminated (hpath : exchanges <+: life.path)
    (hterminated : .terminated ∈ statesSet exchanges) : life.Announced exchanges := by
  obtain ⟨returned, hfinal⟩ := exists_returned_of_terminated hpath hterminated
  obtain ⟨rest, hrest⟩ := life.exists_path hfinal
  rw [hrest, ← List.singleton_append, ← List.append_assoc] at hpath
  rcases prefix_append_cases hpath with hbefore | ⟨later, rfl, -⟩
  · have hmem := (hbefore.filterMap _).subset hterminated
    rw [← statesSet, statesSet_append, life.statesSet_finalized] at hmem
    simp [statesSet] at hmem
  · exact List.prefix_append _ _

end Served
end Plan

namespace Machine

/-- Where no task can go on, nothing happens by itself. -/
theorem during_of_idle {m : Machine} (h : ∀ t ∈ m.tasks, t.canGoOn m.node = false) {es : List Event}
    (hown : ∀ e ∈ es, e.IsOwn) : m.during es = m := by
  have hgo : ∀ place answer, m.after (.go place answer) = m := by
    intro place answer
    simp only [after, go]
    cases hplace : m.tasks[place]? with
    | none => rfl
    | some t =>
      have hwaits := h t (List.mem_of_getElem? hplace)
      obtain ⟨id, body, current⟩ := t
      cases current with
      | done turn => cases hwaits
      | ask r next =>
        have hnone : m.node.answers r = [] := by simpa [Task.canGoOn] using hwaits
        simp [hnone]
  induction es with
  | nil => rfl
  | cons e es ih =>
    obtain ⟨he, hrest⟩ := List.forall_mem_cons.1 hown
    cases e with
    | go place answer =>
      have hstep : m.during (.go place answer :: es) = (m.after (.go place answer)).during es := rfl
      rw [hstep, hgo, ih hrest]
    | _ => exact he.elim

end Machine

namespace Runner

open Machine Plan

variable {start : Conduct} {body : Program NodeSignature Turn} {m : Machine} {log : List Move}

/-- What user code is told about the shutdown of a runner. -/
structure Notice {p : Plan} (life : p.Served) (m : Machine) (es : List Event) : Prop where
  path : exchanged .main (m.log es) <+: life.path
  status : ∃ status : TriggerStatus, (m.during es).node.hookAnswers .status = [(status, (m.during es).node)]
    ∧ (status.shuttingDown = true ↔ life.Announced (exchanged .main (m.log es)))
  /-- Nothing holds the announcement up when the finalizer has returned. -/
  prompt : ∀ returned, life.final = .ok returned → exchanged .main (m.log es) = life.finalized →
    ∃ e, e.IsOwn ∧ life.Announced (exchanged .main (m.log (es ++ [e])))
  /-- There is none behind a finalizer that panicked before it began to run. -/
  broken : ∀ panic, life.final = .error panic → ¬life.Announced (exchanged .main (m.log es))
  cancelled : (m.during es).node.hookAnswers .cancelled ≠ []
    ↔ life.Announced (exchanged .main (m.log es))
  /-- Nobody who waits for the shutdown has to wait any longer. -/
  awaited : life.Announced (exchanged .main (m.log es)) →
    ∀ t ∈ (m.during es).tasks, t.awaitsShutdown = true → t.canGoOn (m.during es).node = true
  shuttingDown : life.Announced (exchanged .main (m.log es)) → .shuttingDown ∈ m.states es
  terminated : .terminated ∈ m.states es → life.Announced (exchanged .main (m.log es))

/-- A node knows of its shutdown exactly what its driving task has said. -/
theorem cancelled_iff (h : Sound .built body m log) :
    m.node.cancelled = true ↔ ⟨.cancel, ()⟩ ∈ exchanged .main log := by
  have hconduct : m.node.cancelled = ((exchanged .main log).foldl Conduct.after .built).cancelled :=
    congrArg Conduct.cancelled h.conduct
  rw [hconduct]
  exact ⟨fun hknows => (told_of_cancelled hknows).resolve_left Bool.false_ne_true, cancelled_of_told⟩

/-- When the finalizer has returned, the shutdown is told next. -/
theorem exists_announced {r : Runner} {config : Config} (hsound : Sound .built (r.body config) m log)
    {life : (r.plan config).Served} {turn : Turn} (hruns : (r.body config).Runs life.path turn)
    {returned : Except HookError Unit} (hfinal : life.final = .ok returned)
    (hfinalized : exchanged .main log = life.finalized) :
    ∃ e, e.IsOwn ∧ life.Announced (exchanged .main (log ++ m.log [e])) := by
  obtain ⟨rest, hrest⟩ := life.exists_path hfinal
  -- the program runs this very life, so what is left of it begins with what follows the finalizer
  obtain ⟨q, hleads, hcancel⟩ := (hrest ▸ hruns).exists_leads
  cases hcancel with
  | ask hcancel =>
    have hanswer : ((), { m.node with cancelled := true }) ∈ m.node.answers .cancel :=
      List.mem_singleton.2 rfl
    obtain ⟨e, he, hmoves⟩ := hsound.main_step (hfinalized ▸ hleads) hanswer
    refine ⟨e, he, ?_⟩
    rw [log_singleton, hmoves, exchanged_append, exchanged_own, hfinalized]
    exact List.prefix_rfl

theorem notice_of_running {r : Runner} {config : Config} {network : Network}
    (h : network.broker.Orderly) {es : List Event}
    (hrunning : .running ∈ (r.machine config network).states es) :
    ∃ life : (r.plan config).Served, Notice life (r.machine config network) es := by
  have hsound := r.sound_run config h es
  have hstates := states_run r config h es
  obtain ⟨q, hleads⟩ := hsound.exists_leads
  obtain ⟨life, hpath, turn, hruns⟩ := exists_served_runs hleads hsound.coherent (hstates ▸ hrunning)
  have hknows : ((r.machine config network).during es).node.cancelled = true
      ↔ life.Announced (exchanged .main ((r.machine config network).log es)) :=
    (cancelled_iff hsound).trans (Served.announced_iff hpath).symm
  exact ⟨life,
    { path := hpath
      status := ⟨_, rfl, hknows⟩
      prompt := fun returned hfinal hfinalized => by
        simpa only [log_append] using exists_announced hsound hruns hfinal hfinalized
      broken := fun panic hfinal hannounced => by
        obtain ⟨returned, hreturned⟩ := Served.exists_returned_of_cancel
          (hpath.subset ((Served.announced_iff hpath).1 hannounced))
        cases hfinal.symm.trans hreturned
      cancelled := (Node.hookAnswers_cancelled _).trans hknows
      awaited := fun hannounced t _ ht => Task.canGoOn_of_cancelled ht (hknows.2 hannounced)
      shuttingDown := fun hannounced => hstates ▸ hannounced.shuttingDown
      terminated := fun hterminated => Served.announced_of_terminated hpath (hstates ▸ hterminated) }⟩

/-- A shutdown that has been told is not taken back. -/
theorem cancelled_during {r : Runner} {config : Config} {network : Network} (h : network.broker.Orderly)
    {es : List Event} (hcancelled : ((r.machine config network).during es).node.cancelled = true)
    (es' : List Event) : ((r.machine config network).during (es ++ es')).node.cancelled = true := by
  rw [cancelled_iff (r.sound_run config h es)] at hcancelled
  rw [cancelled_iff (r.sound_run config h (es ++ es')), log_append, exchanged_append]
  exact List.mem_append_left _ hcancelled

/-- Whatever a runner is made of, and whatever goes on around it. What user code is told of its shutdown
it is told when the finalizer has returned, and that is not taken back: from then on, the end of the
runner included, every trigger says that the node shuts down, and whoever waits for that can go on.
Before that a runner that is running says the opposite, and whoever waits for its shutdown waits. -/
theorem run_cancellation (r : Runner) (config : Config) (streams : List (String × Option Nat))
    (buckets : List (String × Bucket)) (ops : List Broker.Operation) (faults : Faults) (drawn : Nat)
    (es : List Event) :
    let m := r.machine config { broker := Broker.run { streams, buckets } ops, faults, drawn }
    (.running ∈ m.states es → ∃ life : (r.plan config).Served, Notice life m es)
    ∧ ((m.during es).node.cancelled = true → ∀ es', (m.during (es ++ es')).node.cancelled = true) := by
  intro m
  have horderly : Broker.Orderly (Broker.run { streams, buckets } ops) :=
    Broker.orderly_run streams buckets ops
  exact ⟨notice_of_running horderly, cancelled_during horderly⟩

/-- A trigger runner whose finalizer waits for its function, which waits for the shutdown. -/
def entwined : Runner := .trigger {
  function := some fun _ => .ok do
    HookRequest.cancelled.ask
    (HookRequest.unlock "left").ask
    return .succeeded
  finalizer := some fun _ => .ok do
    (HookRequest.pass "left").ask
    return .succeeded }

/-- It starts, is asked to shut down, its listener leaves, and its finalizer begins. -/
def throughSignal : List Event :=
  List.replicate 10 (.go 0 0) ++ [.shutDown] ++ List.replicate 5 (.go 0 0) ++ [.go 1 0]
    ++ List.replicate 5 (.go 0 0)

/-- A finalizer that waits for the runner function to learn of the shutdown waits forever: the shutdown
is told behind it. -/
theorem stuck_of_entwined :
    let m := entwined.machine entry
      { broker := Broker.run { streams := [("workflow", none)], buckets := [] } [] }
    let n := (m.during throughSignal).node
    entry.fault? = none ∧ m.states throughSignal = [.initializing, .running, .shuttingDown]
      ∧ n.runner = some .shuttingDown ∧ n.cancelled = false ∧ (n.hookAnswers .cancelled).isEmpty = true
      ∧ ∀ es', (∀ e ∈ es', e.IsOwn) →
        (m.during (throughSignal ++ es')).node.runner = some .shuttingDown
          ∧ (m.during (throughSignal ++ es')).node.result.isNone = true := by
  intro m n
  -- both tasks wait: one for the shutdown, the other for the gate that the first would open
  have hidle : ((m.during throughSignal).tasks.all fun t => !t.canGoOn n) = true := by decide +kernel
  refine ⟨by decide +kernel, by decide +kernel, by decide +kernel, by decide +kernel, by decide +kernel,
    fun es' hown => ?_⟩
  rw [during_append, during_of_idle (by simpa using hidle) hown]
  decide +kernel

end Runner
end Waystation
