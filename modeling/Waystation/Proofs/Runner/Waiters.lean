import Waystation.Proofs.Node.Handles
import Waystation.Proofs.Runner.Cancellation
/-!
Shutdowns and those who wait for responses. A trigger that shuts down comes to turn all of them away,
before its finalizer is run. Whoever had begun to wait by then waits no longer, whether it is a task of
the node or has the handle from one.
-/
namespace Waystation

open NodeRequest Program

namespace Plan.Served

variable {p : Plan} (life : p.Served) {exchanges : List (Exchange NodeSignature)}

/-- What is exchanged until those who wait have been turned away. -/
def unwound : List (Exchange NodeSignature) := life.starting ++ life.serving ++ p.unwinding

variable {life}

theorem exists_unwound : ∃ rest, life.path = life.unwound ++ rest :=
  ⟨life.finalizing ++ closing life.context life.left life.final
      ++ [⟨.conclude (ended life.fault life.final), ()⟩],
    by simp [path, unwound, shutting]⟩

theorem turnAway_mem_unwound (htrigger : p.isTrigger = true) : ⟨.turnAway, ()⟩ ∈ life.unwound := by
  simp [unwound, unwinding, htrigger]

/-- A trigger that is terminated has turned away those who waited. -/
theorem turnAway_of_terminated (hpath : exchanges <+: life.path) (htrigger : p.isTrigger = true)
    (hterminated : .terminated ∈ statesSet exchanges) : ⟨.turnAway, ()⟩ ∈ exchanges := by
  have hannounced := announced_of_terminated hpath hterminated
  refine hannounced.subset (List.mem_append_left _ ?_)
  exact List.mem_append_left _ (life.turnAway_mem_unwound htrigger)

/-- User code has a say in a shutdown only behind that. -/
theorem turnAway_of_work {r : NodeRequest} {reply : r.Reply} (hwork : r.IsWork)
    (hpath : exchanges ++ [⟨r, reply⟩] <+: life.path) (htrigger : p.isTrigger = true)
    (hshutting : .shuttingDown ∈ statesSet exchanges) : ⟨.turnAway, ()⟩ ∈ exchanges := by
  have hserved := life.served ((List.prefix_append _ _).trans hpath) hshutting
  obtain ⟨later, rfl⟩ := hserved
  obtain ⟨rest, hrest⟩ := life.exists_unwound
  have hidle : ∀ x ∈ p.unwinding, ¬x.1.IsWork := by
    rw [unwinding]
    split <;> simp [IsWork]
  rw [hrest, unwound, List.append_assoc _ later, List.append_assoc _ p.unwinding,
    List.prefix_append_right_inj] at hpath
  rcases prefix_append_cases hpath with hbefore | ⟨behind, hbehind, -⟩
  · exact absurd hwork (hidle ⟨r, reply⟩ (hbefore.subset (by simp)))
  · have hunwound : p.unwinding <+: later ++ [⟨r, reply⟩] := ⟨behind, hbehind.symm⟩
    rcases List.prefix_concat_iff.1 hunwound with hall | hlater
    · exact absurd hwork (hidle ⟨r, reply⟩ (hall ▸ by simp))
    · exact List.mem_append_right _ (hlater.subset (by simp [unwinding, htrigger]))

end Plan.Served

namespace Runner

open Machine Plan

variable {r : Runner} {config : Config} {m : Machine} {log : List Move}

/-- A runner whose function has been launched is running, and has a function. -/
theorem running_of_launched (hsound : Sound .built (r.body config) m log) {c : Context} {task : Nat}
    (hlaunch : ⟨.launch c, task⟩ ∈ exchanged .main log) :
    .running ∈ statesSet (exchanged .main log) ∧ (r.plan config).isTrigger = true := by
  obtain ⟨q, hleads⟩ := hsound.exists_leads
  have hrunning : .running ∈ statesSet (exchanged .main log) := by
    by_contra hnone
    cases unstarted_of_not_running hleads hsound.coherent hnone with
    | missing h hpath =>
      cases List.mem_singleton.1 (hpath.subset hlaunch)
    | starting h hpath =>
      exact (h.phases.1 _ (hpath.subset hlaunch)).elim
    | failing h hpath =>
      obtain ⟨⟨hstarting, -⟩, hcloses, -⟩ := h.phases
      rcases mem_snoc.1 (hpath.subset hlaunch) with hmem | hlast
      · rcases List.mem_append.1 hmem with hearly | hcleanup
        · exact (hstarting _ hearly).elim
        · exact (hcloses _ hcleanup).2 trivial
      · cases hlast
    | abandoned h hpath =>
      rcases mem_snoc.1 (hpath.subset hlaunch) with hmem | hlast
      · exact (h.phases.1 _ hmem).elim
      · cases hlast
  obtain ⟨life, hpath⟩ := exists_served hleads hsound.coherent hrunning
  exact ⟨hrunning, life.serves.isTrigger_of_launch (life.mem_serving (hpath.subset hlaunch) (.inl trivial))⟩

/-- The state of a runner is one that it was set to. -/
theorem mem_statesSet_of_runner (hsound : Sound .built (r.body config) m log) {s : RunnerState}
    (hs : s ≠ .built) (hrunner : m.node.runner = some s) : s ∈ statesSet (exchanged .main log) := by
  have hconduct : m.node.runner = ((exchanged .main log).foldl Conduct.after .built).runner :=
    congrArg Conduct.runner hsound.conduct
  rw [runner_foldl, hrunner] at hconduct
  have hmem := List.mem_of_getLast? hconduct.symm
  exact (List.mem_append.1 hmem).resolve_left fun hbuilt => hs (List.mem_singleton.1 hbuilt)

/-- A trigger that is shut down comes to turn away those who wait, whatever user code does. -/
theorem exists_turned_away (hsound : Sound .built (r.body config) m log)
    (htrigger : (r.plan config).isTrigger = true) (hrunning : .running ∈ statesSet (exchanged .main log))
    (hshutting : .shuttingDown ∈ statesSet (exchanged .main log)) :
    ∃ es, (∀ e ∈ es, e.IsOwn) ∧ ⟨.turnAway, ()⟩ ∈ exchanged .main (log ++ m.log es) := by
  have hbody := r.body_driver config
  obtain ⟨q, hleads⟩ := hsound.exists_leads
  obtain ⟨es, hown, q', ⟨hsound', hrunning', hshutting'⟩, hleads', hend⟩ := exists_end_of_proceeds hbody
    (I := fun m log => Sound .built (r.body config) m log ∧ .running ∈ statesSet (exchanged .main log)
      ∧ .shuttingDown ∈ statesSet (exchanged .main log))
    (by
      rintro m log request next ⟨hsound, hrunning, hshutting⟩ hleads
      obtain ⟨reply, life, hpath⟩ := exists_next hsound hrunning hleads
      have hclosing : request.IsClosing := life.isClosing_of_served hpath
        (life.served ((List.prefix_append _ _).trans hpath) hshutting)
      refine (proceeds_of_closing hsound hclosing hleads).1.imp_right ?_
      rintro ⟨es, hown, reply, hexchanged⟩
      refine ⟨es, hown, reply, hexchanged, sound_during hbody hsound es, ?_, ?_⟩
      all_goals
        rw [exchanged_append, statesSet_append]
        exact List.mem_append_left _ ‹_›)
    ⟨hsound, hrunning, hshutting⟩ hleads
  refine ⟨es, hown, ?_⟩
  rcases hend with rfl | ⟨request, next, rfl, hwork, -⟩
  · obtain ⟨life, hall⟩ :=
      exists_path_of_runs (leads_iff_runs.1 hleads') hsound'.coherent hrunning'
    obtain ⟨rest, hrest⟩ := life.exists_unwound
    rw [hall, hrest]
    exact List.mem_append_left _ (life.turnAway_mem_unwound htrigger)
  · obtain ⟨reply, life, hpath⟩ := exists_next hsound' hrunning' hleads'
    exact Plan.Served.turnAway_of_work hwork hpath htrigger hshutting'

/-- Whatever a runner is made of, and whatever goes on around it and is done with its handle. Whoever
was given a waiter before all who wait were turned away does not wait any longer, ever after, and gets
nothing unless a response had come by then; no registration of theirs is left. A runner whose function
has the handle comes to that as soon as it shuts down, and has come to it when it is terminated. -/
theorem run_waiters (r : Runner) (config : Config) (streams : List (String × Option Nat))
    (buckets : List (String × Bucket)) (ops : List Broker.Operation) (faults : Faults) (drawn : Nat)
    (hs : List Happening) :
    let m := r.machine config { broker := Broker.run { streams, buckets } ops, faults, drawn }
    let now := (m.through hs).node
    (∀ before, m.TurnsAway hs before → ∀ w ∈ m.waiters before,
        (now.correlation.poll w).1 ≠ .pending
        ∧ ((m.through before).node.correlation.responses.lookup w.generation = none →
          now.correlation.poll w = (.resolved none, now.correlation))
        ∧ ∀ registration ∈ now.correlation.registrations, registration.generation ≠ w.generation)
    ∧ ∀ c task, ⟨.launch c, task⟩ ∈ exchanged .main (m.record hs) →
        (now.runner = some .shuttingDown → ∃ es : List Event, (∀ e ∈ es, e.IsOwn)
          ∧ ∃ before, m.TurnsAway (hs ++ es.map .event) before)
        ∧ (now.runner = some .terminated → ∃ before, m.TurnsAway hs before) := by
  intro m now
  have hdated : m.node.correlation.Dated := fun registration hmem => nomatch hmem
  have hsound : Sound .built (r.body config) (m.through hs) (m.record hs) :=
    sound_through (r.body_driver config) (r.sound_machine config (Broker.orderly_run streams buckets ops)) hs
  refine ⟨fun before haway w hw => ?_, fun c task hlaunch => ?_⟩
  · have hages := haway.ages
    have hold := generation_lt_of_waiters hdated hw
    obtain ⟨hanswered, hnothing⟩ := Correlation.poll_of_closed hold hages
    refine ⟨hanswered, hnothing, fun registration hmem hsame => ?_⟩
    have hnew := Correlation.registrations_of_closed hages registration hmem
    omega
  · obtain ⟨hrunning, htrigger⟩ := running_of_launched hsound hlaunch
    refine ⟨fun hshutting => ?_, fun hterminated => ?_⟩
    · obtain ⟨es, hown, hmem⟩ := exists_turned_away hsound htrigger hrunning
        (mem_statesSet_of_runner hsound (by decide) hshutting)
      refine ⟨es, hown, exists_turnsAway ?_⟩
      rw [record_append, record_events]
      exact hmem
    · obtain ⟨q, hleads⟩ := hsound.exists_leads
      obtain ⟨life, hpath⟩ := exists_served hleads hsound.coherent hrunning
      exact exists_turnsAway (Plan.Served.turnAway_of_terminated hpath htrigger
        (mem_statesSet_of_runner hsound (by decide) hterminated))

/-- A trigger runner whose finalizer waits for its function, which begins to wait for a response when
the finalizer lets it. -/
def belated : Runner := .trigger {
  function := some fun _ => .ok do
    (HookRequest.pass "begin").ask
    let w ← (HookRequest.await "r").ask
    discard (HookRequest.response w).ask
    (HookRequest.unlock "answered").ask
    return .succeeded
  finalizer := some fun _ => .ok do
    (HookRequest.unlock "begin").ask
    (HookRequest.pass "answered").ask
    return .succeeded }

/-- It starts, is asked to shut down and turns all away; then its function begins to wait. -/
def throughDelay : List Event := throughSignal ++ [.go 0 0, .go 1 0, .go 0 0]

/-- Whoever begins to wait when all have been turned away is turned away by nobody, and a finalizer that
waits for it never returns. -/
theorem stuck_of_belated :
    let m := belated.machine entry
      { broker := Broker.run { streams := [("workflow", none)], buckets := [] } [] }
    let w : Waiter := { id := "r", generation := 0 }
    entry.fault? = none ∧ (∃ before, m.TurnsAway (throughSignal.map .event) before)
      ∧ m.waiters (throughDelay.map .event) = [w]
      ∧ ∀ es : List Event, (∀ e ∈ es, e.IsOwn) →
        let now := (m.through ((throughDelay ++ es).map .event)).node
        (now.correlation.poll w).1 = .pending ∧ now.runner = some .shuttingDown
          ∧ now.result.isNone = true := by
  intro m w
  have haway : ((exchanged .main (m.record (throughSignal.map .event))).any
      (·.1 matches .turnAway)) = true := by decide +kernel
  -- both tasks wait: one for the response, the other for the gate that the first would open
  have hidle : ((m.during throughDelay).tasks.all fun t => !t.canGoOn (m.during throughDelay).node) = true := by
    decide +kernel
  refine ⟨by decide +kernel, ?_, by decide +kernel, fun es hown => ?_⟩
  · obtain ⟨⟨request, reply⟩, hmem, hturn⟩ := List.any_eq_true.1 haway
    cases request with
    | turnAway => exact exists_turnsAway hmem
    | _ => cases hturn
  · rw [through_events, during_append, during_of_idle (by simpa using hidle) hown]
    decide +kernel

end Runner
end Waystation
