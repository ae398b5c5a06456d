import Waystation.Proofs.Correlation.Ages
import Waystation.Proofs.Runner.Serving
/-!
Shutdowns. Whatever ends a runner that is running, it is shut down in one way, and each step has had its
effect when the next is taken. A finalizer that panics before it begins to run breaks the shutdown off:
but for its listeners, nothing of the node that is left then is ended.
-/
namespace Waystation

open NodeRequest Program

namespace Machine

/-- What ends a runner that is running, and the fault it comes to. That its runner function returns
without a fault ends nothing. -/
inductive EndedBy (m : Machine) (log : List Move) (c : Context) : Option RunnerError → Prop
  | signal (h : m.node.shutdownRequested = true) : EndedBy m log c none
  | exhausted (h : ∀ l ∈ m.node.listeners, l.hasEnded = true) : EndedBy m log c none
  | failed {working : List (Exchange NodeSignature)} {e : HookError}
      (hreturns : m.duties.Returns c working (.ok (.error e)))
      (hworking : exchanged .launched log = working ++ [⟨.returned (.ok (.error e)), ()⟩]) :
      EndedBy m log c (some (.runnerFunction e))
  | panicked {task : Nat} {panic : Panic} (hlaunch : ⟨.launch c, task⟩ ∈ exchanged .main log)
      (hreturns : m.duties.Returns c [] (.error panic))
      (htold : exchanged .launched log = [⟨.returned (.error panic), ()⟩]) :
      EndedBy m log c (some (.join (Plan.joinMessage task panic)))

variable {start : Conduct} {body : Program NodeSignature Turn} {m : Machine} {log : List Move}

/-- What the driving task is told that the runner function returned, the runner function that it has
launched has returned. -/
theorem Dismissed.returns (hbody : Driver start body) (h : Sound start body m log) (hd : Dismissed m log)
    {c : Context} {task : Nat} {r : Returned} (hlaunch : ⟨.launch c, task⟩ ∈ exchanged .main log)
    (hended : ⟨.awaitEnd, .returned r⟩ ∈ exchanged .main log) :
    ∃ working, m.duties.Returns c working r ∧ exchanged .launched log = working ++ [⟨.returned r, ()⟩] := by
  obtain ⟨c', task', working, hlaunch', hreturns, hworking, -⟩ := h.returns (hd.ended r hended)
  obtain ⟨q, hleads⟩ := h.exists_leads
  obtain ⟨rfl, -⟩ := launch_eq (hbody.proper _ q hleads h.coherent) hlaunch hlaunch'
  exact ⟨working, hreturns, hworking⟩

/-- What has ended a runner is what it was told. -/
theorem Dismissed.endedBy {p : Plan} (hbody : Driver start body) (h : Sound start body m log)
    (hd : Dismissed m log) {c : Context} {serving : List (Exchange NodeSignature)}
    {fault : Option RunnerError} {left : Bool} (hserves : p.Serves c serving fault left)
    (hserved : ∀ x ∈ serving, x ∈ exchanged .main log) : EndedBy m log c fault := by
  have hstop : (⟨.awaitStop, ()⟩ : Exchange NodeSignature) ∈ serving → EndedBy m log c none := fun hmem =>
    (hd.stopped (hserved _ hmem)).elim .signal .exhausted
  cases hserves with
  | stopped htrigger => exact hstop (by simp)
  | signal htrigger task => exact .signal (hd.signal (hserved _ (by simp)))
  | exhausted htrigger task => exact .exhausted (hd.exhausted (hserved _ (by simp)))
  | returned htrigger task => exact hstop (by simp)
  | failed htrigger task e =>
    obtain ⟨working, hreturns, hworking⟩ :=
      hd.returns hbody h (hserved ⟨.launch c, task⟩ (by simp))
        (hserved ⟨.awaitEnd, .returned (.ok (.error e))⟩ (by simp))
    exact .failed hreturns hworking
  | panicked htrigger task panic =>
    have hlaunch := hserved ⟨.launch c, task⟩ (by simp)
    obtain ⟨working, hreturns, hworking⟩ :=
      hd.returns hbody h hlaunch (hserved ⟨.awaitEnd, .returned (.error panic)⟩ (by simp))
    cases hreturns with
    | early hf hp => exact .panicked hlaunch (.early hf hp) hworking

/-- Whom the driving task turns away is never answered. -/
theorem turned_away {es earlier later : List Event} {e : Event} {id : TaskId} {w : Waiter}
    (hdated : m.node.correlation.Dated) (hes : es = earlier ++ e :: later)
    (hmoves : (m.during earlier).moves e = [⟨id, .turnAway, ()⟩])
    (hpending : ((m.during earlier).node.correlation.poll w).1 = .pending) :
    (m.during es).node.correlation.poll w = (.resolved none, (m.during es).node.correlation) := by
  have heffect := (m.during earlier).after_effect e
  rw [hmoves] at heffect
  have hlater := ((m.during earlier).after e).ages_during later
  rw [heffect.turns_away] at hlater
  rw [hes, during_append]
  exact Correlation.poll_of_turned_away ((m.ages_during earlier).dated hdated) hpending hlater

/-- What the steps of a shutdown have come to. -/
structure Released (m : Machine) (es : List Event) : Prop where
  /-- Every consumer has left its group, or has been refused that. -/
  left : ⟨.awaitLeft, ()⟩ ∈ exchanged .main (m.log es) →
    ∀ s c, ⟨.listen s c, ()⟩ ∈ exchanged .main (m.log es) →
      (∃ l ∈ (m.during es).node.listeners, l.subscription = s ∧ l.IsGone) ∧ (m.during es).node.Free s
  turnedAway : ∀ earlier e later, es = earlier ++ e :: later →
    (m.during earlier).moves e = [⟨.main, .turnAway, ()⟩] →
    ∀ w, ((m.during earlier).node.correlation.poll w).1 = .pending →
      (m.during es).node.correlation.poll w = (.resolved none, (m.during es).node.correlation)
  cancelled : ⟨.cancel, ()⟩ ∈ exchanged .main (m.log es) → (m.during es).node.cancelled = true
  /-- The runner function has come to its end by itself. -/
  returned : ∀ r, ⟨.awaitEnd, .returned r⟩ ∈ exchanged .main (m.log es) →
    ∀ t ∈ (m.during es).tasks, t.id = .launched → t.current = .done .finished
  launched : ⟨.abortLaunched, ()⟩ ∈ exchanged .main (m.log es) →
    ∀ t ∈ (m.during es).tasks, t.id ≠ .launched
  listeners : ⟨.abortListeners, ()⟩ ∈ exchanged .main (m.log es) →
    ∀ t ∈ (m.during es).tasks, ∀ s, t.id ≠ .listener s

theorem released_during {es : List Event} (h : Sound start body (m.during es) (m.log es))
    (hd : Dismissed (m.during es) (m.log es)) (hdated : m.node.correlation.Dated) : Released m es where
  left hleft s c hlisten := by
    obtain ⟨l, hl, rfl⟩ := exists_listener hlisten
    have hgone := hd.left hleft l hl
    exact ⟨⟨l, hl, rfl, hgone⟩, h.crew.free l hl hgone⟩
  turnedAway earlier e later hes hmoves w hpending := turned_away hdated hes hmoves hpending
  cancelled hcancel := by
    have htold := cancelled_of_told (k := start) hcancel
    rwa [← h.conduct] at htold
  returned r hended := by
    obtain ⟨-, -, -, -, -, -, hfinished⟩ := h.returns (hd.ended r hended)
    exact hfinished
  launched := hd.launched
  listeners := hd.listeners

/-- Is there something that ends a runner that is running? -/
def Due (m : Machine) (log : List Move) : Prop :=
  m.node.shutdownRequested = true ∨ (∀ l ∈ m.node.listeners, l.hasEnded = true)
    ∨ ∃ r, r ≠ .ok (.ok ()) ∧ ⟨.returned r, ()⟩ ∈ exchanged .launched log

theorem requested_during (h : m.node.shutdownRequested = true) (es : List Event) :
    (m.during es).node.shutdownRequested = true := by
  induction es generalizing m with
  | nil => exact h
  | cons e es ih => exact ih ((m.after_effect e).requested h)

/-- What ends a runner goes on to do so, unless listeners are started. -/
theorem Due.during (hbody : Driver start body) (h : Sound start body m log) (hdue : Due m log)
    {es : List Event} (hquiet : ∀ x ∈ exchanged .main (m.log es), ¬x.1.IsListen) :
    Due (m.during es) (log ++ m.log es) := by
  rcases hdue with hrequested | hended | ⟨r, hr, htold⟩
  · exact .inl (requested_during hrequested es)
  · exact .inr (.inl (all_ended (h.keeps_during hbody hquiet) hended))
  · refine .inr (.inr ⟨r, hr, ?_⟩)
    rw [exchanged_append]
    exact List.mem_append_left _ htold

theorem answers_awaitEnd (h : m.node.shutdownRequested = true
    ∨ (∀ l ∈ m.node.listeners, l.hasEnded = true) ∨ ∃ r, m.node.returned = some r) :
    m.node.answers .awaitEnd ≠ [] := by
  rcases h with hrequested | hended | ⟨r, hreturned⟩
  · have hmem : (End.signal, m.node) ∈ Node.once m.node.shutdownRequested (End.signal, m.node) := by
      simp [Node.once, hrequested]
    exact List.ne_nil_of_mem (List.mem_append_left _ (List.mem_append_left _ hmem))
  · have hexhausted : m.node.isExhausted = true := List.all_eq_true.2 hended
    have hmem : (End.exhausted, m.node) ∈ Node.once m.node.isExhausted (End.exhausted, m.node) := by
      simp [Node.once, hexhausted]
    exact List.ne_nil_of_mem (List.mem_append_left _ (List.mem_append_right _ hmem))
  · simp only [Node.answers, Node.endAnswers, hreturned]
    exact List.append_ne_nil_of_right_ne_nil _ (List.cons_ne_nil _ _)

theorem answers_awaitStop (h : m.node.shutdownRequested = true
    ∨ ∀ l ∈ m.node.listeners, l.hasEnded = true) : m.node.answers .awaitStop ≠ [] := by
  rcases h with hrequested | hended
  · simp [Node.answers, Node.once, hrequested]
  · have hexhausted : m.node.isExhausted = true := List.all_eq_true.2 hended
    simp [Node.answers, Node.once, hexhausted]

end Machine

namespace Runner

open Machine Plan

variable {r : Runner} {config : Config} {m : Machine} {log : List Move}

/-- What a runner asks that is running, it asks in a life. -/
theorem exists_next (hsound : Sound .built (r.body config) m log)
    (hrunning : .running ∈ statesSet (exchanged .main log)) {request : NodeRequest}
    {next : request.Reply → Program NodeSignature Turn}
    (hleads : (r.body config).Leads (exchanged .main log) (.ask (S := NodeSignature) request next)) :
    ∃ (reply : request.Reply) (life : (r.plan config).Served),
      exchanged .main log ++ [⟨request, reply⟩] <+: life.path := by
  obtain ⟨reply, hforesees⟩ :=
    exists_foreseen ((exchanged .main log).foldl Conduct.after .built) request
  have hset : .running ∈ statesSet (exchanged .main log ++ [⟨request, reply⟩]) := by
    rw [statesSet_append]
    exact List.mem_append_left _ hrunning
  obtain ⟨life, hpath⟩ := exists_served (hleads.snoc reply)
    (coherent_append.2 ⟨hsound.coherent, hforesees, trivial⟩) hset
  exact ⟨reply, life, hpath⟩

/-- A runner that is shut down gets an answer to whatever it asks, unless user code waits. -/
theorem proceeds_of_closing (hsound : Sound .built (r.body config) m log) {request : NodeRequest}
    (hclosing : request.IsClosing) {next : request.Reply → Program NodeSignature Turn}
    (hleads : (r.body config).Leads (exchanged .main log) (.ask (S := NodeSignature) request next)) :
    ((request.IsWork ∧ m.node.answers request = []) ∨ m.Proceeds request) ∧ ¬request.IsListen := by
  have hbody := r.body_driver config
  rcases hclosing.cases with hwork | rfl | ⟨hprompt, hlisten⟩
  · refine ⟨?_, fun hlisten => ?_⟩
    · by_cases hanswers : m.node.answers request = []
      · exact .inl ⟨hwork, hanswers⟩
      · exact .inr (proceeds_of_aside hbody hsound hleads (.now hanswers))
    · cases request with
      | work r => exact hlisten
      | _ => exact hwork
  · exact ⟨.inr (hsound.proceeds_awaitLeft hbody hleads), fun h => h⟩
  · exact ⟨.inr (hsound.proceeds_prompt hbody hleads hprompt), hlisten⟩

/-- A runner that is to end gets an answer to whatever it asks, unless user code waits. -/
theorem proceeds_of_due (hsound : Sound .built (r.body config) m log) (hd : Dismissed m log)
    (hrunning : .running ∈ statesSet (exchanged .main log)) (hdue : Due m log) {request : NodeRequest}
    {next : request.Reply → Program NodeSignature Turn}
    (hleads : (r.body config).Leads (exchanged .main log) (.ask (S := NodeSignature) request next)) :
    ((request.IsWork ∧ m.node.answers request = []) ∨ m.Proceeds request) ∧ ¬request.IsListen := by
  have hbody := r.body_driver config
  obtain ⟨reply, life, hpath⟩ := exists_next hsound hrunning hleads
  have hstarted := life.started ((List.prefix_append _ _).trans hpath) hrunning
  have hanswered : m.node.answers request ≠ [] → m.Proceeds request := fun hanswers =>
    proceeds_of_aside hbody hsound hleads (.now hanswers)
  have hstarting := life.starts.phases.1
  rcases life.next hpath hstarted with hlaunch | ⟨hawait, task, hend⟩ | ⟨hawait, hstop⟩ | ⟨hclosing, -⟩
  · cases request with
    | launch c => exact ⟨.inr (hsound.proceeds_prompt hbody hleads trivial), fun h => h⟩
    | _ => exact hlaunch.elim
  · cases request with
    | awaitEnd =>
      refine ⟨.inr (hanswered (answers_awaitEnd (hdue.imp_right (Or.imp_right ?_)))), fun h => h⟩
      rintro ⟨returned, -, htold⟩
      refine (hd.told returned htold).elim (fun hthere => ⟨returned, hthere⟩) fun htaken => ?_
      rw [hend] at htaken
      rcases mem_snoc.1 htaken with hmem | hlast
      · exact (hstarting _ hmem).elim
      · cases hlast
    | _ => exact hawait.elim
  · cases request with
    | awaitStop =>
      refine ⟨.inr (hanswered (answers_awaitStop (hdue.imp_right fun h => h.resolve_right ?_))), fun h => h⟩
      rintro ⟨returned, hfault, htold⟩
      rcases hstop with ⟨-, hend⟩ | ⟨task, hend⟩
      · obtain ⟨c, k, -, hlaunch, -⟩ := hsound.returns htold
        exact hstarting _ (hend ▸ hlaunch)
      · have hended : ⟨.awaitEnd, .returned (.ok (.ok ()))⟩ ∈ exchanged .main log := by simp [hend]
        exact hfault (hsound.returned_eq htold (hd.ended _ hended))
    | _ => exact hawait.elim
  · exact proceeds_of_closing hsound hclosing hleads

/-- A runner that is running and is to end can come to its end by itself, unless user code keeps it
waiting. -/
theorem exists_end_of_due (hsound : Sound .built (r.body config) m log) (hd : Dismissed m log)
    (hrunning : .running ∈ statesSet (exchanged .main log)) (hdue : Due m log) :
    ∃ es, (∀ e ∈ es, e.IsOwn) ∧ ((m.during es).node.result ≠ none
      ∨ ∃ t ∈ (m.during es).tasks, t.id = .main ∧ ∃ request next,
        t.current = .ask (S := NodeSignature) (.work request) next
          ∧ (m.during es).node.workAnswers request = []) := by
  have hbody := r.body_driver config
  obtain ⟨q, hleads⟩ := hsound.exists_leads
  obtain ⟨es, hown, q', hnow, hleads', hend⟩ := exists_end_of_proceeds hbody
    (I := fun m log => Sound .built (r.body config) m log ∧ Dismissed m log
      ∧ .running ∈ statesSet (exchanged .main log) ∧ Due m log)
    (by
      rintro m log request next ⟨hsound, hd, hrunning, hdue⟩ hleads
      obtain ⟨hproceeds, hlisten⟩ := proceeds_of_due hsound hd hrunning hdue hleads
      refine hproceeds.imp_right ?_
      rintro ⟨es, hown, reply, hexchanged⟩
      refine ⟨es, hown, reply, hexchanged, sound_during hbody hsound es,
        dismissed_during hbody hsound hd es, ?_, hdue.during hbody hsound ?_⟩
      · rw [exchanged_append, statesSet_append]
        exact List.mem_append_left _ hrunning
      · rw [hexchanged]
        exact List.forall_mem_singleton.2 hlisten)
    ⟨hsound, hd, hrunning, hdue⟩ hleads
  refine ⟨es, hown, ?_⟩
  rcases hend with rfl | ⟨request, next, rfl, hwork, hanswers⟩
  · obtain ⟨lived, result, -, hexchanged, -⟩ := body_runs_iff.1 (leads_iff_runs.1 hleads')
    have hconduct := congrArg Conduct.result hnow.1.conduct
    rw [hexchanged, List.foldl_append] at hconduct
    exact .inl fun hnone => nomatch hconduct.symm.trans hnone
  · obtain ⟨t, ht, hid, hcurrent⟩ := hnow.1.main_at hleads'
    cases request with
    | work request => exact .inr ⟨t, ht, hid, request, next, hcurrent, hanswers⟩
    | _ => exact hwork.elim

/-- Nothing was dismissed before a runner is run. -/
theorem dismissed_run (r : Runner) (config : Config) {network : Network} (h : network.broker.Orderly)
    (es : List Event) : Dismissed ((r.machine config network).during es)
      ((r.machine config network).log es) :=
  dismissed_during (r.body_driver config) (r.sound_machine config h) (dismissed_nil rfl rfl) es

/-- How a run goes as long as the runner is not running: nothing is done but what a startup does, and
what one that fails undoes. -/
inductive Unstarted (r : Runner) (config : Config) (exchanges : List (Exchange NodeSignature)) : Prop
  | missing {e : RunnerError} (h : r.missing = some e)
      (hpath : exchanges <+: [⟨.conclude (.ok (.error e)), ()⟩]) : Unstarted r config exchanges
  | starting {t : List (Exchange NodeSignature)} {c : Context} (h : (r.plan config).Starts t c)
      (hpath : exchanges <+: t) : Unstarted r config exchanges
  | failing {t cleanup : List (Exchange NodeSignature)} {e : RunnerError}
      (h : (r.plan config).Fails t e cleanup)
      (hpath : exchanges <+: t ++ cleanup ++ [⟨.conclude (.ok (.error e)), ()⟩]) :
      Unstarted r config exchanges
  | abandoned {t : List (Exchange NodeSignature)} {panic : Panic}
      (h : (r.plan config).BreaksOff t panic)
      (hpath : exchanges <+: t ++ [⟨.conclude (.error panic), ()⟩]) : Unstarted r config exchanges

theorem unstarted_of_not_running {exchanges : List (Exchange NodeSignature)}
    {q : Program NodeSignature Turn} (hleads : (r.body config).Leads exchanges q)
    (hcoherent : Coherent .built exchanges) (hrunning : .running ∉ statesSet exchanges) :
    r.Unstarted config exchanges := by
  obtain ⟨rest, turn, hruns, hwhole⟩ := hleads.exists_run hcoherent
  rcases lives_of_runs hruns hwhole with ⟨e, hmissing, hall⟩ | ⟨-, lived, result, hlives, hall⟩
  · exact .missing hmissing ⟨rest, hall⟩
  · have hpath : exchanges <+: lived ++ [⟨.conclude result, ()⟩] := ⟨rest, hall⟩
    cases hlives with
    | failed hfails => exact .failing hfails hpath
    | brokenOff hbreaks => exact .abandoned hbreaks hpath
    | served hstarts hserves hfinal =>
      rw [List.append_assoc, List.append_assoc] at hpath
      rcases prefix_append_cases hpath with hstarting | ⟨later, rfl, -⟩
      · exact .starting hstarts hstarting
      · rw [statesSet_append, hstarts.statesSet] at hrunning
        simp at hrunning

/-- How a run follows the life of a runner that has started. -/
structure Follows {p : Plan} (life : p.Served) (m : Machine) (es : List Event) : Prop where
  started : life.starting <+: exchanged .main (m.log es)
  path : exchanged .main (m.log es) <+: life.path
  built : m.node.runner = some .built
  /-- What the runner function is does not change. -/
  duties : (m.during es).duties = m.duties
  states : m.states es <+: [.initializing, .running, .shuttingDown, .terminated]
  endedBy : .shuttingDown ∈ m.states es →
    EndedBy (m.during es) (m.log es) life.context life.fault
  fault : ∀ c task reply, ⟨.launch c, task⟩ ∈ exchanged .main (m.log es) →
    ⟨.awaitEnd, reply⟩ ∈ exchanged .main (m.log es) → life.fault = faultOf task reply
  closed : ⟨.close life.context.publisher.connection, ()⟩ ∈ exchanged .main (m.log es) →
    (m.during es).node.network.broker.isOpen life.context.publisher.connection = false
      ∧ ∀ member, (m.during es).node.network.broker.Seats member →
        member.connection ≠ life.context.publisher.connection
  whole : ∀ result, (m.during es).node.result = some result →
    result = ended life.fault life.final ∧ exchanged .main (m.log es) = life.path
      ∧ m.states es = [.initializing, .running, .shuttingDown] ++ lastStates life.final
  /-- Nothing that a finalizer does once it runs keeps the shutdown from going on. -/
  broken : ∀ panic, life.final = .error panic
    ↔ ∃ f, p.finalizer = some f ∧ f life.context = .error panic

theorem follows_of_running {network : Network} (h : network.broker.Orderly) {es : List Event}
    (hd : Dismissed ((r.machine config network).during es) ((r.machine config network).log es))
    (hrunning : .running ∈ (r.machine config network).states es) :
    ∃ life : (r.plan config).Served, Follows life (r.machine config network) es := by
  have hsound := r.sound_run config h es
  have hbody := r.body_driver config
  have hstates := states_run r config h es
  rw [hstates] at hrunning
  obtain ⟨q, hleads⟩ := hsound.exists_leads
  obtain ⟨life, hpath⟩ := exists_served hleads hsound.coherent hrunning
  have hstarted := life.started hpath hrunning
  refine ⟨life, hstarted, hpath, rfl, duties_during _ es, ?_, fun hshutting => ?_,
    fun c task reply hlaunch hended => life.fault_eq hpath hlaunch hended, fun hclose => ?_,
    fun result hresult => ?_, fun panic => life.final_eq_error_iff⟩
  · have hset : statesSet (exchanged .main ((r.machine config network).log es))
        <+: [.initializing, .running, .shuttingDown] ++ lastStates life.final :=
      life.statesSet_path ▸ hpath.filterMap _
    rw [hstates]
    exact hset.trans ((List.prefix_append_right_inj _).2 (prefix_lastStates life.final))
  · rw [hstates] at hshutting
    have hserved := life.served hpath hshutting
    exact hd.endedBy hbody hsound life.serves fun x hx =>
      hserved.subset (List.mem_append_right _ hx)
  · obtain ⟨before, rest, hexchanged, hconnect⟩ := life.exists_connected hstarted hclose
    exact vacant_of_closed h hexchanged hconnect
  · obtain ⟨rfl, hwhole⟩ := eq_of_concluded hpath life.lives.not_isConclude (concluded hsound hresult)
    refine ⟨rfl, hwhole, ?_⟩
    rw [hstates, hwhole]
    exact life.statesSet_path

/-- Whatever a runner is made of, and whatever goes on around it. As long as it is not running, it does
nothing but what belongs to its startup. Once it is running, it leads a life in which it is shut down
step by step, the finalizer being run once, whatever comes of it once it runs; what ends it decides what
it fails with; and as soon as something is to end it, it can come to its end by itself unless user code
keeps it waiting. Each step of a shutdown has its effect when it has been taken. A finalizer that panics
before it begins to run is the one way in which a shutdown comes to its end before its last step. -/
theorem run_shutdown (r : Runner) (config : Config) (streams : List (String × Option Nat))
    (buckets : List (String × Bucket)) (ops : List Broker.Operation) (faults : Faults) (drawn : Nat)
    (es : List Event) :
    let m := r.machine config { broker := Broker.run { streams, buckets } ops, faults, drawn }
    (.running ∉ m.states es → r.Unstarted config (exchanged .main (m.log es)))
    ∧ (.running ∈ m.states es →
        (∃ life : (r.plan config).Served, Follows life m es)
        ∧ (Due (m.during es) (m.log es) → ∃ es', (∀ e ∈ es', e.IsOwn)
          ∧ ((m.during (es ++ es')).node.result ≠ none
            ∨ ∃ t ∈ (m.during (es ++ es')).tasks, t.id = .main ∧ ∃ request next,
              t.current = .ask (S := NodeSignature) (.work request) next
                ∧ (m.during (es ++ es')).node.workAnswers request = [])))
    ∧ Released m es := by
  intro m
  have horderly : Broker.Orderly (Broker.run { streams, buckets } ops) :=
    Broker.orderly_run streams buckets ops
  have hstates : m.states es = statesSet (exchanged .main (m.log es)) := states_run r config horderly es
  have hsound : Sound .built (r.body config) (m.during es) (m.log es) := r.sound_run config horderly es
  have hd : Dismissed (m.during es) (m.log es) := r.dismissed_run config horderly es
  refine ⟨fun hrunning => ?_, fun hrunning => ⟨follows_of_running horderly hd hrunning, fun hdue => ?_⟩,
    released_during hsound hd fun x hx => nomatch hx⟩
  · obtain ⟨q, hleads⟩ := hsound.exists_leads
    exact unstarted_of_not_running hleads hsound.coherent (hstates ▸ hrunning)
  · obtain ⟨es', hown, hend⟩ := exists_end_of_due hsound hd (hstates ▸ hrunning) hdue
    refine ⟨es', hown, ?_⟩
    rw [during_append]
    exact hend

/-- A task runner whose finalizer panics before it begins to run, and what ends it. -/
def unfinished : Runner := .pipeline {
  kind := .task
  pipeline := { registry := Registry.empty.setDefault fun _ _ => .ok (return .succeeded) }
  finalizer := some fun _ => .error .other }

/-- It starts, is asked to shut down, its listener leaves, and its finalizer panics. -/
def throughFinalizing : List Event :=
  List.replicate 9 (.go 0 0) ++ [.shutDown] ++ List.replicate 5 (.go 0 0) ++ [.go 1 0]
    ++ List.replicate 6 (.go 0 0)

/-- Its shutdown goes no further: its connection stays open, and it is never terminated. -/
example :
    let m := unfinished.machine entry
      { broker := Broker.run { streams := [("workflow", none)], buckets := [] } [] }
    (m.during throughFinalizing).node.result = some (.error .other)
      ∧ m.states throughFinalizing = [.initializing, .running, .shuttingDown]
      ∧ (m.during throughFinalizing).node.network.broker.isOpen 1 = true := by
  decide +kernel

/-- A trigger runner whose function panics before it begins to run. -/
def panicking : Runner := .trigger { function := some fun _ => .error .other }

/-- It starts, its function panics, its listener leaves, and it is shut down. -/
def throughPanic : List Event :=
  List.replicate 11 (.go 0 0) ++ [.go 2 0, .go 1 0] ++ List.replicate 4 (.go 0 0)
    ++ [.go 2 0, .go 0 0, .go 0 0, .go 1 0] ++ List.replicate 8 (.go 0 0)

/-- A runner function that panics before it begins to run is no failure of user code: the runner ends
with the panic of a task. -/
theorem joined_of_panicking :
    let m := panicking.machine entry
      { broker := Broker.run { streams := [("workflow", none)], buckets := [] } [] }
    entry.fault? = none ∧ m.states throughPanic = [.initializing, .running, .shuttingDown, .terminated]
      ∧ (m.during throughPanic).node.result = some (.ok (.error (.join "task 3 panicked"))) := by
  decide +kernel

end Runner
end Waystation
