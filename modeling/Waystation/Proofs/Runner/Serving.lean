import Mathlib.Data.List.Pairwise
import Waystation.Proofs.Runner.Startup
/-!
Runners that have started. What a runner does once it is running is told by what ends it; from then on
it is shut down, one step after the other.
-/
namespace Waystation

open NodeRequest Program

namespace NodeRequest

def IsAwaitStop : NodeRequest → Prop
  | awaitStop => True
  | _ => False

/-- Requests of a shutdown, and the conclusion behind it. -/
def IsClosing : NodeRequest → Prop
  | setRunner _ | subscriber | setSubscriber _ | stopListeners | awaitLeft | turnAway | work _ | cancel
  | abortLaunched | abortListeners | close _ | conclude _ => True
  | _ => False

theorem IsClosing.cases {r : NodeRequest} (h : r.IsClosing) :
    r.IsWork ∨ r = .awaitLeft ∨ r.IsPrompt ∧ ¬r.IsListen := by
  cases r with
  | work r => exact .inl trivial
  | awaitLeft => exact .inr (.inl rfl)
  | _ => first | exact h.elim | exact .inr (.inr ⟨trivial, fun h => h⟩)

theorem IsLaunch.endsLaunching {r : NodeRequest} (h : r.IsLaunch) : r.EndsLaunching := by
  cases r <;> first | exact h.elim | trivial

theorem IsWork.isClosing {r : NodeRequest} (h : r.IsWork) : r.IsClosing := by
  cases r <;> first | exact h.elim | trivial

end NodeRequest

/-- There is one runner function at most. -/
theorem launch_eq {t : List (Exchange NodeSignature)} (h : Proper t) {c c' : Context} {task task' : Nat}
    (hlaunch : ⟨.launch c, task⟩ ∈ t) (hlaunch' : ⟨.launch c', task'⟩ ∈ t) : c = c' ∧ task = task' := by
  by_contra hother
  have hne : (⟨.launch c, task⟩ : Exchange NodeSignature) ≠ ⟨.launch c', task'⟩ := by
    intro hsame
    cases hsame
    exact hother ⟨rfl, rfl⟩
  have hone : t.Pairwise fun x y => ¬(x.1.IsLaunch ∧ y.1.IsLaunch) :=
    h.order.imp fun hxy hboth => hxy.2 hboth.1.endsLaunching hboth.2
  have : Std.Symm fun x y : Exchange NodeSignature => ¬(x.1.IsLaunch ∧ y.1.IsLaunch) :=
    ⟨fun x y hxy hyx => hxy ⟨hyx.2, hyx.1⟩⟩
  exact hone.forall hlaunch hlaunch' hne ⟨trivial, trivial⟩

namespace Plan

/-- That a runner is running is the last that is told in its startup. -/
theorem Starts.exists_before {p : Plan} {t : List (Exchange NodeSignature)} {c : Context}
    (h : p.Starts t c) : ∃ before, t = before ++ [⟨.setRunner .running, ()⟩]
      ∧ Waystation.statesSet before = [.initializing] := by
  have hstates : _ = [RunnerState.initializing] ++ Waystation.statesSet [⟨.setRunner .running, ()⟩] :=
    h.statesSet
  have hlast : ∀ before : List (Exchange NodeSignature),
      before ++ [⟨.setSubscriber .listening, ()⟩, ⟨.setRunner .running, ()⟩]
        = before ++ [⟨.setSubscriber .listening, ()⟩] ++ [⟨.setRunner .running, ()⟩] := by simp
  obtain ⟨joined, hboots, hinputs, hsome⟩ := h
  rw [hlast, statesSet_append] at hstates
  exact ⟨_, hlast _, List.append_inj_left' hstates rfl⟩

theorem Starts.connected {p : Plan} {t : List (Exchange NodeSignature)} {c : Context}
    (h : p.Starts t c) : ⟨.connect p.config.wiring.url, .ok c.publisher.connection⟩ ∈ t := by
  obtain ⟨joined, hboots, hinputs, hsome⟩ := h
  simp [hboots.connection_eq]

/-- What is asked while a runner serves. -/
theorem Serves.next {p : Plan} {c : Context} {serving before : List (Exchange NodeSignature)}
    {fault : Option RunnerError} {left : Bool} {x : Exchange NodeSignature}
    (h : p.Serves c serving fault left) (hbefore : before ++ [x] <+: serving) :
    x.1.IsLaunch
      ∨ x.1.IsAwaitEnd ∧ (∃ task, before = [⟨.launch c, task⟩])
      ∨ x.1.IsAwaitStop ∧ (p.isTrigger = false ∧ before = []
        ∨ ∃ task, before = [⟨.launch c, task⟩, ⟨.awaitEnd, .returned (.ok (.ok ()))⟩]) := by
  have hlaunched : ∀ {task : Nat} {reply : End} {rest : List (Exchange NodeSignature)},
      before ++ [x] <+: ⟨.launch c, task⟩ :: ⟨.awaitEnd, reply⟩ :: rest →
        x.1.IsLaunch ∨ x.1.IsAwaitEnd ∧ (∃ task, before = [⟨.launch c, task⟩])
          ∨ ∃ before', before = ⟨.launch c, task⟩ :: ⟨.awaitEnd, reply⟩ :: before'
            ∧ before' ++ [x] <+: rest := by
    intro task reply rest hbegun
    rcases snoc_prefix_cons hbegun with ⟨rfl, rfl⟩ | ⟨before', rfl, hbegun'⟩
    · exact .inl trivial
    · rcases snoc_prefix_cons hbegun' with ⟨rfl, rfl⟩ | ⟨before'', rfl, hrest⟩
      · exact .inr (.inl ⟨trivial, task, rfl⟩)
      · exact .inr (.inr ⟨before'', rfl, hrest⟩)
  have hnothing : ∀ {before' : List (Exchange NodeSignature)}, ¬before' ++ [x] <+: [] := by
    intro before' hbegun
    simpa using List.prefix_nil.1 hbegun
  cases h with
  | stopped htrigger =>
    rcases snoc_prefix_cons hbefore with ⟨rfl, rfl⟩ | ⟨before', -, hrest⟩
    · exact .inr (.inr ⟨trivial, .inl ⟨htrigger, rfl⟩⟩)
    · exact absurd hrest hnothing
  | returned htrigger task =>
    rcases hlaunched hbefore with hlaunch | hawait | ⟨before', rfl, hrest⟩
    · exact .inl hlaunch
    · exact .inr (.inl hawait)
    · rcases snoc_prefix_cons hrest with ⟨rfl, rfl⟩ | ⟨before'', -, hrest'⟩
      · exact .inr (.inr ⟨trivial, .inr ⟨task, rfl⟩⟩)
      · exact absurd hrest' hnothing
  | signal htrigger task | exhausted htrigger task | failed htrigger task e
  | panicked htrigger task panic =>
    rcases hlaunched hbefore with hlaunch | hawait | ⟨before', -, hrest⟩
    · exact .inl hlaunch
    · exact .inr (.inl hawait)
    · exact absurd hrest hnothing

/-- What a runner fails with, by what it was told about its end. -/
def faultOf (task : Nat) : End → Option RunnerError
  | .returned (.ok (.error e)) => some (.runnerFunction e)
  | .returned (.error panic) => some (.join (joinMessage task panic))
  | _ => none

theorem Serves.fault_eq {p : Plan} {c c' : Context} {serving : List (Exchange NodeSignature)}
    {fault : Option RunnerError} {left : Bool} {task : Nat} {reply : End}
    (h : p.Serves c serving fault left) (hlaunch : ⟨.launch c', task⟩ ∈ serving)
    (hended : ⟨.awaitEnd, reply⟩ ∈ serving) : fault = faultOf task reply := by
  have hreply : ∀ {task' : Nat} {reply' : End} {rest : List (Exchange NodeSignature)},
      (∀ x ∈ rest, ¬x.1.IsAwaitEnd) →
      (⟨.awaitEnd, reply⟩ : Exchange NodeSignature) ∈ ⟨.launch c, task'⟩ :: ⟨.awaitEnd, reply'⟩ :: rest →
        reply = reply' := by
    intro task' reply' rest hrest hmem
    rcases List.mem_cons.1 hmem with hfirst | hmem
    · cases hfirst
    · rcases List.mem_cons.1 hmem with hsecond | hmem
      · cases hsecond
        rfl
      · exact absurd trivial (hrest _ hmem)
  cases h with
  | stopped htrigger => cases List.mem_singleton.1 hended
  | signal htrigger task' | exhausted htrigger task' | returned htrigger task' | failed htrigger task' e =>
    obtain rfl := hreply (by simp [IsAwaitEnd]) hended
    rfl
  | panicked htrigger task' panic =>
    obtain rfl := hreply (by simp) hended
    rcases List.mem_cons.1 hlaunch with hsame | hother
    · cases hsame
      rfl
    · cases List.mem_singleton.1 hother

theorem Serves.isTrigger_of_launch {p : Plan} {c c' : Context} {serving : List (Exchange NodeSignature)}
    {fault : Option RunnerError} {left : Bool} {task : Nat} (h : p.Serves c serving fault left)
    (hlaunch : ⟨.launch c', task⟩ ∈ serving) : p.isTrigger = true := by
  cases h with
  | stopped htrigger => cases List.mem_singleton.1 hlaunch
  | signal htrigger | exhausted htrigger | returned htrigger | failed htrigger | panicked htrigger =>
    exact htrigger

theorem closing_isClosing {c : Context} (left : Bool) (final : Returned) :
    ∀ x ∈ closing c left final, x.1.IsClosing := by
  cases final with
  | error panic => simp [closing, IsClosing]
  | ok returned => cases left <;> simp [closing, IsClosing]

theorem shutting_isClosing {p : Plan} {c : Context} (left : Bool)
    {finalizing : List (Exchange NodeSignature)} (final : Returned)
    (h : ∀ x ∈ finalizing, x.1.IsWork) :
    ∀ x ∈ p.shutting c left finalizing final, x.1.IsClosing := by
  have hunwinding : ∀ x ∈ p.unwinding, x.1.IsClosing := by
    rw [unwinding]
    split <;> simp [IsClosing]
  simp only [shutting, List.forall_mem_append]
  exact ⟨⟨hunwinding, fun x hx => (h x hx).isClosing⟩, closing_isClosing left final⟩

/-- The life of a runner whose startup succeeds. -/
structure Served (p : Plan) where
  starting : List (Exchange NodeSignature)
  serving : List (Exchange NodeSignature)
  finalizing : List (Exchange NodeSignature)
  context : Context
  /-- What it fails with in the end, if it does. -/
  fault : Option RunnerError
  /-- Whether the runner function may still be running when the runner is shut down. -/
  left : Bool
  /-- How the finalizer came back. -/
  final : Returned
  starts : p.Starts starting context
  serves : p.Serves context serving fault left
  finalizes : (call p.finalizer context).Runs finalizing final

namespace Served

variable {p : Plan}

/-- All that is exchanged over a life. -/
def path (life : p.Served) : List (Exchange NodeSignature) :=
  life.starting ++ life.serving ++ p.shutting life.context life.left life.finalizing life.final
    ++ [⟨.conclude (ended life.fault life.final), ()⟩]

variable (life : p.Served) {exchanges : List (Exchange NodeSignature)}

theorem lives : p.Lives (life.starting ++ life.serving
    ++ p.shutting life.context life.left life.finalizing life.final) (ended life.fault life.final) :=
  .served life.starts life.serves life.finalizes

theorem finalizing_isWork : ∀ x ∈ life.finalizing, x.1.IsWork :=
  ((within_call _ _).runs life.finalizes).1

/-- A shutdown is broken off by a finalizer that panics before it begins to run, and by nothing else. -/
theorem final_eq_error_iff {panic : Panic} : life.final = .error panic
    ↔ ∃ f, p.finalizer = some f ∧ f life.context = .error panic := by
  have hfinal := life.finalizes
  constructor
  · intro hpanic
    rw [hpanic] at hfinal
    exact (call_panics_iff.1 hfinal).2
  · rintro ⟨f, hf, hpanic⟩
    rw [hf, call, hpanic] at hfinal
    exact (runs_done_iff.1 hfinal).2

theorem statesSet_path : statesSet life.path
    = [.initializing, .running, .shuttingDown] ++ lastStates life.final := by
  rw [path, statesSet_append, statesSet_append, statesSet_append, life.starts.statesSet,
    statesSet_of_silent life.serves.isSilent, statesSet_shutting _ _ life.finalizing_isWork]
  exact List.append_nil _

/-- A runner that is running has started. -/
theorem started (hpath : exchanges <+: life.path) (hrunning : .running ∈ statesSet exchanges) :
    life.starting <+: exchanges := by
  rw [path, List.append_assoc, List.append_assoc] at hpath
  rcases prefix_append_cases hpath with hstarting | ⟨later, rfl, -⟩
  · obtain ⟨before, hbefore, hstates⟩ := life.starts.exists_before
    rw [hbefore] at hstarting
    rcases List.prefix_concat_iff.1 hstarting with rfl | hearlier
    · exact hbefore ▸ List.prefix_rfl
    · have hmem := (hearlier.filterMap _).subset hrunning
      rw [← statesSet, hstates] at hmem
      cases List.mem_singleton.1 hmem
  · exact List.prefix_append _ _

/-- Where a life has come to when something is asked of a runner that has started. -/
theorem next {x : Exchange NodeSignature} (hpath : exchanges ++ [x] <+: life.path)
    (hstarted : life.starting <+: exchanges) :
    x.1.IsLaunch
      ∨ x.1.IsAwaitEnd ∧ (∃ task, exchanges = life.starting ++ [⟨.launch life.context, task⟩])
      ∨ x.1.IsAwaitStop ∧ (p.isTrigger = false ∧ exchanges = life.starting
        ∨ ∃ task, exchanges = life.starting
          ++ [⟨.launch life.context, task⟩, ⟨.awaitEnd, .returned (.ok (.ok ()))⟩])
      ∨ x.1.IsClosing ∧ life.starting ++ life.serving <+: exchanges := by
  obtain ⟨before, rfl⟩ := hstarted
  rw [path, List.append_assoc, List.append_assoc, List.append_assoc,
    List.prefix_append_right_inj] at hpath
  have hsplit : before ++ [x] <+: life.serving ∨ life.serving <+: before
      ∧ x ∈ p.shutting life.context life.left life.finalizing life.final
        ++ [⟨.conclude (ended life.fault life.final), ()⟩] := by
    rcases prefix_append_cases hpath with hserving | ⟨later, hlater, hclosing⟩
    · exact .inl hserving
    · have hserved : life.serving <+: before ++ [x] := ⟨later, hlater.symm⟩
      rcases List.prefix_concat_iff.1 hserved with hall | ⟨rest, rfl⟩
      · exact .inl (hall ▸ List.prefix_rfl)
      · rw [List.append_assoc, List.append_cancel_left_eq] at hlater
        exact .inr ⟨List.prefix_append _ _, hclosing.subset (hlater ▸ by simp)⟩
  rcases hsplit with hserving | ⟨hserved, hmem⟩
  · rcases life.serves.next hserving with hlaunch | ⟨hawait, task, rfl⟩ | ⟨hawait, hbefore⟩
    · exact .inl hlaunch
    · exact .inr (.inl ⟨hawait, task, rfl⟩)
    · refine .inr (.inr (.inl ⟨hawait, hbefore.imp (fun h => ⟨h.1, ?_⟩) ?_⟩))
      · rw [h.2, List.append_nil]
      · rintro ⟨task, rfl⟩
        exact ⟨task, rfl⟩
  · refine .inr (.inr (.inr ⟨?_, (List.prefix_append_right_inj _).2 hserved⟩))
    rcases mem_snoc.1 hmem with hshutting | rfl
    · exact shutting_isClosing _ _ life.finalizing_isWork _ hshutting
    · trivial

/-- What ends a runner is in the part of its life in which it serves. -/
theorem mem_serving {x : Exchange NodeSignature} (hx : x ∈ life.path)
    (hends : x.1.IsLaunch ∨ x.1.IsAwaitEnd) : x ∈ life.serving := by
  have hstarting : x ∉ life.starting := by
    intro hmem
    have hr := life.starts.phases.1 x hmem
    obtain ⟨r, reply⟩ := x
    cases r <;> first | exact hr | exact hends.elim (fun h => h) fun h => h
  have hclosing : x ∉ p.shutting life.context life.left life.finalizing life.final := by
    intro hmem
    have hr := shutting_isClosing _ _ life.finalizing_isWork x hmem
    obtain ⟨r, reply⟩ := x
    cases r <;> first | exact hr | exact hends.elim (fun h => h) fun h => h
  rw [path] at hx
  rcases mem_snoc.1 hx with hmem | rfl
  · rcases List.mem_append.1 hmem with hearly | hshutting
    · exact (List.mem_append.1 hearly).resolve_left hstarting
    · exact absurd hshutting hclosing
  · exact (hends.elim (fun h => h) fun h => h).elim

/-- What a runner fails with is what it was told about its end. -/
theorem fault_eq {c : Context} {task : Nat} {reply : End} (hpath : exchanges <+: life.path)
    (hlaunch : ⟨.launch c, task⟩ ∈ exchanges) (hended : ⟨.awaitEnd, reply⟩ ∈ exchanges) :
    life.fault = faultOf task reply :=
  life.serves.fault_eq (life.mem_serving (hpath.subset hlaunch) (.inl trivial))
    (life.mem_serving (hpath.subset hended) (.inr trivial))

/-- The connection of a runner that has started is closed behind all that it was for. -/
theorem exists_connected (hstarted : life.starting <+: exchanges)
    (hclose : ⟨.close life.context.publisher.connection, ()⟩ ∈ exchanges) :
    ∃ before rest, exchanges = before ++ ⟨.close life.context.publisher.connection, ()⟩ :: rest
      ∧ ⟨.connect p.config.wiring.url, .ok life.context.publisher.connection⟩ ∈ before := by
  obtain ⟨before, rest, rfl⟩ := List.append_of_mem hclose
  refine ⟨before, rest, rfl, ?_⟩
  have hconnect := life.starts.connected
  obtain ⟨later, hlater⟩ := hstarted
  rcases append_eq_append_cons hlater with ⟨rest', hstarting⟩ | ⟨before', rfl, -⟩
  · have hmem : ⟨.close life.context.publisher.connection, ()⟩ ∈ life.starting := by simp [hstarting]
    exact (life.starts.phases.1 _ hmem).elim
  · exact List.mem_append_left _ hconnect

/-- A runner that shuts down has served. -/
theorem served (hpath : exchanges <+: life.path) (hshutting : .shuttingDown ∈ statesSet exchanges) :
    life.starting ++ life.serving <+: exchanges := by
  rw [path, List.append_assoc] at hpath
  rcases prefix_append_cases hpath with hserving | ⟨later, rfl, -⟩
  · have hmem := (hserving.filterMap _).subset hshutting
    rw [← statesSet, statesSet_append, life.starts.statesSet,
      statesSet_of_silent life.serves.isSilent] at hmem
    simp at hmem
  · exact List.prefix_append _ _

/-- What is asked behind that belongs to the shutdown. -/
theorem isClosing_of_served {x : Exchange NodeSignature} (hpath : exchanges ++ [x] <+: life.path)
    (hserved : life.starting ++ life.serving <+: exchanges) : x.1.IsClosing := by
  obtain ⟨later, rfl⟩ := hserved
  rw [path, List.append_assoc _ later, List.append_assoc _ (p.shutting _ _ _ _),
    List.prefix_append_right_inj] at hpath
  rcases mem_snoc.1 (hpath.subset (by simp : x ∈ later ++ [x])) with hshutting | rfl
  · exact shutting_isClosing _ _ life.finalizing_isWork _ hshutting
  · trivial

end Served
end Plan

namespace Runner

open Machine Plan

variable {r : Runner} {config : Config} {exchanges : List (Exchange NodeSignature)}
variable {q : Program NodeSignature Turn}

/-- A whole run in which the runner is running is a life. -/
theorem exists_path_of_runs {turn : Turn} (hruns : (r.body config).Runs exchanges turn)
    (hcoherent : Coherent .built exchanges) (hrunning : .running ∈ statesSet exchanges) :
    ∃ life : (r.plan config).Served, exchanges = life.path := by
  rcases lives_of_runs hruns hcoherent with ⟨e, -, rfl⟩ | ⟨-, lived, result, hlives, rfl⟩
  · cases hrunning
  · rw [statesSet_append] at hrunning
    cases hlives with
    | failed hfails =>
      rw [statesSet_append, hfails.statesSet.1, hfails.statesSet.2] at hrunning
      simp [statesSet] at hrunning
    | brokenOff hbreaks =>
      rw [hbreaks.statesSet] at hrunning
      simp [statesSet] at hrunning
    | served hstarts hserves hfinal =>
      exact ⟨⟨_, _, _, _, _, _, _, hstarts, hserves, hfinal⟩, rfl⟩

/-- A runner that is running leads a life, which its program runs. -/
theorem exists_served_runs (hleads : (r.body config).Leads exchanges q)
    (hcoherent : Coherent .built exchanges) (hrunning : .running ∈ statesSet exchanges) :
    ∃ life : (r.plan config).Served, exchanges <+: life.path
      ∧ ∃ turn, (r.body config).Runs life.path turn := by
  obtain ⟨rest, turn, hruns, hwhole⟩ := hleads.exists_run hcoherent
  have hset : .running ∈ statesSet (exchanges ++ rest) := by
    rw [statesSet_append]
    exact List.mem_append_left _ hrunning
  obtain ⟨life, hall⟩ := exists_path_of_runs hruns hwhole hset
  exact ⟨life, ⟨rest, hall⟩, turn, hall ▸ hruns⟩

theorem exists_served (hleads : (r.body config).Leads exchanges q) (hcoherent : Coherent .built exchanges)
    (hrunning : .running ∈ statesSet exchanges) :
    ∃ life : (r.plan config).Served, exchanges <+: life.path := by
  obtain ⟨life, hpath, -⟩ := exists_served_runs hleads hcoherent hrunning
  exact ⟨life, hpath⟩

end Runner
end Waystation
