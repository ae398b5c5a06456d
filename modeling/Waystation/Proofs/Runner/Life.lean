import Waystation.Node.Lifecycle
import Waystation.Proofs.Node.Conduct
import Waystation.Proofs.Node.Listeners
/-!
What is exchanged over the life of a runner. A startup takes its steps in their order up to the first
that fails; what was acquired until then is let go. A runner whose startup succeeds serves until
something ends it, and is then shut down, one step after the other. An initializer or finalizer that
panics before it begins to run breaks the life off.
-/
namespace Waystation

open NodeRequest Program

namespace NodeRequest

/-- Requests that make a context. -/
def IsBooting : NodeRequest → Prop
  | work _ | streamMax .. | openSettings .. => True
  | _ => False

theorem IsWork.isBooting {r : NodeRequest} (h : r.IsWork) : r.IsBooting := by
  cases r <;> first | exact h.elim | trivial

theorem IsBooting.isSilent {r : NodeRequest} (h : r.IsBooting) : r.IsSilent := by
  cases r <;> first | exact h.elim | trivial

theorem IsWork.isSilent {r : NodeRequest} (h : r.IsWork) : r.IsSilent := h.isBooting.isSilent

end NodeRequest

namespace Subscriber

/-- Stopping a subscriber in a state. -/
def stopping (s : SubscriberState) : List (Exchange NodeSignature) :=
  ⟨.subscriber, s⟩ :: match s with
  | .unsubscribing | .stopped => []
  | _ => [⟨.setSubscriber .unsubscribing, ()⟩, ⟨.stopListeners, ()⟩, ⟨.awaitLeft, ()⟩]

/-- A subscriber that stops is in the state that was last told. -/
theorem stopping_eq {k : Conduct} {b between r : List (Exchange NodeSignature)}
    {s s' : SubscriberState} (hbetween : ∀ x ∈ between, ¬x.1.TellsSubscriber)
    (h : Coherent k (b ++ ⟨.setSubscriber s, ()⟩ :: between ++ stopping s' ++ r)) : s' = s := by
  rw [List.append_assoc] at h
  exact h.subscriber_eq hbetween

/-- Subscribing to subjects, one after the other. -/
def joining (c : Context) (joined : List (String × Nat)) : List (Exchange NodeSignature) :=
  joined.flatMap fun (subject, id) =>
    [⟨.subscribe c.publisher.connection (.forProcess subject c.identity.process), .ok id⟩,
      ⟨.listen id c, ()⟩]

/-- Subscribing to subjects up to the first that fails. -/
inductive Joins (c : Context) :
    List String → List (Exchange NodeSignature) → Except RunnerError Unit → Prop
  | all (joined : List (String × Nat)) : Joins c (joined.map (·.1)) (joining c joined) (.ok ())
  | refused (joined : List (String × Nat)) (subject : String) (rest : List String)
      (e : TransportError) :
      Joins c (joined.map (·.1) ++ subject :: rest)
        (joining c joined ++
          [⟨.subscribe c.publisher.connection (.forProcess subject c.identity.process), .error e⟩])
        (.error (.subscribe subject e))

variable {c : Context} {inputs : List String} {t : List (Exchange NodeSignature)}

theorem stop_runs_iff {u : Unit} : stop.Runs t u ↔ ∃ s, t = stopping s := by
  simp only [stop, runs_ask_bind_iff]
  constructor
  · rintro ⟨s, rest, rfl, h⟩
    refine ⟨s, ?_⟩
    cases s with
    | unsubscribing | stopped =>
      rw [(runs_done_iff.1 h).1]
      rfl
    | idle | subscribing | listening =>
      obtain ⟨_, _, rfl, htold⟩ := runs_ask_bind_iff.1 h
      obtain ⟨_, _, rfl, hleft⟩ := runs_ask_bind_iff.1 htold
      obtain ⟨_, _, rfl, hdone⟩ := runs_ask_iff.1 hleft
      rw [(runs_done_iff.1 hdone).1]
      rfl
  · rintro ⟨s, rfl⟩
    refine ⟨s, _, rfl, ?_⟩
    cases s with
    | unsubscribing | stopped => exact .done ()
    | idle | subscribing | listening => exact .ask (.ask (.ask (.done ())))

theorem abort_runs {u : Unit} (h : abort.Runs t u) :
    ∃ s, t = stopping s ++ [⟨.abortListeners, ()⟩, ⟨.setSubscriber .stopped, ()⟩] := by
  obtain ⟨stopped, _, t, rfl, hstop, hstopped⟩ := runs_bind_iff.1 h
  obtain ⟨s, rfl⟩ := stop_runs_iff.1 hstop
  obtain ⟨_, t, rfl, haborted⟩ := runs_ask_bind_iff.1 hstopped
  obtain ⟨_, t, rfl, htold⟩ := runs_ask_iff.1 haborted
  exact ⟨s, by rw [(runs_done_iff.1 htold).1]; rfl⟩

theorem subscribeAll_runs_iff {r : Except RunnerError Unit} :
    (subscribeAll c inputs).Runs t r ↔ Joins c inputs t r := by
  constructor
  · intro h
    induction inputs generalizing t with
    | nil =>
      obtain ⟨rfl, rfl⟩ := runs_done_iff.1 h
      exact .all []
    | cons subject rest ih =>
      obtain ⟨reply, t, rfl, hreply⟩ := runs_ask_bind_iff.1 h
      cases reply with
      | error e =>
        obtain ⟨rfl, rfl⟩ := runs_done_iff.1 hreply
        exact .refused [] subject rest e
      | ok id =>
        obtain ⟨_, t, rfl, hrest⟩ := runs_ask_bind_iff.1 hreply
        cases ih hrest with
        | all joined => exact .all ((subject, id) :: joined)
        | refused joined subject' rest' e => exact .refused ((subject, id) :: joined) subject' rest' e
  · intro h
    cases h with
    | all joined =>
      induction joined with
      | nil => exact .done _
      | cons j joined ih => exact .ask (.ask ih)
    | refused joined subject rest e =>
      induction joined with
      | nil => exact .ask (.done _)
      | cons j joined ih => exact .ask (.ask ih)

/-- What is exchanged while subscribing. -/
theorem Joins.mem {r : Except RunnerError Unit} (h : Joins c inputs t r) {x : Exchange NodeSignature}
    (hx : x ∈ t) : (∃ connection o, x.1 = .subscribe connection o) ∨ ∃ id, x = ⟨.listen id c, ()⟩ := by
  have hjoining : ∀ joined, x ∈ joining c joined →
      (∃ connection o, x.1 = .subscribe connection o) ∨ ∃ id, x = ⟨.listen id c, ()⟩ := by
    intro joined hx
    obtain ⟨⟨subject, id⟩, -, hx⟩ := List.mem_flatMap.1 hx
    rcases List.mem_cons.1 hx with rfl | hx
    · exact .inl ⟨_, _, rfl⟩
    · exact .inr ⟨id, List.mem_singleton.1 hx⟩
  cases h with
  | all joined => exact hjoining joined hx
  | refused joined subject rest e =>
    rcases mem_snoc.1 hx with hold | rfl
    · exact hjoining joined hold
    · exact .inl ⟨_, _, rfl⟩

theorem Joins.exists_joined (h : Joins c inputs t (.ok ())) :
    ∃ joined, inputs = joined.map (·.1) ∧ t = joining c joined := by
  cases h with
  | all joined => exact ⟨joined, rfl, rfl⟩

theorem Joins.inputs_ne_nil {e : RunnerError} (h : Joins c inputs t (.error e)) : inputs ≠ [] := by
  cases h with
  | refused joined subject rest e => simp

theorem Joins.isSilent {r : Except RunnerError Unit} (h : Joins c inputs t r) :
    ∀ x ∈ t, x.1.IsSilent := by
  intro x hx
  rcases h.mem hx with ⟨connection, o, hr⟩ | ⟨id, rfl⟩
  · rw [hr]
    trivial
  · trivial

end Subscriber

namespace Plan

open Subscriber

/-- Making the context of a connected node. -/
inductive Boots (p : Plan) (connection : Nat) :
    List (Exchange NodeSignature) → Except Panic (Except RunnerError Context) → Prop
  | stream (e : TransportError) :
      Boots p connection [⟨.streamMax connection p.config.wiring.stream, .error e⟩]
        (.ok (.error (.stream p.config.wiring.stream e)))
  | settings (max : Option Nat) (e : ScopedConfigError) :
      Boots p connection
        [⟨.streamMax connection p.config.wiring.stream, .ok max⟩,
          ⟨.openSettings connection p.config.sections.buckets, .error e⟩]
        (.ok (.error (.scopedConfig e)))
  | panicked (max : Option Nat) (settings : Settings) {seeding : List (Exchange NodeSignature)}
      {f : Hook} {panic : Panic}
      (hseed : (seed (.ofConfig p.config connection settings) p.config.sections.processEntries).Runs
        seeding ())
      (hf : p.initializer = some f) (hpanic : f (.ofConfig p.config connection settings) = .error panic) :
      Boots p connection
        (⟨.streamMax connection p.config.wiring.stream, .ok max⟩
          :: ⟨.openSettings connection p.config.sections.buckets, .ok settings⟩ :: seeding)
        (.error panic)
  | initializer (max : Option Nat) (settings : Settings) {seeding calling : List (Exchange NodeSignature)}
      {e : HookError}
      (hseed : (seed (.ofConfig p.config connection settings) p.config.sections.processEntries).Runs
        seeding ())
      (hcall : (call p.initializer (.ofConfig p.config connection settings)).Runs calling
        (.ok (.error e))) :
      Boots p connection
        (⟨.streamMax connection p.config.wiring.stream, .ok max⟩
          :: ⟨.openSettings connection p.config.sections.buckets, .ok settings⟩
          :: (seeding ++ calling))
        (.ok (.error (.initializer e)))
  | ready (max : Option Nat) (settings : Settings) {seeding calling : List (Exchange NodeSignature)}
      (hseed : (seed (.ofConfig p.config connection settings) p.config.sections.processEntries).Runs
        seeding ())
      (hcall : (call p.initializer (.ofConfig p.config connection settings)).Runs calling
        (.ok (.ok ()))) :
      Boots p connection
        (⟨.streamMax connection p.config.wiring.stream, .ok max⟩
          :: ⟨.openSettings connection p.config.sections.buckets, .ok settings⟩
          :: (seeding ++ calling))
        (.ok (.ok (.ofConfig p.config connection settings)))

/-- A startup up to the first step that fails: what was exchanged, that step included, the error it
comes to, and what is then exchanged to let go of what was acquired. -/
inductive Fails (p : Plan) :
    List (Exchange NodeSignature) → RunnerError → List (Exchange NodeSignature) → Prop
  | connect (e : TransportError) :
      Fails p [⟨.setRunner .initializing, ()⟩, ⟨.connect p.config.wiring.url, .error e⟩]
        (.connect p.config.wiring.url e) [⟨.setRunner .terminated, ()⟩]
  | bootstrap {connection : Nat} {booting : List (Exchange NodeSignature)} {e : RunnerError}
      (h : p.Boots connection booting (.ok (.error e))) :
      Fails p
        (⟨.setRunner .initializing, ()⟩ :: ⟨.connect p.config.wiring.url, .ok connection⟩ :: booting) e
        [⟨.close connection, ()⟩, ⟨.setRunner .terminated, ()⟩]
  | noInputs {connection : Nat} {booting : List (Exchange NodeSignature)} {c : Context}
      (h : p.Boots connection booting (.ok (.ok c))) (hinputs : p.config.wiring.inputs = []) :
      Fails p
        (⟨.setRunner .initializing, ()⟩ :: ⟨.connect p.config.wiring.url, .ok connection⟩ :: booting)
        .noInputs
        [⟨.close connection, ()⟩, ⟨.setRunner .terminated, ()⟩, ⟨.abortListeners, ()⟩]
  | subscribe {connection : Nat} {booting joining : List (Exchange NodeSignature)} {c : Context}
      {e : RunnerError} (h : p.Boots connection booting (.ok (.ok c)))
      (hjoins : Joins c p.config.wiring.inputs joining (.error e)) :
      Fails p
        (⟨.setRunner .initializing, ()⟩ :: ⟨.connect p.config.wiring.url, .ok connection⟩ :: booting
          ++ ⟨.setSubscriber .subscribing, ()⟩ :: joining) e
        [⟨.subscriber, .subscribing⟩, ⟨.setSubscriber .unsubscribing, ()⟩, ⟨.stopListeners, ()⟩,
          ⟨.awaitLeft, ()⟩, ⟨.close connection, ()⟩, ⟨.setRunner .terminated, ()⟩,
          ⟨.abortListeners, ()⟩]

/-- A startup that is broken off by a panic that the initializer meets before it begins to run: what
was exchanged until then. -/
inductive BreaksOff (p : Plan) : List (Exchange NodeSignature) → Panic → Prop
  | initializer {connection : Nat} {booting : List (Exchange NodeSignature)} {panic : Panic}
      (h : p.Boots connection booting (.error panic)) :
      BreaksOff p
        (⟨.setRunner .initializing, ()⟩ :: ⟨.connect p.config.wiring.url, .ok connection⟩ :: booting)
        panic

/-- A startup all steps of which succeed. -/
inductive Starts (p : Plan) : List (Exchange NodeSignature) → Context → Prop
  | intro {connection : Nat} {booting : List (Exchange NodeSignature)} {c : Context}
      (joined : List (String × Nat)) (h : p.Boots connection booting (.ok (.ok c)))
      (hinputs : p.config.wiring.inputs = joined.map (·.1)) (hsome : joined ≠ []) :
      Starts p
        (⟨.setRunner .initializing, ()⟩ :: ⟨.connect p.config.wiring.url, .ok connection⟩ :: booting
          ++ ⟨.setSubscriber .subscribing, ()⟩ :: joining c joined
          ++ [⟨.setSubscriber .listening, ()⟩, ⟨.setRunner .running, ()⟩]) c

/-- Serving up to the end: the fault that ended the runner, if one did, and whether the runner function
may still be running. -/
inductive Serves (p : Plan) (c : Context) :
    List (Exchange NodeSignature) → Option RunnerError → Bool → Prop
  | stopped (h : p.isTrigger = false) : Serves p c [⟨.awaitStop, ()⟩] none false
  | signal (h : p.isTrigger = true) (task : Nat) :
      Serves p c [⟨.launch c, task⟩, ⟨.awaitEnd, .signal⟩] none true
  | exhausted (h : p.isTrigger = true) (task : Nat) :
      Serves p c [⟨.launch c, task⟩, ⟨.awaitEnd, .exhausted⟩] none true
  | returned (h : p.isTrigger = true) (task : Nat) :
      Serves p c
        [⟨.launch c, task⟩, ⟨.awaitEnd, .returned (.ok (.ok ()))⟩, ⟨.awaitStop, ()⟩] none false
  | failed (h : p.isTrigger = true) (task : Nat) (e : HookError) :
      Serves p c [⟨.launch c, task⟩, ⟨.awaitEnd, .returned (.ok (.error e))⟩]
        (some (.runnerFunction e)) false
  | panicked (h : p.isTrigger = true) (task : Nat) (panic : Panic) :
      Serves p c [⟨.launch c, task⟩, ⟨.awaitEnd, .returned (.error panic)⟩]
        (some (.join (joinMessage task panic))) false

/-- The exchanges of a shutdown before the finalizer is run. -/
def unwinding (p : Plan) : List (Exchange NodeSignature) :=
  [⟨.setRunner .shuttingDown, ()⟩, ⟨.subscriber, .listening⟩, ⟨.setSubscriber .unsubscribing, ()⟩,
      ⟨.stopListeners, ()⟩, ⟨.awaitLeft, ()⟩]
    ++ if p.isTrigger then [⟨.turnAway, ()⟩] else []

/-- The exchanges of a shutdown behind the finalizer, by how that came back. A panic that it met before
it began to run leaves all but the listeners as they are. -/
def closing (c : Context) (left : Bool) : Returned → List (Exchange NodeSignature)
  | .error _ => [⟨.abortListeners, ()⟩]
  | .ok _ => [⟨.cancel, ()⟩] ++ (if left then [⟨.abortLaunched, ()⟩] else [])
    ++ [⟨.subscriber, .unsubscribing⟩, ⟨.abortListeners, ()⟩, ⟨.setSubscriber .stopped, ()⟩,
      ⟨.close c.publisher.connection, ()⟩, ⟨.setRunner .terminated, ()⟩]

/-- The exchanges of a shutdown, around those of the finalizer. -/
def shutting (p : Plan) (c : Context) (left : Bool) (finalizing : List (Exchange NodeSignature))
    (final : Returned) : List (Exchange NodeSignature) :=
  p.unwinding ++ finalizing ++ closing c left final

/-- What the life of a runner comes to. -/
def outcome : Option RunnerError → Except RunnerError Unit
  | some e => .error e
  | none => .ok ()

/-- How a life ends that was shut down, by how the finalizer came back. -/
def ended (fault : Option RunnerError) : Returned → Ended
  | .error panic => .error panic
  | .ok _ => .ok (outcome fault)

/-- A life from its start to its end. -/
inductive Lives (p : Plan) : List (Exchange NodeSignature) → Ended → Prop
  | failed {t cleanup : List (Exchange NodeSignature)} {e : RunnerError} (h : p.Fails t e cleanup) :
      Lives p (t ++ cleanup) (.ok (.error e))
  | brokenOff {t : List (Exchange NodeSignature)} {panic : Panic} (h : p.BreaksOff t panic) :
      Lives p t (.error panic)
  | served {t serving finalizing : List (Exchange NodeSignature)} {c : Context}
      {fault : Option RunnerError} {left : Bool} {final : Returned} (h : p.Starts t c)
      (hserves : p.Serves c serving fault left)
      (hfinal : (call p.finalizer c).Runs finalizing final) :
      Lives p (t ++ serving ++ p.shutting c left finalizing final) (ended fault final)

variable {p : Plan} {connection : Nat} {c : Context} {t : List (Exchange NodeSignature)}

/-- A hook that panics before it begins to run asks for nothing. -/
theorem call_panics_iff {h : Option Hook} {panic : Panic} :
    (call h c).Runs t (.error panic) ↔ t = [] ∧ ∃ f, h = some f ∧ f c = .error panic := by
  constructor
  · intro hcall
    cases h with
    | none => cases (runs_done_iff.1 hcall).2
    | some f =>
      rw [call] at hcall
      split at hcall
      next hf =>
        obtain ⟨rfl, hpanic⟩ := runs_done_iff.1 hcall
        cases hpanic
        exact ⟨rfl, f, rfl, hf⟩
      next program hf =>
        obtain ⟨running, outcome, rest, rfl, -, hdone⟩ := runs_bind_iff.1 hcall
        cases (runs_done_iff.1 hdone).2
  · rintro ⟨rfl, f, rfl, hf⟩
    rw [call, hf]
    exact .done _

theorem bootstrap_runs_iff {r : Except Panic (Except RunnerError Context)} :
    (p.bootstrap connection).Runs t r ↔ p.Boots connection t r := by
  constructor
  · intro h
    obtain ⟨max, t, rfl, hmax⟩ := runs_ask_bind_iff.1 h
    cases max with
    | error e =>
      obtain ⟨rfl, rfl⟩ := runs_done_iff.1 hmax
      exact .stream e
    | ok max =>
      obtain ⟨settings, t, rfl, hsettings⟩ := runs_ask_bind_iff.1 hmax
      cases settings with
      | error e =>
        obtain ⟨rfl, rfl⟩ := runs_done_iff.1 hsettings
        exact .settings max e
      | ok settings =>
        obtain ⟨seeding, u, rest, rfl, hseed, hseeded⟩ := runs_bind_iff.1 hsettings
        obtain ⟨calling, returned, rest, rfl, hcall, hcalled⟩ := runs_bind_iff.1 hseeded
        rcases returned with panic | e | u
        · obtain ⟨rfl, f, hf, hpanic⟩ := call_panics_iff.1 hcall
          obtain ⟨rfl, rfl⟩ := runs_done_iff.1 hcalled
          rw [List.append_nil, List.append_nil]
          exact .panicked max settings hseed hf hpanic
        · obtain ⟨rfl, rfl⟩ := runs_done_iff.1 hcalled
          rw [List.append_nil]
          exact .initializer max settings hseed hcall
        · obtain ⟨rfl, rfl⟩ := runs_done_iff.1 hcalled
          rw [List.append_nil]
          exact .ready max settings hseed hcall
  · intro h
    cases h with
    | stream e => exact .ask (.done _)
    | settings max e => exact .ask (.ask (.done _))
    | @panicked max settings seeding f panic hseed hf hpanic =>
      refine .ask (.ask ?_)
      rw [← List.append_nil seeding]
      exact hseed.bind ((call_panics_iff.2 ⟨rfl, f, hf, hpanic⟩).bind (.done _))
    | @initializer max settings seeding calling e hseed hcall =>
      refine .ask (.ask (hseed.bind ?_))
      rw [← List.append_nil calling]
      exact hcall.bind (.done _)
    | @ready max settings seeding calling hseed hcall =>
      refine .ask (.ask (hseed.bind ?_))
      rw [← List.append_nil calling]
      exact hcall.bind (.done _)

/-- What holds of what a hook asks when it runs holds of all that is asked when it is called. -/
theorem within_call_of {P : NodeRequest → Prop} {h : Option Hook}
    (hruns : ∀ f program, h = some f → f c = .ok program → program.ofHook.Within P fun _ => True) :
    (call h c).Within P fun _ => True := by
  cases h with
  | none => exact trivial
  | some f =>
    rw [call]
    split
    next => exact trivial
    next program hf => exact (hruns f program rfl hf).bind fun _ _ => trivial

theorem within_call (h : Option Hook) (c : Context) : (call h c).Within IsWork fun _ => True :=
  within_call_of fun _ program _ _ => within_ofHook program

theorem within_seed (c : Context) (entries : List (String × String)) :
    (seed c entries).Within IsWork fun _ => True := by
  induction entries with
  | nil => exact trivial
  | cons entry entries ih =>
    have hput : ∀ q : Program NodeSignature (Except ScopedConfigError Unit),
        q.Within IsWork (fun _ => True) → (discard q).Within IsWork fun _ => True := by
      intro q hq
      rw [discard, map_const]
      exact hq.bind fun _ _ => trivial
    exact (hput _ (within_ofHook _)).bind fun _ _ => ih

/-- The context is that of the connection. -/
theorem Boots.connection_eq (h : p.Boots connection t (.ok (.ok c))) :
    c.publisher.connection = connection := by
  cases h with
  | ready => rfl

/-- A context is made by booting requests alone. -/
theorem Boots.isBooting {r : Except Panic (Except RunnerError Context)}
    (h : p.Boots connection t r) : ∀ x ∈ t, x.1.IsBooting := by
  have hseeding : ∀ {settings seeding},
      (seed (.ofConfig p.config connection settings) p.config.sections.processEntries).Runs seeding () →
      ∀ x ∈ seeding, x.1.IsBooting := fun hseed x hx =>
    IsWork.isBooting (((within_seed _ _).runs hseed).1 x hx)
  have hwork : ∀ {settings seeding calling outcome},
      (seed (.ofConfig p.config connection settings) p.config.sections.processEntries).Runs seeding () →
      (call p.initializer (.ofConfig p.config connection settings)).Runs calling outcome →
      ∀ x ∈ seeding ++ calling, x.1.IsBooting := fun hseed hcall =>
    List.forall_mem_append.2 ⟨hseeding hseed, fun x hx =>
      IsWork.isBooting (((within_call _ _).runs hcall).1 x hx)⟩
  cases h with
  | stream e => simp [IsBooting]
  | settings max e => simp [IsBooting]
  | panicked max settings hseed hf hpanic =>
    exact List.forall_mem_cons.2 ⟨trivial, List.forall_mem_cons.2 ⟨trivial, hseeding hseed⟩⟩
  | initializer max settings hseed hcall =>
    exact List.forall_mem_cons.2 ⟨trivial, List.forall_mem_cons.2 ⟨trivial, hwork hseed hcall⟩⟩
  | ready max settings hseed hcall =>
    exact List.forall_mem_cons.2 ⟨trivial, List.forall_mem_cons.2 ⟨trivial, hwork hseed hcall⟩⟩

theorem serve_runs {r : Option RunnerError × Bool} (h : (p.serve c).Runs t r) :
    p.Serves c t r.1 r.2 := by
  rw [serve] at h
  split at h
  next htrigger =>
    obtain ⟨task, t, rfl, hlaunched⟩ := runs_ask_bind_iff.1 h
    obtain ⟨reply, t, rfl, hended⟩ := runs_ask_bind_iff.1 hlaunched
    match reply with
    | .signal =>
      obtain ⟨rfl, rfl⟩ := runs_done_iff.1 hended
      exact .signal htrigger task
    | .exhausted =>
      obtain ⟨rfl, rfl⟩ := runs_done_iff.1 hended
      exact .exhausted htrigger task
    | .returned (.ok (.ok ())) =>
      obtain ⟨_, t, rfl, hstopped⟩ := runs_ask_bind_iff.1 hended
      obtain ⟨rfl, rfl⟩ := runs_done_iff.1 hstopped
      exact .returned htrigger task
    | .returned (.ok (.error e)) =>
      obtain ⟨rfl, rfl⟩ := runs_done_iff.1 hended
      exact .failed htrigger task e
    | .returned (.error panic) =>
      obtain ⟨rfl, rfl⟩ := runs_done_iff.1 hended
      exact .panicked htrigger task panic
  next htrigger =>
    obtain ⟨_, t, rfl, hstopped⟩ := runs_ask_bind_iff.1 h
    obtain ⟨rfl, rfl⟩ := runs_done_iff.1 hstopped
    exact .stopped (by simpa using htrigger)

/-- Starting the listeners. -/
theorem start_runs {inputs : List String} {r : Except RunnerError Unit}
    (h : (start c inputs).Runs t r) :
    (inputs = [] ∧ t = [] ∧ r = .error .noInputs)
      ∨ inputs ≠ [] ∧ ∃ joining joined, Joins c inputs joining joined
        ∧ (joined = .ok () ∧ r = .ok ()
            ∧ t = ⟨.setSubscriber .subscribing, ()⟩ :: joining ++ [⟨.setSubscriber .listening, ()⟩]
          ∨ ∃ e s, joined = .error e ∧ r = .error e
            ∧ t = ⟨.setSubscriber .subscribing, ()⟩ :: joining ++ stopping s) := by
  rw [start] at h
  split at h
  next hnone =>
    obtain ⟨rfl, rfl⟩ := runs_done_iff.1 h
    exact .inl ⟨by simpa using hnone, rfl, rfl⟩
  next hsome =>
    obtain ⟨_, t, rfl, hset⟩ := runs_ask_bind_iff.1 h
    obtain ⟨joining, joined, rest, rfl, hjoins, hjoined⟩ := runs_bind_iff.1 hset
    refine .inr ⟨by simpa using hsome, joining, joined, subscribeAll_runs_iff.1 hjoins, ?_⟩
    cases joined with
    | ok u =>
      obtain ⟨_, t, rfl, hlistening⟩ := runs_ask_bind_iff.1 hjoined
      obtain ⟨rfl, rfl⟩ := runs_done_iff.1 hlistening
      exact .inl ⟨rfl, rfl, rfl⟩
    | error e =>
      obtain ⟨stopped, u, rest, rfl, hstop, hdone⟩ := runs_bind_iff.1 hjoined
      obtain ⟨s, rfl⟩ := stop_runs_iff.1 hstop
      obtain ⟨rfl, rfl⟩ := runs_done_iff.1 hdone
      refine .inr ⟨e, s, rfl, rfl, ?_⟩
      rw [List.append_nil]
      rfl

/-- Where the listeners have been started, each subject was subscribed to. -/
theorem exists_joined_of_start {inputs : List String} {u : Unit}
    (h : (start c inputs).Runs t (.ok u)) :
    ∃ joined : List (String × Nat), inputs = joined.map (·.1) ∧ joined ≠ []
      ∧ t = ⟨.setSubscriber .subscribing, ()⟩ :: joining c joined
        ++ [⟨.setSubscriber .listening, ()⟩] := by
  rcases start_runs h with ⟨-, -, hnone⟩ | ⟨hsome, exchanges, joined, hjoins, hjoined⟩
  · cases hnone
  · rcases hjoined with ⟨rfl, -, rfl⟩ | ⟨e, s, -, he, -⟩
    · obtain ⟨joined, rfl, rfl⟩ := hjoins.exists_joined
      refine ⟨joined, rfl, ?_, rfl⟩
      rintro rfl
      exact hsome rfl
    · cases he

/-- A request with one possible reply, on a condition. -/
theorem runs_when {condition : Bool} {q : Program NodeSignature Unit} {x : Exchange NodeSignature}
    {u : Unit} (hq : ∀ t u, q.Runs t u → t = [x]) (h : (Program.when condition q).Runs t u) :
    t = if condition then [x] else [] := by
  cases condition with
  | false => exact (runs_done_iff.1 h).1
  | true => exact hq t u h

theorem runs_single {r : NodeRequest} {x : Exchange NodeSignature} {reply : r.Reply}
    (hx : ∀ reply, (⟨r, reply⟩ : Exchange NodeSignature) = x) (h : r.ask.Runs t reply) : t = [x] := by
  obtain ⟨reply, _, rfl, hdone⟩ := runs_ask_iff.1 h
  rw [(runs_done_iff.1 hdone).1, hx reply]

/-- What is done behind the finalizer, whatever is said about the subscriber. -/
theorem release_runs {left : Bool} {final : Returned} {r : Except Panic Unit}
    (h : (release c left final).Runs t r) :
    (∃ panic, final = .error panic ∧ r = .error panic ∧ t = [⟨.abortListeners, ()⟩])
      ∨ ∃ returned s, final = .ok returned ∧ r = .ok ()
        ∧ t = ⟨.cancel, ()⟩ :: (if left then [⟨.abortLaunched, ()⟩] else []) ++ stopping s
          ++ [⟨.abortListeners, ()⟩, ⟨.setSubscriber .stopped, ()⟩,
            ⟨.close c.publisher.connection, ()⟩] := by
  cases final with
  | error panic =>
    obtain ⟨⟨⟩, rest, rfl, haborted⟩ := runs_ask_bind_iff.1 h
    obtain ⟨rfl, rfl⟩ := runs_done_iff.1 haborted
    exact .inl ⟨panic, rfl, rfl, rfl⟩
  | ok returned =>
    obtain ⟨⟨⟩, rest, rfl, hcancelled⟩ := runs_ask_bind_iff.1 h
    obtain ⟨ending, _, rest, rfl, hend, hended⟩ := runs_bind_iff.1 hcancelled
    obtain ⟨aborting, _, rest, rfl, habort, haborted⟩ := runs_bind_iff.1 hended
    obtain ⟨s, rfl⟩ := abort_runs habort
    obtain ⟨⟨⟩, rest, rfl, hclosed⟩ := runs_ask_bind_iff.1 haborted
    obtain ⟨rfl, rfl⟩ := runs_done_iff.1 hclosed
    refine .inr ⟨returned, s, rfl, rfl, ?_⟩
    rw [runs_when (x := ⟨.abortLaunched, ()⟩) (fun _ _ => runs_single (r := .abortLaunched)
      fun _ => rfl) hend]
    simp only [List.cons_append, List.append_assoc, List.nil_append]

/-- Shutting down, whatever is said about the subscriber. -/
theorem shutDown_runs {left : Bool} {r : Except Panic Unit} (h : (p.shutDown c left).Runs t r) :
    ∃ s finalizing final releasing, (call p.finalizer c).Runs finalizing final
      ∧ (release c left final).Runs releasing r
      ∧ t = ⟨.setRunner .shuttingDown, ()⟩ :: stopping s
        ++ (if p.isTrigger then [⟨.turnAway, ()⟩] else []) ++ finalizing ++ releasing := by
  obtain ⟨⟨⟩, t, rfl, hset⟩ := runs_ask_bind_iff.1 h
  obtain ⟨stopped, _, t, rfl, hstop, hstopped⟩ := runs_bind_iff.1 hset
  obtain ⟨s, rfl⟩ := stop_runs_iff.1 hstop
  obtain ⟨turning, _, t, rfl, hturn, hturned⟩ := runs_bind_iff.1 hstopped
  obtain ⟨finalizing, final, releasing, rfl, hfinal, hreleased⟩ := runs_bind_iff.1 hturned
  refine ⟨s, finalizing, final, releasing, hfinal, hreleased, ?_⟩
  rw [runs_when (x := ⟨.turnAway, ()⟩) (fun _ _ => runs_single (r := .turnAway) fun _ => rfl) hturn]
  simp only [List.cons_append, List.append_assoc]

/-- Shutting down a subscriber that listens. -/
theorem shutDown_coherent {k : Conduct} {left : Bool} {r : Except Panic Unit}
    (h : (p.shutDown c left).Runs t r) (hcoherent : Coherent k t) (hk : k.subscriber = .listening) :
    ∃ finalizing final, (call p.finalizer c).Runs finalizing final
      ∧ ((∃ panic, final = .error panic ∧ r = .error panic
          ∧ t = p.shutting c left finalizing final)
        ∨ ∃ returned, final = .ok returned ∧ r = .ok ()
          ∧ t ++ [⟨.setRunner .terminated, ()⟩] = p.shutting c left finalizing final) := by
  obtain ⟨s, finalizing, final, releasing, hfinal, hrelease, rfl⟩ := shutDown_runs h
  have hs : s = k.subscriber := by
    simp only [List.cons_append, List.append_assoc] at hcoherent
    exact hcoherent.2.1
  obtain rfl : s = .listening := hs.trans hk
  refine ⟨finalizing, final, hfinal, ?_⟩
  rcases release_runs hrelease with ⟨panic, rfl, rfl, rfl⟩ | ⟨returned, s', rfl, rfl, rfl⟩
  · exact .inl ⟨panic, rfl, rfl, by simp [shutting, unwinding, closing, stopping]⟩
  · have hwork := ((within_call p.finalizer c).runs hfinal).1
    let between : List (Exchange NodeSignature) :=
      [⟨.stopListeners, ()⟩, ⟨.awaitLeft, ()⟩] ++ (if p.isTrigger then [⟨.turnAway, ()⟩] else [])
        ++ finalizing ++ [⟨.cancel, ()⟩] ++ if left then [⟨.abortLaunched, ()⟩] else []
    have hbetween : ∀ x ∈ between, ¬x.1.TellsSubscriber := by
      have hfinalizing : ∀ x ∈ finalizing, ¬x.1.TellsSubscriber := fun x hx =>
        (hwork x hx).isSilent.not_tellsSubscriber
      simp only [between, List.forall_mem_append]
      refine ⟨⟨⟨⟨?_, ?_⟩, hfinalizing⟩, ?_⟩, ?_⟩
      · simp [TellsSubscriber]
      · split <;> simp [TellsSubscriber]
      · simp [TellsSubscriber]
      · split <;> simp [TellsSubscriber]
    obtain rfl : s' = .unsubscribing := by
      refine stopping_eq (k := k) (b := [⟨.setRunner .shuttingDown, ()⟩, ⟨.subscriber, .listening⟩])
        (r := [⟨.abortListeners, ()⟩, ⟨.setSubscriber .stopped, ()⟩,
          ⟨.close c.publisher.connection, ()⟩]) hbetween ?_
      simpa [between, stopping] using hcoherent
    exact .inr ⟨returned, rfl, rfl, by simp [shutting, unwinding, closing, stopping]⟩

/-- Connecting and making the context. -/
theorem connect_runs {r : Except Panic (Except RunnerError Context)} (h : p.connect.Runs t r) :
    (∃ e, t = [⟨.connect p.config.wiring.url, .error e⟩]
        ∧ r = .ok (.error (.connect p.config.wiring.url e)))
      ∨ (∃ connection booting panic, p.Boots connection booting (.error panic) ∧ r = .error panic
        ∧ t = ⟨.connect p.config.wiring.url, .ok connection⟩ :: booting)
      ∨ (∃ connection booting e, p.Boots connection booting (.ok (.error e)) ∧ r = .ok (.error e)
        ∧ t = ⟨.connect p.config.wiring.url, .ok connection⟩ :: booting ++ [⟨.close connection, ()⟩])
      ∨ ∃ connection booting c, p.Boots connection booting (.ok (.ok c)) ∧ r = .ok (.ok c)
        ∧ t = ⟨.connect p.config.wiring.url, .ok connection⟩ :: booting := by
  obtain ⟨reply, t, rfl, hreply⟩ := runs_ask_bind_iff.1 h
  cases reply with
  | error e =>
    obtain ⟨rfl, rfl⟩ := runs_done_iff.1 hreply
    exact .inl ⟨e, rfl, rfl⟩
  | ok connection =>
    obtain ⟨booting, made, rest, rfl, hboots, hmade⟩ := runs_bind_iff.1 hreply
    have hboots := bootstrap_runs_iff.1 hboots
    rcases made with panic | e | c
    · obtain ⟨rfl, rfl⟩ := runs_done_iff.1 hmade
      exact .inr (.inl ⟨connection, booting, panic, hboots, rfl, by simp⟩)
    · obtain ⟨_, t, rfl, hclosed⟩ := runs_ask_bind_iff.1 hmade
      obtain ⟨rfl, rfl⟩ := runs_done_iff.1 hclosed
      exact .inr (.inr (.inl ⟨connection, booting, e, hboots, rfl, rfl⟩))
    · obtain ⟨rfl, rfl⟩ := runs_done_iff.1 hmade
      exact .inr (.inr (.inr ⟨connection, booting, c, hboots, rfl, by simp⟩))

theorem Serves.isSilent {fault : Option RunnerError} {left : Bool}
    (h : p.Serves c t fault left) : ∀ x ∈ t, x.1.IsSilent := by
  cases h <;> simp [IsSilent]

/-- Where subscribing fails, so does the startup, and what was acquired is let go of. -/
theorem lives_of_start {k : Conduct} {booting starting rest : List (Exchange NodeSignature)}
    {e : RunnerError} (hboots : p.Boots connection booting (.ok (.ok c)))
    (hstart : (start c p.config.wiring.inputs).Runs starting (.error e))
    (hcoherent : Coherent k (⟨.setRunner .initializing, ()⟩
      :: ⟨.connect p.config.wiring.url, .ok connection⟩ :: (booting ++ (starting ++ rest)))) :
    p.Lives (⟨.setRunner .initializing, ()⟩ :: ⟨.connect p.config.wiring.url, .ok connection⟩
      :: (booting ++ (starting ++ [⟨.close connection, ()⟩, ⟨.setRunner .terminated, ()⟩,
        ⟨.abortListeners, ()⟩]))) (.ok (.error e)) := by
  rcases start_runs hstart with ⟨hinputs, rfl, hnone⟩ | ⟨-, joining, joined, hjoins, hjoined⟩
  · cases hnone
    have hlife := Lives.failed (.noInputs hboots hinputs)
    simpa using hlife
  · rcases hjoined with ⟨-, hok, -⟩ | ⟨e', s, rfl, he, rfl⟩
    · cases hok
    · cases he
      -- the state that was set last is the one that is found
      obtain rfl : s = .subscribing := by
        refine stopping_eq (k := k) (b := ⟨.setRunner .initializing, ()⟩
          :: ⟨.connect p.config.wiring.url, .ok connection⟩ :: booting) (r := rest)
          (fun x hx => (hjoins.isSilent x hx).not_tellsSubscriber) ?_
        simpa using hcoherent
      have hlife := Lives.failed (.subscribe hboots hjoins)
      simpa [stopping] using hlife

/-- A runner that has started and served is shut down as one that listens. -/
theorem lives_of_serves {k : Conduct} {starting serving shutting rest : List (Exchange NodeSignature)}
    {fault : Option RunnerError} {left : Bool} {r : Except Panic Unit}
    (hstarts : p.Starts
      (starting ++ [⟨.setSubscriber .listening, ()⟩, ⟨.setRunner .running, ()⟩]) c)
    (hserves : p.Serves c serving fault left) (hshut : (p.shutDown c left).Runs shutting r)
    (hcoherent : Coherent k (starting ++ ⟨.setSubscriber .listening, ()⟩
      :: ⟨.setRunner .running, ()⟩ :: serving ++ (shutting ++ rest))) :
    (∃ panic, r = .error panic
        ∧ p.Lives (starting ++ [⟨.setSubscriber .listening, ()⟩, ⟨.setRunner .running, ()⟩] ++ serving
          ++ shutting) (.error panic))
      ∨ r = .ok ()
        ∧ p.Lives (starting ++ [⟨.setSubscriber .listening, ()⟩, ⟨.setRunner .running, ()⟩] ++ serving
          ++ (shutting ++ [⟨.setRunner .terminated, ()⟩])) (.ok (outcome fault)) := by
  have hlistening : ((starting ++ ⟨.setSubscriber .listening, ()⟩
      :: ⟨.setRunner .running, ()⟩ :: serving).foldl Conduct.after k).subscriber = .listening := by
    rw [List.foldl_append, List.foldl_cons]
    refine foldl_after_eq fun x hx => Conduct.subscriber_after ?_
    rcases List.mem_cons.1 hx with rfl | hserving
    · exact fun h => h
    · exact (hserves.isSilent x hserving).not_tellsSubscriber
  obtain ⟨finalizing, final, hfinal, ⟨panic, rfl, rfl, rfl⟩ | ⟨returned, rfl, rfl, hshutting⟩⟩ :=
    shutDown_coherent hshut (coherent_append.1 (coherent_append.1 hcoherent).2).1 hlistening
  · exact .inl ⟨panic, rfl, .served hstarts hserves hfinal⟩
  · rw [hshutting]
    exact .inr ⟨rfl, .served hstarts hserves hfinal⟩

/-- A coherent life is one that fails as it starts or is broken off, or one that serves. -/
theorem supervise_runs {k : Conduct} {r : Ended} (h : p.supervise.Runs t r)
    (hcoherent : Coherent k t) : p.Lives t r := by
  obtain ⟨⟨⟩, t, rfl, hset⟩ := runs_ask_bind_iff.1 h
  obtain ⟨connecting, made, rest, rfl, hconnect, hmade⟩ := runs_bind_iff.1 hset
  rcases connect_runs hconnect with ⟨e, rfl, rfl⟩ | ⟨connection, booting, panic, hboots, rfl, rfl⟩
    | ⟨connection, booting, e, hboots, rfl, rfl⟩ | ⟨connection, booting, c, hboots, rfl, rfl⟩
  · obtain ⟨⟨⟩, t, rfl, hterminated⟩ := runs_ask_bind_iff.1 hmade
    obtain ⟨rfl, rfl⟩ := runs_done_iff.1 hterminated
    exact .failed (.connect e)
  · obtain ⟨rfl, rfl⟩ := runs_done_iff.1 hmade
    rw [List.append_nil]
    exact .brokenOff (.initializer hboots)
  · obtain ⟨⟨⟩, t, rfl, hterminated⟩ := runs_ask_bind_iff.1 hmade
    obtain ⟨rfl, rfl⟩ := runs_done_iff.1 hterminated
    have hlife := Lives.failed (.bootstrap hboots)
    simpa using hlife
  · obtain ⟨starting, started, rest, rfl, hstart, hstarted⟩ := runs_bind_iff.1 hmade
    cases started with
    | error e =>
      obtain ⟨⟨⟩, t, rfl, hclosed⟩ := runs_ask_bind_iff.1 hstarted
      obtain ⟨⟨⟩, t, rfl, hterminated⟩ := runs_ask_bind_iff.1 hclosed
      obtain ⟨⟨⟩, t, rfl, haborted⟩ := runs_ask_bind_iff.1 hterminated
      obtain ⟨rfl, rfl⟩ := runs_done_iff.1 haborted
      have hlife := lives_of_start hboots hstart (by simpa using hcoherent)
      rw [← hboots.connection_eq] at hlife ⊢
      simpa using hlife
    | ok _ =>
      obtain ⟨⟨⟩, t, rfl, hrunning⟩ := runs_ask_bind_iff.1 hstarted
      obtain ⟨serving, ⟨fault, left⟩, t, rfl, hserve, hserved⟩ := runs_bind_iff.1 hrunning
      obtain ⟨shutting, down, t, rfl, hshut, hdown⟩ := runs_bind_iff.1 hserved
      obtain ⟨joined, hinputs, hsome, rfl⟩ := exists_joined_of_start hstart
      have hstarts : p.Starts (⟨.setRunner .initializing, ()⟩
          :: ⟨.connect p.config.wiring.url, .ok connection⟩ :: booting
            ++ ⟨.setSubscriber .subscribing, ()⟩ :: joining c joined
            ++ [⟨.setSubscriber .listening, ()⟩, ⟨.setRunner .running, ()⟩]) c := by
        simpa using Starts.intro joined hboots hinputs hsome
      rcases lives_of_serves hstarts (serve_runs hserve) hshut (by simpa using hcoherent) with
        ⟨panic, rfl, hlife⟩ | ⟨rfl, hlife⟩
      · obtain ⟨rfl, rfl⟩ := runs_done_iff.1 hdown
        simpa using hlife
      · obtain ⟨⟨⟩, t, rfl, hterminated⟩ := runs_ask_bind_iff.1 hdown
        cases fault with
        | none =>
          obtain ⟨rfl, rfl⟩ := runs_done_iff.1 hterminated
          simpa [outcome] using hlife
        | some e =>
          obtain ⟨rfl, rfl⟩ := runs_done_iff.1 hterminated
          simpa [outcome] using hlife

theorem connects {connection : Nat} {booting : List (Exchange NodeSignature)}
    (h : p.Boots connection booting (.ok (.ok c))) :
    p.connect.Runs (⟨.connect p.config.wiring.url, .ok connection⟩ :: (booting ++ []))
      (.ok (.ok c)) :=
  .ask ((bootstrap_runs_iff.2 h).bind (.done _))

/-- A startup that fails goes as it is told. -/
theorem Fails.runs {cleanup : List (Exchange NodeSignature)} {e : RunnerError}
    (h : p.Fails t e cleanup) : p.supervise.Runs (t ++ cleanup) (.ok (.error e)) := by
  cases h with
  | connect e => exact .ask (.ask (.ask (.done _)))
  | @bootstrap connection booting e h =>
    have hconnect : p.connect.Runs
        (⟨.connect p.config.wiring.url, .ok connection⟩ :: (booting ++ [⟨.close connection, ()⟩]))
        (.ok (.error e)) :=
      .ask ((bootstrap_runs_iff.2 h).bind (.ask (.done _)))
    have hlife : p.supervise.Runs
        (⟨.setRunner .initializing, ()⟩ :: (_ ++ [⟨.setRunner .terminated, ()⟩])) (.ok (.error e)) :=
      .ask (hconnect.bind (.ask (.done _)))
    simpa using hlife
  | @noInputs connection booting c h hinputs =>
    have hstart : (start c p.config.wiring.inputs).Runs [] (.error .noInputs) := by
      rw [hinputs]
      exact .done _
    have hlife : p.supervise.Runs
        (⟨.setRunner .initializing, ()⟩ :: (_ ++ ([] ++ [⟨.close c.publisher.connection, ()⟩,
          ⟨.setRunner .terminated, ()⟩, ⟨.abortListeners, ()⟩]))) (.ok (.error .noInputs)) :=
      .ask ((connects h).bind (hstart.bind (.ask (.ask (.ask (.done _))))))
    rw [h.connection_eq] at hlife
    simpa using hlife
  | @subscribe connection booting joining c e h hjoins =>
    have hstart : (start c p.config.wiring.inputs).Runs
        (⟨.setSubscriber .subscribing, ()⟩ :: (joining ++ (stopping .subscribing ++ []))) (.error e) := by
      have hsome : p.config.wiring.inputs.isEmpty = false := by
        cases hinputs : p.config.wiring.inputs with
        | nil => exact absurd hinputs hjoins.inputs_ne_nil
        | cons => rfl
      rw [start, hsome]
      exact .ask ((subscribeAll_runs_iff.2 hjoins).bind
        ((stop_runs_iff (u := ()).2 ⟨.subscribing, rfl⟩).bind (.done _)))
    have hlife : p.supervise.Runs
        (⟨.setRunner .initializing, ()⟩ :: (_ ++ (_ ++ [⟨.close c.publisher.connection, ()⟩,
          ⟨.setRunner .terminated, ()⟩, ⟨.abortListeners, ()⟩]))) (.ok (.error e)) :=
      .ask ((connects h).bind (hstart.bind (.ask (.ask (.ask (.done _))))))
    rw [h.connection_eq] at hlife
    simpa [stopping] using hlife

/-- What remains of a startup that has failed. -/
theorem Fails.exists_leads {cleanup : List (Exchange NodeSignature)} {e : RunnerError}
    (h : p.Fails t e cleanup) : ∃ q, p.supervise.Leads t q ∧ q.Runs cleanup (.ok (.error e)) :=
  h.runs.exists_leads

/-- What broke a startup off is a panic of the initializer. -/
theorem BreaksOff.initializer_eq {panic : Panic} (h : p.BreaksOff t panic) :
    ∃ f connection settings, p.initializer = some f
      ∧ f (.ofConfig p.config connection settings) = .error panic := by
  obtain ⟨hboots⟩ := h
  cases hboots with
  | panicked max settings hseed hf hpanic => exact ⟨_, _, settings, hf, hpanic⟩

/-- A startup that is broken off is at its end. -/
theorem BreaksOff.leads {panic : Panic} (h : p.BreaksOff t panic) :
    p.supervise.Leads t (done (.error panic)) := by
  cases h with
  | @initializer connection booting panic hboots =>
    have hconnect : p.connect.Runs
        (⟨.connect p.config.wiring.url, .ok connection⟩ :: (booting ++ [])) (.error panic) :=
      .ask ((bootstrap_runs_iff.2 hboots).bind (.done _))
    have hlife : p.supervise.Runs (⟨.setRunner .initializing, ()⟩ :: (_ ++ [])) (.error panic) :=
      .ask (hconnect.bind (.done _))
    rw [List.append_nil, List.append_nil] at hlife
    exact leads_iff_runs.2 hlife

end Plan
end Waystation
