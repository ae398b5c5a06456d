import Waystation.Proofs.Node.Moments
import Waystation.Proofs.Runner.Life
import Waystation.Runner.Basic
/-!
Runners drive their nodes. Over the life of a runner tasks are started and ended in order, so what holds
of machines at all times holds of a runner that is run in a network.
-/
namespace Waystation

open NodeRequest Program

namespace NodeRequest

/-- Requests of a startup. -/
def IsStarting : NodeRequest → Prop
  | setRunner _ | connect _ | work _ | streamMax .. | openSettings .. | setSubscriber _ | subscribe ..
  | listen .. => True
  | _ => False

/-- Requests of a subscriber that has started. -/
def IsWinding : NodeRequest → Prop
  | subscriber | setSubscriber _ | stopListeners | awaitLeft | abortListeners | awaitListeners
  | awaitStop => True
  | _ => False

/-- Requests of a subscriber. -/
def IsSubscribing (r : NodeRequest) : Prop := r.IsWinding ∨ match r with
  | subscribe .. | listen .. => True
  | _ => False

/-- Requests of a driving task that hand on no context and do no work. -/
def IsSteering : NodeRequest → Prop
  | work _ | watched _ | take _ | leave _ | tellLeft _ | returned _ | listen .. | launch _ => False
  | _ => True

/-- Requests of a subscriber that starts its listeners with one context. -/
def SubscribesWith (c : Context) (r : NodeRequest) : Prop := r.IsWinding ∨ match r with
  | subscribe .. => True
  | listen _ own => own = c
  | _ => False

/-- Requests that start nothing. -/
def Closes (r : NodeRequest) : Prop := ¬r.IsListen ∧ ¬r.IsLaunch

theorem IsStarting.prepares {r : NodeRequest} (h : r.IsStarting) :
    ¬r.EndsListening ∧ ¬r.EndsLaunching ∧ ¬r.IsAwaitLeft := by
  cases r <;> first | exact h.elim | exact ⟨fun h => h, fun h => h, fun h => h⟩

theorem IsWinding.closes {r : NodeRequest} (h : r.IsWinding) : r.Closes := by
  cases r <;> first | exact h.elim | exact ⟨fun h => h, fun h => h⟩

theorem IsSteering.isDriving {r : NodeRequest} (h : r.IsSteering) : r.IsDriving := by
  cases r <;> first | exact h.elim | trivial

theorem IsWinding.isSteering {r : NodeRequest} (h : r.IsWinding) : r.IsSteering := by
  cases r <;> first | exact h.elim | exact trivial

theorem SubscribesWith.cases {c : Context} {r : NodeRequest} (h : r.SubscribesWith c) :
    r.IsSteering ∨ ∃ s, r = listen s c := by
  cases r with
  | listen s own => exact .inr ⟨s, by rw [h.resolve_left id]⟩
  | subscribe connection o => exact .inl trivial
  | _ => exact .inl (h.resolve_right id).isSteering

theorem SubscribesWith.isSubscribing {c : Context} {r : NodeRequest} (h : r.SubscribesWith c) :
    r.IsSubscribing := by
  cases r <;> first | exact .inr trivial | exact .inl (h.resolve_right id)

theorem IsSubscribing.isDriving {r : NodeRequest} (h : r.IsSubscribing) : r.IsDriving := by
  cases r <;> first | exact (h.elim id id : False).elim | trivial

theorem IsBooting.isStarting {r : NodeRequest} (h : r.IsBooting) : r.IsStarting ∧ ¬r.IsListen := by
  cases r <;> first | exact h.elim | exact ⟨trivial, fun h => h⟩

theorem IsBooting.closes {r : NodeRequest} (h : r.IsBooting) : r.Closes ∧ ¬r.IsAwaitLeft := by
  cases r <;> first | exact h.elim | exact ⟨⟨fun h => h, fun h => h⟩, fun h => h⟩

end NodeRequest

/-- What starts listeners comes before what starts a runner function, and that before what ends
them. -/
theorem order_of_phases {starting serving ending : List (Exchange NodeSignature)}
    (hstarting : ∀ x ∈ starting, x.1.IsStarting) (horder : serving.Pairwise InOrder)
    (hending : ∀ x ∈ ending, x.1.Closes) : (starting ++ serving ++ ending).Pairwise InOrder := by
  have hbefore : ∀ x ∈ starting, ∀ y, InOrder x y := fun x hx y =>
    ⟨fun hends => absurd hends (hstarting x hx).prepares.1,
      fun hends => absurd hends (hstarting x hx).prepares.2.1⟩
  have hbehind : ∀ y ∈ ending, ∀ x, InOrder x y := fun y hy x =>
    ⟨fun _ => (hending y hy).1, fun _ => (hending y hy).2⟩
  refine List.pairwise_append.2 ⟨List.pairwise_append.2 ⟨?_, horder, ?_⟩, ?_, ?_⟩
  · exact List.pairwise_of_forall_mem_list fun x hx y _ => hbefore x hx y
  · exact fun x hx y _ => hbefore x hx y
  · exact List.pairwise_of_forall_mem_list fun x _ y hy => hbehind y hy x
  · exact fun x _ y hy => hbehind y hy x

theorem proper_of_phases {starting serving ending : List (Exchange NodeSignature)}
    (hstarting : ∀ x ∈ starting, x.1.IsStarting) (hlistens : Listens starting)
    (hserving : ∀ x ∈ serving, ¬x.1.IsListen ∧ ¬x.1.IsAwaitLeft) (horder : serving.Pairwise InOrder)
    (hending : ∀ x ∈ ending, x.1.Closes) (hstops : Stops ending) :
    Proper (starting ++ serving ++ ending) where
  listens := (hlistens.append (listens_of_none fun x hx => (hserving x hx).1)).append
    (listens_of_none fun x hx => (hending x hx).1)
  stops := by
    have hnone : ∀ x ∈ starting, ¬x.1.IsAwaitLeft := fun x hx => (hstarting x hx).prepares.2.2
    exact ((stops_of_none hnone).append (stops_of_none fun x hx => (hserving x hx).2)).append hstops
  order := order_of_phases hstarting horder hending

namespace Subscriber

variable {c : Context} {inputs : List String} {t : List (Exchange NodeSignature)}

theorem listens_joining (joined : List (String × Nat)) : Listens (joining c joined) := by
  induction joined with
  | nil => exact listens_of_none fun x hx => nomatch hx
  | cons j joined ih =>
    exact (listens_joined _ _ _ _).append ih

theorem Joins.listens {r : Except RunnerError Unit} (h : Joins c inputs t r) : Listens t := by
  cases h with
  | all joined => exact listens_joining joined
  | refused joined subject rest e =>
    exact (listens_joining joined).append (listens_of_none (by simp [IsListen]))

theorem Joins.isStarting {r : Except RunnerError Unit} (h : Joins c inputs t r) :
    ∀ x ∈ t, x.1.IsStarting := by
  intro x hx
  rcases h.mem hx with ⟨connection, o, hr⟩ | ⟨id, rfl⟩
  · rw [hr]
    trivial
  · trivial

theorem within_stop : stop.Within IsWinding fun _ => True := by
  refine (within_ask trivial).bind fun s _ => ?_
  cases s with
  | unsubscribing | stopped => exact trivial
  | idle | subscribing | listening =>
    exact (within_ask trivial).bind fun _ _ => (within_ask trivial).bind fun _ _ => within_ask trivial

theorem within_abort : abort.Within IsWinding fun _ => True :=
  within_stop.bind fun _ _ => (within_ask trivial).bind fun _ _ => within_ask trivial

theorem within_winding {α : Type} {q : Program NodeSignature α} (h : q.Within IsWinding fun _ => True) :
    q.Within IsSubscribing fun _ => True :=
  h.mono (fun _ => .inl) fun _ h => h

theorem within_startWith (c : Context) (inputs : List String) :
    (start c inputs).Within (SubscribesWith c) fun _ => True := by
  have hall : ∀ inputs, (subscribeAll c inputs).Within (SubscribesWith c) fun _ => True := by
    intro inputs
    induction inputs with
    | nil => exact trivial
    | cons subject rest ih =>
      refine (within_ask (.inr trivial)).bind fun reply _ => ?_
      cases reply with
      | error e => exact trivial
      | ok id => exact (within_ask (.inr rfl)).bind fun _ _ => ih
  rw [start]
  split
  · exact trivial
  · refine (within_ask (.inl trivial)).bind fun _ _ => (hall inputs).bind fun joined _ => ?_
    cases joined with
    | ok u => exact (within_ask (.inl trivial)).bind fun _ _ => trivial
    | error e =>
      exact (within_stop.mono (fun _ => .inl) fun _ h => h).bind fun _ _ => trivial

theorem within_start (c : Context) (inputs : List String) :
    (start c inputs).Within IsSubscribing fun _ => True :=
  (within_startWith c inputs).mono (fun _ hr => hr.isSubscribing) fun _ h => h

end Subscriber

/-- A context that a node makes of its configuration when it is connected. -/
def Config.Grounds (config : Config) (c : Context) : Prop :=
  ∃ connection settings, c = Context.ofConfig config connection settings

namespace Plan

open Subscriber

variable {p : Plan} {connection : Nat} {c : Context} {t : List (Exchange NodeSignature)}

/-- Up to its context, a startup starts no listener. -/
theorem Boots.connected {r : Except Panic (Except RunnerError Context)}
    (h : p.Boots connection t r) :
    (∀ x ∈ (⟨.setRunner .initializing, ()⟩ :: ⟨.connect p.config.wiring.url, .ok connection⟩ :: t
      : List (Exchange NodeSignature)), x.1.IsStarting)
    ∧ Listens (⟨.setRunner .initializing, ()⟩ :: ⟨.connect p.config.wiring.url, .ok connection⟩ :: t) := by
  have hbooting : ∀ x ∈ t, x.1.IsStarting ∧ ¬x.1.IsListen := fun x hx => (h.isBooting x hx).isStarting
  constructor
  · exact List.forall_mem_cons.2 ⟨trivial, List.forall_mem_cons.2 ⟨trivial, fun x hx => (hbooting x hx).1⟩⟩
  · exact listens_of_none (List.forall_mem_cons.2 ⟨fun h => h,
      List.forall_mem_cons.2 ⟨fun h => h, fun x hx => (hbooting x hx).2⟩⟩)

/-- Joining behind a connected start. -/
theorem isStarting_joined {connected joining : List (Exchange NodeSignature)} {inputs : List String}
    {r : Except RunnerError Unit}
    (hconnected : (∀ x ∈ connected, x.1.IsStarting) ∧ Listens connected)
    (hjoins : Joins c inputs joining r) :
    (∀ x ∈ connected ++ ⟨.setSubscriber .subscribing, ()⟩ :: joining, x.1.IsStarting)
      ∧ Listens (connected ++ ⟨.setSubscriber .subscribing, ()⟩ :: joining) := by
  have hset : Listens [⟨.setSubscriber .subscribing, ()⟩] := listens_of_none (by simp [IsListen])
  refine ⟨List.forall_mem_append.2 ⟨hconnected.1, ?_⟩, hconnected.2.append (hset.append hjoins.listens)⟩
  exact List.forall_mem_cons.2 ⟨trivial, hjoins.isStarting⟩

theorem Fails.phases {cleanup : List (Exchange NodeSignature)} {e : RunnerError}
    (h : p.Fails t e cleanup) : ((∀ x ∈ t, x.1.IsStarting) ∧ Listens t)
      ∧ (∀ x ∈ cleanup, x.1.Closes) ∧ Stops cleanup := by
  cases h with
  | connect e =>
    refine ⟨⟨by simp [IsStarting], listens_of_none (by simp [IsListen])⟩,
      by simp [Closes, IsListen, IsLaunch], ?_⟩
    exact stops_of_none (by simp [IsAwaitLeft])
  | bootstrap h =>
    refine ⟨h.connected, by simp [Closes, IsListen, IsLaunch], ?_⟩
    exact stops_of_none (by simp [IsAwaitLeft])
  | noInputs h hinputs =>
    refine ⟨h.connected, by simp [Closes, IsListen, IsLaunch], ?_⟩
    exact stops_of_none (by simp [IsAwaitLeft])
  | @subscribe connection booting joining c e h hjoins =>
    refine ⟨isStarting_joined h.connected hjoins, by simp [Closes, IsListen, IsLaunch], ?_⟩
    have hbefore : Stops [⟨.subscriber, .subscribing⟩, ⟨.setSubscriber .unsubscribing, ()⟩] :=
      stops_of_none (by simp [IsAwaitLeft])
    have hbehind : Stops [⟨.close connection, ()⟩, ⟨.setRunner .terminated, ()⟩,
        ⟨.abortListeners, ()⟩] :=
      stops_of_none (by simp [IsAwaitLeft])
    exact (hbefore.append stops_awaitLeft).append hbehind

theorem BreaksOff.phases {panic : Panic} (h : p.BreaksOff t panic) :
    (∀ x ∈ t, x.1.IsStarting) ∧ Listens t := by
  obtain ⟨hboots⟩ := h
  exact hboots.connected

theorem Serves.phases {fault : Option RunnerError} {left : Bool} (h : p.Serves c t fault left) :
    (∀ x ∈ t, ¬x.1.IsListen ∧ ¬x.1.IsAwaitLeft) ∧ t.Pairwise InOrder := by
  cases h <;> simp [InOrder, IsListen, IsLaunch, IsAwaitLeft, EndsListening, EndsLaunching]

theorem Starts.phases (h : p.Starts t c) : (∀ x ∈ t, x.1.IsStarting) ∧ Listens t := by
  obtain ⟨joined, hboots, -, -⟩ := h
  obtain ⟨hstarting, hlistens⟩ := isStarting_joined hboots.connected (.all (c := c) joined)
  refine ⟨List.forall_mem_append.2 ⟨hstarting, ?_⟩, hlistens.append (listens_of_none ?_)⟩
  · simp [IsStarting]
  · simp [IsListen]

theorem unwinding_phases : (∀ x ∈ p.unwinding, x.1.Closes) ∧ Stops p.unwinding := by
  constructor
  · simp only [unwinding, List.forall_mem_append]
    refine ⟨?_, ?_⟩
    · simp [Closes, IsListen, IsLaunch]
    · split <;> simp [Closes, IsListen, IsLaunch]
  · have hbefore : Stops [⟨.setRunner .shuttingDown, ()⟩, ⟨.subscriber, .listening⟩,
        ⟨.setSubscriber .unsubscribing, ()⟩] :=
      stops_of_none (by simp [IsAwaitLeft])
    have hturn : Stops (if p.isTrigger then [⟨.turnAway, ()⟩] else []) := by
      split <;> exact stops_of_none (by simp [IsAwaitLeft])
    exact (hbefore.append stops_awaitLeft).append hturn

theorem closing_phases (left : Bool) (final : Returned) :
    ∀ x ∈ closing c left final, x.1.Closes ∧ ¬x.1.IsAwaitLeft := by
  cases final with
  | error panic => simp [closing, Closes, IsListen, IsLaunch, IsAwaitLeft]
  | ok returned => cases left <;> simp [closing, Closes, IsListen, IsLaunch, IsAwaitLeft]

theorem shutting_phases (left : Bool) {finalizing : List (Exchange NodeSignature)} (final : Returned)
    (h : ∀ x ∈ finalizing, x.1.IsWork) :
    (∀ x ∈ p.shutting c left finalizing final, x.1.Closes)
      ∧ Stops (p.shutting c left finalizing final) := by
  have hfinalizing : ∀ x ∈ finalizing, x.1.Closes ∧ ¬x.1.IsAwaitLeft := fun x hx =>
    (h x hx).isBooting.closes
  have hclosing := closing_phases (c := c) left final
  obtain ⟨hcloses, hstops⟩ := p.unwinding_phases
  constructor
  · simp only [shutting, List.forall_mem_append]
    exact ⟨⟨hcloses, fun x hx => (hfinalizing x hx).1⟩, fun x hx => (hclosing x hx).1⟩
  · exact (hstops.append (stops_of_none fun x hx => (hfinalizing x hx).2)).append
      (stops_of_none fun x hx => (hclosing x hx).2)

/-! The states of a life. -/

theorem Boots.statesSet {r : Except Panic (Except RunnerError Context)}
    (h : p.Boots connection t r) :
    statesSet (⟨.setRunner .initializing, ()⟩ :: ⟨.connect p.config.wiring.url, .ok connection⟩ :: t)
      = [.initializing] := by
  have hbooting := statesSet_of_silent fun x hx => (h.isBooting x hx).isSilent
  exact congrArg (List.cons RunnerState.initializing) hbooting

theorem Fails.statesSet {cleanup : List (Exchange NodeSignature)} {e : RunnerError}
    (h : p.Fails t e cleanup) :
    statesSet t = [.initializing] ∧ statesSet cleanup = [.terminated] := by
  cases h with
  | connect e => exact ⟨rfl, rfl⟩
  | bootstrap h => exact ⟨h.statesSet, rfl⟩
  | noInputs h hinputs => exact ⟨h.statesSet, rfl⟩
  | @subscribe connection booting joining c e h hjoins =>
    have hjoining : Waystation.statesSet (⟨.setSubscriber .subscribing, ()⟩ :: joining) = [] := by
      have hsilent := statesSet_of_silent hjoins.isSilent
      exact hsilent
    rw [statesSet_append, h.statesSet, hjoining]
    exact ⟨rfl, rfl⟩

theorem BreaksOff.statesSet {panic : Panic} (h : p.BreaksOff t panic) :
    statesSet t = [.initializing] := by
  obtain ⟨hboots⟩ := h
  exact hboots.statesSet

theorem Starts.statesSet (h : p.Starts t c) : statesSet t = [.initializing, .running] := by
  obtain ⟨joined, hboots, -, -⟩ := h
  have hjoining : Waystation.statesSet (⟨.setSubscriber .subscribing, ()⟩ :: joining c joined) = [] := by
    have hsilent := statesSet_of_silent (Joins.all (c := c) joined).isSilent
    exact hsilent
  rw [statesSet_append, statesSet_append, hboots.statesSet, hjoining]
  rfl

theorem statesSet_unwinding : Waystation.statesSet p.unwinding = [.shuttingDown] := by
  rw [unwinding]
  split <;> rfl

/-- The states that are set behind a finalizer: a runner is terminated, unless a panic that the
finalizer met before it began to run breaks the shutdown off. -/
def lastStates : Returned → List RunnerState
  | .error _ => []
  | .ok _ => [.terminated]

theorem prefix_lastStates (final : Returned) : lastStates final <+: [.terminated] := by
  cases final with
  | error panic => exact List.nil_prefix
  | ok returned => exact List.prefix_rfl

theorem statesSet_closing (left : Bool) (final : Returned) :
    statesSet (closing c left final) = lastStates final := by
  cases final with
  | error panic => rfl
  | ok returned => cases left <;> rfl

theorem statesSet_shutting (left : Bool) {finalizing : List (Exchange NodeSignature)}
    (final : Returned) (h : ∀ x ∈ finalizing, x.1.IsWork) :
    statesSet (p.shutting c left finalizing final) = .shuttingDown :: lastStates final := by
  have hfinalizing := statesSet_of_silent fun x hx => (h x hx).isSilent
  rw [shutting, statesSet_append, statesSet_append, statesSet_unwinding, hfinalizing,
    statesSet_closing]
  rfl

/-- A life sets every state once. -/
theorem Lives.statesSet {r : Ended} (h : p.Lives t r) :
    statesSet t = [.initializing, .terminated] ∨ statesSet t = [.initializing]
      ∨ ∃ final, statesSet t = [.initializing, .running, .shuttingDown] ++ lastStates final := by
  cases h with
  | failed h =>
    rw [statesSet_append, h.statesSet.1, h.statesSet.2]
    exact .inl rfl
  | brokenOff h => exact .inr (.inl h.statesSet)
  | @served t serving finalizing c fault left final h hserves hfinal =>
    have hserving := statesSet_of_silent hserves.isSilent
    rw [statesSet_append, statesSet_append, h.statesSet, hserving,
      statesSet_shutting _ _ ((within_call _ _).runs hfinal).1]
    exact .inr (.inr ⟨final, rfl⟩)

/-! The end of a life. -/

theorem not_isConclude_of_starting (h : ∀ x ∈ t, x.1.IsStarting) : ∀ x ∈ t, ¬x.1.IsConclude := by
  rintro ⟨r, reply⟩ hx hconclude
  have hstarting := h _ hx
  cases r with
  | conclude r => exact hstarting
  | _ => exact hconclude

theorem not_isConclude_of_silent (h : ∀ x ∈ t, x.1.IsSilent) : ∀ x ∈ t, ¬x.1.IsConclude := by
  rintro ⟨r, reply⟩ hx hconclude
  have hsilent := h _ hx
  cases r with
  | conclude r => exact hsilent
  | _ => exact hconclude

/-- Nothing is concluded before a startup that fails is cleaned up. -/
theorem Fails.not_isConclude {cleanup : List (Exchange NodeSignature)} {e : RunnerError}
    (h : p.Fails t e cleanup) : ∀ x ∈ t ++ cleanup, ¬x.1.IsConclude := by
  refine List.forall_mem_append.2 ⟨not_isConclude_of_starting h.phases.1.1, ?_⟩
  cases h <;> simp [IsConclude]

theorem closing_not_isConclude (left : Bool) (final : Returned) :
    ∀ x ∈ closing c left final, ¬x.1.IsConclude := by
  cases final with
  | error panic => simp [closing, IsConclude]
  | ok returned => cases left <;> simp [closing, IsConclude]

/-- Nothing is concluded in a life. -/
theorem Lives.not_isConclude {result : Ended} (h : p.Lives t result) :
    ∀ x ∈ t, ¬x.1.IsConclude := by
  cases h with
  | failed h => exact h.not_isConclude
  | brokenOff h => exact not_isConclude_of_starting h.phases.1
  | @served t serving finalizing c fault left final h hserves hfinal =>
    have hunwinding : ∀ x ∈ p.unwinding, ¬x.1.IsConclude := by
      rw [unwinding]
      split <;> simp [IsConclude]
    have hfinalizing : ∀ x ∈ finalizing, ¬x.1.IsConclude :=
      not_isConclude_of_silent fun x hx => (((within_call _ _).runs hfinal).1 x hx).isSilent
    simp only [shutting, List.forall_mem_append]
    exact ⟨⟨not_isConclude_of_starting h.phases.1, not_isConclude_of_silent hserves.isSilent⟩,
      ⟨hunwinding, hfinalizing⟩, closing_not_isConclude left final⟩

/-! The requests of a life. -/

theorem within_work {P : NodeRequest → Prop} (hP : ∀ r, P (.work r)) {α : Type}
    {q : Program NodeSignature α} (h : q.Within IsWork fun _ => True) : q.Within P fun _ => True := by
  refine h.mono (fun r hr => ?_) fun _ h => h
  cases r with
  | work r => exact hP r
  | _ => exact hr.elim

/-- A condition that holds of what a plan has its driving task ask, whatever context it works with. -/
structure Allows (p : Plan) (P : NodeRequest → Prop) : Prop where
  steers : ∀ r, r.IsSteering → P r
  listens : ∀ c, p.config.Grounds c → ∀ s, P (listen s c)
  launches : ∀ c, p.config.Grounds c → P (launch c)
  seeds : ∀ c, p.config.Grounds c → ∀ entries, (seed c entries).Within P fun _ => True
  initializes : ∀ c, p.config.Grounds c → (call p.initializer c).Within P fun _ => True
  finalizes : ∀ c, p.config.Grounds c → (call p.finalizer c).Within P fun _ => True

section Allowed

variable {P : NodeRequest → Prop}

theorem Allows.ask (h : p.Allows P) {r : NodeRequest} (hr : r.IsSteering) :
    r.ask.Within P fun _ => True :=
  within_ask (h.steers r hr)

theorem Allows.winding (h : p.Allows P) {q : Program NodeSignature Unit}
    (hq : q.Within IsWinding fun _ => True) : q.Within P fun _ => True :=
  hq.mono (fun r hr => h.steers r hr.isSteering) fun _ h => h

theorem within_when (condition : Bool) {q : Program NodeSignature Unit}
    (hq : q.Within P fun _ => True) : (Program.when condition q).Within P fun _ => True := by
  rw [Program.when]
  split
  · exact hq
  · exact trivial

theorem within_bootstrap (h : p.Allows P) (connection : Nat) : (p.bootstrap connection).Within P
    fun made => ∀ c, made = .ok (.ok c) → p.config.Grounds c := by
  refine (h.ask (by trivial)).bind fun max _ => ?_
  cases max with
  | error e => exact nofun
  | ok max =>
    refine (h.ask (by trivial)).bind fun settings _ => ?_
    cases settings with
    | error e => exact nofun
    | ok settings =>
      have hc : p.config.Grounds (.ofConfig p.config connection settings) := ⟨_, _, rfl⟩
      refine (h.seeds _ hc _).bind fun _ _ => (h.initializes _ hc).bind fun returned _ => ?_
      rcases returned with panic | e | u
      · exact nofun
      · exact nofun
      · exact fun c hmade => Except.ok.inj (Except.ok.inj hmade) ▸ hc

theorem within_connect (h : p.Allows P) : p.connect.Within P
    fun made => ∀ c, made = .ok (.ok c) → p.config.Grounds c := by
  refine (h.ask (by trivial)).bind fun reply _ => ?_
  cases reply with
  | error e => exact nofun
  | ok connection =>
    refine (within_bootstrap h connection).bind fun made hmade => ?_
    rcases made with panic | e | c
    · exact nofun
    · exact (h.ask (by trivial)).bind fun _ _ => nofun
    · exact hmade

theorem within_starting (h : p.Allows P) (hc : p.config.Grounds c) (inputs : List String) :
    (start c inputs).Within P fun _ => True := by
  refine (within_startWith c inputs).mono (fun r hr => ?_) fun _ h => h
  rcases hr.cases with hsteering | ⟨s, rfl⟩
  · exact h.steers r hsteering
  · exact h.listens c hc s

theorem within_serve (h : p.Allows P) (hc : p.config.Grounds c) :
    (p.serve c).Within P fun _ => True := by
  rw [serve]
  split
  · refine (within_ask (h.launches c hc)).bind fun task _ =>
      (h.ask (by trivial)).bind fun reply _ => ?_
    cases reply with
    | signal | exhausted => exact trivial
    | returned r =>
      rcases r with panic | (e | u)
      · exact trivial
      · exact trivial
      · exact (h.ask (by trivial)).bind fun _ _ => trivial
  · exact (h.ask (by trivial)).bind fun _ _ => trivial

theorem within_release (h : p.Allows P) (left : Bool) (final : Returned) :
    (release c left final).Within P fun _ => True := by
  cases final with
  | error panic => exact (h.ask (by trivial)).bind fun _ _ => trivial
  | ok returned =>
    exact (h.ask (by trivial)).bind fun _ _ => (within_when _ (h.ask (by trivial))).bind fun _ _ =>
      (h.winding within_abort).bind fun _ _ => (h.ask (by trivial)).bind fun _ _ => trivial

theorem within_shutDown (h : p.Allows P) (hc : p.config.Grounds c) (left : Bool) :
    (p.shutDown c left).Within P fun _ => True :=
  (h.ask (by trivial)).bind fun _ _ => (h.winding within_stop).bind fun _ _ =>
    (within_when _ (h.ask (by trivial))).bind fun _ _ => (h.finalizes c hc).bind fun final _ =>
    within_release h left final

/-- What holds of what a plan has asked holds of the whole life of its runner. -/
theorem within_supervise (h : p.Allows P) : p.supervise.Within P fun _ => True := by
  refine (h.ask (by trivial)).bind fun _ _ => (within_connect h).bind fun made hmade => ?_
  rcases made with panic | e | c
  · exact trivial
  · exact (h.ask (by trivial)).bind fun _ _ => trivial
  · have hc := hmade c rfl
    refine (within_starting h hc _).bind fun started _ => ?_
    cases started with
    | error e =>
      exact (h.ask (by trivial)).bind fun _ _ => (h.ask (by trivial)).bind fun _ _ =>
        (h.ask (by trivial)).bind fun _ _ => trivial
    | ok u =>
      refine (h.ask (by trivial)).bind fun _ _ => (within_serve h hc).bind fun served _ =>
        (within_shutDown h hc served.2).bind fun down _ => ?_
      cases down with
      | error panic => exact trivial
      | ok u =>
        refine (h.ask (by trivial)).bind fun _ _ => ?_
        cases served.1 with
        | some e => exact trivial
        | none => exact trivial

end Allowed

/-- A condition that holds of all work needs to be looked at for the other requests only. -/
theorem allows_of_work {P : NodeRequest → Prop} (hwork : ∀ r, P (.work r))
    (hsteers : ∀ r, r.IsSteering → P r) (hlistens : ∀ c, p.config.Grounds c → ∀ s, P (listen s c))
    (hlaunches : ∀ c, p.config.Grounds c → P (launch c)) : p.Allows P where
  steers := hsteers
  listens := hlistens
  launches := hlaunches
  seeds c _ entries := within_work hwork (within_seed c entries)
  initializes c _ := within_work hwork (within_call p.initializer c)
  finalizes c _ := within_work hwork (within_call p.finalizer c)

/-- In a whole life tasks are started and ended in order. -/
theorem Lives.proper {r : Ended} (h : p.Lives t r) (r' : Ended) :
    Proper (t ++ [⟨.conclude r', ()⟩]) := by
  have hconclude : ∀ x ∈ ([⟨.conclude r', ()⟩] : List (Exchange NodeSignature)), x.1.Closes := by
    simp [Closes, IsListen, IsLaunch]
  have hstops : Stops [⟨.conclude r', ()⟩] := stops_of_none (by simp [IsAwaitLeft])
  cases h with
  | @failed t cleanup e h =>
    obtain ⟨⟨hstarting, hlistens⟩, hcloses, hcleanup⟩ := h.phases
    have hproper : Proper (t ++ [] ++ (cleanup ++ [⟨.conclude r', ()⟩])) :=
      proper_of_phases hstarting hlistens (by simp) (by simp)
        (List.forall_mem_append.2 ⟨hcloses, hconclude⟩) (hcleanup.append hstops)
    simpa using hproper
  | brokenOff h =>
    obtain ⟨hstarting, hlistens⟩ := h.phases
    have hproper : Proper (t ++ [] ++ [⟨.conclude r', ()⟩]) :=
      proper_of_phases hstarting hlistens (by simp) (by simp) hconclude hstops
    simpa using hproper
  | @served t serving finalizing c fault left final h hserves hfinal =>
    obtain ⟨hstarting, hlistens⟩ := h.phases
    obtain ⟨hserving, horder⟩ := hserves.phases
    obtain ⟨hcloses, hshutting⟩ :=
      shutting_phases (p := p) (c := c) left final ((within_call p.finalizer c).runs hfinal).1
    have hproper := proper_of_phases hstarting hlistens hserving horder
      (List.forall_mem_append.2 ⟨hcloses, hconclude⟩) (hshutting.append hstops)
    simpa using hproper

end Plan

/-- How a node is run that is about to start. -/
def Conduct.built : Conduct where
  runner := some .built
  subscriber := .idle
  stopping := false
  cancelled := false
  result := none

namespace Runner

/-- What a runner adds to a configuration. -/
def plan : Runner → Config → Plan
  | pipeline r, config => { config, initializer := r.initializer, finalizer := r.finalizer }
  | trigger r, config =>
    { config, initializer := r.initializer, finalizer := r.finalizer, isTrigger := true }

/-- What a runner cannot do without and does not have. -/
def missing : Runner → Option RunnerError
  | pipeline r => if r.pipeline.registry.hasDefault then none else some .missingDefaultHandler
  | trigger r => if r.function.isSome then none else some .missingRunnerFunction

/-- What the driving task does. -/
def body (r : Runner) (config : Config) : Program NodeSignature Turn := do
  (do (conclude (← r.life config)).ask : Program NodeSignature Unit)
  return .finished

variable {r : Runner} {config : Config} {t : List (Exchange NodeSignature)}

theorem life_eq (r : Runner) (config : Config) : r.life config = match r.missing with
    | some e => done (.ok (.error e))
    | none => (r.plan config).supervise := by
  cases r with
  | pipeline r =>
    simp only [life, PipelineRunner.life, missing, plan]
    split <;> rfl
  | trigger r =>
    simp only [life, TriggerRunner.life, missing, plan]
    split <;> rfl

theorem body_runs_iff {turn : Turn} : (r.body config).Runs t turn
    ↔ ∃ lived result, (r.life config).Runs lived result ∧ t = lived ++ [⟨.conclude result, ()⟩]
      ∧ turn = .finished := by
  constructor
  · intro h
    obtain ⟨concluding, _, rest, rfl, hconclude, hdone⟩ := runs_bind_iff.1 h
    obtain ⟨lived, result, told, rfl, hlife, htold⟩ := runs_bind_iff.1 hconclude
    obtain ⟨⟨⟩, t, rfl, hnothing⟩ := runs_ask_iff.1 htold
    obtain ⟨rfl, -⟩ := runs_done_iff.1 hnothing
    obtain ⟨rfl, rfl⟩ := runs_done_iff.1 hdone
    exact ⟨lived, result, hlife, by simp, rfl⟩
  · rintro ⟨lived, result, hlife, rfl, rfl⟩
    have hbody := (hlife.bind (f := fun result => (conclude result).ask) (.ask (.done ()))).bind
      (f := fun _ => done Turn.finished) (.done _)
    rw [List.append_nil] at hbody
    exact hbody

/-- A run of the driving task is that of a life, or of a runner that misses something. -/
theorem lives_of_runs {k : Conduct} {turn : Turn} (h : (r.body config).Runs t turn)
    (hcoherent : Coherent k t) :
    (∃ e, r.missing = some e ∧ t = [⟨.conclude (.ok (.error e)), ()⟩])
      ∨ r.missing = none ∧ ∃ lived result, (r.plan config).Lives lived result
        ∧ t = lived ++ [⟨.conclude result, ()⟩] := by
  obtain ⟨lived, result, hlife, rfl, -⟩ := body_runs_iff.1 h
  rw [life_eq] at hlife
  cases hmissing : r.missing with
  | some e =>
    rw [hmissing] at hlife
    obtain ⟨rfl, rfl⟩ := runs_done_iff.1 hlife
    exact .inl ⟨e, rfl, rfl⟩
  | none =>
    rw [hmissing] at hlife
    exact .inr ⟨rfl, lived, result, Plan.supervise_runs hlife (coherent_append.1 hcoherent).1, rfl⟩

/-- What holds of what a plan has asked holds of all that the driving task asks. -/
theorem within_body {P : NodeRequest → Prop} (h : (r.plan config).Allows P) :
    (r.body config).Within P (· = .finished) := by
  have hlife : (r.life config).Within P fun _ => True := by
    rw [life_eq]
    split
    · exact trivial
    · exact Plan.within_supervise h
  have hconcluded : (do (conclude (← r.life config)).ask : Program NodeSignature Unit).Within
      P fun _ => True :=
    hlife.bind fun result _ => h.ask (r := conclude result) trivial
  rw [body]
  exact hconcluded.bind fun _ _ => rfl

theorem body_driver (r : Runner) (config : Config) : Driver .built (r.body config) := by
  refine driver_of_runs (within_body ?_) fun t turn hruns hcoherent => ?_
  · exact Plan.allows_of_work (fun _ => trivial) (fun _ hr => hr.isDriving) (fun _ _ _ => trivial)
      fun _ _ => trivial
  · rcases lives_of_runs hruns hcoherent with ⟨e, -, rfl⟩ | ⟨-, lived, result, hlives, rfl⟩
    · exact ⟨listens_of_none (by simp [IsListen]), stops_of_none (by simp [IsAwaitLeft]), by simp⟩
    · exact hlives.proper result

theorem body_distinct {q : Program NodeSignature Turn} (hleads : (r.body config).Leads t q)
    (hcoherent : Coherent .built t) : Distinct .built t := by
  obtain ⟨t', turn, hruns, hwhole⟩ := hleads.exists_run hcoherent
  have hstates : (RunnerState.built :: statesSet (t ++ t')).Nodup := by
    have hconclude : ∀ result, statesSet [⟨.conclude result, ()⟩] = [] := fun _ => rfl
    rcases lives_of_runs hruns hwhole with ⟨e, -, ht⟩ | ⟨-, lived, result, hlives, ht⟩
    · rw [ht, hconclude]
      decide
    · rw [ht, statesSet_append, hconclude, List.append_nil]
      rcases hlives.statesSet with hstates | hstates | ⟨final, hstates⟩
      · rw [hstates]
        decide
      · rw [hstates]
        decide
      · rw [hstates]
        cases final with
        | error panic => exact (by decide : [RunnerState.built, .initializing, .running,
            .shuttingDown].Nodup)
        | ok returned => exact (by decide : [RunnerState.built, .initializing, .running,
            .shuttingDown, .terminated].Nodup)
  refine distinct_of_nodup (hstates.sublist ?_)
  rw [statesSet_append]
  exact (List.sublist_append_left _ _).cons_cons _

theorem sound_machine (r : Runner) (config : Config) {network : Network}
    (h : network.broker.Orderly) :
    Machine.Sound .built (r.body config) (r.machine config network) [] :=
  Machine.sound_nil (m := r.machine config network) rfl rfl rfl rfl rfl h

open Machine

/-- A runner that has concluded something has come to its end. -/
theorem eq_of_concluded {path exchanges : List (Exchange NodeSignature)}
    {result result' : Ended} (h : exchanges <+: path ++ [⟨.conclude result, ()⟩])
    (hpath : ∀ x ∈ path, ¬x.1.IsConclude) (hconclude : ⟨.conclude result', ()⟩ ∈ exchanges) :
    result' = result ∧ exchanges = path ++ [⟨.conclude result, ()⟩] := by
  rcases List.prefix_concat_iff.1 h with rfl | hbefore
  · rcases mem_snoc.1 hconclude with hmem | hlast
    · exact absurd trivial (hpath _ hmem)
    · cases hlast
      exact ⟨rfl, rfl⟩
  · exact absurd trivial (hpath _ (hbefore.subset hconclude))

variable {m : Machine} {log : List Move} {result : Ended}

/-- What a runner has come to is what it has concluded. -/
theorem concluded (h : Sound .built (r.body config) m log) (hresult : m.node.result = some result) :
    ⟨.conclude result, ()⟩ ∈ exchanged .main log := by
  have hfold : ((exchanged .main log).foldl Conduct.after .built).result = some result := by
    rw [← h.conduct]
    exact hresult
  exact (result_foldl hfold).resolve_left fun hnone => nomatch hnone

/-- A runner that is run in a network, whatever happens meanwhile. -/
theorem sound_run (r : Runner) (config : Config) {network : Network} (h : network.broker.Orderly)
    (es : List Event) : Sound .built (r.body config) ((r.machine config network).during es)
      ((r.machine config network).log es) :=
  sound_during (r.body_driver config) (r.sound_machine config h) es

/-- What an observer sees of a runner. -/
theorem states_run (r : Runner) (config : Config) {network : Network} (h : network.broker.Orderly)
    (es : List Event) : (r.machine config network).states es
      = statesSet (exchanged .main ((r.machine config network).log es)) :=
  (r.sound_machine config h).states_eq (r.body_driver config)
    (fun _ _ hleads hcoherent => body_distinct hleads hcoherent) es

/-- A connection that was made and closed is closed, and nobody is a member of a group by it. -/
theorem vacant_of_closed {network : Network} {es : List Event} {connection : Nat} {url : String}
    {before rest : List (Exchange NodeSignature)} (h : network.broker.Orderly)
    (hexchanged : exchanged .main ((r.machine config network).log es)
      = before ++ ⟨.close connection, ()⟩ :: rest)
    (hconnect : ⟨.connect url, .ok connection⟩ ∈ before) :
    ((r.machine config network).during es).node.network.broker.isOpen connection = false
      ∧ ∀ member, ((r.machine config network).during es).node.network.broker.Seats member →
        member.connection ≠ connection := by
  have hclosed := closed_of_closed hexchanged hconnect
  exact ⟨hclosed, (r.sound_run config h es).crew.orderly.connected.vacant hclosed⟩

end Runner
end Waystation
