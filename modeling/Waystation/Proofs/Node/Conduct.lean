import Waystation.Node.Machine
import Waystation.Proofs.Node.Frame
import Waystation.Proofs.Program.Leads
/-!
How a node is run, as its driving task decides. What is exchanged in driving a node tells how the node
is run, and the only thing a driver learns about that is what it has said itself.
-/
namespace Waystation

namespace NodeRequest

/-- Requests that drive a node: those that are not for a listener or the runner function. -/
def IsDriving : NodeRequest → Prop
  | watched _ | take _ | leave _ | tellLeft _ | returned _ => False
  | _ => True

/-- Requests of the runner function. -/
def IsLaunched : NodeRequest → Prop
  | work _ | returned _ => True
  | _ => False

/-- Requests that start or end tasks. -/
def IsStaffing : NodeRequest → Prop
  | listen .. | launch _ | abortListeners | abortLaunched => True
  | _ => False

def IsListen : NodeRequest → Prop
  | listen .. => True
  | _ => False

def IsLaunch : NodeRequest → Prop
  | launch _ => True
  | _ => False

def TellsLeft : NodeRequest → Prop
  | tellLeft _ => True
  | _ => False

def IsAwaitLeft : NodeRequest → Prop
  | awaitLeft => True
  | _ => False

/-- Requests that say something about the subscriber. -/
def TellsSubscriber : NodeRequest → Prop
  | setSubscriber _ => True
  | _ => False

def IsConnect : NodeRequest → Prop
  | connect _ => True
  | _ => False

def IsConclude : NodeRequest → Prop
  | conclude _ => True
  | _ => False

/-- Requests that leave the conduct of a node as it is. -/
def IsSilent : NodeRequest → Prop
  | setRunner _ | setSubscriber _ | stopListeners | cancel | conclude _ => False
  | _ => True

theorem IsSilent.not_tellsSubscriber {r : NodeRequest} (h : r.IsSilent) : ¬r.TellsSubscriber := by
  cases r <;> first | exact h.elim | exact fun h => h

/-- Requests after which no listener is started. -/
def EndsListening : NodeRequest → Prop
  | launch _ | awaitEnd | awaitStop | awaitLeft | abortListeners => True
  | _ => False

/-- Requests after which no runner function is started. -/
def EndsLaunching : NodeRequest → Prop
  | launch _ | abortLaunched => True
  | _ => False

end NodeRequest

/-- How a node is run, as far as its driving task alone decides. -/
structure Conduct where
  runner : Option RunnerState
  subscriber : SubscriberState
  stopping : Bool
  cancelled : Bool
  result : Option Ended

def Node.conduct (n : Node) : Conduct where
  runner := n.runner
  subscriber := n.subscriber
  stopping := n.stopping
  cancelled := n.cancelled
  result := n.result

def Conduct.after (k : Conduct) (x : Exchange NodeSignature) : Conduct :=
  match x.1 with
  | .setRunner s => { k with runner := some s }
  | .setSubscriber s => { k with subscriber := s }
  | .stopListeners => { k with stopping := true }
  | .cancel => { k with cancelled := true }
  | .conclude r => { k with result := some r }
  | _ => k

theorem Node.conduct_obey (n : Node) (x : Exchange NodeSignature) :
    (n.obey x).conduct = n.conduct.after x := by
  obtain ⟨r, reply⟩ := x
  cases r
  case awaitEnd => cases reply <;> rfl
  all_goals rfl

theorem Node.Answered.conduct {n node : Node} {x : Exchange NodeSignature} (h : n.Answered x node) :
    node.conduct = n.conduct.after x :=
  (congrArg Node.conduct h.bare).trans (n.bare.conduct_obey x)

theorem Node.conduct_endTasks (ids : List TaskId) (n : Node) :
    (ids.foldl Node.endTask n).conduct = n.conduct := by
  induction ids generalizing n with
  | nil => rfl
  | cons id ids ih =>
    rw [List.foldl_cons, ih]
    cases id <;> rfl

/-! What the driving task learns. -/

/-- Is an exchange one with a node that is run so? -/
def Conduct.Foresees (k : Conduct) (x : Exchange NodeSignature) : Prop :=
  match x with
  | ⟨.subscriber, s⟩ => s = k.subscriber
  | _ => True

/-- The replies about the subscriber are what was last said about it. -/
def Coherent : Conduct → List (Exchange NodeSignature) → Prop
  | _, [] => True
  | k, x :: t => k.Foresees x ∧ Coherent (k.after x) t

variable {k : Conduct} {t t' : List (Exchange NodeSignature)}

theorem coherent_append :
    Coherent k (t ++ t') ↔ Coherent k t ∧ Coherent (t.foldl Conduct.after k) t' := by
  induction t generalizing k with
  | nil => simp [Coherent]
  | cons x t ih => simp [Coherent, ih, and_assoc]

theorem Node.foresees {n node : Node} {r : NodeRequest} {reply : r.Reply}
    (h : (reply, node) ∈ n.answers r) : n.conduct.Foresees ⟨r, reply⟩ := by
  cases r with
  | subscriber =>
    obtain ⟨rfl, -⟩ := Prod.mk.inj (List.mem_singleton.1 h)
    rfl
  | _ => trivial

namespace NodeRequest

/-- Requests to which there is one reply at most, given how the node is run. -/
def IsPlain : NodeRequest → Prop
  | subscriber | setSubscriber _ | stopListeners | awaitLeft | abortListeners | setRunner _ | close _
  | awaitStop | turnAway | cancel | abortLaunched | conclude _ => True
  | _ => False

theorem nonempty_reply (r : NodeRequest) : Nonempty r.Reply := by
  have hhook : ∀ r : HookRequest, Nonempty r.Reply := by
    intro r
    cases r
    case register id => exact ⟨(⟨id, 0⟩ : Waiter)⟩
    case await id => exact ⟨(⟨id, 0⟩ : Waiter)⟩
    case status => exact ⟨(⟨0, false⟩ : TriggerStatus)⟩
    case deliver => exact ⟨false⟩
    case state => exact ⟨(none : Option RunnerState)⟩
    case response => exact ⟨(none : Option Envelope)⟩
    case publish => exact ⟨(.ok none : Except MessagingError (Option String))⟩
    case get => exact ⟨(.ok none : Except ScopedConfigError (Option String))⟩
    case set => exact ⟨(.ok () : Except ScopedConfigError Unit)⟩
    case delete => exact ⟨(.ok false : Except ScopedConfigError Bool)⟩
    case close => exact ⟨(.ok () : Except TransportError Unit)⟩
    all_goals exact ⟨()⟩
  have hwork : ∀ r : WorkRequest, Nonempty r.Reply := by
    intro r
    cases r with
    | user r => exact hhook r
    | acknowledge => exact ⟨(.ok () : Except TransportError Unit)⟩
  cases r
  case work r => exact hwork r
  case watched r => exact ⟨(none : Option r.Reply)⟩
  case take => exact ⟨Taken.closed⟩
  case subscriber => exact ⟨SubscriberState.idle⟩
  case subscribe => exact ⟨(.ok 0 : Except TransportError Nat)⟩
  case connect => exact ⟨(.ok 0 : Except TransportError Nat)⟩
  case streamMax => exact ⟨(.ok none : Except TransportError (Option Nat))⟩
  case openSettings => exact ⟨(.ok {} : Except ScopedConfigError Settings)⟩
  case launch => exact ⟨(0 : Nat)⟩
  case awaitEnd => exact ⟨End.signal⟩
  all_goals exact ⟨()⟩

theorem IsPlain.unique {r : NodeRequest} (h : r.IsPlain) {reply reply' : r.Reply}
    (hreply : k.Foresees ⟨r, reply⟩) (hreply' : k.Foresees ⟨r, reply'⟩) : reply = reply' := by
  cases r
  case subscriber => exact Eq.trans hreply (Eq.symm hreply')
  all_goals first | exact h.elim | rfl

end NodeRequest

/-- What no exchange touches stays as it is. -/
theorem foldl_after_eq {β : Type} {f : Conduct → β} (h : ∀ x ∈ t, ∀ k, f (k.after x) = f k) :
    f (t.foldl Conduct.after k) = f k := by
  induction t generalizing k with
  | nil => rfl
  | cons x t ih =>
    obtain ⟨hx, ht⟩ := List.forall_mem_cons.1 h
    rw [List.foldl_cons, ih ht, hx]

/-- What one exchange brings about and no other undoes holds ever after. -/
theorem foldl_told {f : Conduct → Bool} {x : Exchange NodeSignature}
    (hx : ∀ k : Conduct, f (k.after x) = true)
    (hstays : ∀ (k : Conduct) (y : Exchange NodeSignature), f k = true → f (k.after y) = true)
    (h : x ∈ t) : f (t.foldl Conduct.after k) = true := by
  have hrest : ∀ (t : List (Exchange NodeSignature)) (k : Conduct), f k = true →
      f (t.foldl Conduct.after k) = true := by
    intro t
    induction t with
    | nil => exact fun k hk => hk
    | cons y t ih => exact fun k hk => ih (k.after y) (hstays k y hk)
  obtain ⟨before, rest, rfl⟩ := List.append_of_mem h
  rw [List.foldl_append, List.foldl_cons]
  exact hrest rest _ (hx _)

/-- What only one exchange brings about held at first, or that exchange was made. -/
theorem told_of_foldl {P : Conduct → Prop} {x : Exchange NodeSignature}
    (hstep : ∀ (k : Conduct) (y : Exchange NodeSignature), P (k.after y) → P k ∨ y = x)
    (h : P (t.foldl Conduct.after k)) : P k ∨ x ∈ t := by
  induction t generalizing k with
  | nil => exact .inl h
  | cons y t ih =>
    rcases ih h with hfirst | hrest
    · rcases hstep k y hfirst with hbefore | rfl
      · exact .inl hbefore
      · exact .inr List.mem_cons_self
    · exact .inr (List.mem_cons_of_mem _ hrest)

/-- Listeners that were told to stop are to stop ever after. -/
theorem stopping_of_told (h : ⟨.stopListeners, ()⟩ ∈ t) :
    (t.foldl Conduct.after k).stopping = true := by
  refine foldl_told (f := Conduct.stopping) (fun _ => rfl) (fun k y hk => ?_) h
  obtain ⟨r, reply⟩ := y
  cases r <;> first | exact hk | rfl

/-- Triggers that were told of a shutdown know it ever after. -/
theorem cancelled_of_told (h : ⟨.cancel, ()⟩ ∈ t) : (t.foldl Conduct.after k).cancelled = true := by
  refine foldl_told (f := Conduct.cancelled) (fun _ => rfl) (fun k y hk => ?_) h
  obtain ⟨r, reply⟩ := y
  cases r <;> first | exact hk | rfl

/-- What triggers know of a shutdown they have been told. -/
theorem told_of_cancelled (h : (t.foldl Conduct.after k).cancelled = true) :
    k.cancelled = true ∨ ⟨.cancel, ()⟩ ∈ t := by
  refine told_of_foldl (P := fun k => k.cancelled = true) (fun k y hy => ?_) h
  obtain ⟨r, reply⟩ := y
  cases r with
  | cancel => exact .inr rfl
  | _ => exact .inl hy

theorem Conduct.subscriber_after {x : Exchange NodeSignature} (h : ¬x.1.TellsSubscriber)
    (k : Conduct) : (k.after x).subscriber = k.subscriber := by
  obtain ⟨r, reply⟩ := x
  cases r with
  | setSubscriber s => exact absurd trivial h
  | _ => rfl

/-- A reply about the subscriber is what was last said about it. -/
theorem Coherent.subscriber_eq {before between rest : List (Exchange NodeSignature)}
    {s s' : SubscriberState} {u : Unit}
    (h : Coherent k (before ++ ⟨.setSubscriber s, u⟩ :: between ++ ⟨.subscriber, s'⟩ :: rest))
    (hbetween : ∀ x ∈ between, ¬x.1.TellsSubscriber) : s' = s := by
  have hlast : s' = _ := (coherent_append.1 h).2.1
  rw [hlast, List.foldl_append, List.foldl_cons]
  exact foldl_after_eq fun x hx => Conduct.subscriber_after (hbetween x hx)

/-! The states of the runner. -/

/-- The states of the runner that are set. -/
def statesSet (t : List (Exchange NodeSignature)) : List RunnerState :=
  t.filterMap fun x => match x.1 with
    | .setRunner s => some s
    | _ => none

theorem statesSet_append (t t' : List (Exchange NodeSignature)) :
    statesSet (t ++ t') = statesSet t ++ statesSet t' :=
  List.filterMap_append

theorem statesSet_of_silent (h : ∀ x ∈ t, x.1.IsSilent) : statesSet t = [] := by
  refine List.filterMap_eq_nil_iff.2 fun ⟨r, reply⟩ hx => ?_
  have hr : r.IsSilent := h _ hx
  cases r <;> first | exact hr.elim | rfl

/-- The runner is in the state that was last set. -/
theorem runner_foldl (t : List (Exchange NodeSignature)) (k : Conduct) :
    (t.foldl Conduct.after k).runner = (k.runner.toList ++ statesSet t).getLast? := by
  induction t generalizing k with
  | nil =>
    rw [List.foldl_nil, statesSet, List.filterMap_nil, List.append_nil]
    cases k.runner <;> rfl
  | cons x t ih =>
    rw [List.foldl_cons, ih]
    obtain ⟨r, reply⟩ := x
    cases r with
    | setRunner s =>
      have hset : statesSet (⟨.setRunner s, reply⟩ :: t) = s :: statesSet t := rfl
      have hnow : (k.after ⟨.setRunner s, reply⟩).runner.toList = [s] := rfl
      rw [hset, hnow, List.getLast?_append (l := k.runner.toList), List.singleton_append,
        List.getLast?_cons]
      rfl
    | _ => rfl

/-- Is every state that is set another one than before? -/
def Distinct (k : Conduct) (t : List (Exchange NodeSignature)) : Prop :=
  ∀ before s u rest, t = before ++ ⟨.setRunner s, u⟩ :: rest →
    (before.foldl Conduct.after k).runner ≠ some s

/-- States that come but once are distinct. -/
theorem distinct_of_nodup (h : (k.runner.toList ++ statesSet t).Nodup) : Distinct k t := by
  rintro before s u rest rfl hsame
  rw [runner_foldl] at hsame
  have hmem : s ∈ k.runner.toList ++ statesSet before := List.mem_of_getLast? hsame
  rw [statesSet_append, ← List.append_assoc] at h
  exact (List.nodup_append.1 h).2.2 s hmem s List.mem_cons_self rfl

/-- What a driver has come to is what it concluded. -/
theorem result_foldl {r : Ended} (h : (t.foldl Conduct.after k).result = some r) :
    k.result = some r ∨ ⟨.conclude r, ()⟩ ∈ t := by
  refine told_of_foldl (P := fun k => k.result = some r) (fun k y hy => ?_) h
  obtain ⟨r', reply⟩ := y
  cases r' with
  | conclude r' =>
    obtain rfl := Option.some.inj hy
    exact .inr rfl
  | _ => exact .inl hy

namespace Program

variable {α : Type} {p q : Program NodeSignature α} {a : α}

theorem runs_ask_bind_iff {r : NodeRequest} {f : r.Reply → Program NodeSignature α} :
    (r.ask >>= f).Runs t a ↔ ∃ reply rest, t = ⟨r, reply⟩ :: rest ∧ (f reply).Runs rest a :=
  runs_ask_iff

/-- There is a reply that a node which is run so may give. -/
theorem exists_foreseen (k : Conduct) (r : NodeRequest) : ∃ reply, k.Foresees ⟨r, reply⟩ := by
  obtain ⟨reply⟩ := r.nonempty_reply
  cases r with
  | subscriber => exact ⟨k.subscriber, rfl⟩
  | _ => exact ⟨reply, trivial⟩

/-- Every program can be brought to its end by coherent replies. -/
theorem exists_coherent (k : Conduct) (p : Program NodeSignature α) :
    ∃ t a, p.Runs t a ∧ Coherent k t := by
  induction p generalizing k with
  | done a => exact ⟨[], a, .done a, trivial⟩
  | ask r next ih =>
    obtain ⟨reply, hforesees⟩ := exists_foreseen k r
    obtain ⟨t, a, hruns, hcoherent⟩ := ih reply (k.after ⟨r, reply⟩)
    exact ⟨_, a, .ask hruns, hforesees, hcoherent⟩

/-- What was exchanged so far is the beginning of a coherent run. -/
theorem Leads.exists_run (h : p.Leads t q) (hcoherent : Coherent k t) :
    ∃ t' a, p.Runs (t ++ t') a ∧ Coherent k (t ++ t') := by
  obtain ⟨t', a, hruns, hrest⟩ := q.exists_coherent (t.foldl Conduct.after k)
  exact ⟨t', a, h.runs hruns, coherent_append.2 ⟨hcoherent, hrest⟩⟩

/-- A program that makes plain requests has one way to go. -/
theorem Leads.prefix_of_plain (h : p.Leads t q) (hcoherent : Coherent k t) (hruns : p.Runs t' a)
    (hcoherent' : Coherent k t') (hplain : ∀ x ∈ t', x.1.IsPlain) : t <+: t' := by
  induction hruns generalizing k t with
  | done a =>
    obtain ⟨rfl, -⟩ := leads_done_iff.1 h
    exact List.nil_prefix
  | @ask r next reply t' a hruns ih =>
    cases t with
    | nil => exact List.nil_prefix
    | cons x t =>
      obtain ⟨reply', rfl, hrest⟩ := leads_ask_cons_iff.1 h
      obtain ⟨hr, hrestPlain⟩ := List.forall_mem_cons.1 hplain
      obtain rfl := NodeRequest.IsPlain.unique hr hcoherent.1 hcoherent'.1
      exact (List.prefix_cons_inj _).2 (ih hrest hcoherent.2 hcoherent'.2 hrestPlain)

end Program

/-! In what order tasks are started and ended. -/

/-- Is one request in its place behind another? -/
def InOrder (x y : Exchange NodeSignature) : Prop :=
  (x.1.EndsListening → ¬y.1.IsListen) ∧ (x.1.EndsLaunching → ¬y.1.IsLaunch)

/-- Listeners are started for subscriptions that were just made. -/
def Listens (t : List (Exchange NodeSignature)) : Prop :=
  ∀ before id c u rest, t = before ++ ⟨.listen id c, u⟩ :: rest →
    ∃ earlier connection o, before = earlier ++ [⟨.subscribe connection o, .ok id⟩]

/-- Listeners are awaited when they have been told to stop. -/
def Stops (t : List (Exchange NodeSignature)) : Prop :=
  ∀ before u rest, t = before ++ ⟨.awaitLeft, u⟩ :: rest → ⟨.stopListeners, ()⟩ ∈ before

/-- Tasks are started and ended in order. -/
structure Proper (t : List (Exchange NodeSignature)) : Prop where
  listens : Listens t
  stops : Stops t
  order : t.Pairwise InOrder

theorem listens_joined (connection : Nat) (o : ConsumerOptions) (id : Nat) (c : Context) :
    Listens [⟨.subscribe connection o, .ok id⟩, ⟨.listen id c, ()⟩] := by
  intro before id' c' u rest hsplit
  match before with
  | [] => exact nomatch (List.cons.inj hsplit).1
  | [x] =>
    obtain ⟨rfl, hsecond⟩ := List.cons.inj hsplit
    cases (List.cons.inj hsecond).1
    exact ⟨[], connection, o, rfl⟩
  | x :: y :: before => simp at hsplit

theorem Listens.append (h : Listens t) (h' : Listens t') : Listens (t ++ t') := by
  intro before id c u rest hsplit
  rcases append_eq_append_cons hsplit with ⟨rest', ht⟩ | ⟨before', rfl, ht'⟩
  · exact h before id c u rest' ht
  · obtain ⟨earlier, connection, o, rfl⟩ := h' before' id c u rest ht'
    exact ⟨t ++ earlier, connection, o, (List.append_assoc ..).symm⟩

theorem Stops.append (h : Stops t) (h' : Stops t') : Stops (t ++ t') := by
  intro before u rest hsplit
  rcases append_eq_append_cons hsplit with ⟨rest', ht⟩ | ⟨before', rfl, ht'⟩
  · exact h before u rest' ht
  · exact List.mem_append_right _ (h' before' u rest ht')

theorem listens_of_none (h : ∀ x ∈ t, ¬x.1.IsListen) : Listens t := by
  rintro before id c u rest rfl
  exact absurd trivial (h ⟨.listen id c, u⟩ (by simp))

theorem stops_of_none (h : ∀ x ∈ t, ¬x.1.IsAwaitLeft) : Stops t := by
  rintro before u rest rfl
  exact absurd trivial (h ⟨.awaitLeft, u⟩ (by simp))

theorem stops_awaitLeft : Stops [⟨.stopListeners, ()⟩, ⟨.awaitLeft, ()⟩] := by
  intro before u rest hsplit
  match before with
  | [] => exact nomatch (List.cons.inj hsplit).1
  | x :: before =>
    obtain ⟨rfl, -⟩ := List.cons.inj hsplit
    exact List.mem_cons_self

theorem Proper.of_append (h : Proper (t ++ t')) : Proper t where
  listens before id c u rest hsplit :=
    h.listens before id c u (rest ++ t') (by rw [hsplit, List.append_assoc, List.cons_append])
  stops before u rest hsplit :=
    h.stops before u (rest ++ t') (by rw [hsplit, List.append_assoc, List.cons_append])
  order := (List.pairwise_append.1 h.order).1

theorem Proper.last {y : Exchange NodeSignature} (h : Proper (t ++ [y])) : ∀ x ∈ t, InOrder x y :=
  fun x hx => (List.pairwise_append.1 h.order).2.2 x hx y (List.mem_singleton.2 rfl)

/-- A program for the driving task of a node. -/
structure Driver (start : Conduct) (body : Program NodeSignature Turn) : Prop where
  within : body.Within NodeRequest.IsDriving (· = .finished)
  proper : ∀ t q, body.Leads t q → Coherent start t → Proper t

/-- It is enough that whole runs are proper. -/
theorem driver_of_runs {start : Conduct} {body : Program NodeSignature Turn}
    (hwithin : body.Within NodeRequest.IsDriving (· = .finished))
    (hproper : ∀ t turn, body.Runs t turn → Coherent start t → Proper t) : Driver start body where
  within := hwithin
  proper t q hleads hcoherent := by
    obtain ⟨t', turn, hruns, hwhole⟩ := hleads.exists_run hcoherent
    exact (hproper _ turn hruns hwhole).of_append

end Waystation
