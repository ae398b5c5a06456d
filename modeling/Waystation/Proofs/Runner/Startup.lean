import Waystation.Proofs.Node.Progress
import Waystation.Proofs.Runner.Driving
/-!
Startups that fail. Whatever step of its startup a runner fails at, and whatever else goes on, it takes
no later step: it lets go of what it has acquired, closes its connection, and ends with the error of
that step. An initializer that panics before it begins to run breaks the startup off: nothing is let go
of.
-/
namespace Waystation

open NodeRequest Program

/-- Settings that cannot be opened fail at the first bucket that cannot be. -/
theorem Settings.connect_error {n : Network} {connection : Nat} {buckets : List (Scope × String)}
    {e : ScopedConfigError} (h : Settings.connect n connection buckets = .error e) :
    ∃ opened scope bucket rest source, buckets = opened ++ (scope, bucket) :: rest
      ∧ (∀ b ∈ opened, (n.broker.openBucket connection b.2).1 = .ok ())
      ∧ (n.broker.openBucket connection bucket).1 = .error source ∧ e = .init scope bucket source := by
  induction buckets with
  | nil => cases h
  | cons b rest ih =>
    obtain ⟨scope, bucket⟩ := b
    rw [Settings.connect] at h
    split at h
    next source hfirst =>
      obtain rfl := Except.error.inj h
      exact ⟨[], scope, bucket, rest, source, rfl, (fun _ hb => nomatch hb), hfirst, rfl⟩
    next hfirst =>
      split at h
      next e' hrest =>
        obtain rfl := Except.error.inj h
        obtain ⟨opened, scope', bucket', rest', source, rfl, hopened, hfails, rfl⟩ := ih hrest
        exact ⟨(scope, bucket) :: opened, scope', bucket', rest', source, rfl,
          List.forall_mem_cons.2 ⟨hfirst, hopened⟩, hfails, rfl⟩
      next => cases h

namespace Plan

open Subscriber

variable {p : Plan} {connection : Nat} {c : Context} {t cleanup : List (Exchange NodeSignature)}
variable {e : RunnerError}

/-- What remains when a startup has failed is plain. -/
theorem Fails.plain (h : p.Fails t e cleanup) : ∀ x ∈ cleanup, x.1.IsPlain := by
  cases h <;> simp [IsPlain]

theorem Fails.coherent (h : p.Fails t e cleanup) (k : Conduct) (r : Ended) :
    Coherent (t.foldl Conduct.after k) (cleanup ++ [⟨.conclude r, ()⟩]) := by
  cases h with
  | connect e => simp [Coherent, Conduct.Foresees]
  | bootstrap h => simp [Coherent, Conduct.Foresees]
  | noInputs h hinputs => simp [Coherent, Conduct.Foresees]
  | @subscribe connection booting joining c e h hjoins =>
    have hsubscribing : ∀ k : Conduct,
        (joining.foldl Conduct.after (k.after ⟨.setSubscriber .subscribing, ()⟩)).subscriber
          = .subscribing := fun k =>
      foldl_after_eq (f := Conduct.subscriber) fun x hx =>
        Conduct.subscriber_after (hjoins.isSilent x hx).not_tellsSubscriber
    rw [List.foldl_append]
    refine ⟨(hsubscribing _).symm, ?_⟩
    simp [Coherent, Conduct.Foresees]

/-- There is one connection at most. -/
theorem connection_eq {url : String} {connection' : Nat} {rest : List (Exchange NodeSignature)}
    (hrest : ∀ x ∈ rest, ¬x.1.IsConnect)
    (h : ⟨.connect url, .ok connection'⟩ ∈ (⟨.setRunner .initializing, ()⟩
      :: ⟨.connect p.config.wiring.url, .ok connection⟩ :: rest : List (Exchange NodeSignature))) :
    connection' = connection := by
  rcases List.mem_cons.1 h with hfirst | hlater
  · cases hfirst
  · rcases List.mem_cons.1 hlater with hsecond | hmem
    · cases hsecond
      rfl
    · exact absurd trivial (hrest _ hmem)

theorem Boots.not_isConnect {r : Except Panic (Except RunnerError Context)}
    (h : p.Boots connection t r) :
    ∀ x ∈ t, ¬x.1.IsConnect := by
  rintro ⟨r, reply⟩ hx hconnect
  have hbooting := h.isBooting _ hx
  cases r with
  | connect url => exact hbooting
  | _ => exact hconnect

theorem joins_not_isConnect {inputs : List String}
    {r : Except RunnerError Unit} (h : Joins c inputs t r) : ∀ x ∈ t, ¬x.1.IsConnect := by
  intro x hx
  rcases h.mem hx with ⟨connection, o, hr⟩ | ⟨id, rfl⟩
  · rw [hr]
    exact fun h => h
  · exact fun h => h

/-- A connection that was made is closed. -/
theorem Fails.closes (h : p.Fails t e cleanup) {url : String}
    (hconnect : ⟨.connect url, .ok connection⟩ ∈ t) : ⟨.close connection, ()⟩ ∈ cleanup := by
  cases h with
  | connect e =>
    rcases List.mem_cons.1 hconnect with hfirst | hsecond
    · cases hfirst
    · cases List.mem_singleton.1 hsecond
  | bootstrap h =>
    obtain rfl := connection_eq h.not_isConnect hconnect
    exact List.mem_cons_self
  | noInputs h hinputs =>
    obtain rfl := connection_eq h.not_isConnect hconnect
    exact List.mem_cons_self
  | @subscribe _ booting joining c e h hjoins =>
    have hrest : ∀ x ∈ booting ++ ⟨.setSubscriber .subscribing, ()⟩ :: joining, ¬x.1.IsConnect := by
      refine List.forall_mem_append.2 ⟨h.not_isConnect, List.forall_mem_cons.2 ⟨fun h => h, ?_⟩⟩
      exact joins_not_isConnect hjoins
    obtain rfl := connection_eq hrest hconnect
    simp

/-- What remains when a startup has failed can be done at once, but for awaiting the listeners. -/
theorem Fails.remaining (h : p.Fails t e cleanup) :
    ∀ x ∈ cleanup, x.1.IsPrompt ∨ x.1.IsAwaitLeft := by
  cases h <;> simp [IsPrompt, IsAwaitLeft]

theorem not_isWork_of_remaining {result : Ended}
    (h : ∀ x ∈ cleanup, x.1.IsPrompt ∨ x.1.IsAwaitLeft) {x : Exchange NodeSignature}
    (hx : x ∈ cleanup ++ [⟨.conclude result, ()⟩]) : ¬x.1.IsWork := by
  intro hwork
  rcases mem_snoc.1 hx with hmem | rfl
  · obtain ⟨r, reply⟩ := x
    cases r with
    | work r => exact (h _ hmem).elim (fun h => h) fun h => h
    | _ => exact hwork
  · exact hwork

theorem not_isLaunch_of_starting (h : ∀ x ∈ t, x.1.IsStarting) : ∀ x ∈ t, ¬x.1.IsLaunch := by
  rintro ⟨r, reply⟩ hx hlaunch
  have hstarting := h _ hx
  cases r with
  | launch c => exact hstarting
  | _ => exact hlaunch

/-- No runner function is started. -/
theorem Fails.not_isLaunch (h : p.Fails t e cleanup) : ∀ x ∈ t ++ cleanup, ¬x.1.IsLaunch := by
  obtain ⟨⟨hstarting, -⟩, hcloses, -⟩ := h.phases
  exact List.forall_mem_append.2 ⟨not_isLaunch_of_starting hstarting, fun x hx => (hcloses x hx).2⟩

/-- A connection is made before anything fails. -/
theorem Fails.connected (h : p.Fails t e cleanup) {url : String} {result : Ended}
    (hconnect : ⟨.connect url, .ok connection⟩ ∈ t ++ cleanup ++ [⟨.conclude result, ()⟩]) :
    ⟨.connect url, .ok connection⟩ ∈ t := by
  have hcleaning : ∀ x ∈ cleanup, ¬x.1.IsConnect := by
    cases h <;> simp [IsConnect]
  rcases mem_snoc.1 hconnect with hmem | hlast
  · rcases List.mem_append.1 hmem with hstarting | hcleanup
    · exact hstarting
    · exact absurd trivial (hcleaning _ hcleanup)
  · cases hlast

end Plan

namespace Runner

open Machine Plan

variable {r : Runner} {config : Config} {t rest exchanges : List (Exchange NodeSignature)}
variable {result : Ended} {q : Program NodeSignature Turn}

/-- Once a runner has come so far, is there one way for it to go on? -/
def EndsBy (r : Runner) (config : Config) (t rest : List (Exchange NodeSignature))
    (result : Ended) : Prop :=
  ∀ exchanges q, (r.body config).Leads exchanges q → Coherent .built exchanges → t <+: exchanges →
    exchanges <+: t ++ rest ++ [⟨.conclude result, ()⟩]

/-- Without what it needs a runner comes to its end at once. -/
theorem endsBy_of_missing {e : RunnerError} (hmissing : r.missing = some e) :
    r.EndsBy config [] [] (.ok (.error e)) := by
  intro exchanges q hleads hcoherent _
  obtain ⟨later, turn, hruns, hwhole⟩ := hleads.exists_run hcoherent
  rcases lives_of_runs hruns hwhole with ⟨e', he', hall⟩ | ⟨hnone, -⟩
  · obtain rfl := Option.some.inj (he'.symm.trans hmissing)
    exact ⟨later, hall⟩
  · cases hnone.symm.trans hmissing

/-- A life what is left of which gets the replies that it must get has one way to go on. -/
theorem endsBy_of_leads {left : Program NodeSignature Ended} (hmissing : r.missing = none)
    (hleft : (r.plan config).supervise.Leads t left) (hruns : left.Runs rest result)
    (hrest : Coherent (t.foldl Conduct.after .built) (rest ++ [⟨.conclude result, ()⟩]))
    (hplain : ∀ x ∈ rest, x.1.IsPlain) : r.EndsBy config t rest result := by
  rintro exchanges q hleads hcoherent ⟨later, rfl⟩
  have hlife : r.life config = (r.plan config).supervise := by rw [life_eq, hmissing]
  rw [← hlife] at hleft
  have hwhole : (r.body config).Leads t _ :=
    (hleft.bind fun result => (conclude result).ask).bind fun _ => done Turn.finished
  have hend := (hruns.bind (f := fun result => (conclude result).ask) (.ask (.done ()))).bind
    (f := fun _ => done Turn.finished) (.done _)
  rw [List.append_nil] at hend
  have hlater := (hwhole.rest hleads).prefix_of_plain (coherent_append.1 hcoherent).2 hend hrest
    (List.forall_mem_append.2 ⟨hplain, by simp [IsPlain]⟩)
  rw [List.append_assoc]
  exact (List.prefix_append_right_inj t).2 hlater

/-- Once a step of the startup has failed, there is one way to go on. -/
theorem endsBy_of_fails {cleanup : List (Exchange NodeSignature)} {e : RunnerError}
    (hmissing : r.missing = none) (hfails : (r.plan config).Fails t e cleanup) :
    r.EndsBy config t cleanup (.ok (.error e)) := by
  obtain ⟨left, hleft, hruns⟩ := hfails.exists_leads
  exact endsBy_of_leads hmissing hleft hruns (hfails.coherent _ _) hfails.plain

/-- Once the startup has been broken off, there is nothing left to do. -/
theorem endsBy_of_breaksOff {panic : Panic} (hmissing : r.missing = none)
    (hbreaks : (r.plan config).BreaksOff t panic) : r.EndsBy config t [] (.error panic) :=
  endsBy_of_leads hmissing hbreaks.leads (.done _) ⟨trivial, trivial⟩ fun _ hx => nomatch hx

/-- What is asked on the one way that is left. -/
theorem EndsBy.next (h : r.EndsBy config t rest result)
    (hrest : ∀ x ∈ rest, x.1.IsPrompt ∨ x.1.IsAwaitLeft)
    {request : NodeRequest} {next : request.Reply → Program NodeSignature Turn}
    (hleads : (r.body config).Leads exchanges (.ask (S := NodeSignature) request next))
    (hcoherent : Coherent .built exchanges) (hbegun : t <+: exchanges) :
    request.IsPrompt ∨ request = .awaitLeft := by
  obtain ⟨reply, hforesees⟩ := exists_foreseen (exchanges.foldl Conduct.after .built) request
  have hnext := h _ _ (hleads.snoc reply) (coherent_append.2 ⟨hcoherent, hforesees, trivial⟩)
    (hbegun.trans (List.prefix_append _ _))
  obtain ⟨later, rfl⟩ := hbegun
  rw [List.append_assoc, List.append_assoc] at hnext
  have hmem : ⟨request, reply⟩ ∈ rest ++ [⟨.conclude result, ()⟩] :=
    ((List.prefix_append_right_inj t).1 hnext).subset (by simp)
  rcases List.mem_append.1 hmem with hrequest | hconclude
  · refine (hrest _ hrequest).imp_right fun hawait => ?_
    cases request with
    | awaitLeft => rfl
    | _ => exact hawait.elim
  · cases List.mem_singleton.1 hconclude
    exact .inl trivial

variable {m : Machine} {log : List Move}

/-- A runner with one way to go on can go it by itself. -/
theorem EndsBy.exists_end (h : r.EndsBy config t rest result)
    (hrest : ∀ x ∈ rest, x.1.IsPrompt ∨ x.1.IsAwaitLeft)
    (hpath : ∀ x ∈ t ++ rest, ¬x.1.IsConclude)
    (hsound : Sound .built (r.body config) m log) (hbegun : t <+: exchanged .main log) :
    ∃ es, (∀ e ∈ es, e.IsOwn) ∧ (m.during es).node.result = some result := by
  have hbody := r.body_driver config
  obtain ⟨q, hleads⟩ := hsound.exists_leads
  obtain ⟨es, hown, q', ⟨hnow, hlater⟩, hleads', hend⟩ := exists_end_of_proceeds hbody
    (I := fun m log => Sound .built (r.body config) m log ∧ t <+: exchanged .main log)
    (by
      intro m log request next hm hleads
      have hproceeds : m.Proceeds request := by
        rcases h.next hrest hleads hm.1.coherent hm.2 with hprompt | rfl
        · exact hm.1.proceeds_prompt hbody hleads hprompt
        · exact hm.1.proceeds_awaitLeft hbody hleads
      obtain ⟨es, hown, reply, hexchanged⟩ := hproceeds
      refine .inr ⟨es, hown, reply, hexchanged, sound_during hbody hm.1 es, ?_⟩
      rw [exchanged_append]
      exact hm.2.trans (List.prefix_append _ _))
    ⟨hsound, hbegun⟩ hleads
  refine ⟨es, hown, ?_⟩
  rcases hend with rfl | ⟨request, next, rfl, hwork, -⟩
  · obtain ⟨lived, result', -, hexchanged, -⟩ := body_runs_iff.1 (leads_iff_runs.1 hleads')
    have hconclude : ⟨.conclude result', ()⟩ ∈ exchanged .main (log ++ m.log es) := by simp [hexchanged]
    obtain ⟨rfl, hwhole⟩ := eq_of_concluded (h _ _ hleads' hnow.coherent hlater) hpath hconclude
    have hconduct := congrArg Conduct.result hnow.conduct
    rw [hwhole, List.foldl_append] at hconduct
    exact hconduct
  · rcases h.next hrest hleads' hnow.coherent hlater with hprompt | rfl
    · cases request with
      | work _ => exact hprompt.elim
      | _ => exact hwork.elim
    · exact hwork.elim

/-- A run with one way to go on stays on it, can go it by itself, and has gone the whole of it when it
has come to an end. -/
theorem EndsBy.of_begun {network : Network} (hends : r.EndsBy config t rest result)
    (h : network.broker.Orderly) (hrest : ∀ x ∈ rest, x.1.IsPrompt ∨ x.1.IsAwaitLeft)
    (hnone : ∀ x ∈ t ++ rest, ¬x.1.IsConclude) (es : List Event)
    (hbegun : t <+: exchanged .main ((r.machine config network).log es)) :
    exchanged .main ((r.machine config network).log es) <+: t ++ rest ++ [⟨.conclude result, ()⟩]
      ∧ (∃ es', (∀ e ∈ es', e.IsOwn)
        ∧ ((r.machine config network).during (es ++ es')).node.result = some result)
      ∧ ∀ result', ((r.machine config network).during es).node.result = some result' →
        result' = result ∧ exchanged .main ((r.machine config network).log es)
          = t ++ rest ++ [⟨.conclude result, ()⟩] := by
  have hsound := r.sound_run config h es
  obtain ⟨q, hleads⟩ := hsound.exists_leads
  have hpath := hends _ q hleads hsound.coherent hbegun
  obtain ⟨es', hown, hend⟩ := hends.exists_end hrest hnone hsound hbegun
  refine ⟨hpath, ⟨es', hown, ?_⟩, fun result' hresult => ?_⟩
  · rw [during_append]
    exact hend
  · exact eq_of_concluded hpath hnone (concluded hsound hresult)

/-- Where there is no runner function on the way to the end, none is started. -/
theorem unlaunched_of_path {path : List (Exchange NodeSignature)}
    (hsound : Sound .built (r.body config) m log)
    (hpath : exchanged .main log <+: path ++ [⟨.conclude result, ()⟩])
    (hnone : ∀ x ∈ path, ¬x.1.IsLaunch) :
    exchanged .launched log = [] ∧ ∀ task ∈ m.tasks, task.id ≠ .launched := by
  rcases hsound.launched with hnever | ⟨c, k, -, hlaunch, -⟩
  · exact hnever
  · rcases mem_snoc.1 (hpath.subset hlaunch) with hmem | hlast
    · exact absurd trivial (hnone _ hmem)
    · cases hlast

/-- How a run goes on, and what is left of it, when a step of the startup has failed. -/
structure GivesUp (m : Machine) (es : List Event) (t cleanup : List (Exchange NodeSignature))
    (e : RunnerError) : Prop where
  /-- What was acquired is let go, and nothing else is done. -/
  path : exchanged .main (m.log es) <+: t ++ cleanup ++ [⟨.conclude (.ok (.error e)), ()⟩]
  /-- No user code is run any more. -/
  quiet : ∀ later, exchanged .main (m.log es) = t ++ later → ∀ x ∈ later, ¬x.1.IsWork
  launched : exchanged .launched (m.log es) = []
  unlaunched : ∀ task ∈ (m.during es).tasks, task.id ≠ .launched
  /-- The tasks of the node can bring it to its end, whatever happened before. -/
  ends : ∃ es', (∀ e ∈ es', e.IsOwn) ∧ (m.during (es ++ es')).node.result = some (.ok (.error e))
  error : ∀ result, (m.during es).node.result = some result → result = .ok (.error e)
  built : m.node.runner = some .built
  states : (m.during es).node.result ≠ none → m.states es = [.initializing, .terminated]
  closed : (m.during es).node.result ≠ none → ∀ url connection,
    ⟨.connect url, .ok connection⟩ ∈ exchanged .main (m.log es) →
      (m.during es).node.network.broker.isOpen connection = false
        ∧ ∀ member, (m.during es).node.network.broker.Seats member → member.connection ≠ connection

/-- A step of the startup that fails is the last. -/
theorem givesUp_of_fails {network : Network} (h : network.broker.Orderly)
    {cleanup : List (Exchange NodeSignature)} {e : RunnerError} {es : List Event}
    (hmissing : r.missing = none) (hfails : (r.plan config).Fails t e cleanup)
    (hbegun : t <+: exchanged .main ((r.machine config network).log es)) :
    GivesUp (r.machine config network) es t cleanup e := by
  obtain ⟨hpath, hend, hwhole⟩ :=
    (endsBy_of_fails hmissing hfails).of_begun h hfails.remaining hfails.not_isConclude es hbegun
  have hlaunched := unlaunched_of_path (r.sound_run config h es) hpath hfails.not_isLaunch
  refine ⟨hpath, fun later hlater x hx hwork => ?_, hlaunched.1, hlaunched.2, hend,
    fun result hresult => (hwhole result hresult).1, rfl, ?_, ?_⟩
  · rw [hlater, List.append_assoc] at hpath
    have hmem := ((List.prefix_append_right_inj t).1 hpath).subset hx
    exact not_isWork_of_remaining hfails.remaining hmem hwork
  · intro hresult
    obtain ⟨result, hresult⟩ := Option.ne_none_iff_exists'.1 hresult
    rw [states_run r config h, (hwhole result hresult).2, statesSet_append, statesSet_append,
      hfails.statesSet.1, hfails.statesSet.2]
    rfl
  · intro hresult url connection hconnect
    obtain ⟨result, hresult⟩ := Option.ne_none_iff_exists'.1 hresult
    have hexchanged := (hwhole result hresult).2
    rw [hexchanged] at hconnect
    have hstarting := hfails.connected hconnect
    obtain ⟨closing, later, rfl⟩ := List.append_of_mem (hfails.closes hstarting)
    have hsplit : exchanged .main ((r.machine config network).log es) = (t ++ closing)
        ++ ⟨.close connection, ()⟩ :: (later ++ [⟨.conclude (.ok (.error e)), ()⟩]) := by
      rw [hexchanged]
      simp
    exact vacant_of_closed h hsplit (List.mem_append_left closing hstarting)

/-- How a run goes on, and what is left of it, when a panic that the initializer met before it began to
run has broken the startup off. -/
structure Abandons (p : Plan) (m : Machine) (es : List Event) (t : List (Exchange NodeSignature))
    (panic : Panic) : Prop where
  panics : ∃ f connection settings, p.initializer = some f
    ∧ f (.ofConfig p.config connection settings) = .error panic
  /-- Nothing is done any more, nor is anything let go of that was acquired. -/
  path : exchanged .main (m.log es) <+: t ++ [⟨.conclude (.error panic), ()⟩]
  unclosed : ∀ connection, ⟨.close connection, ()⟩ ∉ exchanged .main (m.log es)
  launched : exchanged .launched (m.log es) = []
  unlaunched : ∀ task ∈ (m.during es).tasks, task.id ≠ .launched
  /-- The panic goes through the driving task. -/
  ends : ∃ es', (∀ e ∈ es', e.IsOwn) ∧ (m.during (es ++ es')).node.result = some (.error panic)
  panicked : ∀ result, (m.during es).node.result = some result → result = .error panic
  built : m.node.runner = some .built
  states : (m.during es).node.result ≠ none → m.states es = [.initializing]

/-- A startup that is broken off stays as it is. -/
theorem abandons_of_breaksOff {network : Network} (h : network.broker.Orderly) {panic : Panic}
    {es : List Event} (hmissing : r.missing = none) (hbreaks : (r.plan config).BreaksOff t panic)
    (hbegun : t <+: exchanged .main ((r.machine config network).log es)) :
    Abandons (r.plan config) (r.machine config network) es t panic := by
  have hstarting := hbreaks.phases.1
  have hnone : ∀ x ∈ t ++ [], ¬x.1.IsConclude := by
    rw [List.append_nil]
    exact not_isConclude_of_starting hstarting
  obtain ⟨hpath, hend, hwhole⟩ :=
    (endsBy_of_breaksOff hmissing hbreaks).of_begun h (fun x hx => nomatch hx) hnone es hbegun
  rw [List.append_nil] at hpath hwhole
  have hlaunched :=
    unlaunched_of_path (r.sound_run config h es) hpath (not_isLaunch_of_starting hstarting)
  refine ⟨hbreaks.initializer_eq, hpath, fun connection hclose => ?_, hlaunched.1, hlaunched.2, hend,
    fun result hresult => (hwhole result hresult).1, rfl, fun hresult => ?_⟩
  · rcases mem_snoc.1 (hpath.subset hclose) with hmem | hlast
    · exact hstarting _ hmem
    · cases hlast
  · obtain ⟨result, hresult⟩ := Option.ne_none_iff_exists'.1 hresult
    rw [states_run r config h, (hwhole result hresult).2, statesSet_append, hbreaks.statesSet]
    rfl

/-- How a run goes on without what the runner needs. -/
structure Refuses (m : Machine) (es : List Event) (e : RunnerError) : Prop where
  path : exchanged .main (m.log es) <+: [⟨.conclude (.ok (.error e)), ()⟩]
  launched : exchanged .launched (m.log es) = []
  ends : ∃ es', (∀ e ∈ es', e.IsOwn) ∧ (m.during (es ++ es')).node.result = some (.ok (.error e))
  error : ∀ result, (m.during es).node.result = some result → result = .ok (.error e)
  states : m.states es = []
  built : (m.during es).node.runner = some .built

theorem refuses_of_missing {network : Network} (h : network.broker.Orderly) {e : RunnerError}
    {es : List Event} (hmissing : r.missing = some e) : Refuses (r.machine config network) es e := by
  have hsound := r.sound_run config h es
  have hends : r.EndsBy config [] [] (.ok (.error e)) := endsBy_of_missing hmissing
  obtain ⟨hpath, hend, hwhole⟩ :=
    hends.of_begun h (fun x hx => nomatch hx) (fun x hx => nomatch hx) es List.nil_prefix
  have hstates : statesSet (exchanged .main ((r.machine config network).log es)) = [] := by
    rcases List.prefix_concat_iff.1 hpath with hwhole | hbefore
    · rw [hwhole]
      rfl
    · rw [List.prefix_nil.1 hbefore]
      rfl
  refine ⟨hpath, ?_, hend, fun result hresult => (hwhole result hresult).1,
    (states_run r config h es).trans hstates, ?_⟩
  · rcases hsound.launched with ⟨hlaunched, -⟩ | ⟨c, k, -, hlaunch, -⟩
    · exact hlaunched
    · cases List.mem_singleton.1 (hpath.subset hlaunch)
  · have hrunner := congrArg Conduct.runner hsound.conduct
    rw [runner_foldl, hstates] at hrunner
    exact hrunner

/-- Whatever a runner is made of, and whatever goes on around it. If it lacks what it needs, it asks for
nothing and stays as it was built. If a step of its startup fails, that is its last step: the error is
that of the step, neither the runner function nor the finalizer is run, and in the end the connection is
closed and nobody is a member of a group by it. A panic that the initializer meets before it begins to
run is no failure of that kind: it goes through, and the connection and the state stay as they are.
Settings fail at the first bucket that cannot be opened. A run that ends without having been running
ends in one of these ways. -/
theorem run_startup (r : Runner) (config : Config) (streams : List (String × Option Nat))
    (buckets : List (String × Bucket)) (ops : List Broker.Operation) (faults : Faults) (drawn : Nat)
    (es : List Event) :
    let m := r.machine config { broker := Broker.run { streams, buckets } ops, faults, drawn }
    (∀ e, r.missing = some e → Refuses m es e)
    ∧ (∀ t cleanup e, r.missing = none → (r.plan config).Fails t e cleanup →
        t <+: exchanged .main (m.log es) → GivesUp m es t cleanup e)
    ∧ (∀ t panic, r.missing = none → (r.plan config).BreaksOff t panic →
        t <+: exchanged .main (m.log es) → Abandons (r.plan config) m es t panic)
    ∧ (∀ connection opening e,
        ⟨.openSettings connection opening, .error e⟩ ∈ exchanged .main (m.log es) →
        ∃ earlier event later, es = earlier ++ event :: later
          ∧ ∃ opened scope bucket rest source, opening = opened ++ (scope, bucket) :: rest
            ∧ (∀ b ∈ opened,
              ((m.during earlier).node.network.broker.openBucket connection b.2).1 = .ok ())
            ∧ ((m.during earlier).node.network.broker.openBucket connection bucket).1 = .error source
            ∧ e = .init scope bucket source)
    ∧ ((m.during es).node.result ≠ none → .running ∉ m.states es →
        (∃ e, r.missing = some e) ∨ r.missing = none
          ∧ ((∃ t cleanup e, (r.plan config).Fails t e cleanup ∧ t <+: exchanged .main (m.log es))
            ∨ ∃ t panic, (r.plan config).BreaksOff t panic ∧ t <+: exchanged .main (m.log es))) := by
  intro m
  have horderly := Broker.orderly_run streams buckets ops
  have hsound : Sound .built (r.body config) (m.during es) (m.log es) := r.sound_run config horderly es
  refine ⟨fun e hmissing => refuses_of_missing horderly hmissing,
    fun t cleanup e hmissing hfails hbegun => givesUp_of_fails horderly hmissing hfails hbegun,
    fun t panic hmissing hbreaks hbegun => abandons_of_breaksOff horderly hmissing hbreaks hbegun,
    fun connection opening e hmem => ?_, fun hresult hrunning => ?_⟩
  · obtain ⟨earlier, event, later, hes, hmoves⟩ := exists_moment_of_mem hmem
    have heffect := (m.during earlier).after_effect event
    rw [hmoves] at heffect
    obtain ⟨-, -, -, node, -, -, -, hanswer, -, -⟩ := heffect.of_move
    obtain ⟨hopening, -⟩ := Prod.mk.inj (List.mem_singleton.1 hanswer)
    exact ⟨earlier, event, later, hes, Settings.connect_error hopening.symm⟩
  · obtain ⟨q, hleads⟩ := hsound.exists_leads
    obtain ⟨rest, turn, hruns, hwhole⟩ := hleads.exists_run hsound.coherent
    obtain ⟨result, hresult⟩ := Option.ne_none_iff_exists'.1 hresult
    have hconclude := concluded hsound hresult
    rcases lives_of_runs hruns hwhole with ⟨e, hmissing, -⟩ | ⟨hnone, lived, result', hlives, hall⟩
    · exact .inl ⟨e, hmissing⟩
    · refine .inr ⟨hnone, ?_⟩
      have hexchanged := (eq_of_concluded (hall ▸ List.prefix_append _ _) hlives.not_isConclude
        hconclude).2
      cases hlives with
      | @failed t cleanup e hfails =>
        refine .inl ⟨t, cleanup, e, hfails, ?_⟩
        rw [hexchanged, List.append_assoc]
        exact List.prefix_append _ _
      | @brokenOff _ panic hbreaks =>
        refine .inr ⟨lived, panic, hbreaks, ?_⟩
        rw [hexchanged]
        exact List.prefix_append _ _
      | served hstarts hserves hfinal =>
        refine absurd ?_ hrunning
        rw [r.states_run config horderly es, hexchanged]
        simp only [statesSet_append, hstarts.statesSet]
        simp

/-- A task runner whose initializer panics before it begins to run. -/
def abandoned : Runner := .pipeline {
  kind := .task
  pipeline := { registry := Registry.empty.setDefault fun _ _ => .ok (return .succeeded) }
  initializer := some fun _ => .error .other }

/-- A node that listens to one subject. -/
def entry : Config where
  identity := { process := "entry" }
  wiring := { url := "memory://test", stream := "workflow", output := "entry.out", inputs := ["exit.out"] }

/-- It connects, looks up its stream, opens its settings, and comes to its end. -/
def throughConnecting : List Event := List.replicate 5 (.go 0 0)

/-- An initializer that panics before it begins to run is no failure of a startup: there is no error,
the runner goes on to look as if it were starting, and the connection that it has made stays open. -/
theorem kept_of_abandoned :
    let m := abandoned.machine entry
      { broker := Broker.run { streams := [("workflow", none)], buckets := [] } [] }
    entry.fault? = none ∧ abandoned.missing = none
      ∧ (m.during throughConnecting).node.result = some (.error .other)
      ∧ m.states throughConnecting = [.initializing]
      ∧ (m.during throughConnecting).node.runner = some .initializing
      ∧ m.node.network.broker.isOpen 1 = false
      ∧ (m.during throughConnecting).node.network.broker.isOpen 1 = true := by
  decide +kernel

end Runner
end Waystation
