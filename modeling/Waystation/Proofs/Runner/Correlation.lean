import Waystation.Proofs.Node.Publishing
import Waystation.Proofs.Runner.Shutdown
/-!
Runners and the requests that their envelopes name. A runner whose hooks send by the context they are
called with keeps requests apart: whatever its tasks do in turn, what one of them publishes names the
request that this task works for, and outside of requests none of theirs.
-/
namespace Waystation

open NodeRequest Program

/-! User code that sends by its context. -/

/-- The hooks that are run outside of messages send by their context. -/
structure Plan.Correlates (p : Plan) : Prop where
  initializer : ∀ h ∈ p.initializer, Hook.Correlates h
  finalizer : ∀ h ∈ p.finalizer, Hook.Correlates h

/-- The user code that a task of a runner runs sends by the context that it is called with. -/
def Runner.Correlates (r : Runner) (config : Config) : TaskId → Prop
  | .main => (r.plan config).Correlates
  | .launched => ∀ f ∈ r.duties.launched, RunnerFunction.Correlates f
  | .listener _ => match r with
    | pipeline r => r.pipeline.Correlates
    | trigger _ => True

namespace Plan

variable {p : Plan} {B : Context → Prop} {c : Context}

/-- Whoever drives a node listens and launches with the contexts that it makes. -/
theorem allows_hands (p : Plan) : p.Allows (Hands p.config.Grounds) := by
  refine allows_of_work (fun _ => trivial) (fun r hr => ?_) (fun _ hc _ => hc) fun _ hc => hc
  cases r <;> first | exact hr.elim | trivial

theorem concerns_call {h : Option Hook} (hh : ∀ hook ∈ h, Hook.Correlates hook) (hc : B c) :
    (call h c).Within (Concerns B) fun _ => True :=
  within_call_of fun hook program hhook hprogram =>
    (hh hook hhook c program hprogram).embed fun _ hr => within_ask ⟨c, hc, hr.speaks⟩

theorem concerns_seed (hc : B c) (entries : List (String × String)) :
    (seed c entries).Within (Concerns B) fun _ => True := by
  induction entries with
  | nil => exact trivial
  | cons entry entries ih =>
    rw [seed, discard, map_const]
    exact Within.bind (Q := fun _ => True) ⟨⟨c, hc, trivial⟩, fun _ => trivial⟩ fun _ _ => ih

/-- It publishes with them, too. -/
theorem Correlates.allows (hp : p.Correlates) : p.Allows (Concerns p.config.Grounds) where
  steers r hr := by cases r <;> first | exact hr.elim | trivial
  listens _ _ _ := trivial
  launches _ _ := trivial
  seeds _ hc entries := concerns_seed hc entries
  initializes _ hc := concerns_call hp.initializer hc
  finalizes _ hc := concerns_call hp.finalizer hc

end Plan

/-- A registry with a default handler and no other comes to that one. -/
theorem Registry.eq_of_resolve_setDefault {α : Type} {handler h : α} {fromNode : String}
    (hh : h ∈ (empty.setDefault handler).resolve fromNode) : h = handler := by
  rw [resolve_setDefault_empty] at hh
  exact (Option.some.inj hh).symm

theorem TriggerRunner.pipeline_correlates : TriggerRunner.pipeline.Correlates where
  handler _ _ hh := Registry.eq_of_resolve_setDefault hh ▸ responseHandler_correlates
  preprocessor := nofun
  postprocessor := nofun

namespace Runner

open Machine

variable {r : Runner} {config : Config}

theorem config_plan (r : Runner) (config : Config) : (r.plan config).config = config := by
  cases r <;> rfl

/-- The work of a listener is published for the request that it is about. -/
theorem speaks_work {s : Nat} (hr : r.Correlates config (.listener s)) (c : Context) (d : Delivery) :
    (r.duties.work c d).Within { c with request := d.request? }.Speaks fun _ => True := by
  cases r with
  | pipeline r => exact Pipeline.within_work hr c d
  | trigger r => exact Pipeline.within_work TriggerRunner.pipeline_correlates c d

/-- What a task publishes whose user code sends by its context it publishes by a context that the node
made, with the request that the task works for. -/
theorem publishes_of_move {m m' : Machine} {log : List Move} {id : TaskId} {request : NodeRequest}
    {reply : request.Reply} {p : Publisher} {what : Publication}
    (hsound : Sound .built (r.body config) m log) (hattended : Attended m log)
    (hduties : m.duties = r.duties) (heffect : Effect m [⟨id, request, reply⟩] m')
    (hr : r.Correlates config id) (hpublished : request.published? = some (p, what)) :
    ∃ c type, config.Grounds c ∧ p = c.publisher
      ∧ { c with request := request? id log }.Publishes type what := by
  have hbody : ∀ {P : NodeRequest → Prop}, (r.plan config).Allows P →
      (r.body config).Within P fun _ => True := fun h =>
    (within_body h).mono (fun _ h => h) fun _ _ => trivial
  have hhands : (r.body config).Within (Hands config.Grounds) fun _ => True := by
    have hallows := (r.plan config).allows_hands
    rw [r.config_plan config] at hallows
    exact hbody hallows
  have hbase : ∀ c, config.Grounds c → { c with request := none } = c := by
    rintro _ ⟨connection, settings, rfl⟩
    rfl
  cases id with
  | main =>
    have hconcerns : (r.body config).Within (Concerns config.Grounds) fun _ => True := by
      have hallows := Plan.Correlates.allows hr
      rw [r.config_plan config] at hallows
      exact hbody hallows
    obtain ⟨c, type, hc, hp, hpublishes⟩ := hsound.publishes_main hconcerns heffect hpublished
    rw [hsound.request?_main (r.body_driver config)]
    exact ⟨c, type, hc, hp, (hbase c hc).symm ▸ hpublishes⟩
  | launched =>
    obtain ⟨c, type, hc, hp, hpublishes⟩ :=
      hsound.publishes_launched hhands (hduties ▸ hr) heffect hpublished
    rw [hsound.request?_launched]
    exact ⟨c, type, hc, hp, (hbase c hc).symm ▸ hpublishes⟩
  | listener s =>
    exact hsound.publishes_listener hattended hhands (hduties ▸ speaks_work hr) heffect hpublished

/-- Whatever a runner is made of, and whatever goes on around it. Nothing goes out and no identity is
drawn unless a task asks to publish something. What a task publishes whose user code sends by the context
it is called with, whatever other user code does, is published by a context that the node made of its
configuration, with the request that the task works for: a listener works for that of the message it took
last, the driving task and the runner function for none. It leaves the broker alone, or it goes out as one
envelope from the node, of the type of the call, consistent, for that request: with its identity, or, if
that is empty, with one drawn for a payload and with none for an error. -/
theorem run_correlation (r : Runner) (config : Config) (streams : List (String × Option Nat))
    (buckets : List (String × Bucket)) (ops : List Broker.Operation) (faults : Faults) (drawn : Nat)
    (es : List Event) (e : Event) :
    let m := r.machine config { broker := Broker.run { streams, buckets } ops, faults, drawn }
    let now := (m.during es).node.network
    let after := ((m.during es).after e).node.network
    request? .main (m.log es) = none ∧ request? .launched (m.log es) = none
    ∧ ((∀ op, e ≠ .broker op) → (∀ x ∈ (m.during es).moves e, x.exchange.1.published? = none) →
      now.Silent after)
    ∧ ∀ x ∈ (m.during es).moves e, r.Correlates config x.task →
      ∀ p what, x.exchange.1.published? = some (p, what) → ∃ connection settings type,
        let c := { Context.ofConfig config connection settings with
          request := request? x.task (m.log es) }
        p = c.publisher ∧ c.Publishes type what
          ∧ p.Delivers what now after
            (·.GoesOut type c.requestId config.identity.process now after) := by
  intro m now after
  have horderly : m.node.network.broker.Orderly := Broker.orderly_run streams buckets ops
  have hbody := r.body_driver config
  have hstart : Sound .built (r.body config) m [] := r.sound_machine config horderly
  have hsound : Sound .built (r.body config) (m.during es) (m.log es) := sound_during hbody hstart es
  have hattended : Attended (m.during es) (m.log es) := by
    obtain ⟨-, -, hreads⟩ := Broker.run_apart streams buckets ops
    refine attended_during hbody hstart (attended_nil (fun t ht s => ?_) rfl hreads) es
    rw [List.mem_singleton.1 ht]
    exact nofun
  refine ⟨hsound.request?_main hbody, hsound.request?_launched,
    fun hown hquiet => (m.during es).silent_after hown hquiet, ?_⟩
  rintro ⟨id, request, reply⟩ hx hr p what hpublished
  have heffect := (m.during es).after_effect e
  rw [heffect.moved_eq hx] at heffect
  obtain ⟨_, type, ⟨connection, settings, rfl⟩, rfl, hpublishes⟩ :=
    publishes_of_move hsound hattended (m.duties_during es) heffect hr hpublished
  refine ⟨connection, settings, type, rfl, hpublishes, ?_⟩
  have hgoes := hpublishes.goesOut now
  have hafter : after = _ := hsound.network_of_published heffect hpublished
  rw [hafter]
  exact hgoes

/-- A task runner whose handler sends whatever its context can send, and fails. -/
def courier : Runner := .pipeline {
  kind := .task
  pipeline := { registry := Registry.empty.setDefault fun c payload => .ok do
    let _ ← (HookRequest.publish c.publisher (c.output payload none)).ask
    let _ ← (HookRequest.publish c.publisher (c.earlyReply payload (some "side"))).ask
    let _ ← (HookRequest.publish c.publisher (c.earlyExit payload none)).ask
    let _ ← (HookRequest.publish c.publisher (c.errorReply "")).ask
    return .failed (.failed "lost") } }

theorem courier_correlates : courier.Correlates entry (.listener 2) where
  handler _ _ hh := by
    obtain rfl := Registry.eq_of_resolve_setDefault hh
    rintro c payload program ⟨⟩
    exact ⟨⟨rfl, _, .output _ _⟩, fun _ => ⟨⟨rfl, _, .earlyReply _ _⟩,
      fun _ => ⟨⟨rfl, _, .earlyExit _ _⟩, fun _ => ⟨⟨rfl, _, .error _⟩, fun _ => trivial⟩⟩⟩⟩
  preprocessor := nofun
  postprocessor := nofun

/-- It starts and takes a message; its handler sends and fails, and the message is acknowledged. -/
def throughFailure : List Event :=
  let request : Envelope := { requestId := "r", payload := some {}, fromNode := "exit" }
  List.replicate 9 (.go 0 0)
    ++ [.broker (.inject { subject := "exit.out", payload := request.encode }), .go 1 0]
    ++ List.replicate 5 (.go 0 0)

/-- The failure is reported next, for the request of the message. -/
theorem reported_of_courier :
    let m := courier.machine entry
      { broker := Broker.run { streams := [("workflow", none)], buckets := [] } [] }
    let now := (m.during throughFailure).node.network
    let after := ((m.during throughFailure).after (.go 0 0)).node.network
    courier.Correlates entry (.listener 2)
      ∧ (request? (.listener 2) (m.log throughFailure)).map (·.requestId) = some "r"
      ∧ ∃ (e : Envelope) (limit : Nat) (blob : Bytes) (subject : String),
        e.requestId = "r" ∧ e.fromNode = "entry" ∧ e.isConsistent = true
        ∧ fitToSize e.encode limit = .ok blob
        ∧ after.broker = now.broker.inject { subject, payload := blob } := by
  intro m now after
  have hmoves : ((m.during throughFailure).moves (.go 0 0)).any (fun x =>
      x.task = .listener 2 ∧ x.exchange.1.published?.isSome) = true := by decide +kernel
  have hrequest : (request? (.listener 2) (m.log throughFailure)).map (·.requestId) = some "r" := by
    decide +kernel
  refine ⟨courier_correlates, hrequest, ?_⟩
  obtain ⟨x, hx, hpublishes⟩ := List.any_eq_true.1 hmoves
  obtain ⟨htask, hsome⟩ := of_decide_eq_true hpublishes
  obtain ⟨⟨p, what⟩, hpublished⟩ := Option.isSome_iff_exists.1 hsome
  obtain ⟨-, -, -, hall⟩ :=
    run_correlation courier entry [("workflow", none)] [] [] {} 0 throughFailure (.go 0 0)
  obtain ⟨connection, settings, type, -, -, hsame | ⟨e, limit, blob, hgoes, hblob, hafter⟩⟩ :=
    hall x hx (htask ▸ courier_correlates) p what hpublished
  · exact absurd (congrArg (·.history.published.length) hsame) (by decide +kernel)
  · obtain ⟨request, hr, hid⟩ := Option.map_eq_some_iff.1 hrequest
    have hcorrelated := hgoes.correlated
    rw [htask] at hcorrelated
    simp only [m] at hr
    simp only [Context.requestId, hr] at hcorrelated
    simp only [after, now, m]
    refine ⟨e, limit, blob, what.subject p, ?_, hgoes.fromNode, hgoes.consistent, hblob, hafter⟩
    exact (hcorrelated (by rw [hid]; decide)).1.trans hid

end Runner
end Waystation
