import Waystation.Proofs.Broker.Silence
import Waystation.Proofs.Node.Histories
import Waystation.Proofs.Pipeline.Correlated
/-!
Who publishes what. Nothing goes out but what a task asks to publish. A listener publishes for the
request of the message that it took last; the other tasks take no messages, and what they publish is for
no request.
-/
namespace Waystation

/-- What a request is to publish, and by whom. -/
def NodeRequest.published? : NodeRequest → Option (Publisher × Publication)
  | .work (.user (.publish p what)) | .watched (.user (.publish p what)) => some (p, what)
  | _ => none

/-! What is published is what is asked for. -/

namespace Node

variable {n node n' : Node} {p : Publisher} {what : Publication}

theorem silent_of_hookAnswers {r : HookRequest} {reply : r.Reply}
    (hr : (NodeRequest.work (.user r)).published? = none) (h : (reply, node) ∈ n.hookAnswers r) :
    n.network.Silent node.network := by
  cases r with
  | publish p what => cases hr
  | set s key value scope =>
    exact node_of_single h ▸ ⟨History.silent_of_eq (s.history_set value), rfl⟩
  | delete s key scope => exact node_of_single h ▸ ⟨History.silent_of_eq s.history_delete, rfl⟩
  | close connection => exact node_of_single h ▸ n.network.silent_close connection
  | response w =>
    simp only [hookAnswers] at h
    split at h
    · exact node_of_single h ▸ .refl _
    · cases h
  | pass gate | settle | cancelled => exact node_of_once h ▸ .refl _
  | _ => exact node_of_single h ▸ .refl _

theorem silent_of_workAnswers {r : WorkRequest} {reply : r.Reply}
    (hr : (NodeRequest.work r).published? = none) (h : (reply, node) ∈ n.workAnswers r) :
    n.network.Silent node.network := by
  cases r with
  | user r => exact silent_of_hookAnswers hr h
  | acknowledge delivery => exact node_of_single h ▸ n.network.silent_acknowledge delivery

theorem silent_of_takeAnswers {s : Nat} {taken : Taken} (h : (taken, node) ∈ n.takeAnswers s) :
    n.network.Silent node.network := by
  rw [takeAnswers] at h
  split at h
  · exact node_of_single h ▸ .refl _
  · have hnext := n.network.silent_after (.next s) id
    rw [Broker.after] at hnext
    split at h
    next d broker hd =>
      rw [hd] at hnext
      exact node_of_single h ▸ hnext
    next => exact node_of_single h ▸ .refl _
    next => cases h

theorem silent_of_endAnswers {reply : End} (h : (reply, node) ∈ n.endAnswers) :
    n.network.Silent node.network := by
  rw [endAnswers] at h
  rcases List.mem_append.1 h with hearly | hreturned
  · rcases List.mem_append.1 hearly with hsignal | hexhausted
    · exact node_of_once hsignal ▸ .refl _
    · exact node_of_once hexhausted ▸ .refl _
  · split at hreturned
    · exact node_of_single hreturned ▸ .refl _
    · cases hreturned

/-- A request that is not to publish anything publishes nothing. -/
theorem silent_of_answers {r : NodeRequest} {reply : r.Reply} (hr : r.published? = none)
    (h : (reply, node) ∈ n.answers r) : n.network.Silent node.network := by
  cases r with
  | work r => exact silent_of_workAnswers hr h
  | watched r =>
    simp only [answers] at h
    split at h
    · exact node_of_once h ▸ .refl _
    next answers _ =>
      obtain ⟨⟨reply', node'⟩, hmem, heq⟩ := List.mem_map.1 h
      obtain ⟨-, rfl⟩ := Prod.mk.inj heq
      refine silent_of_workAnswers ?_ hmem
      cases r with
      | user r => cases r <;> exact hr
      | acknowledge delivery => rfl
  | take s => exact silent_of_takeAnswers h
  | awaitEnd => exact silent_of_endAnswers h
  | leave s => exact node_of_single h ▸ n.network.silent_unsubscribe s
  | subscribe connection o => exact node_of_single h ▸ n.network.silent_subscribe connection o
  | connect url => exact node_of_single h ▸ n.network.silent_connect url
  | close connection => exact node_of_single h ▸ n.network.silent_close connection
  | awaitLeft | awaitListeners | awaitStop => exact node_of_once h ▸ .refl _
  | _ => exact node_of_single h ▸ .refl _

/-- A request to publish something is answered by publishing it. -/
theorem network_of_published {r : NodeRequest} {reply : r.Reply} (hr : r.published? = some (p, what))
    (h : (reply, node) ∈ n.answers r) : node.network = (p.send what n.network).2 := by
  unfold NodeRequest.published? at hr
  split at hr
  · cases hr
    obtain ⟨-, rfl⟩ := Prod.mk.inj (List.mem_singleton.1 h)
    rfl
  · cases hr
    obtain ⟨-, rfl⟩ := Prod.mk.inj (List.mem_singleton.1 h)
    rfl
  · cases hr

theorem silent_endTasks (ids : List TaskId) (n : Node) :
    n.network.Silent (ids.foldl Node.endTask n).network :=
  network_endTasks .refl .trans (fun network s => network.silent_after (.drop s) id) ids n

theorem silent_complied (n : Node) : n.network.Silent (Machine.complied n).network :=
  silent_endTasks n.ending { n with starting := [] }

end Node

namespace Machine

/-- A task that goes on without asking to publish anything publishes nothing. -/
theorem silent_go (m : Machine) (place answer : Nat)
    (hquiet : ∀ x ∈ (m.go place answer).2, x.exchange.1.published? = none) :
    m.node.network.Silent (m.go place answer).1.node.network := by
  rw [go] at hquiet ⊢
  split
  next => exact .refl _
  next t ht =>
    rw [ht] at hquiet
    split
    next => exact .refl _
    next => exact Node.silent_endTasks [t.id] m.node
    next r next hask =>
      simp only [hask] at hquiet
      split
      next reply node hanswer =>
        rw [hanswer] at hquiet
        have hr : r.published? = none := hquiet _ (List.mem_singleton.2 rfl)
        exact (Node.silent_of_answers hr (List.mem_of_getElem? hanswer)).trans node.silent_complied
      next => exact .refl _

/-- Unless others publish, nothing goes out but what a task asks to publish. -/
theorem silent_after (m : Machine) {e : Event} (hown : ∀ op, e ≠ .broker op)
    (hquiet : ∀ x ∈ m.moves e, x.exchange.1.published? = none) :
    m.node.network.Silent (m.after e).node.network := by
  cases e with
  | go place answer => exact m.silent_go place answer hquiet
  | unlock gate | shutDown | hush => exact .refl _
  | broker op => exact absurd rfl (hown op)

end Machine

/-! For which request it is published. -/

/-- The request that a task works for: that of the message it took last, if it takes any. -/
def request? (id : TaskId) (log : List Move) : Option Envelope :=
  ((exchanged id log).filterMap Listener.taken?).getLast?.bind Delivery.request?

/-- A task that takes no messages works for no request. -/
theorem request?_eq_none {id : TaskId} {log : List Move}
    (h : ∀ x ∈ exchanged id log, Listener.taken? x = none) : request? id log = none := by
  rw [request?, List.filterMap_eq_nil_iff.2 h]
  rfl

namespace NodeRequest

/-- Listeners and a runner function are started with contexts of a kind only. -/
def Hands (B : Context → Prop) : NodeRequest → Prop
  | listen _ c | launch c => B c
  | _ => True

/-- What a task publishes it publishes by contexts of a kind. -/
def Concerns (B : Context → Prop) : NodeRequest → Prop
  | work r | watched r => ∃ c, B c ∧ c.Speaks r
  | _ => True

variable {B : Context → Prop} {r : NodeRequest} {p : Publisher} {what : Publication}

theorem Concerns.publishes (h : r.Concerns B) (hr : r.published? = some (p, what)) :
    ∃ c, B c ∧ p = c.publisher ∧ ∃ type, c.Publishes type what := by
  unfold published? at hr
  split at hr
  · cases hr
    exact h
  · cases hr
    exact h
  · cases hr

/-- To publish is to work, whatever the answer. -/
theorem exists_worked (hr : r.published? = some (p, what)) :
    ∃ (reply : r.Reply) (y : Exchange WorkSignature),
      Listener.worked? ⟨r, reply⟩ = some y ∧ y.1 = .user (.publish p what) := by
  unfold published? at hr
  split at hr
  · cases hr
    exact ⟨.ok none, _, rfl, rfl⟩
  · cases hr
    exact ⟨some (.ok none), _, rfl, rfl⟩
  · cases hr

end NodeRequest

/-- A runner function publishes by the context that it is launched with. -/
theorem Duties.concerns_launch {d : Duties} (hd : ∀ f ∈ d.launched, RunnerFunction.Correlates f)
    (c : Context) : (d.body (.launch c)).Within (NodeRequest.Concerns (· = c)) fun _ => True := by
  rw [body]
  split
  · exact trivial
  next f hf =>
    split
    · exact (NodeRequest.within_ask trivial).bind fun _ _ => trivial
    next program hprogram =>
      have hfunction : program.ofHook.Within (NodeRequest.Concerns (· = c)) fun _ => True :=
        (hd f hf c program hprogram).embed fun r hr => NodeRequest.within_ask ⟨c, rfl, hr.speaks⟩
      exact hfunction.bind fun _ _ => (NodeRequest.within_ask trivial).bind fun _ _ => trivial

namespace Machine

variable {start : Conduct} {body : Program NodeSignature Turn} {m m' : Machine} {log : List Move}
variable {B : Context → Prop} {id : TaskId} {r : NodeRequest} {reply : r.Reply} {p : Publisher}
variable {what : Publication}

theorem Sound.request?_main (h : Sound start body m log) (hbody : Driver start body) :
    request? .main log = none := by
  obtain ⟨q, hleads⟩ := h.exists_leads
  refine request?_eq_none fun x hx => ?_
  have hdriving := (hbody.within.leads hleads).1 x hx
  obtain ⟨r, reply⟩ := x
  cases r <;> first | rfl | exact hdriving.elim

theorem Sound.request?_launched (h : Sound start body m log) : request? .launched log = none := by
  refine request?_eq_none fun x hx => ?_
  rcases h.launched with ⟨hnothing, -⟩ | ⟨c, k, q, -, hleads, -⟩
  · rw [hnothing] at hx
    cases hx
  · have hlaunched := ((within_launch m.duties c).leads hleads).1 x hx
    obtain ⟨r, reply⟩ := x
    cases r <;> first | rfl | exact hlaunched.elim

/-- What the driving task publishes it publishes by a context of its own. -/
theorem Sound.publishes_main (h : Sound start body m log)
    (hconcerns : body.Within (NodeRequest.Concerns B) fun _ => True)
    (heffect : Effect m [⟨.main, r, reply⟩] m') (hr : r.published? = some (p, what)) :
    ∃ c type, B c ∧ p = c.publisher ∧ c.Publishes type what := by
  obtain ⟨t, rest, next, node, htasks, hid, hask, -, -, -⟩ := heffect.of_move
  have hleads := h.leads_main (Sound.mem htasks) hid
  rw [hask] at hleads
  obtain ⟨c, hc, hp, type, hpublishes⟩ := (hconcerns.leads hleads).2.1.publishes hr
  exact ⟨c, type, hc, hp, hpublishes⟩

/-- What the runner function publishes it publishes by the context that it was launched with. -/
theorem Sound.publishes_launched (h : Sound start body m log)
    (hhands : body.Within (NodeRequest.Hands B) fun _ => True)
    (hlaunched : ∀ f ∈ m.duties.launched, RunnerFunction.Correlates f)
    (heffect : Effect m [⟨.launched, r, reply⟩] m') (hr : r.published? = some (p, what)) :
    ∃ c type, B c ∧ p = c.publisher ∧ c.Publishes type what := by
  obtain ⟨t, rest, next, node, htasks, hid, hask, -, -, -⟩ := heffect.of_move
  obtain ⟨q, hdriven⟩ := h.exists_leads
  obtain ⟨launching, k, hlaunch, hleads⟩ := h.leads_launched (Sound.mem htasks) hid
  rw [hask] at hleads
  have hlaunching : B launching := (hhands.leads hdriven).1 _ hlaunch
  obtain ⟨c, rfl, hp, type, hpublishes⟩ :=
    ((Duties.concerns_launch hlaunched launching).leads hleads).2.1.publishes hr
  exact ⟨c, type, hlaunching, hp, hpublishes⟩

/-- What a listener publishes it publishes for the request of the message that it took last, by the
context that it was started with. -/
theorem Sound.publishes_listener (h : Sound start body m log) (hattended : Attended m log)
    (hhands : body.Within (NodeRequest.Hands B) fun _ => True)
    (hwork : ∀ c d,
      (m.duties.work c d).Within { c with request := d.request? }.Speaks fun _ => True)
    {s : Nat} (heffect : Effect m [⟨.listener s, r, reply⟩] m')
    (hr : r.published? = some (p, what)) : ∃ c type, B c ∧ p = c.publisher
      ∧ { c with request := request? (.listener s) log }.Publishes type what := by
  obtain ⟨t, rest, next, node, htasks, hid, hask, -, -, -⟩ := heffect.of_move
  have ht := Sound.mem htasks
  obtain ⟨q, hdriven⟩ := h.exists_leads
  cases hattended.goes s with
  | absent _ _ hnobody => exact absurd hid (hnobody t ht)
  | @going c q hlisten _ hstands htask _ =>
    have hc : B c := (hhands.leads hdriven).1 _ hlisten
    rw [← (htask t ht hid).2, hask] at hstands
    obtain ⟨reply, y, hworked, hy⟩ := NodeRequest.exists_worked hr
    obtain ⟨d, work, w, hlast, hleads⟩ := hstands.works hworked
    have hspeaks := ((hwork c d).leads hleads).1 y (by simp)
    rw [hy] at hspeaks
    obtain ⟨hp, type, hpublishes⟩ := hspeaks
    have hrequest : request? (.listener s) log = d.request? := by
      rw [request?, hlast]
      rfl
    rw [hrequest]
    exact ⟨c, type, hc, hp, hpublishes⟩

/-- To publish is answered on the network alone. -/
theorem Sound.network_of_published (h : Sound start body m log) (heffect : Effect m [⟨id, r, reply⟩] m')
    (hr : r.published? = some (p, what)) : m'.node.network = (p.send what m.node.network).2 := by
  obtain ⟨t, rest, next, node, -, -, -, hanswer, hnode, htasks'⟩ := heffect.of_move
  have hstaff : ¬r.IsStaffing := by
    cases r <;> first | exact fun h => h | cases hr
  obtain ⟨hsame, -⟩ := h.goes_on (Node.answered_of_mem hanswer) hstaff hnode htasks'
  rw [hsame]
  exact Node.network_of_published hr hanswer

end Machine
end Waystation
