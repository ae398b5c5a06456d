import Waystation.Proofs.Node.Conduct
import Waystation.Proofs.Node.Crew
import Waystation.Proofs.Node.Schedule
/-!
What holds of a machine at all times. The driving task does what its program says, with the replies
that the node gives; what is known of how the node is run comes from its requests alone; and every
other task is a listener with a subscription of its own or the runner function.
-/
namespace Waystation

namespace Machine

/-- The invariant of machines, given what was asked so far. -/
structure Sound (start : Conduct) (body : Program NodeSignature Turn) (m : Machine)
    (log : List Move) : Prop where
  starting : m.node.starting = []
  ending : m.node.ending = []
  crew : Crew m.duties m.node m.tasks
  main : (∃ t ∈ m.tasks, t.id = .main ∧ body.Leads (exchanged .main log) t.current)
    ∨ (∀ t ∈ m.tasks, t.id ≠ .main) ∧ body.Runs (exchanged .main log) .finished
  coherent : Coherent start (exchanged .main log)
  conduct : m.node.conduct = (exchanged .main log).foldl Conduct.after start
  recent : ∀ before connection o id,
    exchanged .main log = before ++ [⟨.subscribe connection o, .ok id⟩] →
      id ≤ m.node.network.broker.issued ∧ ∀ l ∈ m.node.listeners, l.subscription ≠ id
  launched : (exchanged .launched log = [] ∧ ∀ t ∈ m.tasks, t.id ≠ .launched)
    ∨ ∃ c k q, ⟨.launch c, k⟩ ∈ exchanged .main log
      ∧ (m.duties.body (.launch c)).Leads (exchanged .launched log) q
      ∧ ∀ t ∈ m.tasks, t.id = .launched → t.current = q

variable {start : Conduct} {body : Program NodeSignature Turn} {m m' : Machine} {log : List Move}
variable {t : Task} {rest : List Task}

theorem Sound.mem (htasks : m.tasks.Perm (t :: rest)) : t ∈ m.tasks :=
  htasks.mem_iff.2 List.mem_cons_self

theorem Sound.mem_rest (htasks : m.tasks.Perm (t :: rest)) {other : Task} (h : other ∈ rest) :
    other ∈ m.tasks :=
  htasks.mem_iff.2 (List.mem_cons_of_mem _ h)

/-- The driving task stands where its program has come to. -/
theorem Sound.leads_main (h : Sound start body m log) (ht : t ∈ m.tasks) (hid : t.id = .main) :
    body.Leads (exchanged .main log) t.current := by
  rcases h.main with ⟨t', ht', hid', hleads⟩ | ⟨hnone, -⟩
  · rw [h.crew.task_eq ht ht' (hid.trans hid'.symm)]
    exact hleads
  · exact absurd hid (hnone t ht)

theorem Sound.leads_launched (h : Sound start body m log) (ht : t ∈ m.tasks)
    (hid : t.id = .launched) : ∃ c k, ⟨.launch c, k⟩ ∈ exchanged .main log
      ∧ (m.duties.body (.launch c)).Leads (exchanged .launched log) t.current := by
  rcases h.launched with ⟨-, hnone⟩ | ⟨c, k, q, hlaunch, hleads, hq⟩
  · exact absurd hid (hnone t ht)
  · exact ⟨c, k, hlaunch, hq t ht hid ▸ hleads⟩

/-- The runner function does work, tells what it returned, and is finished. -/
theorem within_launch (d : Duties) (c : Context) :
    (d.body (.launch c)).Within NodeRequest.IsLaunched (· = .finished) := by
  rw [Duties.body]
  split
  · rfl
  · split
    · exact (NodeRequest.within_ask trivial).bind fun _ _ => rfl
    next program _ =>
      have hwork : program.ofHook.Within NodeRequest.IsLaunched fun _ => True := by
        refine (within_ofHook program).mono (fun r hr => ?_) fun _ h => h
        cases r with
        | work r => trivial
        | _ => exact hr.elim
      exact hwork.bind fun _ _ => (NodeRequest.within_ask trivial).bind fun _ _ => rfl

/-- Another task than the driving task goes on. -/
theorem Sound.main_swap (h : Sound start body m log) (htasks : m.tasks.Perm (t :: rest))
    (hid : t.id ≠ .main) {t' : Task} (hsame : t'.id = t.id) :
    (∃ other ∈ t' :: rest, other.id = .main ∧ body.Leads (exchanged .main log) other.current)
      ∨ (∀ other ∈ t' :: rest, other.id ≠ .main) ∧ body.Runs (exchanged .main log) .finished := by
  rcases h.main with ⟨other, hother, hmain, hleads⟩ | ⟨hnone, hruns⟩
  · rcases List.mem_cons.1 (htasks.mem_iff.1 hother) with rfl | hrest
    · exact absurd hmain hid
    · exact .inl ⟨other, List.mem_cons_of_mem _ hrest, hmain, hleads⟩
  · refine .inr ⟨List.forall_mem_cons.2 ⟨hsame ▸ hid, fun other hother => ?_⟩, hruns⟩
    exact hnone other (Sound.mem_rest htasks hother)

/-- The runner function stays where it is as long as its task does. -/
theorem Sound.launched_kept (h : Sound start body m log) {tasks : List Task}
    (hold : ∀ other ∈ tasks, other.id = .launched → other ∈ m.tasks)
    {exchanges : List (Exchange NodeSignature)} (hmore : exchanged .main log ⊆ exchanges) :
    (exchanged .launched log = [] ∧ ∀ other ∈ tasks, other.id ≠ .launched)
      ∨ ∃ c k q, ⟨.launch c, k⟩ ∈ exchanges
        ∧ (m.duties.body (.launch c)).Leads (exchanged .launched log) q
        ∧ ∀ other ∈ tasks, other.id = .launched → other.current = q := by
  rcases h.launched with ⟨hnothing, hnone⟩ | ⟨c, k, q, hlaunch, hleads, hq⟩
  · exact .inl ⟨hnothing, fun other hother hid => hnone other (hold other hother hid) hid⟩
  · refine .inr ⟨c, k, q, hmore hlaunch, hleads, fun other hother hid => ?_⟩
    exact hq other (hold other hother hid) hid

/-- Another task than the runner function goes on. -/
theorem Sound.launched_swap (htasks : m.tasks.Perm (t :: rest)) {t' : Task}
    (hid : t'.id ≠ .launched) : ∀ other ∈ t' :: rest, other.id = .launched → other ∈ m.tasks :=
  List.forall_mem_cons.2
    ⟨fun hlaunched => absurd hlaunched hid, fun _ hother _ => Sound.mem_rest htasks hother⟩

/-- What was last subscribed to has no listener, as long as none is started. -/
theorem Sound.recent_kept (h : Sound start body m log) {n : Node}
    (hissued : m.node.network.broker.issued ≤ n.network.broker.issued)
    (hlisteners : n.listeners.map (·.subscription) = m.node.listeners.map (·.subscription)) :
    ∀ before connection o id,
      exchanged .main log = before ++ [⟨.subscribe connection o, .ok id⟩] →
        id ≤ n.network.broker.issued ∧ ∀ l ∈ n.listeners, l.subscription ≠ id := by
  intro before connection o id hlast
  obtain ⟨hthere, hnew⟩ := h.recent before connection o id hlast
  refine ⟨Nat.le_trans hthere hissued, fun l hl hid => ?_⟩
  have hmem : id ∈ m.node.listeners.map (·.subscription) := by
    rw [← hlisteners, ← hid]
    exact List.mem_map_of_mem hl
  obtain ⟨old, hold, hsame⟩ := List.mem_map.1 hmem
  exact hnew old hold hsame

/-- What happens outside leaves the tasks as they are. -/
theorem Sound.outside (h : Sound start body m log) (htasks : m'.tasks = m.tasks)
    (hduties : m'.duties = m.duties) (hnode : Outside m.node m'.node) : Sound start body m' log := by
  have hevolves : m.node.network.Evolves m'.node.network := by
    rcases hnode.network with hsame | ⟨op, hop⟩
    · exact hsame ▸ .refl _
    · exact hop ▸ m.node.network.evolves_after op
  have hlisteners : m'.node.listeners = m.node.listeners := by rw [hnode.same]
  refine ⟨?_, ?_, ?_, ?_, h.coherent, ?_, ?_, ?_⟩
  · rw [hnode.same]
    exact h.starting
  · rw [hnode.same]
    exact h.ending
  · rw [htasks, hduties]
    exact h.crew.evolves hlisteners hevolves
  · rw [htasks]
    exact h.main
  · rw [hnode.same]
    exact h.conduct
  · exact h.recent_kept hevolves.broker.issued (congrArg _ hlisteners)
  · rw [htasks, hduties]
    exact h.launched

/-- Only listeners start over. -/
theorem Sound.listener_of_again (h : Sound start body m log) (hbody : Driver start body)
    (ht : t ∈ m.tasks) (hdone : t.current = .done .again) : ∃ s, t.id = .listener s := by
  cases hid : t.id with
  | listener s => exact ⟨s, rfl⟩
  | main =>
    have hleads := h.leads_main ht hid
    rw [hdone] at hleads
    cases (hbody.within.leads hleads).2
  | launched =>
    obtain ⟨c, k, -, hleads⟩ := h.leads_launched ht hid
    rw [hdone] at hleads
    cases ((within_launch m.duties c).leads hleads).2

theorem Sound.again (h : Sound start body m log) (hbody : Driver start body)
    (htasks : m.tasks.Perm (t :: rest)) (hdone : t.current = .done .again)
    (hduties : m'.duties = m.duties) (hnode : m'.node = m.node)
    (htasks' : m'.tasks = { t with current := t.body } :: rest) : Sound start body m' log := by
  have ht := Sound.mem htasks
  obtain ⟨s, hs⟩ := h.listener_of_again hbody ht hdone
  refine ⟨hnode ▸ h.starting, hnode ▸ h.ending, ?_, ?_, h.coherent, hnode ▸ h.conduct,
    hnode ▸ h.recent, ?_⟩
  · rw [htasks', hduties, hnode]
    refine (h.crew.perm htasks).swap rfl fun s' _ => ?_
    obtain ⟨l, c, stage, ha⟩ := h.crew.attends t ht s hs
    have hcurrent := ha.current
    rw [hdone] at hcurrent
    refine ⟨l, c, .serving, ha.listener, ha.id, ha.goesOn, ha.body, ?_, ?_, by rintro ⟨⟩⟩
    · rw [ha.body]
      exact .round
    · exact fun hstage => absurd rfl hstage
  · rw [htasks']
    exact h.main_swap htasks (by simp [hs]) rfl
  · rw [htasks', hduties]
    refine h.launched_kept (Sound.launched_swap htasks ?_) (List.Subset.refl _)
    simp [hs]

theorem Sound.finished (h : Sound start body m log) (htasks : m.tasks.Perm (t :: rest))
    (hdone : t.current = .done .finished) (hduties : m'.duties = m.duties)
    (hnode : m'.node = m.node.endTask t.id)
    (htasks' : m'.tasks = rest.filter fun other => other.id ≠ t.id) : Sound start body m' log := by
  have ht := Sound.mem htasks
  have hsame : m'.node.starting = m.node.starting ∧ m'.node.ending = m.node.ending
      ∧ m'.node.conduct = m.node.conduct := by
    rw [hnode]
    cases t.id <;> exact ⟨rfl, rfl, rfl⟩
  have hevolves : m.node.network.broker.issued ≤ m'.node.network.broker.issued := by
    rw [hnode]
    cases t.id with
    | listener s => exact (m.node.network.evolves_after (.drop s)).broker.issued
    | main | launched => exact Nat.le_refl _
  have hlisteners : m'.node.listeners.map (·.subscription)
      = m.node.listeners.map (·.subscription) := by
    rw [hnode]
    cases t.id with
    | listener s => exact Node.map_subscription_changeListener (n := m.node) fun _ => rfl
    | main | launched => rfl
  have hcrew := (h.crew.perm htasks).endTask t.id
  have hfirst : (t :: rest).filter (fun other => other.id ≠ t.id)
      = rest.filter fun other => other.id ≠ t.id := by
    simp
  rw [hfirst, ← htasks', ← hnode, ← hduties] at hcrew
  have hrest : ∀ other ∈ m'.tasks, other ∈ rest ∧ other.id ≠ t.id := by
    intro other hother
    rw [htasks'] at hother
    exact (List.mem_filter.1 hother).imp_right of_decide_eq_true
  refine ⟨hsame.1.trans h.starting, hsame.2.1.trans h.ending, hcrew, ?_, h.coherent,
    hsame.2.2.trans h.conduct, ?_, ?_⟩
  · by_cases hid : t.id = .main
    · have hleads := h.leads_main ht hid
      rw [hdone] at hleads
      refine .inr ⟨fun other hother hmain => ?_, Program.leads_iff_runs.1 hleads⟩
      exact (hrest other hother).2 (hmain.trans hid.symm)
    · rcases h.main_swap htasks hid rfl with ⟨other, hother, hmain, hleads⟩ | ⟨hnone, hruns⟩
      · refine .inl ⟨other, ?_, hmain, hleads⟩
        rw [htasks', ← hfirst]
        exact List.mem_filter.2 ⟨hother, by simp [hmain, Ne.symm hid]⟩
      · exact .inr ⟨fun other hother => hnone other (List.mem_cons_of_mem _ (hrest other hother).1),
          hruns⟩
  · exact h.recent_kept hevolves hlisteners
  · rw [hduties]
    exact h.launched_kept (fun other hother _ => Sound.mem_rest htasks (hrest other hother).1)
      (List.Subset.refl _)

theorem complied_eq {node : Node} (hstarting : node.starting = []) (hending : node.ending = []) :
    complied node = node := by
  rw [complied, hending]
  obtain ⟨⟩ := node
  simp only at hstarting hending
  subst hstarting hending
  rfl

/-- A request that neither starts nor ends tasks leaves both as they are. -/
theorem unstaffed {n node : Node} {x : Exchange NodeSignature} (h : n.Answered x node)
    (hx : ¬x.1.IsStaffing) : node.starting = n.starting ∧ node.ending = n.ending := by
  have hstarting := congrArg Node.starting h.bare
  have hending := congrArg Node.ending h.bare
  obtain ⟨r, reply⟩ := x
  cases r with
  | listen id c => exact absurd trivial hx
  | launch c => exact absurd trivial hx
  | abortListeners => exact absurd trivial hx
  | abortLaunched => exact absurd trivial hx
  | awaitEnd => cases reply <;> exact ⟨hstarting, hending⟩
  | _ => exact ⟨hstarting, hending⟩

/-- Listeners change when one is started or tells that it has left. -/
theorem listeners_of_answered {n node : Node} {x : Exchange NodeSignature} (h : n.Answered x node)
    (hlisten : ¬x.1.IsListen) (htell : ¬x.1.TellsLeft) : node.listeners = n.listeners := by
  have hlisteners := congrArg Node.listeners h.bare
  obtain ⟨r, reply⟩ := x
  cases r with
  | listen id c => exact absurd trivial hlisten
  | tellLeft id => exact absurd trivial htell
  | awaitEnd => cases reply <;> exact hlisteners
  | _ => exact hlisteners

variable {r : NodeRequest} {next : r.Reply → Program NodeSignature Turn} {reply : r.Reply}
variable {node : Node}

/-- A task that neither starts nor ends tasks goes on alone. -/
theorem Sound.goes_on (h : Sound start body m log) (hanswered : m.node.Answered ⟨r, reply⟩ node)
    (hstaff : ¬r.IsStaffing) (hnode : m'.node = complied node)
    (htasks' : m'.tasks = (({ t with current := next reply } :: rest)
      ++ node.starting.map m.duties.task).filter fun other => other.id ∉ node.ending) :
    m'.node = node ∧ node.starting = [] ∧ node.ending = []
      ∧ m'.tasks = { t with current := next reply } :: rest := by
  obtain ⟨hstarting, hending⟩ := unstaffed hanswered hstaff
  rw [h.starting] at hstarting
  rw [h.ending] at hending
  rw [complied_eq hstarting hending] at hnode
  refine ⟨hnode, hstarting, hending, ?_⟩
  rw [htasks', hstarting, hending]
  simp

/-- The runner function goes on. -/
theorem Sound.answered_launched (h : Sound start body m log) (htasks : m.tasks.Perm (t :: rest))
    (hid : t.id = .launched) (hask : t.current = .ask (S := NodeSignature) r next)
    (hanswer : (reply, node) ∈ m.node.answers r) (hduties : m'.duties = m.duties)
    (hnode : m'.node = complied node)
    (htasks' : m'.tasks = (({ t with current := next reply } :: rest)
      ++ node.starting.map m.duties.task).filter fun other => other.id ∉ node.ending) :
    Sound start body m' (log ++ [⟨t.id, r, reply⟩]) := by
  have ht := Sound.mem htasks
  have hanswered := Node.answered_of_mem hanswer
  obtain ⟨c, k, hlaunch, hleads⟩ := h.leads_launched ht hid
  rw [hask] at hleads
  have hr : r.IsLaunched := ((within_launch m.duties c).leads hleads).2.1
  have hstaff : ¬r.IsStaffing := by
    cases r with
    | work _ => exact fun h => h
    | returned _ => exact fun h => h
    | _ => exact hr.elim
  have hconduct : node.conduct = m.node.conduct := by
    rw [hanswered.conduct]
    cases r with
    | work _ => rfl
    | returned _ => rfl
    | _ => exact hr.elim
  have hlisteners : node.listeners = m.node.listeners := by
    cases r with
    | work _ => exact listeners_of_answered hanswered (fun h => h) fun h => h
    | returned _ => exact listeners_of_answered hanswered (fun h => h) fun h => h
    | _ => exact hr.elim
  obtain ⟨rfl, hstarting, hending, htasks''⟩ := h.goes_on hanswered hstaff hnode htasks'
  have hmain : exchanged .main (log ++ [⟨t.id, r, reply⟩]) = exchanged .main log := by
    rw [exchanged_append, exchanged_other (by simp [hid]), List.append_nil]
  refine ⟨hstarting, hending, ?_, ?_, hmain ▸ h.coherent, ?_, ?_, ?_⟩
  · rw [htasks'', hduties]
    refine ((h.crew.evolves hlisteners hanswered.network).perm htasks).swap rfl fun s hs => ?_
    rw [hid] at hs
    cases hs
  · rw [htasks'', hmain]
    exact h.main_swap htasks (by simp [hid]) rfl
  · rw [hconduct, hmain]
    exact h.conduct
  · rw [hmain]
    exact h.recent_kept hanswered.network.broker.issued (congrArg _ hlisteners)
  · refine .inr ⟨c, k, next reply, hmain ▸ hlaunch, ?_, ?_⟩
    · rw [exchanged_append, hid, exchanged_own, hduties]
      exact hleads.snoc reply
    · rw [htasks'']
      refine List.forall_mem_cons.2 ⟨fun _ => rfl, fun other hother hlaunched => ?_⟩
      exact absurd (hlaunched.trans hid.symm) ((h.crew.perm htasks).rest_ne hother)

/-- What a listener exchanges keeps the crew in order. -/
theorem crew_of_advance (h : Crew m.duties m.node (t :: rest)) {l : Listener} {c : Context}
    {stage stage' : Listener.Stage} (ha : Attends m.duties m.node t l c stage)
    (hanswer : (reply, node) ∈ m.node.answers r)
    (hadvance : Listener.Advance l.subscription stage ⟨r, reply⟩ stage')
    (hat : Listener.At l.subscription (m.duties.work c) stage' (next reply)) :
    Crew m.duties node ({ t with current := next reply } :: rest) := by
  have hissued := h.issued l ha.listener
  have hnetwork := (Node.answered_of_mem hanswer).network
  -- work changes neither the listeners nor the stage
  have hworks : stage' = stage → node.listeners = m.node.listeners →
      Crew m.duties node ({ t with current := next reply } :: rest) := by
    rintro rfl hlisteners
    refine (h.evolves hlisteners hnetwork).swap rfl fun _ _ => ⟨l, c, stage', ?_⟩
    exact ⟨hlisteners ▸ ha.listener, ha.id, ha.goesOn, ha.body, hat,
      fun hstage => (ha.free hstage).evolves hnetwork hissued, ha.hasLeft⟩
  have hanswered := Node.answered_of_mem hanswer
  cases hadvance with
  | worked => exact hworks rfl (listeners_of_answered hanswered (fun h => h) fun h => h)
  | watched => exact hworks rfl (listeners_of_answered hanswered (fun h => h) fun h => h)
  | took _ => exact hworks rfl (listeners_of_answered hanswered (fun h => h) fun h => h)
  | lost =>
    obtain ⟨hclosed, rfl⟩ := (Node.works_of_take hanswer).2 rfl
    refine h.swap rfl fun _ _ => ⟨l, c, .out, ?_⟩
    exact ⟨ha.listener, ha.id, ha.goesOn, ha.body, hat,
      fun _ _ => h.orderly.sound.not_holds_of_closed hclosed, by rintro ⟨⟩⟩
  | left =>
    obtain ⟨-, rfl⟩ := Prod.mk.inj (List.mem_singleton.1 hanswer)
    let n := (m.node.withNetwork (m.node.network.unsubscribe l.subscription)).2
    have hcrew : Crew m.duties n (t :: rest) := h.evolves rfl hnetwork
    refine hcrew.swap rfl fun _ _ => ⟨l, c, .out, ?_⟩
    refine ⟨ha.listener, ha.id, ha.goesOn, ha.body, hat, fun _ hfault => ?_, by rintro ⟨⟩⟩
    have hfault' : m.node.network.faults.unsubscribe = none := hnetwork.faults ▸ hfault
    have hgone := h.orderly.sound.not_holds_unsubscribe l.subscription
    simpa only [n, Node.withNetwork, Network.unsubscribe, Network.attempt, hfault', Network.keep]
      using hgone
  | tells =>
    obtain ⟨-, rfl⟩ := Prod.mk.inj (List.mem_singleton.1 hanswer)
    have hfree := ha.free (by rintro ⟨⟩)
    refine (h.tellLeft hfree).swap rfl fun _ _ => ⟨{ l with hasLeft := true }, c, .told, ?_⟩
    refine ⟨Node.mem_changeListener.2 ⟨l, ha.listener, (if_pos rfl).symm⟩, ha.id, ha.goesOn, ha.body,
      hat, fun _ => hfree, fun _ => rfl⟩

/-- A listener goes on. -/
theorem Sound.answered_listener (h : Sound start body m log) (htasks : m.tasks.Perm (t :: rest))
    {s : Nat} (hid : t.id = .listener s) (hask : t.current = .ask (S := NodeSignature) r next)
    (hanswer : (reply, node) ∈ m.node.answers r) (hduties : m'.duties = m.duties)
    (hnode : m'.node = complied node)
    (htasks' : m'.tasks = (({ t with current := next reply } :: rest)
      ++ node.starting.map m.duties.task).filter fun other => other.id ∉ node.ending) :
    Sound start body m' (log ++ [⟨t.id, r, reply⟩]) := by
  have ht := Sound.mem htasks
  have hanswered := Node.answered_of_mem hanswer
  obtain ⟨l, c, stage, ha⟩ := h.crew.attends t ht s hid
  have hcurrent := ha.current
  rw [hask] at hcurrent
  obtain ⟨stage', hadvance, hat⟩ := hcurrent.advance reply
  have hcrew := crew_of_advance (h.crew.perm htasks) ha hanswer hadvance hat
  have hstaff : ¬r.IsStaffing := by cases hadvance <;> exact fun h => h
  have hconduct : node.conduct = m.node.conduct := by
    rw [hanswered.conduct]
    cases hadvance <;> rfl
  have hlisteners : node.listeners.map (·.subscription) = m.node.listeners.map (·.subscription) := by
    have hbare := congrArg Node.listeners hanswered.bare
    cases hadvance with
    | tells =>
      refine (congrArg (List.map (·.subscription)) hbare).trans ?_
      exact Node.map_subscription_changeListener (n := m.node.bare) fun _ => rfl
    | _ => exact congrArg (List.map (·.subscription)) hbare
  obtain ⟨rfl, hstarting, hending, htasks''⟩ := h.goes_on hanswered hstaff hnode htasks'
  have hother : ∀ id : TaskId, (∀ s, id ≠ .listener s) →
      exchanged id (log ++ [⟨t.id, r, reply⟩]) = exchanged id log := by
    intro id hne
    rw [exchanged_append, exchanged_other (by rw [hid]; exact Ne.symm (hne s)), List.append_nil]
  have hmain := hother .main (by rintro _ ⟨⟩)
  refine ⟨hstarting, hending, ?_, ?_, hmain ▸ h.coherent, ?_, ?_, ?_⟩
  · rw [htasks'', hduties]
    exact hcrew
  · rw [htasks'', hmain]
    exact h.main_swap htasks (by simp [hid]) rfl
  · rw [hconduct, hmain]
    exact h.conduct
  · rw [hmain]
    exact h.recent_kept hanswered.network.broker.issued hlisteners
  · rw [hmain, hother .launched (by rintro _ ⟨⟩), htasks'', hduties]
    refine h.launched_kept (Sound.launched_swap htasks ?_) (List.Subset.refl _)
    simp [hid]

/-! The driving task goes on. -/

theorem Sound.coherent_snoc (h : Sound start body m log) (hanswer : (reply, node) ∈ m.node.answers r) :
    Coherent start (exchanged .main log ++ [⟨r, reply⟩]) := by
  refine coherent_append.2 ⟨h.coherent, ?_, trivial⟩
  rw [← h.conduct]
  exact Node.foresees hanswer

/-- The tasks that a request of the driving task starts. -/
theorem starting_of_answered {n node : Node} {x : Exchange NodeSignature} (h : n.Answered x node)
    (hstarting : n.starting = []) :
    (∃ id c, x.1 = .listen id c ∧ node.starting = [.listen id c])
      ∨ (∃ c, x.1 = .launch c ∧ node.starting = [.launch c])
      ∨ ¬x.1.IsListen ∧ node.starting = [] := by
  have hbare := congrArg Node.starting h.bare
  have hnone : n.bare.starting = [] := hstarting
  obtain ⟨r, reply⟩ := x
  cases r with
  | listen id c =>
    refine .inl ⟨id, c, rfl, hbare.trans ?_⟩
    simp [Node.obey, hnone]
  | launch c =>
    refine .inr (.inl ⟨c, rfl, hbare.trans ?_⟩)
    simp [Node.obey, hnone]
  | awaitEnd =>
    refine .inr (.inr ⟨fun h => h, ?_⟩)
    cases reply <;> exact hbare.trans hnone
  | _ => exact .inr (.inr ⟨fun h => h, hbare.trans hnone⟩)

/-- The driving task is never ended by a request. -/
theorem main_notMem_ending {n node : Node} {x : Exchange NodeSignature} (h : n.Answered x node)
    (hending : n.ending = []) : .main ∉ node.ending := by
  have hbare := congrArg Node.ending h.bare
  have hnone : n.bare.ending = [] := hending
  have hsame : node.ending = node.bare.ending := rfl
  rw [hsame, hbare]
  obtain ⟨r, reply⟩ := x
  cases r with
  | abortListeners => simp [Node.obey, hnone]
  | abortLaunched => simp [Node.obey, hnone]
  | awaitEnd => cases reply <;> simp [Node.obey, hnone]
  | _ => simp [Node.obey, hnone, Node.changeListener]

theorem starting_complied (n : Node) : (complied n).starting = [] := by
  suffices ∀ (ids : List TaskId) (n : Node), (ids.foldl Node.endTask n).starting = n.starting from
    this n.ending { n with starting := [] }
  intro ids
  induction ids with
  | nil => exact fun _ => rfl
  | cons id ids ih =>
    intro n
    rw [List.foldl_cons, ih]
    cases id <;> rfl

theorem crew_complied {d : Duties} {tasks : List Task} (h : Crew d node tasks) :
    Crew d (complied node) (tasks.filter fun t => t.id ∉ node.ending) := by
  let n : Node := { node with starting := [] }
  have hn : Crew d n tasks := h.evolves rfl (.refl _)
  exact (hn.endTasks node.ending).evolves rfl (.refl _)

/-- The tasks after a request of the driving task, before any is ended. -/
theorem Sound.crew_driven (h : Sound start body m log) (htasks : m.tasks.Perm (t :: rest))
    (hid : t.id = .main) (hdriving : r.IsDriving) (hanswer : (reply, node) ∈ m.node.answers r)
    (hproper : Proper (exchanged .main log ++ [⟨r, reply⟩])) :
    Crew m.duties node (({ t with current := next reply } :: rest)
      ++ node.starting.map m.duties.task) := by
  have hanswered := Node.answered_of_mem hanswer
  have hswap : Crew m.duties m.node ({ t with current := next reply } :: rest) := by
    refine (h.crew.perm htasks).swap rfl fun s hs => ?_
    rw [hid] at hs
    cases hs
  rcases starting_of_answered hanswered h.starting with
    ⟨id, c, hr, hstarting⟩ | ⟨c, hr, hstarting⟩ | ⟨hlisten, hstarting⟩
  · obtain rfl : r = .listen id c := hr
    obtain ⟨earlier, connection, o, hearlier⟩ := hproper.listens _ id c reply [] rfl
    obtain ⟨hissued, hnew⟩ := h.recent earlier connection o id hearlier
    obtain ⟨-, rfl⟩ := Prod.mk.inj (List.mem_singleton.1 hanswer)
    rw [hstarting]
    exact hswap.listen c hissued hnew rfl rfl
  · obtain rfl : r = .launch c := hr
    have hnone : ∀ other ∈ ({ t with current := next reply } :: rest : List Task),
        other.id ≠ .launched := by
      rcases h.launched with ⟨-, hnone⟩ | ⟨c', k, q, hlaunch, -, -⟩
      · refine List.forall_mem_cons.2 ⟨by simp [hid], fun other hother => ?_⟩
        exact hnone other (htasks.mem_iff.2 (List.mem_cons_of_mem _ hother))
      · exact absurd trivial ((hproper.last _ hlaunch).2 trivial)
    rw [hstarting]
    refine Crew.launch ?_ c hnone
    exact hswap.evolves (listeners_of_answered hanswered (fun h => h) fun h => h) hanswered.network
  · rw [hstarting, List.map_nil, List.append_nil]
    refine hswap.evolves (listeners_of_answered hanswered hlisten fun htell => ?_) hanswered.network
    cases r with
    | tellLeft id => exact hdriving
    | _ => exact htell

/-- What was last subscribed to has no listener yet. -/
theorem Sound.recent_driven (h : Sound start body m log) (hanswer : (reply, node) ∈ m.node.answers r)
    {before : List (Exchange NodeSignature)} {connection : Nat} {o : ConsumerOptions} {id : Nat}
    (hlast : exchanged .main log ++ [⟨r, reply⟩] = before ++ [⟨.subscribe connection o, .ok id⟩]) :
    id ≤ (complied node).network.broker.issued
      ∧ ∀ l ∈ (complied node).listeners, l.subscription ≠ id := by
  have hanswered := Node.answered_of_mem hanswer
  obtain ⟨-, hx⟩ := List.append_inj' hlast rfl
  obtain ⟨rfl, hreply⟩ := Sigma.mk.inj (List.cons.inj hx).1
  obtain rfl := eq_of_heq hreply
  obtain ⟨hstarting, hending⟩ := unstaffed hanswered fun h => h
  rw [complied_eq (hstarting.trans h.starting) (hending.trans h.ending),
    listeners_of_answered hanswered (fun h => h) fun h => h]
  obtain ⟨hok, rfl⟩ := Prod.mk.inj (List.mem_singleton.1 hanswer)
  have hissued : id = m.node.network.broker.issued + 1
      ∧ (m.node.network.subscribe connection o).2.broker.issued = id := by
    simp only [Network.subscribe, Network.attempt, Network.keep] at hok ⊢
    split at hok
    · cases hok
    next hfault =>
      exact Broker.issued_subscribe hok.symm
  refine ⟨Nat.le_of_eq hissued.2.symm, fun l hl hid => ?_⟩
  have hold := h.crew.issued l hl
  omega

/-- The runner function is there once it was launched. -/
theorem Sound.launched_driven (h : Sound start body m log) (htasks : m.tasks.Perm (t :: rest))
    (hid : t.id = .main) (hanswer : (reply, node) ∈ m.node.answers r)
    (hproper : Proper (exchanged .main log ++ [⟨r, reply⟩]))
    (htasks' : m'.tasks = (({ t with current := next reply } :: rest)
      ++ node.starting.map m.duties.task).filter fun other => other.id ∉ node.ending) :
    (exchanged .launched log = [] ∧ ∀ t ∈ m'.tasks, t.id ≠ .launched)
      ∨ ∃ c k q, ⟨.launch c, k⟩ ∈ exchanged .main log ++ [⟨r, reply⟩]
        ∧ (m.duties.body (.launch c)).Leads (exchanged .launched log) q
        ∧ ∀ t ∈ m'.tasks, t.id = .launched → t.current = q := by
  have hlaunches : ∀ other ∈ m'.tasks, other.id = .launched →
      other ∈ m.tasks ∨ other ∈ node.starting.map m.duties.task := by
    intro other hother hlaunched
    rw [htasks'] at hother
    rcases List.mem_append.1 (List.mem_filter.1 hother).1 with hold | hnew
    · rcases List.mem_cons.1 hold with rfl | hrest
      · cases hid.symm.trans hlaunched
      · exact .inl (Sound.mem_rest htasks hrest)
    · exact .inr hnew
  have hmore : exchanged .main log ⊆ exchanged .main log ++ [⟨r, reply⟩] :=
    List.subset_append_left _ _
  rcases starting_of_answered (Node.answered_of_mem hanswer) h.starting with
    ⟨id, c, -, hstarting⟩ | ⟨c, hr, hstarting⟩ | ⟨-, hstarting⟩
  · rw [hstarting] at hlaunches
    refine h.launched_kept (fun other hother hlaunched => ?_) hmore
    refine (hlaunches other hother hlaunched).resolve_right fun hnew => ?_
    obtain rfl := List.mem_singleton.1 hnew
    cases hlaunched
  · obtain rfl : r = .launch c := hr
    rcases h.launched with ⟨hnothing, hnone⟩ | ⟨c', k, q, hlaunch, -, -⟩
    · refine .inr ⟨c, reply, m.duties.body (.launch c), by simp, ?_, fun other hother hlaunched => ?_⟩
      · rw [hnothing]
        exact .here _
      · rw [hstarting] at hlaunches
        rcases hlaunches other hother hlaunched with hold | hnew
        · exact absurd hlaunched (hnone other hold)
        · obtain rfl := List.mem_singleton.1 hnew
          rfl
    · exact absurd trivial ((hproper.last _ hlaunch).2 trivial)
  · rw [hstarting] at hlaunches
    refine h.launched_kept (fun other hother hlaunched => ?_) hmore
    exact (hlaunches other hother hlaunched).resolve_right List.not_mem_nil

theorem Sound.answered_main (h : Sound start body m log) (hbody : Driver start body)
    (htasks : m.tasks.Perm (t :: rest)) (hid : t.id = .main)
    (hask : t.current = .ask (S := NodeSignature) r next) (hanswer : (reply, node) ∈ m.node.answers r)
    (hduties : m'.duties = m.duties) (hnode : m'.node = complied node)
    (htasks' : m'.tasks = (({ t with current := next reply } :: rest)
      ++ node.starting.map m.duties.task).filter fun other => other.id ∉ node.ending) :
    Sound start body m' (log ++ [⟨t.id, r, reply⟩]) := by
  have ht := Sound.mem htasks
  have hanswered := Node.answered_of_mem hanswer
  have hat := h.leads_main ht hid
  rw [hask] at hat
  have hdriving : r.IsDriving := (hbody.within.leads hat).2.1
  have hleads := hat.snoc reply
  have hcoherent := h.coherent_snoc hanswer
  have hproper := hbody.proper _ _ hleads hcoherent
  have hmain : exchanged .main (log ++ [⟨t.id, r, reply⟩]) = exchanged .main log ++ [⟨r, reply⟩] := by
    rw [exchanged_append, hid, exchanged_own]
  have hlaunched : exchanged .launched (log ++ [⟨t.id, r, reply⟩]) = exchanged .launched log := by
    rw [exchanged_append, exchanged_other (by simp [hid]), List.append_nil]
  have hstays : ({ t with current := next reply } : Task) ∈ m'.tasks := by
    rw [htasks']
    refine List.mem_filter.2 ⟨by simp, ?_⟩
    simpa [hid] using main_notMem_ending hanswered h.ending
  refine ⟨hnode ▸ starting_complied node, hnode ▸ rfl, ?_, ?_, hmain ▸ hcoherent, ?_, ?_, ?_⟩
  · rw [htasks', hduties, hnode]
    exact crew_complied (h.crew_driven htasks hid hdriving hanswer hproper)
  · rw [hmain]
    exact .inl ⟨_, hstays, hid, hleads⟩
  · rw [hnode, hmain, List.foldl_append, ← h.conduct]
    have hcomplied : (complied node).conduct = node.conduct :=
      Node.conduct_endTasks node.ending { node with starting := [] }
    exact hcomplied.trans hanswered.conduct
  · rw [hmain, hnode]
    exact fun before connection o id => h.recent_driven hanswer
  · rw [hmain, hlaunched, hduties]
    exact h.launched_driven htasks hid hanswer hproper htasks'

/-- Every event keeps the invariant. -/
theorem sound_after (hbody : Driver start body) {moved : List Move} (h : Sound start body m log)
    (heffect : Effect m moved m') : Sound start body m' (log ++ moved) := by
  cases heffect with
  | outside htasks hduties hnode =>
    rw [List.append_nil]
    exact h.outside htasks hduties hnode
  | again htasks hdone hduties hnode htasks' =>
    rw [List.append_nil]
    exact h.again hbody htasks hdone hduties hnode htasks'
  | finished htasks hdone hduties hnode htasks' =>
    rw [List.append_nil]
    exact h.finished htasks hdone hduties hnode htasks'
  | @answered _ t _ _ _ _ _ htasks hask hanswer hduties hnode htasks' =>
    cases hid : t.id with
    | main => exact hid ▸ h.answered_main hbody htasks hid hask hanswer hduties hnode htasks'
    | listener s => exact hid ▸ h.answered_listener htasks hid hask hanswer hduties hnode htasks'
    | launched => exact hid ▸ h.answered_launched htasks hid hask hanswer hduties hnode htasks'

/-- A machine with nobody but its driving task, before anything is asked. -/
theorem sound_nil (htasks : m.tasks = [t]) (hid : t.id = .main) (hstarting : m.node.starting = [])
    (hending : m.node.ending = []) (hlisteners : m.node.listeners = [])
    (hbroker : m.node.network.broker.Orderly) : Sound m.node.conduct t.current m [] where
  starting := hstarting
  ending := hending
  crew := by
    have hnobody : ∀ {P : Listener → Prop}, ∀ l ∈ m.node.listeners, P l := by simp [hlisteners]
    refine ⟨by simp [htasks], by simp [hlisteners], fun t' ht' s hs => ?_, hnobody, hnobody, hnobody,
      hbroker⟩
    rw [htasks] at ht'
    rw [List.mem_singleton.1 ht', hid] at hs
    cases hs
  main := .inl ⟨t, htasks ▸ List.mem_singleton.2 rfl, hid, .here _⟩
  coherent := trivial
  conduct := rfl
  recent before connection o id hlast := by simp [exchanged] at hlast
  launched := by
    refine .inl ⟨rfl, fun t' ht' => ?_⟩
    rw [htasks] at ht'
    rw [List.mem_singleton.1 ht', hid]
    rintro ⟨⟩

theorem sound_during (hbody : Driver start body) (h : Sound start body m log) (es : List Event) :
    Sound start body (m.during es) (log ++ m.log es) :=
  invariant_during (fun _ _ _ _ hm heffect => sound_after hbody hm heffect) h es

end Machine
end Waystation
