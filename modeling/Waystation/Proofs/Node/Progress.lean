import Waystation.Proofs.Node.Dismissal
/-!
What the tasks of a node can bring about by themselves. Once the listeners are to stop, each of them can
leave whatever it works on; so whoever awaits them can go on, and so can whoever makes requests that are
always answered.
-/
namespace Waystation

namespace NodeRequest

/-- Requests that are answered at once. -/
def IsPrompt : NodeRequest → Prop
  | leave _ | tellLeft _ | subscriber | setSubscriber _ | subscribe .. | listen .. | stopListeners
  | abortListeners | setRunner _ | connect _ | streamMax .. | openSettings .. | close _ | launch _
  | returned _ | turnAway | cancel | abortLaunched | conclude _ => True
  | _ => False

theorem IsPrompt.answers_ne_nil {r : NodeRequest} (h : r.IsPrompt) (n : Node) : n.answers r ≠ [] := by
  cases r <;> first | exact h.elim | exact List.cons_ne_nil _ _

end NodeRequest

namespace Machine

/-- A task goes on; nothing happens from outside. -/
def Event.IsOwn : Event → Prop
  | .go _ _ => True
  | _ => False

/-- Can the tasks bring something about by themselves, while the driving task stays where it is? -/
def Aside (m : Machine) (P : Machine → Prop) : Prop :=
  ∃ es, (∀ e ∈ es, e.IsOwn) ∧ exchanged .main (m.log es) = [] ∧ P (m.during es)

variable {start : Conduct} {body : Program NodeSignature Turn} {m m' : Machine} {log : List Move}
variable {P Q : Machine → Prop} {t : Task}

theorem Aside.now (h : P m) : m.Aside P := ⟨[], (fun _ he => nomatch he), rfl, h⟩

theorem log_cons (m : Machine) (e : Event) (es : List Event) :
    m.log (e :: es) = m.moves e ++ (m.after e).log es :=
  rfl

@[simp] theorem log_singleton (m : Machine) (e : Event) : m.log [e] = m.moves e :=
  List.append_nil _

theorem Aside.step {e : Event} (he : e.IsOwn) (hmoves : exchanged .main (m.moves e) = [])
    (h : (m.after e).Aside P) : m.Aside P := by
  obtain ⟨es, hown, hnone, hP⟩ := h
  refine ⟨e :: es, List.forall_mem_cons.2 ⟨he, hown⟩, ?_, hP⟩
  rw [log_cons, exchanged_append, hmoves, hnone, List.append_nil]

theorem Aside.bind (h : m.Aside P)
    (hP : ∀ es, (∀ e ∈ es, e.IsOwn) → exchanged .main (m.log es) = [] → P (m.during es) →
      (m.during es).Aside Q) : m.Aside Q := by
  obtain ⟨es, hown, hnone, hes⟩ := h
  obtain ⟨es', hown', hnone', hQ⟩ := hP es hown hnone hes
  refine ⟨es ++ es', List.forall_mem_append.2 ⟨hown, hown'⟩, ?_, ?_⟩
  · rw [log_append, exchanged_append, hnone, hnone', List.append_nil]
  · rw [during_append]
    exact hQ

/-! One task goes on. -/

theorem exists_place (ht : t ∈ m.tasks) : ∃ place : Nat, m.tasks[place]? = some t := by
  obtain ⟨place, hlt, hget⟩ := List.mem_iff_getElem.1 ht
  exact ⟨place, List.getElem?_eq_some_iff.2 ⟨hlt, hget⟩⟩

theorem exists_go {r : NodeRequest} {next : r.Reply → Program NodeSignature Turn} {reply : r.Reply}
    {node : Node} (ht : t ∈ m.tasks) (hask : t.current = .ask (S := NodeSignature) r next)
    (hanswer : (reply, node) ∈ m.node.answers r) :
    ∃ e, e.IsOwn ∧ m.moves e = [⟨t.id, r, reply⟩] ∧ (m.after e).node = complied node
      ∧ ∃ rest, m.tasks.Perm (t :: rest) ∧ (m.after e).tasks
        = (({ t with current := next reply } :: rest)
          ++ node.starting.map m.duties.task).filter fun other => other.id ∉ node.ending := by
  obtain ⟨place, hplace⟩ := exists_place ht
  obtain ⟨answer, hlt, hget⟩ := List.mem_iff_getElem.1 hanswer
  have hanswer' : (m.node.answers r)[answer]? = some (reply, node) :=
    List.getElem?_eq_some_iff.2 ⟨hlt, hget⟩
  have hgo : m.go place answer
      = ({ m with
          node
          queue := { t with current := next reply } :: m.tasks.eraseIdx place
          waiting := [] }.comply, [⟨t.id, r, reply⟩]) := by
    simp only [go, hplace, hask, hanswer']
  refine ⟨.go place answer, trivial, ?_, ?_, m.tasks.eraseIdx place, ?_, ?_⟩
  · rw [moves, hgo]
  · rw [after, hgo]
    rfl
  · obtain ⟨hplaceLt, hplaceGet⟩ := List.getElem?_eq_some_iff.1 hplace
    rw [← hplaceGet]
    exact (List.getElem_cons_eraseIdx_perm hplaceLt).symm
  · rw [after, hgo]
    simp only [tasks, comply, endTasks, List.filter_nil, List.append_nil]

theorem exists_go_again (ht : t ∈ m.tasks) (hdone : t.current = .done .again) :
    ∃ e, e.IsOwn ∧ m.moves e = [] ∧ (m.after e).node = m.node
      ∧ { t with current := t.body } ∈ (m.after e).tasks := by
  obtain ⟨place, hplace⟩ := exists_place ht
  have hgo : m.go place 0
      = ({ m with
          queue := { t with current := t.body } :: m.tasks.eraseIdx place
          waiting := [] }, []) := by
    simp only [go, hplace, hdone]
  refine ⟨.go place 0, trivial, ?_, ?_, ?_⟩
  · rw [moves, hgo]
  · rw [after, hgo]
  · rw [after, hgo]
    exact List.mem_append_left _ List.mem_cons_self

theorem exists_go_finished (ht : t ∈ m.tasks) (hdone : t.current = .done .finished) :
    ∃ e, e.IsOwn ∧ m.moves e = [] ∧ (m.after e).node = m.node.endTask t.id := by
  obtain ⟨place, hplace⟩ := exists_place ht
  have hgo : m.go place 0
      = ({ m with queue := m.tasks.eraseIdx place, waiting := [] }.endTasks [t.id], []) := by
    simp only [go, hplace, hdone]
  refine ⟨.go place 0, trivial, ?_, ?_⟩
  · rw [moves, hgo]
  · rw [after, hgo]
    rfl

/-- A request that neither starts nor ends tasks takes its task further. -/
theorem Sound.exists_step {r : NodeRequest} {next : r.Reply → Program NodeSignature Turn}
    {reply : r.Reply} {node : Node} (h : Sound start body m log) (ht : t ∈ m.tasks)
    (hask : t.current = .ask (S := NodeSignature) r next) (hanswer : (reply, node) ∈ m.node.answers r)
    (hstaff : ¬r.IsStaffing) :
    ∃ e, e.IsOwn ∧ m.moves e = [⟨t.id, r, reply⟩] ∧ (m.after e).node = node
      ∧ { t with current := next reply } ∈ (m.after e).tasks := by
  obtain ⟨e, he, hmoves, hnode, rest, -, htasks⟩ := exists_go ht hask hanswer
  obtain ⟨hstarting, hending⟩ := unstaffed (Node.answered_of_mem hanswer) hstaff
  rw [h.starting] at hstarting
  rw [h.ending] at hending
  rw [complied_eq hstarting hending] at hnode
  refine ⟨e, he, hmoves, hnode, ?_⟩
  rw [htasks, hstarting, hending]
  simp

/-! A listener leaves when it is to stop. -/

/-- Is a listener gone, if there is one? -/
def Lacks (subscription : Nat) (m : Machine) : Prop :=
  ∀ l ∈ m.node.listeners, l.subscription = subscription → l.IsGone

variable {s : Nat} {rest : Program NodeSignature Turn}

theorem aside_exchanged {id : TaskId} (hid : id ≠ .main) (x : Exchange NodeSignature) {e : Event}
    (hmoves : m.moves e = [⟨id, x⟩]) : exchanged .main (m.moves e) = [] := by
  rw [hmoves, exchanged_other hid]

theorem Sound.leaves_out (h : Sound start body m log) (ht : t ∈ m.tasks) (hid : t.id = .listener s)
    (hcurrent : t.current = .ask (S := NodeSignature) (.tellLeft s) fun _ => rest) :
    m.Aside (Lacks s) := by
  obtain ⟨e, he, hmoves, hnode, -⟩ := h.exists_step ht hcurrent (List.mem_singleton.2 rfl) fun h => h
  refine .step he (aside_exchanged (by simp [hid]) _ hmoves) (.now fun l hl hs => ?_)
  rw [hnode] at hl
  obtain ⟨old, -, rfl⟩ := Node.mem_changeListener.1 hl
  by_cases hsame : old.subscription = s
  · rw [if_pos hsame]
    exact .inl rfl
  · rw [if_neg hsame] at hs
    exact absurd hs hsame

theorem Sound.leaves_departing (hbody : Driver start body) (h : Sound start body m log)
    (ht : t ∈ m.tasks) (hid : t.id = .listener s)
    (hcurrent : t.current = (Listener.depart s >>= fun _ => rest)) : m.Aside (Lacks s) := by
  obtain ⟨e, he, hmoves, -, htask⟩ := h.exists_step ht hcurrent (List.mem_singleton.2 rfl) fun h => h
  have hnext := sound_after hbody h (m.after_effect e)
  exact .step he (aside_exchanged (by simp [hid]) _ hmoves) (hnext.leaves_out htask hid rfl)

theorem Sound.leaves_round (hbody : Driver start body) (h : Sound start body m log)
    (hstopping : m.node.stopping = true) (ht : t ∈ m.tasks) (hid : t.id = .listener s)
    {toWork : Delivery → Work} (hcurrent : t.current = Listener.round s toWork) :
    m.Aside (Lacks s) := by
  have hanswer : (Taken.stopped, m.node) ∈ m.node.answers (.take s) := by
    simp only [Node.answers, Node.takeAnswers, hstopping]
    exact List.mem_singleton.2 rfl
  obtain ⟨e, he, hmoves, -, htask⟩ := h.exists_step ht hcurrent hanswer fun h => h
  have hnext := sound_after hbody h (m.after_effect e)
  exact .step he (aside_exchanged (by simp [hid]) _ hmoves) (hnext.leaves_departing hbody htask hid rfl)

/-- A listener that is finished is gone once it ends. -/
theorem leaves_finished (ht : t ∈ m.tasks) (hid : t.id = .listener s)
    (hcurrent : t.current = .done .finished) : m.Aside (Lacks s) := by
  obtain ⟨e, he, hmoves, hnode⟩ := exists_go_finished ht hcurrent
  refine .step he (by rw [hmoves]; rfl) (.now fun l hl hs => ?_)
  rw [hnode, hid] at hl
  obtain ⟨old, -, rfl⟩ := Node.mem_changeListener.1 hl
  by_cases hsame : old.subscription = s
  · rw [if_pos hsame]
    exact .inr rfl
  · rw [if_neg hsame] at hs
    exact absurd hs hsame

/-- A listener that works gets on with it until it would wait, and then leaves. -/
theorem Sound.leaves_serve (hbody : Driver start body) (h : Sound start body m log)
    (hstopping : m.node.stopping = true) (ht : t ∈ m.tasks) (hid : t.id = .listener s)
    {toWork : Delivery → Work} (hround : t.body = Listener.round s toWork)
    (w : Work) (hcurrent : t.current = Listener.serve s w) :
    m.Aside (Lacks s) := by
  induction w generalizing m log t with
  | done result =>
    cases result with
    | error panic => exact leaves_finished ht hid hcurrent
    | ok u =>
      obtain ⟨e, he, hmoves, hnode, htask⟩ := exists_go_again ht hcurrent
      have hnext := sound_after hbody h (m.after_effect e)
      refine .step he (by rw [hmoves]; rfl) (hnext.leaves_round hbody ?_ htask hid hround)
      rw [hnode]
      exact hstopping
  | ask r next ih =>
    rw [Listener.serve] at hcurrent
    cases hanswers : m.node.workAnswers r with
    | nil =>
      have hanswer : (none, m.node) ∈ m.node.answers (.watched r) := by
        simp only [Node.answers, hanswers, Node.once, hstopping]
        exact List.mem_singleton.2 rfl
      obtain ⟨e, he, hmoves, -, htask⟩ := h.exists_step ht hcurrent hanswer fun h => h
      have hnext := sound_after hbody h (m.after_effect e)
      exact .step he (aside_exchanged (by simp [hid]) _ hmoves)
        (hnext.leaves_departing hbody htask hid rfl)
    | cons first others =>
      obtain ⟨reply, node⟩ := first
      have hanswer : (some reply, node) ∈ m.node.answers (.watched r) := by
        simp only [Node.answers, hanswers]
        exact List.mem_cons_self
      obtain ⟨e, he, hmoves, hnode, htask⟩ := h.exists_step ht hcurrent hanswer fun h => h
      have hnext := sound_after hbody h (m.after_effect e)
      refine .step he (aside_exchanged (by simp [hid]) _ hmoves)
        (ih reply hnext ?_ htask hid hround rfl)
      rw [hnode]
      exact (congrArg Conduct.stopping (Node.answered_of_mem hanswer).conduct).trans hstopping

/-- A listener that is to stop can leave, whatever it is doing. -/
theorem Sound.leaves (hbody : Driver start body) (h : Sound start body m log)
    (hstopping : m.node.stopping = true) (s : Nat) : m.Aside (Lacks s) := by
  by_cases hlacks : Lacks s m
  · exact .now hlacks
  · obtain ⟨l, hl, hs, hstays⟩ : ∃ l ∈ m.node.listeners, l.subscription = s ∧ ¬l.IsGone := by
      simpa [Lacks] using hlacks
    have hgoes : l.hasEnded = false := by
      cases hended : l.hasEnded with
      | false => rfl
      | true => exact absurd (.inr hended) hstays
    obtain ⟨t, ht, hid⟩ := h.crew.attended l hl hgoes
    rw [hs] at hid
    obtain ⟨l', c, stage, ha⟩ := h.crew.attends t ht s hid
    obtain rfl : l' = l := h.crew.listener_eq ha.listener hl
      ((TaskId.listener.inj (ha.id.symm.trans hid)).trans hs.symm)
    have hcurrent := ha.current
    rw [hs] at hcurrent
    generalize hp : t.current = p at hcurrent
    cases hcurrent with
    | round => exact h.leaves_round hbody hstopping ht hid hp
    | serve w => exact h.leaves_serve hbody hstopping ht hid (hs ▸ ha.body) w hp
    | broken => exact leaves_finished ht hid hp
    | departing => exact h.leaves_departing hbody ht hid hp
    | out => exact h.leaves_out ht hid hp
    | told => exact absurd (.inl (ha.hasLeft rfl)) hstays

/-- Unless the driving task asks for one, no listener is started. -/
theorem Sound.keeps_during (hbody : Driver start body) (h : Sound start body m log) {es : List Event}
    (hquiet : ∀ x ∈ exchanged .main (m.log es), ¬x.1.IsListen) : m.node.Keeps (m.during es).node := by
  induction es generalizing m log with
  | nil => exact .refl _
  | cons e es ih =>
    rw [log_cons, exchanged_append] at hquiet
    obtain ⟨hfirst, hrest⟩ := List.forall_mem_append.1 hquiet
    have heffect := m.after_effect e
    have hmoves : ∀ x ∈ m.moves e, ¬x.exchange.1.IsListen := by
      intro x hx hlisten
      have hmain := (h.may hbody heffect x hx).eq_main (.inr (.inr (.inl hlisten)))
      refine hfirst x.exchange ?_ hlisten
      rw [heffect.moved_eq hx, ← hmain, exchanged_own]
      exact List.mem_singleton.2 rfl
    exact (heffect.keeps hmoves).trans (ih (sound_after hbody h heffect) hrest)

theorem Sound.conduct_aside (hbody : Driver start body) (h : Sound start body m log) {es : List Event}
    (hnone : exchanged .main (m.log es) = []) : (m.during es).node.conduct = m.node.conduct := by
  rw [(sound_during hbody h es).conduct, h.conduct, exchanged_append, hnone, List.append_nil]

/-- All listeners that are to stop can leave. -/
theorem Sound.all_leave (hbody : Driver start body) (h : Sound start body m log)
    (hstopping : m.node.stopping = true) : m.Aside fun m => ∀ l ∈ m.node.listeners, l.IsGone := by
  -- one after the other; who has left stays away
  have hsome : ∀ subscriptions : List Nat, m.Aside fun m' => m.node.Keeps m'.node
      ∧ ∀ s ∈ subscriptions, Lacks s m' := by
    intro subscriptions
    induction subscriptions with
    | nil => exact .now ⟨.refl _, fun s hs => nomatch hs⟩
    | cons s subscriptions ih =>
      refine ih.bind fun es hown hnone hgone => ?_
      have hnow := sound_during hbody h es
      have hstill : (m.during es).node.stopping = true :=
        (congrArg Conduct.stopping (h.conduct_aside hbody hnone)).trans hstopping
      obtain ⟨es', hown', hnone', hlacks⟩ := hnow.leaves hbody hstill s
      have hkeeps : (m.during es).node.Keeps ((m.during es).during es').node :=
        hnow.keeps_during hbody (by simp [hnone'])
      refine ⟨es', hown', hnone', hgone.1.trans hkeeps, List.forall_mem_cons.2 ⟨hlacks, ?_⟩⟩
      intro s' hs' l' hl' hsub
      obtain ⟨l, hl, hbecomes⟩ := hkeeps l' hl'
      exact hbecomes.isGone (hgone.2 s' hs' l hl (hbecomes.subscription.symm.trans hsub))
  obtain ⟨es, hown, hnone, hkeeps, hgone⟩ := hsome (m.node.listeners.map (·.subscription))
  refine ⟨es, hown, hnone, fun l' hl' => ?_⟩
  obtain ⟨l, hl, hbecomes⟩ := hkeeps l' hl'
  exact hgone _ (List.mem_map.2 ⟨l, hl, hbecomes.subscription.symm⟩) l' hl' rfl

/-! The driving task goes on. -/

variable {q : Program NodeSignature Turn}

/-- What the driving task asks now is decided by what it has exchanged. -/
theorem Sound.main_at {r : NodeRequest} {next : r.Reply → Program NodeSignature Turn}
    (h : Sound start body m log)
    (hleads : body.Leads (exchanged .main log) (.ask (S := NodeSignature) r next)) :
    ∃ t ∈ m.tasks, t.id = .main ∧ t.current = .ask (S := NodeSignature) r next := by
  rcases h.main with ⟨t, ht, hid, hcurrent⟩ | ⟨-, hruns⟩
  · exact ⟨t, ht, hid, hleads.unique hcurrent⟩
  · cases hleads.unique (Program.leads_iff_runs.2 hruns)

/-- The driving task goes on if it is answered. -/
theorem Sound.main_step {r : NodeRequest} {next : r.Reply → Program NodeSignature Turn}
    {reply : r.Reply} {node : Node} (h : Sound start body m log)
    (hleads : body.Leads (exchanged .main log) (.ask (S := NodeSignature) r next))
    (hanswer : (reply, node) ∈ m.node.answers r) :
    ∃ e, e.IsOwn ∧ m.moves e = [⟨.main, r, reply⟩] := by
  obtain ⟨t, ht, hid, hcurrent⟩ := h.main_at hleads
  obtain ⟨e, he, hmoves, -⟩ := exists_go ht hcurrent hanswer
  exact ⟨e, he, hid ▸ hmoves⟩

/-- Does the driving task get an answer, after what the other tasks do? -/
def Proceeds (m : Machine) (r : NodeRequest) : Prop :=
  ∃ es, (∀ e ∈ es, e.IsOwn) ∧ ∃ reply, exchanged .main (m.log es) = [⟨r, reply⟩]

theorem proceeds_of_aside {r : NodeRequest} {next : r.Reply → Program NodeSignature Turn}
    (hbody : Driver start body) (h : Sound start body m log)
    (hleads : body.Leads (exchanged .main log) (.ask (S := NodeSignature) r next))
    (haside : m.Aside fun m => m.node.answers r ≠ []) : m.Proceeds r := by
  obtain ⟨es, hown, hnone, hanswers⟩ := haside
  have hnow := sound_during hbody h es
  obtain ⟨⟨reply, node⟩, hanswer⟩ := List.exists_mem_of_ne_nil _ hanswers
  have hstill : body.Leads (exchanged .main (log ++ m.log es)) (.ask (S := NodeSignature) r next) := by
    rwa [exchanged_append, hnone, List.append_nil]
  obtain ⟨e, he, hmoves⟩ := hnow.main_step hstill hanswer
  refine ⟨es ++ [e], List.forall_mem_append.2 ⟨hown, by simpa using he⟩, reply, ?_⟩
  rw [log_append, exchanged_append, hnone, log_singleton, hmoves, exchanged_own, List.nil_append]

theorem Sound.proceeds_prompt {r : NodeRequest} {next : r.Reply → Program NodeSignature Turn}
    (hbody : Driver start body) (h : Sound start body m log)
    (hleads : body.Leads (exchanged .main log) (.ask (S := NodeSignature) r next)) (hr : r.IsPrompt) :
    m.Proceeds r :=
  proceeds_of_aside hbody h hleads (.now (hr.answers_ne_nil m.node))

/-- The driving task can await listeners that are to stop. -/
theorem Sound.proceeds_awaitLeft {next : Unit → Program NodeSignature Turn} (hbody : Driver start body)
    (h : Sound start body m log)
    (hleads : body.Leads (exchanged .main log) (.ask (S := NodeSignature) .awaitLeft next)) :
    m.Proceeds .awaitLeft := by
  have hstopping : m.node.stopping = true := by
    have hproper := hbody.proper _ _ (hleads.snoc ()) (coherent_append.2 ⟨h.coherent, trivial, trivial⟩)
    have htold := stopping_of_told (k := start) (hproper.stops _ () [] rfl)
    rwa [← h.conduct] at htold
  refine proceeds_of_aside hbody h hleads ?_
  obtain ⟨es, hown, hnone, hgone⟩ := h.all_leave hbody hstopping
  refine ⟨es, hown, hnone, ?_⟩
  have hall : (m.during es).node.awaited.all (m.during es).node.isGone = true := by
    refine List.all_eq_true.2 fun s hs => ?_
    rw [Node.isGone]
    split
    next l hl => simpa [Listener.IsGone] using hgone l (List.mem_of_find?_eq_some hl)
    next => rfl
  simp [Node.answers, Node.once, hall]

/-- The driving task gets to its end, or to where user code waits, if it proceeds with whatever else it
asks. -/
theorem exists_end_of_proceeds (hbody : Driver start body) {I : Machine → List Move → Prop}
    (hproceeds : ∀ m log r next, I m log →
      body.Leads (exchanged .main log) (.ask (S := NodeSignature) r next) →
      (r.IsWork ∧ m.node.answers r = []) ∨ ∃ es, (∀ e ∈ es, e.IsOwn) ∧
        ∃ reply, exchanged .main (m.log es) = [⟨r, reply⟩] ∧ I (m.during es) (log ++ m.log es))
    (hI : I m log) (hleads : body.Leads (exchanged .main log) q) :
    ∃ es, (∀ e ∈ es, e.IsOwn) ∧ ∃ q', I (m.during es) (log ++ m.log es)
      ∧ body.Leads (exchanged .main (log ++ m.log es)) q'
      ∧ (q' = .done .finished
        ∨ ∃ r next, q' = .ask (S := NodeSignature) r next ∧ r.IsWork
          ∧ (m.during es).node.answers r = []) := by
  induction q generalizing m log with
  | done turn =>
    obtain rfl := (hbody.within.leads hleads).2
    refine ⟨[], (fun _ he => nomatch he), _, ?_, ?_, .inl rfl⟩
    · simpa [Machine.during, Machine.log, logged] using hI
    · simpa [Machine.log, logged] using hleads
  | ask r next ih =>
    rcases hproceeds m log r next hI hleads with hwaits | ⟨es, hown, reply, hexchanged, hnow⟩
    · refine ⟨[], (fun _ he => nomatch he), _, ?_, ?_, .inr ⟨r, next, rfl, hwaits⟩⟩
      · simpa [Machine.during, Machine.log, logged] using hI
      · simpa [Machine.log, logged] using hleads
    · have hnext : body.Leads (exchanged .main (log ++ m.log es)) (next reply) := by
        rw [exchanged_append, hexchanged]
        exact hleads.snoc reply
      obtain ⟨es', hown', q', hlater, hleads', hq'⟩ := ih reply hnow hnext
      refine ⟨es ++ es', List.forall_mem_append.2 ⟨hown, hown'⟩, q', ?_, ?_, ?_⟩
      · rwa [during_append, log_append, ← List.append_assoc]
      · rwa [log_append, ← List.append_assoc]
      · rwa [during_append]

end Machine
end Waystation
