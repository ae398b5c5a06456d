import Waystation.Proofs.Node.Launched
import Waystation.Proofs.Node.Moments
/-!
How tasks are dismissed, and why. Once the listeners have been awaited all of them are gone; once tasks
have been ended none of them is left; and what the driving task is told about the end of the node is
true.
-/
namespace Waystation

/-- Has a listener told that it takes no more messages, or ended? -/
def Listener.IsGone (l : Listener) : Prop := l.hasLeft = true ∨ l.hasEnded = true

/-- A listener later on. -/
structure Listener.Becomes (l l' : Listener) : Prop where
  subscription : l'.subscription = l.subscription
  hasLeft : l.hasLeft = true → l'.hasLeft = true
  hasEnded : l.hasEnded = true → l'.hasEnded = true

theorem Listener.Becomes.refl (l : Listener) : l.Becomes l := ⟨rfl, fun h => h, fun h => h⟩

theorem Listener.Becomes.trans {l l' l'' : Listener} (h : l.Becomes l') (h' : l'.Becomes l'') :
    l.Becomes l'' :=
  ⟨h'.subscription.trans h.subscription, fun hl => h'.hasLeft (h.hasLeft hl),
    fun hl => h'.hasEnded (h.hasEnded hl)⟩

theorem Listener.Becomes.isGone {l l' : Listener} (h : l.Becomes l') (hgone : l.IsGone) : l'.IsGone :=
  hgone.imp h.hasLeft h.hasEnded

namespace Node

variable {n n' n'' node : Node}

/-- Are the listeners of a node those of another, later on? -/
def Keeps (n n' : Node) : Prop := ∀ l' ∈ n'.listeners, ∃ l ∈ n.listeners, l.Becomes l'

theorem Keeps.refl (n : Node) : n.Keeps n := fun l hl => ⟨l, hl, .refl l⟩

theorem keeps_of_eq (h : n'.listeners = n.listeners) : n.Keeps n' := fun l hl =>
  ⟨l, h ▸ hl, .refl l⟩

theorem Keeps.trans (h : n.Keeps n') (h' : n'.Keeps n'') : n.Keeps n'' := by
  intro l'' hl''
  obtain ⟨l', hl', hlater⟩ := h' l'' hl''
  obtain ⟨l, hl, hsooner⟩ := h l' hl'
  exact ⟨l, hl, hsooner.trans hlater⟩

theorem keeps_changeListener (s : Nat) {f : Listener → Listener} (hf : ∀ l, Listener.Becomes l (f l)) :
    n.Keeps (n.changeListener s f) := by
  intro l' hl'
  obtain ⟨l, hl, rfl⟩ := mem_changeListener.1 hl'
  refine ⟨l, hl, ?_⟩
  split
  · exact hf l
  · exact .refl l

theorem keeps_endTask (n : Node) (id : TaskId) : n.Keeps (n.endTask id) := by
  cases id with
  | listener s =>
    exact keeps_changeListener (n := n) s fun l => ⟨rfl, fun h => h, fun _ => rfl⟩
  | main | launched => exact .refl n

theorem keeps_endTasks (ids : List TaskId) (n : Node) : n.Keeps (ids.foldl Node.endTask n) := by
  induction ids generalizing n with
  | nil => exact .refl n
  | cons id ids ih => exact (n.keeps_endTask id).trans (ih (n.endTask id))

/-- What the end of tasks leaves alone. -/
structure SameEnds (n n' : Node) : Prop where
  awaited : n'.awaited = n.awaited
  returned : n'.returned = n.returned
  requested : n'.shutdownRequested = n.shutdownRequested

theorem SameEnds.trans (h : n.SameEnds n') (h' : n'.SameEnds n'') : n.SameEnds n'' :=
  ⟨h'.awaited.trans h.awaited, h'.returned.trans h.returned, h'.requested.trans h.requested⟩

theorem sameEnds_endTask (n : Node) (id : TaskId) : n.SameEnds (n.endTask id) := by
  cases id <;> exact ⟨rfl, rfl, rfl⟩

theorem sameEnds_endTasks (ids : List TaskId) (n : Node) :
    n.SameEnds (ids.foldl Node.endTask n) := by
  induction ids generalizing n with
  | nil => exact ⟨rfl, rfl, rfl⟩
  | cons id ids ih => exact (n.sameEnds_endTask id).trans (ih (n.endTask id))

theorem keeps_complied (n : Node) : n.Keeps (Machine.complied n) :=
  keeps_endTasks n.ending { n with starting := [] }

theorem sameEnds_complied (n : Node) : n.SameEnds (Machine.complied n) := by
  obtain ⟨hawaited, hreturned, hrequested⟩ := sameEnds_endTasks n.ending { n with starting := [] }
  exact ⟨hawaited, hreturned, hrequested⟩

theorem map_subscription_endTasks (ids : List TaskId) (n : Node) :
    (ids.foldl Node.endTask n).listeners.map (·.subscription) = n.listeners.map (·.subscription) := by
  induction ids generalizing n with
  | nil => rfl
  | cons id ids ih =>
    rw [List.foldl_cons, ih]
    cases id with
    | listener s => exact map_subscription_changeListener (n := n) fun _ => rfl
    | main | launched => rfl

theorem map_subscription_complied (n : Node) :
    (Machine.complied n).listeners.map (·.subscription) = n.listeners.map (·.subscription) :=
  map_subscription_endTasks n.ending { n with starting := [] }

/-- An exchange keeps the listeners unless it starts one. -/
theorem Answered.keeps {x : Exchange NodeSignature} (h : n.Answered x node) (hx : ¬x.1.IsListen) :
    n.Keeps node := by
  have hlisteners := congrArg Node.listeners h.bare
  obtain ⟨r, reply⟩ := x
  cases r with
  | listen id c => exact absurd trivial hx
  | tellLeft s =>
    have htold := keeps_changeListener (n := n.bare) s
      (f := fun l => { l with hasLeft := true }) fun l => ⟨rfl, fun _ => rfl, fun h => h⟩
    intro l' hl'
    exact htold l' (hlisteners ▸ hl')
  | awaitEnd => cases reply <;> exact keeps_of_eq hlisteners
  | _ => exact keeps_of_eq hlisteners

theorem isGone_iff {s : Nat} (hgone : n.isGone s = true) {l : Listener}
    (hunique : (n.listeners.map (·.subscription)).Nodup) (hl : l ∈ n.listeners)
    (hs : l.subscription = s) : l.IsGone := by
  have hfind : n.listener? s = some l := by
    have hsome : (n.listener? s).isSome = true :=
      List.find?_isSome.2 ⟨l, hl, by simpa using hs⟩
    obtain ⟨l', hl'⟩ := Option.isSome_iff_exists.1 hsome
    have hs' : l'.subscription = s := by simpa using List.find?_some hl'
    rw [hl', eq_of_nodup_map hunique (List.mem_of_find?_eq_some hl') hl (hs'.trans hs.symm)]
  simpa [isGone, hfind, Listener.IsGone] using hgone

end Node

namespace NodeRequest

def IsReturned : NodeRequest → Prop
  | returned _ => True
  | _ => False

def IsAwaitEnd : NodeRequest → Prop
  | awaitEnd => True
  | _ => False

end NodeRequest

namespace Node

variable {n : Node} {x : Exchange NodeSignature}

theorem shutdownRequested_obey (n : Node) (x : Exchange NodeSignature) :
    (n.obey x).shutdownRequested = n.shutdownRequested := by
  obtain ⟨r, reply⟩ := x
  cases r with
  | awaitEnd => cases reply <;> rfl
  | _ => rfl

theorem awaited_obey (hlisten : ¬x.1.IsListen) (hawait : ¬x.1.IsAwaitLeft) :
    (n.obey x).awaited = n.awaited := by
  obtain ⟨r, reply⟩ := x
  cases r with
  | listen s c => exact absurd trivial hlisten
  | awaitLeft => exact absurd trivial hawait
  | awaitEnd => cases reply <;> rfl
  | _ => rfl

theorem returned_obey (hreturned : ¬x.1.IsReturned) (hawait : ¬x.1.IsAwaitEnd) :
    (n.obey x).returned = n.returned := by
  obtain ⟨r, reply⟩ := x
  cases r with
  | returned r => exact absurd trivial hreturned
  | awaitEnd => exact absurd trivial hawait
  | _ => rfl

end Node

namespace Machine

variable {m m' : Machine} {moved : List Move} {log : List Move}

theorem Effect.keeps (h : Effect m moved m') (hmoved : ∀ x ∈ moved, ¬x.exchange.1.IsListen) :
    m.node.Keeps m'.node := by
  cases h with
  | outside htasks hduties hnode => exact Node.keeps_of_eq (by rw [hnode.same])
  | again htasks hdone hduties hnode htasks' => exact hnode ▸ .refl _
  | finished htasks hdone hduties hnode htasks' => exact hnode ▸ m.node.keeps_endTask _
  | @answered _ t _ r _ reply node htasks hask hanswer hduties hnode htasks' =>
    have hkeeps := (Node.answered_of_mem hanswer).keeps (hmoved _ (List.mem_singleton.2 rfl))
    exact hnode ▸ hkeeps.trans node.keeps_complied

/-- What an effect does about the end of a node: nothing, or what the exchange does that is made. -/
theorem Effect.ends (h : Effect m moved m') :
    moved = [] ∧ m'.node.awaited = m.node.awaited ∧ m'.node.returned = m.node.returned
        ∧ (m.node.shutdownRequested = true → m'.node.shutdownRequested = true)
      ∨ ∃ id x, moved = [⟨id, x⟩] ∧ (m.node.bare.obey x).SameEnds m'.node := by
  cases h with
  | outside htasks hduties hnode =>
    exact .inl ⟨rfl, by rw [hnode.same], by rw [hnode.same], hnode.requested⟩
  | again htasks hdone hduties hnode htasks' =>
    exact .inl ⟨rfl, by rw [hnode], by rw [hnode], fun h => hnode ▸ h⟩
  | @finished _ t _ htasks hdone hduties hnode htasks' =>
    have hsame := m.node.sameEnds_endTask t.id
    rw [hnode]
    exact .inl ⟨rfl, hsame.awaited, hsame.returned, hsame.requested.trans⟩
  | @answered _ t _ r _ reply node htasks hask hanswer hduties hnode htasks' =>
    have hbare := (Node.answered_of_mem hanswer).bare
    have hobeyed : (m.node.bare.obey ⟨r, reply⟩).SameEnds node := hbare ▸ ⟨rfl, rfl, rfl⟩
    rw [hnode]
    exact .inr ⟨t.id, ⟨r, reply⟩, rfl, hobeyed.trans node.sameEnds_complied⟩

theorem Effect.requested (h : Effect m moved m') (hrequested : m.node.shutdownRequested = true) :
    m'.node.shutdownRequested = true := by
  rcases h.ends with ⟨-, -, -, hkept⟩ | ⟨id, x, -, hsame⟩
  · exact hkept hrequested
  · rw [hsame.requested, Node.shutdownRequested_obey]
    exact hrequested

/-- The listeners to be awaited change when one is started, or when they have been awaited. -/
theorem Effect.awaited (h : Effect m moved m')
    (hmoved : ∀ x ∈ moved, ¬x.exchange.1.IsListen ∧ ¬x.exchange.1.IsAwaitLeft) :
    m'.node.awaited = m.node.awaited := by
  rcases h.ends with ⟨-, hkept, -, -⟩ | ⟨id, x, rfl, hsame⟩
  · exact hkept
  · obtain ⟨hlisten, hawait⟩ := hmoved _ (List.mem_singleton.2 rfl)
    exact hsame.awaited.trans (Node.awaited_obey hlisten hawait)

/-- What the runner function has returned stays until somebody is told. -/
theorem Effect.returned_eq (h : Effect m moved m')
    (hmoved : ∀ x ∈ moved, ¬x.exchange.1.IsReturned ∧ ¬x.exchange.1.IsAwaitEnd) :
    m'.node.returned = m.node.returned := by
  rcases h.ends with ⟨-, -, hkept, -⟩ | ⟨id, x, rfl, hsame⟩
  · exact hkept
  · obtain ⟨hreturned, hawait⟩ := hmoved _ (List.mem_singleton.2 rfl)
    exact hsame.returned.trans (Node.returned_obey hreturned hawait)

/-- What the runner function tells is there for the driving task. -/
theorem Effect.returned_after {id : TaskId} {r : Returned} {u : Unit}
    (h : Effect m [⟨id, .returned r, u⟩] m') : m'.node.returned = some r := by
  rcases h.ends with ⟨hnone, -⟩ | ⟨id', x, hmoved, hsame⟩
  · cases hnone
  · cases hmoved
    exact hsame.returned

/-- Whoever is told about the end either takes what the runner function has returned, or leaves it. -/
theorem Effect.returned_awaitEnd {id : TaskId} {reply : End}
    (h : Effect m [⟨id, .awaitEnd, reply⟩] m') :
    m'.node.returned = m.node.returned ∨ m'.node.returned = none ∧ ∃ r, reply = .returned r := by
  rcases h.ends with ⟨hnone, -⟩ | ⟨id', x, hmoved, hsame⟩
  · cases hnone
  · cases hmoved
    cases reply with
    | signal | exhausted => exact .inl hsame.returned
    | returned r => exact .inr ⟨hsame.returned, r, rfl⟩

/-- What the runner function has returned is what it told. -/
theorem Effect.returned (h : Effect m moved m') {r : Returned} (hr : m'.node.returned = some r) :
    m.node.returned = some r ∨ ∃ id u, moved = [⟨id, .returned r, u⟩] := by
  rcases h.moved_cases with rfl | ⟨⟨id, request, reply⟩, rfl⟩
  · exact .inl ((h.returned_eq fun x hx => absurd hx List.not_mem_nil).symm.trans hr)
  · cases request with
    | returned r' =>
      obtain rfl := Option.some.inj (h.returned_after.symm.trans hr)
      exact .inr ⟨id, reply, rfl⟩
    | awaitEnd =>
      rcases h.returned_awaitEnd with hkept | ⟨htaken, -⟩
      · exact .inl (hkept.symm.trans hr)
      · cases htaken.symm.trans hr
    | _ =>
      refine .inl ((h.returned_eq fun x hx => ?_).symm.trans hr)
      obtain rfl := List.mem_singleton.1 hx
      exact ⟨fun h => h, fun h => h⟩

/-- Listeners are kept a record of. -/
theorem Effect.subscriptions (h : Effect m moved m') :
    m.node.listeners.map (·.subscription) <+: m'.node.listeners.map (·.subscription) := by
  cases h with
  | outside htasks hduties hnode =>
    have hsame : m'.node.listeners = m.node.listeners := by rw [hnode.same]
    exact hsame ▸ List.prefix_rfl
  | again htasks hdone hduties hnode htasks' => exact hnode ▸ List.prefix_rfl
  | @finished _ t _ htasks hdone hduties hnode htasks' =>
    rw [hnode]
    exact (Node.map_subscription_endTasks [t.id] m.node) ▸ List.prefix_rfl
  | @answered _ t _ r _ reply node htasks hask hanswer hduties hnode htasks' =>
    have hbare := congrArg Node.listeners (Node.answered_of_mem hanswer).bare
    have hsame : node.listeners = (m.node.bare.obey ⟨r, reply⟩).listeners := hbare
    have hnode' : m'.node.listeners.map (·.subscription) = node.listeners.map (·.subscription) := by
      rw [hnode]
      exact node.map_subscription_complied
    rw [hnode', hsame]
    cases r with
    | listen s c =>
      have hlisten : (m.node.bare.obey ⟨.listen s c, reply⟩).listeners
          = m.node.listeners ++ [{ subscription := s }] := rfl
      rw [hlisten, List.map_append]
      exact List.prefix_append _ _
    | tellLeft s =>
      have hmap : (m.node.bare.changeListener s fun l => { l with hasLeft := true }).listeners.map
          (·.subscription) = m.node.listeners.map (·.subscription) :=
        Node.map_subscription_changeListener fun _ => rfl
      exact hmap ▸ List.prefix_rfl
    | awaitEnd => cases reply <;> exact List.prefix_rfl
    | _ => exact List.prefix_rfl

theorem subscriptions_during (m : Machine) (es : List Event) :
    m.node.listeners.map (·.subscription) <+: (m.during es).node.listeners.map (·.subscription) := by
  induction es generalizing m with
  | nil => exact List.prefix_rfl
  | cons e es ih => exact (m.after_effect e).subscriptions.trans (ih (m.after e))

/-- There is a record of every listener that was started. -/
theorem exists_listener {id : TaskId} {s : Nat} {c : Context} {u : Unit} {es : List Event}
    (h : ⟨.listen s c, u⟩ ∈ exchanged id (m.log es)) :
    ∃ l ∈ (m.during es).node.listeners, l.subscription = s := by
  obtain ⟨earlier, e, later, rfl, hmoves⟩ := exists_moment_of_mem h
  have heffect := (m.during earlier).after_effect e
  rw [hmoves] at heffect
  obtain ⟨t, rest, next, node, -, -, -, hanswer, hnode, -⟩ := heffect.of_move
  obtain ⟨-, rfl⟩ := Prod.mk.inj (List.mem_singleton.1 hanswer)
  have hnow : s ∈ ((m.during earlier).after e).node.listeners.map (·.subscription) := by
    rw [hnode, Node.map_subscription_complied, List.map_append]
    exact List.mem_append_right _ (List.mem_singleton.2 rfl)
  rw [during_append]
  exact List.mem_map.1 ((subscriptions_during _ later).subset hnow)

/-- The tasks after an event were there, or it has started them. -/
theorem Effect.task (h : Effect m moved m') {t' : Task} (ht' : t' ∈ m'.tasks)
    (hstarting : m.node.starting = []) :
    (∃ t ∈ m.tasks, t.id = t'.id) ∨ (∃ x ∈ moved, x.exchange.1.IsListen ∧ ∃ s, t'.id = .listener s)
      ∨ ∃ x ∈ moved, x.exchange.1.IsLaunch ∧ t'.id = .launched := by
  cases h with
  | outside htasks hduties hnode => exact .inl ⟨t', htasks ▸ ht', rfl⟩
  | again htasks hdone hduties hnode htasks' =>
    rw [htasks'] at ht'
    rcases List.mem_cons.1 ht' with rfl | hrest
    · exact .inl ⟨_, Sound.mem htasks, rfl⟩
    · exact .inl ⟨t', htasks.mem_iff.2 (List.mem_cons_of_mem _ hrest), rfl⟩
  | finished htasks hdone hduties hnode htasks' =>
    rw [htasks'] at ht'
    exact .inl ⟨t', htasks.mem_iff.2 (List.mem_cons_of_mem _ (List.mem_filter.1 ht').1), rfl⟩
  | @answered _ t _ r next reply node htasks hask hanswer hduties hnode htasks' =>
    rw [htasks'] at ht'
    rcases List.mem_append.1 (List.mem_filter.1 ht').1 with hold | hnew
    · rcases List.mem_cons.1 hold with rfl | hrest
      · exact .inl ⟨t, Sound.mem htasks, rfl⟩
      · exact .inl ⟨t', htasks.mem_iff.2 (List.mem_cons_of_mem _ hrest), rfl⟩
    · rcases starting_of_answered (Node.answered_of_mem hanswer) hstarting with
        ⟨id, c, hr, hjob⟩ | ⟨c, hr, hjob⟩ | ⟨-, hjob⟩
      · rw [hjob] at hnew
        obtain rfl := List.mem_singleton.1 hnew
        refine .inr (.inl ⟨_, List.mem_singleton.2 rfl, ?_, id, rfl⟩)
        exact hr ▸ trivial
      · rw [hjob] at hnew
        obtain rfl := List.mem_singleton.1 hnew
        refine .inr (.inr ⟨_, List.mem_singleton.2 rfl, ?_, rfl⟩)
        exact hr ▸ trivial
      · rw [hjob] at hnew
        cases hnew

end Machine

namespace NodeRequest

theorem EndsListening.not_isListen {r : NodeRequest} (h : r.EndsListening) : ¬r.IsListen := by
  cases r with
  | listen _ _ => exact h.elim
  | _ => exact fun h => h

/-- Requests of listeners. -/
def IsAttending : NodeRequest → Prop
  | work _ | watched _ | take _ | leave _ | tellLeft _ => True
  | _ => False

end NodeRequest

/-- The requests of a task. -/
def TaskId.May : TaskId → NodeRequest → Prop
  | .main => NodeRequest.IsDriving
  | .launched => NodeRequest.IsLaunched
  | .listener _ => NodeRequest.IsAttending

/-- Requests that only the driving task makes. -/
theorem TaskId.May.eq_main {id : TaskId} {r : NodeRequest} (h : id.May r)
    (hr : r.EndsListening ∨ r.EndsLaunching ∨ r.IsListen ∨ r.IsLaunch) : id = .main := by
  cases id with
  | main => rfl
  | launched => cases r <;> first | exact (h : False).elim | simp_all [NodeRequest.EndsListening,
      NodeRequest.EndsLaunching, NodeRequest.IsListen, NodeRequest.IsLaunch]
  | listener s => cases r <;> first | exact (h : False).elim | simp_all [NodeRequest.EndsListening,
      NodeRequest.EndsLaunching, NodeRequest.IsListen, NodeRequest.IsLaunch]

namespace Machine

variable {start : Conduct} {body : Program NodeSignature Turn} {m m' : Machine} {log : List Move}
variable {moved : List Move}

/-- Every task makes requests of its own. -/
theorem Sound.may (hbody : Driver start body) (h : Sound start body m log) (heffect : Effect m moved m') :
    ∀ x ∈ moved, x.task.May x.exchange.1 := by
  cases heffect with
  | outside => exact fun x hx => nomatch hx
  | again => exact fun x hx => nomatch hx
  | finished => exact fun x hx => nomatch hx
  | @answered _ t rest r next reply node htasks hask hanswer hduties hnode htasks' =>
    intro x hx
    obtain rfl := List.mem_singleton.1 hx
    have ht := Sound.mem htasks
    cases hid : t.id with
    | main =>
      have hleads := h.leads_main ht hid
      rw [hask] at hleads
      exact (hbody.within.leads hleads).2.1
    | launched =>
      obtain ⟨c, k, -, hleads⟩ := h.leads_launched ht hid
      rw [hask] at hleads
      exact ((within_launch m.duties c).leads hleads).2.1
    | listener s =>
      obtain ⟨l, c, stage, ha⟩ := h.crew.attends t ht s hid
      have hcurrent := ha.current
      rw [hask] at hcurrent
      obtain ⟨stage', hadvance, -⟩ := hcurrent.advance reply
      cases hadvance <;> trivial

/-- What was dismissed, and what was told about the end. -/
structure Dismissed (m : Machine) (log : List Move) : Prop where
  awaited : ∀ l ∈ m.node.listeners, l.subscription ∈ m.node.awaited ∨ l.IsGone
  left : ⟨.awaitLeft, ()⟩ ∈ exchanged .main log → ∀ l ∈ m.node.listeners, l.IsGone
  listeners : ⟨.abortListeners, ()⟩ ∈ exchanged .main log →
    ∀ t ∈ m.tasks, ∀ s, t.id ≠ .listener s
  launched : ⟨.abortLaunched, ()⟩ ∈ exchanged .main log → ∀ t ∈ m.tasks, t.id ≠ .launched
  returned : ∀ r, m.node.returned = some r → ⟨.returned r, ()⟩ ∈ exchanged .launched log
  told : ∀ r, ⟨.returned r, ()⟩ ∈ exchanged .launched log →
    m.node.returned = some r ∨ ⟨.awaitEnd, .returned r⟩ ∈ exchanged .main log
  ended : ∀ r, ⟨.awaitEnd, .returned r⟩ ∈ exchanged .main log →
    ⟨.returned r, ()⟩ ∈ exchanged .launched log
  signal : ⟨.awaitEnd, .signal⟩ ∈ exchanged .main log → m.node.shutdownRequested = true
  exhausted : ⟨.awaitEnd, .exhausted⟩ ∈ exchanged .main log →
    ∀ l ∈ m.node.listeners, l.hasEnded = true
  stopped : ⟨.awaitStop, ()⟩ ∈ exchanged .main log →
    m.node.shutdownRequested = true ∨ ∀ l ∈ m.node.listeners, l.hasEnded = true

/-- What the driving task asks for is in its place behind all that it has asked for. -/
theorem Sound.inOrder (hbody : Driver start body) (h : Sound start body m log)
    (heffect : Effect m moved m') {x y : Exchange NodeSignature} (hx : x ∈ exchanged .main log)
    (hy : moved = [⟨.main, y⟩]) : InOrder x y := by
  have hnext := sound_after hbody h heffect
  obtain ⟨q, hleads⟩ := hnext.exists_leads
  have hproper := hbody.proper _ q hleads hnext.coherent
  rw [hy, exchanged_append, exchanged_own] at hproper
  exact hproper.last x hx

/-- No listener is started when that has come to its end. -/
theorem Sound.not_listen (hbody : Driver start body) (h : Sound start body m log)
    (heffect : Effect m moved m') {x : Exchange NodeSignature} (hx : x ∈ exchanged .main (log ++ moved))
    (hends : x.1.EndsListening) : ∀ y ∈ moved, ¬y.exchange.1.IsListen := by
  intro y hy hlisten
  have hmain := (h.may hbody heffect y hy).eq_main (.inr (.inr (.inl hlisten)))
  have hmoved : moved = [⟨.main, y.exchange⟩] := by
    rw [heffect.moved_eq hy, ← hmain]
  rcases heffect.mem_exchanged hx with hold | hnew
  · exact (h.inOrder hbody heffect hold hmoved).1 hends hlisten
  · rw [hmoved] at hnew
    obtain ⟨-, rfl⟩ := Move.mk.inj (List.cons.inj hnew).1
    exact NodeRequest.EndsListening.not_isListen hends hlisten

/-- No runner function is started when that has come to its end. -/
theorem Sound.not_launch (hbody : Driver start body) (h : Sound start body m log)
    (heffect : Effect m moved m') {x : Exchange NodeSignature} (hx : x ∈ exchanged .main log)
    (hends : x.1.EndsLaunching) : ∀ y ∈ moved, ¬y.exchange.1.IsLaunch := by
  intro y hy hlaunch
  have hmain := (h.may hbody heffect y hy).eq_main (.inr (.inr (.inr hlaunch)))
  have hmoved : moved = [⟨.main, y.exchange⟩] := by
    rw [heffect.moved_eq hy, ← hmain]
  exact (h.inOrder hbody heffect hx hmoved).2 hends hlaunch

/-- Once all that were to be awaited are gone, all listeners are. -/
theorem Dismissed.left_after (hd : Dismissed m log) (hcrew : Crew m.duties m.node m.tasks)
    (heffect : Effect m [⟨.main, .awaitLeft, ()⟩] m') : ∀ l ∈ m'.node.listeners, l.IsGone := by
  obtain ⟨t, rest, next, node, -, -, -, hanswer, -, -⟩ := heffect.of_move
  have hall : m.node.awaited.all m.node.isGone = true := by
    by_contra hnot
    simp only [Node.answers, Node.once, hnot] at hanswer
    cases hanswer
  intro l' hl'
  obtain ⟨l, hl, hbecomes⟩ := heffect.keeps (by simp [NodeRequest.IsListen]) l' hl'
  refine hbecomes.isGone ?_
  rcases hd.awaited l hl with hawaited | hgone
  · exact Node.isGone_iff (List.all_eq_true.1 hall _ hawaited) hcrew.unique hl rfl
  · exact hgone

/-- Once the listeners have been ended, none of their tasks is left. -/
theorem Sound.listeners_after (h : Sound start body m log)
    (heffect : Effect m [⟨.main, .abortListeners, ()⟩] m') :
    ∀ t ∈ m'.tasks, ∀ s, t.id ≠ .listener s := by
  obtain ⟨t, rest, next, node, htasks, hid, -, hanswer, -, htasks'⟩ := heffect.of_move
  obtain ⟨-, rfl⟩ := Prod.mk.inj (List.mem_singleton.1 hanswer)
  intro other hother s hs
  rw [htasks'] at hother
  obtain ⟨hmem, hnot⟩ := List.mem_filter.1 hother
  have hold : ∃ old ∈ m.tasks, old.id = .listener s := by
    simp only [h.starting, List.map_nil, List.append_nil] at hmem
    rcases List.mem_cons.1 hmem with rfl | hrest
    · exact ⟨t, Sound.mem htasks, hs⟩
    · exact ⟨other, htasks.mem_iff.2 (List.mem_cons_of_mem _ hrest), hs⟩
  obtain ⟨old, holdmem, hold⟩ := hold
  obtain ⟨l, c, stage, ha⟩ := h.crew.attends old holdmem s hold
  have hl : l.subscription = s := TaskId.listener.inj (ha.id.symm.trans hold)
  refine absurd ?_ (of_decide_eq_true hnot)
  rw [hs, ← hl]
  refine List.mem_append_right _ (List.mem_map.2 ⟨l, List.mem_filter.2 ⟨ha.listener, ?_⟩, rfl⟩)
  simp [ha.goesOn]

/-- Once the runner function has been ended, its task is not left. -/
theorem Effect.launched_after (heffect : Effect m [⟨.main, .abortLaunched, ()⟩] m') :
    ∀ t ∈ m'.tasks, t.id ≠ .launched := by
  obtain ⟨t, rest, next, node, htasks, hid, -, hanswer, -, htasks'⟩ := heffect.of_move
  obtain ⟨-, rfl⟩ := Prod.mk.inj (List.mem_singleton.1 hanswer)
  intro other hother hlaunched
  rw [htasks'] at hother
  refine absurd ?_ (of_decide_eq_true (List.mem_filter.1 hother).2)
  rw [hlaunched]
  exact List.mem_append_right _ (List.mem_singleton.2 rfl)

/-- What the driving task is told about the end is true. -/
theorem Effect.endAnswers {reply : End} (heffect : Effect m [⟨.main, .awaitEnd, reply⟩] m') :
    match reply with
    | .signal => m.node.shutdownRequested = true
    | .exhausted => ∀ l ∈ m.node.listeners, l.hasEnded = true
    | .returned r => m.node.returned = some r := by
  obtain ⟨t, rest, next, node, -, -, -, hanswer, -, -⟩ := heffect.of_move
  simp only [Node.answers, Node.endAnswers, Node.once] at hanswer
  rcases List.mem_append.1 hanswer with hearly | hreturned
  · rcases List.mem_append.1 hearly with hsignal | hexhausted
    · split at hsignal
      next hrequested =>
        obtain ⟨rfl, -⟩ := Prod.mk.inj (List.mem_singleton.1 hsignal)
        exact hrequested
      next => cases hsignal
    · split at hexhausted
      next hall =>
        obtain ⟨rfl, -⟩ := Prod.mk.inj (List.mem_singleton.1 hexhausted)
        exact List.all_eq_true.1 hall
      next => cases hexhausted
  · split at hreturned
    next r hr =>
      obtain ⟨rfl, -⟩ := Prod.mk.inj (List.mem_singleton.1 hreturned)
      exact hr
    next => cases hreturned

theorem Effect.stopAnswers (heffect : Effect m [⟨.main, .awaitStop, ()⟩] m') :
    m.node.shutdownRequested = true ∨ ∀ l ∈ m.node.listeners, l.hasEnded = true := by
  obtain ⟨t, rest, next, node, -, -, -, hanswer, -, -⟩ := heffect.of_move
  simp only [Node.answers, Node.once] at hanswer
  split at hanswer
  next hstop =>
    rcases Bool.or_eq_true _ _ ▸ hstop with hrequested | hall
    · exact .inl hrequested
    · exact .inr (List.all_eq_true.1 hall)
  next => cases hanswer

theorem all_ended (hkeeps : m.node.Keeps m'.node) (h : ∀ l ∈ m.node.listeners, l.hasEnded = true) :
    ∀ l ∈ m'.node.listeners, l.hasEnded = true := by
  intro l' hl'
  obtain ⟨l, hl, hbecomes⟩ := hkeeps l' hl'
  exact hbecomes.hasEnded (h l hl)

theorem Dismissed.awaited_after (hd : Dismissed m log) (heffect : Effect m moved m')
    (hmoved : ∀ x ∈ moved, ¬x.exchange.1.IsListen ∧ ¬x.exchange.1.IsAwaitLeft) :
    ∀ l ∈ m'.node.listeners, l.subscription ∈ m'.node.awaited ∨ l.IsGone := by
  intro l' hl'
  obtain ⟨l, hl, hbecomes⟩ := heffect.keeps (fun x hx => (hmoved x hx).1) l' hl'
  rw [heffect.awaited hmoved, hbecomes.subscription]
  exact (hd.awaited l hl).imp_right hbecomes.isGone

/-- A listener that starts is to be awaited. -/
theorem Dismissed.awaited_listen {id : TaskId} {r : NodeRequest} {reply : r.Reply}
    (hd : Dismissed m log) (heffect : Effect m [⟨id, r, reply⟩] m') (hr : r.IsListen) :
    ∀ l ∈ m'.node.listeners, l.subscription ∈ m'.node.awaited ∨ l.IsGone := by
  cases r with
  | listen s c =>
    obtain ⟨t, rest, next, node, -, -, -, hanswer, hnode, -⟩ := heffect.of_move
    obtain ⟨-, rfl⟩ := Prod.mk.inj (List.mem_singleton.1 hanswer)
    rw [hnode]
    intro l' hl'
    obtain ⟨l, hl, hbecomes⟩ := Node.keeps_complied _ l' hl'
    rw [(Node.sameEnds_complied _).awaited, hbecomes.subscription]
    rcases mem_snoc.1 hl with hold | rfl
    · exact (hd.awaited l hold).imp (List.mem_append_left _) hbecomes.isGone
    · exact .inl (List.mem_append_right _ (List.mem_singleton.2 rfl))
  | _ => exact hr.elim

/-- What the runner function has returned is taken once. -/
theorem Effect.taken_after {reply : End} (heffect : Effect m [⟨.main, .awaitEnd, reply⟩] m')
    {r : Returned} (hr : m.node.returned = some r) :
    m'.node.returned = some r ∨ reply = .returned r := by
  have hend := heffect.endAnswers
  rcases heffect.returned_awaitEnd with hkept | ⟨-, r', rfl⟩
  · exact .inl (hkept.trans hr)
  · obtain rfl := Option.some.inj (hr.symm.trans hend)
    exact .inr rfl

/-- What the runner function has told stays, or the driving task is told. -/
theorem Sound.kept_or_taken (hbody : Driver start body) (h : Sound start body m log)
    (heffect : Effect m moved m') {r : Returned} (hthere : m.node.returned = some r)
    (htold : ⟨.returned r, ()⟩ ∈ exchanged .launched log) :
    m'.node.returned = some r ∨ moved = [⟨.main, .awaitEnd, .returned r⟩] := by
  rcases heffect.moved_cases with rfl | ⟨⟨id, request, reply⟩, rfl⟩
  · exact .inl ((heffect.returned_eq fun x hx => absurd hx List.not_mem_nil).trans hthere)
  · have hmay := h.may hbody heffect _ (List.mem_singleton.2 rfl)
    cases request with
    | returned r' =>
      -- a runner function returns once, so this is what it told before
      have hid : id = .launched := by
        cases id with
        | launched => rfl
        | main | listener => exact hmay.elim
      subst hid
      have hagain : ∀ x ∈ exchanged .launched log ++ [⟨.returned r', reply⟩],
          x ∈ exchanged .launched (log ++ [⟨.launched, .returned r', reply⟩]) := by
        rw [exchanged_append, exchanged_own]
        exact fun x hx => hx
      obtain rfl := (sound_after hbody h heffect).returned_eq
        (hagain _ (List.mem_append_left _ htold)) (hagain _ (List.mem_append_right _ (.head _)))
      exact .inl heffect.returned_after
    | awaitEnd =>
      obtain rfl := hmay.eq_main (.inl trivial)
      refine (heffect.taken_after hthere).imp_right ?_
      rintro rfl
      rfl
    | _ =>
      refine .inl ((heffect.returned_eq fun x hx => ?_).trans hthere)
      obtain rfl := List.mem_singleton.1 hx
      exact ⟨fun h => h, fun h => h⟩

/-- What the runner function has told is there, or the driving task has been told. -/
theorem Dismissed.told_after (hbody : Driver start body) (h : Sound start body m log)
    (hd : Dismissed m log) (heffect : Effect m moved m') {r : Returned}
    (hr : ⟨.returned r, ()⟩ ∈ exchanged .launched (log ++ moved)) :
    m'.node.returned = some r ∨ ⟨.awaitEnd, .returned r⟩ ∈ exchanged .main (log ++ moved) := by
  rcases heffect.mem_exchanged hr with hbefore | rfl
  · rcases hd.told r hbefore with hthere | htaken
    · refine (h.kept_or_taken hbody heffect hthere hbefore).imp_right ?_
      rintro rfl
      rw [exchanged_append, exchanged_own]
      exact List.mem_append_right _ (List.mem_singleton.2 rfl)
    · rw [exchanged_append]
      exact .inr (List.mem_append_left _ htaken)
  · exact .inl heffect.returned_after

/-- Every event keeps what was dismissed. -/
theorem Dismissed.after (hbody : Driver start body) (h : Sound start body m log)
    (hd : Dismissed m log) (heffect : Effect m moved m') : Dismissed m' (log ++ moved) where
  awaited := by
    rcases heffect.moved_cases with rfl | ⟨⟨id, r, reply⟩, rfl⟩
    · exact hd.awaited_after heffect (fun y hy => nomatch hy)
    · by_cases hlisten : r.IsListen
      · exact hd.awaited_listen heffect hlisten
      · by_cases hawait : r.IsAwaitLeft
        · cases r with
          | awaitLeft =>
            obtain rfl := (h.may hbody heffect _ (List.mem_singleton.2 rfl)).eq_main (.inl trivial)
            exact fun l hl => .inr (hd.left_after h.crew heffect l hl)
          | _ => exact hawait.elim
        · refine hd.awaited_after heffect fun y hy => ?_
          obtain rfl := List.mem_singleton.1 hy
          exact ⟨hlisten, hawait⟩
  left hx := by
    have hkeeps := heffect.keeps (h.not_listen hbody heffect hx trivial)
    rcases heffect.mem_exchanged hx with hold | rfl
    · intro l' hl'
      obtain ⟨l, hl, hbecomes⟩ := hkeeps l' hl'
      exact hbecomes.isGone (hd.left hold l hl)
    · exact hd.left_after h.crew heffect
  listeners hx := by
    have hquiet := h.not_listen hbody heffect hx trivial
    rcases heffect.mem_exchanged hx with hold | rfl
    · intro t' ht' s hs
      rcases heffect.task ht' h.starting with ⟨t, ht, hid⟩ | ⟨y, hy, hlisten, -⟩ | ⟨y, -, -, hlaunched⟩
      · exact hd.listeners hold t ht s (hid.trans hs)
      · exact hquiet y hy hlisten
      · cases hlaunched.symm.trans hs
    · exact h.listeners_after heffect
  launched hx := by
    rcases heffect.mem_exchanged hx with hold | rfl
    · intro t' ht' hlaunched
      rcases heffect.task ht' h.starting with ⟨t, ht, hid⟩ | ⟨y, -, -, s, hs⟩ | ⟨y, hy, hlaunch, -⟩
      · exact hd.launched hold t ht (hid.trans hlaunched)
      · cases hs.symm.trans hlaunched
      · exact h.not_launch hbody heffect hold trivial y hy hlaunch
    · exact heffect.launched_after
  returned r hr := by
    rw [exchanged_append]
    rcases heffect.returned hr with hold | ⟨id, u, rfl⟩
    · exact List.mem_append_left _ (hd.returned r hold)
    · have hmay := h.may hbody heffect _ (List.mem_singleton.2 rfl)
      cases id with
      | main => exact hmay.elim
      | listener s => exact hmay.elim
      | launched =>
        rw [exchanged_own]
        exact List.mem_append_right _ (List.mem_singleton.2 rfl)
  told r hr := hd.told_after hbody h heffect hr
  ended r hx := by
    rw [exchanged_append]
    refine List.mem_append_left _ ?_
    rcases heffect.mem_exchanged hx with hold | rfl
    · exact hd.ended r hold
    · exact hd.returned r heffect.endAnswers
  signal hx := by
    rcases heffect.mem_exchanged hx with hold | rfl
    · exact heffect.requested (hd.signal hold)
    · exact heffect.requested heffect.endAnswers
  exhausted hx := by
    have hkeeps := heffect.keeps (h.not_listen hbody heffect hx trivial)
    rcases heffect.mem_exchanged hx with hold | rfl
    · exact all_ended hkeeps (hd.exhausted hold)
    · exact all_ended hkeeps heffect.endAnswers
  stopped hx := by
    have hkeeps := heffect.keeps (h.not_listen hbody heffect hx trivial)
    rcases heffect.mem_exchanged hx with hold | rfl
    · exact (hd.stopped hold).imp heffect.requested (all_ended hkeeps)
    · exact heffect.stopAnswers.imp heffect.requested (all_ended hkeeps)

/-- Nothing was dismissed where nothing was exchanged. -/
theorem dismissed_nil (hlisteners : m.node.listeners = []) (hreturned : m.node.returned = none) :
    Dismissed m [] := by
  have hnothing : ∀ {id : TaskId} {x : Exchange NodeSignature}, x ∉ exchanged id [] :=
    List.not_mem_nil
  refine ⟨fun l hl => ?_, fun h => absurd h hnothing, fun h => absurd h hnothing,
    fun h => absurd h hnothing, fun r hr => ?_, fun r h => absurd h hnothing,
    fun r h => absurd h hnothing, fun h => absurd h hnothing, fun h => absurd h hnothing,
    fun h => absurd h hnothing⟩
  · rw [hlisteners] at hl
    cases hl
  · rw [hreturned] at hr
    cases hr

theorem dismissed_during (hbody : Driver start body) (h : Sound start body m log)
    (hd : Dismissed m log) (es : List Event) : Dismissed (m.during es) (log ++ m.log es) := by
  have hboth := invariant_during (I := fun m log => Sound start body m log ∧ Dismissed m log)
    (fun m log moved m' hm heffect =>
      ⟨sound_after hbody hm.1 heffect, hm.2.after hbody hm.1 heffect⟩) ⟨h, hd⟩ es
  exact hboth.2

end Machine
end Waystation
