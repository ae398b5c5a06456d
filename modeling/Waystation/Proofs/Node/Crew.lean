import Waystation.Proofs.Node.Listeners
/-!
The crew of a node: its tasks, the listeners it keeps a record of, and the subscriptions these read.
Every listener that has not ended has one task of its own, and once it has left its group or has ended
nobody holds its subscription any more.
-/
namespace Waystation

namespace Node

variable {n node : Node} {subscription : Nat}

/-- Is nobody a reader of a subscription, unless leaving a group fails? -/
def Free (n : Node) (subscription : Nat) : Prop :=
  n.network.faults.unsubscribe = none → ¬n.network.broker.Holds subscription

theorem Free.evolves (h : n.Free subscription) (hevolves : n.network.Evolves node.network)
    (hissued : subscription ≤ n.network.broker.issued) : node.Free subscription := by
  intro hfault
  rw [hevolves.faults] at hfault
  exact hevolves.broker.not_holds hissued (h hfault)

theorem mem_changeListener {f : Listener → Listener} {l : Listener} :
    l ∈ (n.changeListener subscription f).listeners
      ↔ ∃ old ∈ n.listeners, l = if old.subscription = subscription then f old else old := by
  simp only [changeListener, List.mem_map, eq_comm]

theorem map_subscription_changeListener {f : Listener → Listener}
    (hf : ∀ l, (f l).subscription = l.subscription) :
    (n.changeListener subscription f).listeners.map (·.subscription)
      = n.listeners.map (·.subscription) := by
  rw [changeListener, List.map_map]
  refine List.map_congr_left fun l _ => ?_
  simp only [Function.comp]
  split
  · exact hf l
  · rfl

end Node

/-- The task of a listener, as far as it has come. -/
structure Attends (d : Duties) (n : Node) (t : Task) (l : Listener) (c : Context)
    (stage : Listener.Stage) : Prop where
  listener : l ∈ n.listeners
  id : t.id = .listener l.subscription
  goesOn : l.hasEnded = false
  body : t.body = Listener.round l.subscription (d.work c)
  current : Listener.At l.subscription (d.work c) stage t.current
  free : stage ≠ .serving → n.Free l.subscription
  hasLeft : stage = .told → l.hasLeft = true

/-- The invariant of tasks and listeners. -/
structure Crew (d : Duties) (n : Node) (tasks : List Task) : Prop where
  ids : (tasks.map (·.id)).Nodup
  unique : (n.listeners.map (·.subscription)).Nodup
  attends : ∀ t ∈ tasks, ∀ s, t.id = .listener s → ∃ l c stage, Attends d n t l c stage
  attended : ∀ l ∈ n.listeners, l.hasEnded = false → ∃ t ∈ tasks, t.id = .listener l.subscription
  issued : ∀ l ∈ n.listeners, l.subscription ≤ n.network.broker.issued
  free : ∀ l ∈ n.listeners, l.hasLeft = true ∨ l.hasEnded = true → n.Free l.subscription
  orderly : n.network.broker.Orderly

namespace Crew

variable {d : Duties} {n node : Node} {t t' : Task} {tasks tasks' rest : List Task}

theorem perm (h : Crew d n tasks) (hperm : tasks.Perm tasks') : Crew d n tasks' where
  ids := (hperm.map _).nodup_iff.1 h.ids
  unique := h.unique
  attends t ht := h.attends t (hperm.mem_iff.2 ht)
  attended l hl hgoes := by
    obtain ⟨t, ht, hid⟩ := h.attended l hl hgoes
    exact ⟨t, hperm.mem_iff.1 ht, hid⟩
  issued := h.issued
  free := h.free
  orderly := h.orderly

/-- The listener of a task is the one with its subscription. -/
theorem listener_eq (h : Crew d n tasks) {l l' : Listener} (hl : l ∈ n.listeners)
    (hl' : l' ∈ n.listeners) (hs : l.subscription = l'.subscription) : l = l' :=
  eq_of_nodup_map h.unique hl hl' hs

theorem task_eq (h : Crew d n tasks) (ht : t ∈ tasks) (ht' : t' ∈ tasks) (hid : t.id = t'.id) :
    t = t' :=
  eq_of_nodup_map h.ids ht ht' hid

/-- A change to the network that leaves the listeners as they are. -/
theorem evolves (h : Crew d n tasks) (hlisteners : node.listeners = n.listeners)
    (hevolves : n.network.Evolves node.network) : Crew d node tasks where
  ids := h.ids
  unique := hlisteners ▸ h.unique
  attends t ht s hs := by
    obtain ⟨l, c, stage, ha⟩ := h.attends t ht s hs
    refine ⟨l, c, stage, hlisteners ▸ ha.listener, ha.id, ha.goesOn, ha.body, ha.current, ?_,
      ha.hasLeft⟩
    exact fun hstage => (ha.free hstage).evolves hevolves (h.issued l ha.listener)
  attended := hlisteners ▸ h.attended
  issued l hl := Nat.le_trans (h.issued l (hlisteners ▸ hl)) hevolves.broker.issued
  free l hl hgone :=
    (h.free l (hlisteners ▸ hl) hgone).evolves hevolves (h.issued l (hlisteners ▸ hl))
  orderly := hevolves.broker.orderly h.orderly

/-- The tasks behind the first are other tasks. -/
theorem rest_ne (h : Crew d n (t :: rest)) {other : Task} (hother : other ∈ rest) :
    other.id ≠ t.id := by
  have hnot : t.id ∉ rest.map (·.id) := (List.nodup_cons.1 h.ids).1
  intro hid
  rw [← hid] at hnot
  exact hnot (List.mem_map_of_mem hother)

/-- Another program for a task; that of a listener must attend to it. -/
theorem swap (h : Crew d n (t :: rest)) (hid : t'.id = t.id)
    (ht' : ∀ s, t.id = .listener s → ∃ l c stage, Attends d n t' l c stage) :
    Crew d n (t' :: rest) where
  ids := by
    have hids := h.ids
    rwa [List.map_cons, ← hid, ← List.map_cons] at hids
  unique := h.unique
  attends other ht s hs := by
    rcases List.mem_cons.1 ht with rfl | hrest
    · exact ht' s (hid ▸ hs)
    · exact h.attends other (List.mem_cons_of_mem _ hrest) s hs
  attended l hl hgoes := by
    obtain ⟨other, ht, hs⟩ := h.attended l hl hgoes
    rcases List.mem_cons.1 ht with rfl | hrest
    · exact ⟨t', List.mem_cons_self, hid ▸ hs⟩
    · exact ⟨other, List.mem_cons_of_mem _ hrest, hs⟩
  issued := h.issued
  free := h.free
  orderly := h.orderly

theorem unmarked {f : Listener → Listener} {s : Nat} (h : Crew d n tasks)
    (hf : ∀ l, (f l).subscription = l.subscription) :
    ((n.changeListener s f).listeners.map (·.subscription)).Nodup
      ∧ ∀ l ∈ (n.changeListener s f).listeners, l.subscription ≤ n.network.broker.issued := by
  rw [Node.map_subscription_changeListener hf]
  refine ⟨h.unique, fun l hl => ?_⟩
  obtain ⟨old, hold, rfl⟩ := Node.mem_changeListener.1 hl
  split
  · exact hf old ▸ h.issued old hold
  · exact h.issued old hold

/-- A listener whose subscription nobody holds tells that it has left. -/
theorem tellLeft (h : Crew d n tasks) {s : Nat} (hfree : n.Free s) :
    Crew d (n.changeListener s fun l => { l with hasLeft := true }) tasks where
  ids := h.ids
  unique := (h.unmarked (s := s) (f := fun l => { l with hasLeft := true }) fun _ => rfl).1
  attends t ht s' hs := by
    obtain ⟨l, c, stage, ha⟩ := h.attends t ht s' hs
    refine ⟨if l.subscription = s then { l with hasLeft := true } else l, c, stage, ?_⟩
    have hmem : (if l.subscription = s then { l with hasLeft := true } else l)
        ∈ (n.changeListener s fun l => { l with hasLeft := true }).listeners :=
      Node.mem_changeListener.2 ⟨l, ha.listener, rfl⟩
    split at hmem
    next hsame =>
      rw [if_pos hsame]
      exact ⟨hmem, ha.id, ha.goesOn, ha.body, ha.current, ha.free, fun _ => rfl⟩
    next hother =>
      rw [if_neg hother]
      exact ⟨hmem, ha.id, ha.goesOn, ha.body, ha.current, ha.free, ha.hasLeft⟩
  attended l hl hgoes := by
    obtain ⟨old, hold, rfl⟩ := Node.mem_changeListener.1 hl
    have hold' : old.hasEnded = false := by
      split at hgoes
      · exact hgoes
      · exact hgoes
    obtain ⟨t, ht, hid⟩ := h.attended old hold hold'
    refine ⟨t, ht, ?_⟩
    split
    · exact hid
    · exact hid
  issued := (h.unmarked (s := s) (f := fun l => { l with hasLeft := true }) fun _ => rfl).2
  free l hl hgone := by
    obtain ⟨old, hold, rfl⟩ := Node.mem_changeListener.1 hl
    split at hgone
    next hsame =>
      rw [if_pos hsame, hsame]
      exact hfree
    next hother =>
      rw [if_neg hother]
      exact h.free old hold hgone
  orderly := h.orderly

/-- A task ends; a listener lets go of its subscription. -/
theorem endTask (h : Crew d n tasks) (id : TaskId) :
    Crew d (n.endTask id) (tasks.filter fun t => t.id ≠ id) := by
  have hids : ((tasks.filter fun t => t.id ≠ id).map (·.id)).Nodup :=
    h.ids.sublist (List.filter_sublist.map _)
  cases id with
  | listener s =>
    have hdrop : n.network.Evolves { n.network with broker := n.network.broker.drop s } :=
      n.network.evolves_after (.drop s)
    obtain ⟨hunique, hissued⟩ :=
      h.unmarked (s := s) (f := fun l => { l with hasEnded := true }) fun _ => rfl
    refine ⟨hids, hunique, fun t ht s' hs => ?_, fun l hl hgoes => ?_, fun l hl => ?_,
      fun l hl hgone => ?_, hdrop.broker.orderly h.orderly⟩
    · obtain ⟨htask, hid⟩ := List.mem_filter.1 ht
      obtain ⟨l, c, stage, ha⟩ := h.attends t htask s' hs
      have hother : l.subscription ≠ s := by
        rintro rfl
        simp [ha.id] at hid
      refine ⟨l, c, stage, Node.mem_changeListener.2 ⟨l, ha.listener, (if_neg hother).symm⟩, ha.id,
        ha.goesOn, ha.body, ha.current, fun hstage => ?_, ha.hasLeft⟩
      exact (ha.free hstage).evolves hdrop (h.issued l ha.listener)
    · obtain ⟨old, hold, rfl⟩ := Node.mem_changeListener.1 hl
      split at hgoes
      · cases hgoes
      next hother =>
        obtain ⟨t, ht, hid⟩ := h.attended old hold hgoes
        rw [if_neg hother]
        exact ⟨t, List.mem_filter.2 ⟨ht, by simp [hid, hother]⟩, hid⟩
    · exact Nat.le_trans (hissued l hl) hdrop.broker.issued
    · obtain ⟨old, hold, rfl⟩ := Node.mem_changeListener.1 hl
      split at hgone
      next hsame =>
        rw [if_pos hsame, hsame]
        exact fun _ => h.orderly.sound.not_holds_drop s
      next hother =>
        rw [if_neg hother]
        exact (h.free old hold hgone).evolves hdrop (h.issued old hold)
  | main | launched =>
    refine ⟨hids, h.unique, fun t ht => h.attends t (List.mem_filter.1 ht).1, fun l hl hgoes => ?_,
      h.issued, h.free, h.orderly⟩
    obtain ⟨t, ht, hid⟩ := h.attended l hl hgoes
    exact ⟨t, List.mem_filter.2 ⟨ht, by simp [hid]⟩, hid⟩

theorem endTasks (h : Crew d n tasks) (ids : List TaskId) :
    Crew d (ids.foldl Node.endTask n) (tasks.filter fun t => t.id ∉ ids) := by
  induction ids generalizing n tasks with
  | nil =>
    have hall : tasks.filter (fun t => t.id ∉ ([] : List TaskId)) = tasks := by simp
    rw [hall]
    exact h
  | cons id ids ih =>
    have hrest := ih (h.endTask id)
    rw [List.filter_filter] at hrest
    have hboth : (fun t : Task => decide (t.id ∉ id :: ids))
        = fun t => decide (t.id ∉ ids) && decide (t.id ≠ id) := by
      funext t
      by_cases hid : t.id = id
      · simp [hid]
      · simp [hid]
    rw [List.foldl_cons, hboth]
    exact hrest

/-- A listener joins for a subscription of its own. -/
theorem listen (h : Crew d n tasks) {s : Nat} (c : Context) (hs : s ≤ n.network.broker.issued)
    (hnew : ∀ l ∈ n.listeners, l.subscription ≠ s)
    (hlisteners : node.listeners = n.listeners ++ [{ subscription := s }])
    (hnetwork : node.network = n.network) :
    Crew d node (tasks ++ [d.task (.listen s c)]) where
  ids := by
    rw [List.map_append]
    refine List.nodup_append.2 ⟨h.ids, by simp, ?_⟩
    rintro id hid other hother rfl
    obtain ⟨t, ht, rfl⟩ := List.mem_map.1 hid
    obtain ⟨l, c', stage, ha⟩ := h.attends t ht s (List.mem_singleton.1 hother)
    exact hnew l ha.listener (TaskId.listener.inj (ha.id.symm.trans (List.mem_singleton.1 hother)))
  unique := by
    rw [hlisteners, List.map_append]
    refine List.nodup_append.2 ⟨h.unique, by simp, ?_⟩
    rintro x hx y hy rfl
    obtain ⟨l, hl, rfl⟩ := List.mem_map.1 hx
    exact hnew l hl (List.mem_singleton.1 hy)
  attends t ht s' hs' := by
    have hfree : ∀ {s}, n.Free s → node.Free s := fun hf => by rwa [Node.Free, hnetwork]
    rcases mem_snoc.1 ht with hold | rfl
    · obtain ⟨l, c', stage, ha⟩ := h.attends t hold s' hs'
      exact ⟨l, c', stage, hlisteners ▸ List.mem_append_left _ ha.listener, ha.id, ha.goesOn, ha.body,
        ha.current, fun hstage => hfree (ha.free hstage), ha.hasLeft⟩
    · refine ⟨{ subscription := s }, c, .serving, ?_, rfl, rfl, rfl, .round, ?_, ?_⟩
      · rw [hlisteners]
        exact List.mem_append_right _ (List.mem_singleton.2 rfl)
      · exact fun hstage => absurd rfl hstage
      · exact fun hstage => nomatch hstage
  attended l hl hgoes := by
    rw [hlisteners] at hl
    rcases mem_snoc.1 hl with hold | rfl
    · obtain ⟨t, ht, hid⟩ := h.attended l hold hgoes
      exact ⟨t, List.mem_append_left _ ht, hid⟩
    · exact ⟨_, List.mem_append_right _ (List.mem_singleton.2 rfl), rfl⟩
  issued l hl := by
    rw [hlisteners] at hl
    rw [hnetwork]
    rcases mem_snoc.1 hl with hold | rfl
    · exact h.issued l hold
    · exact hs
  free l hl hgone := by
    rw [hlisteners] at hl
    rw [Node.Free, hnetwork]
    rcases mem_snoc.1 hl with hold | rfl
    · exact h.free l hold hgone
    · rcases hgone with hleft | hended
      · cases hleft
      · cases hended
  orderly := hnetwork ▸ h.orderly

/-- The runner function joins, if it is not there yet. -/
theorem launch (h : Crew d n tasks) (c : Context) (hnone : ∀ t ∈ tasks, t.id ≠ .launched) :
    Crew d n (tasks ++ [d.task (.launch c)]) where
  ids := by
    rw [List.map_append]
    refine List.nodup_append.2 ⟨h.ids, by simp, ?_⟩
    rintro id hid other hother rfl
    obtain ⟨t, ht, rfl⟩ := List.mem_map.1 hid
    exact hnone t ht (List.mem_singleton.1 hother)
  unique := h.unique
  attends t ht s hs := by
    rcases mem_snoc.1 ht with hold | rfl
    · exact h.attends t hold s hs
    · cases hs
  attended l hl hgoes := by
    obtain ⟨t, ht, hid⟩ := h.attended l hl hgoes
    exact ⟨t, List.mem_append_left _ ht, hid⟩
  issued := h.issued
  free := h.free
  orderly := h.orderly

end Crew
end Waystation
