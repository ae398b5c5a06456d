import Waystation.Proofs.Broker.Numbers
import Waystation.Proofs.Node.Rounds
/-!
The histories of all listeners of a machine. Each listener goes its rounds, whatever the others do, and
reads the messages of its own subscription; one that has told that it left, or is finished, is a member
of no group.
-/
namespace Waystation.Machine

open Listener

variable {start : Conduct} {body : Program NodeSignature Turn} {m m' : Machine} {log : List Move}
variable {moved : List Move} {s : Nat} {t : Task} {rest : List Task}

/-- What a node that neither starts nor ends tasks is asked to end: its listeners, all of them, or its
runner function. -/
theorem ending_of_answered {n node : Node} {x : Exchange NodeSignature} (h : n.Answered x node)
    (hending : n.ending = []) (hs : .listener s ∈ node.ending) : x.1 = .abortListeners := by
  have hbare := congrArg Node.ending h.bare
  have hnone : n.bare.ending = [] := hending
  have hsame : node.ending = node.bare.ending := rfl
  rw [hsame, hbare] at hs
  obtain ⟨r, reply⟩ := x
  cases r with
  | abortListeners => rfl
  | abortLaunched => simp [Node.obey, hnone] at hs
  | awaitEnd => cases reply <;> simp [Node.obey, hnone] at hs
  | _ => simp [Node.obey, hnone, Node.changeListener] at hs

/-- The task of a listener stays until it is finished or all listeners are ended. -/
theorem Sound.task_stays (h : Sound start body m log) (heffect : Effect m moved m') (ht : t ∈ m.tasks)
    (hid : t.id = .listener s) : (∃ t' ∈ m'.tasks, t'.id = .listener s)
      ∨ t.current = .done .finished ∨ ∃ id u, moved = [⟨id, .abortListeners, u⟩] := by
  cases heffect with
  | outside htasks hduties hnode => exact .inl ⟨t, htasks ▸ ht, hid⟩
  | @again m' other rest htasks hdone hduties hnode htasks' =>
    rw [htasks']
    rcases List.mem_cons.1 (htasks.mem_iff.1 ht) with rfl | hrest
    · exact .inl ⟨_, List.mem_cons_self, hid⟩
    · exact .inl ⟨t, List.mem_cons_of_mem _ hrest, hid⟩
  | @finished m' other rest htasks hdone hduties hnode htasks' =>
    rcases List.mem_cons.1 (htasks.mem_iff.1 ht) with rfl | hrest
    · exact .inr (.inl hdone)
    · refine .inl ⟨t, ?_, hid⟩
      rw [htasks']
      exact List.mem_filter.2 ⟨hrest, by simpa using (h.crew.perm htasks).rest_ne hrest⟩
  | @answered m' other rest r next reply node htasks hask hanswer hduties hnode htasks' =>
    by_cases hends : .listener s ∈ node.ending
    · obtain rfl : r = .abortListeners :=
        ending_of_answered (Node.answered_of_mem hanswer) h.ending hends
      exact .inr (.inr ⟨_, _, rfl⟩)
    · have hstays : ∀ {t' : Task}, t' ∈ ({ other with current := next reply } :: rest : List Task) →
          t'.id = .listener s → ∃ t' ∈ m'.tasks, t'.id = .listener s := by
        intro t' ht' hid'
        refine ⟨t', ?_, hid'⟩
        rw [htasks']
        exact List.mem_filter.2 ⟨List.mem_append_left _ ht', by simpa [hid'] using hends⟩
      rcases List.mem_cons.1 (htasks.mem_iff.1 ht) with rfl | hrest
      · exact .inl (hstays List.mem_cons_self hid)
      · exact .inl (hstays (List.mem_cons_of_mem _ hrest) hid)

/-! Every listener goes its rounds. -/

/-- How far the listener of a subscription is: it has not been started, or it goes its rounds, and then
its task is there until it is finished or ended. -/
inductive Goes (m : Machine) (log : List Move) (s : Nat) : Prop
  | absent (hnever : ∀ c, ⟨.listen s c, ()⟩ ∉ exchanged .main log)
      (hnothing : exchanged (.listener s) log = []) (hnone : ∀ t ∈ m.tasks, t.id ≠ .listener s)
  | going {c : Context} {q : Program NodeSignature Turn}
      (hlisten : ⟨.listen s c, ()⟩ ∈ exchanged .main log)
      (hlistener : s ∈ m.node.listeners.map (·.subscription))
      (hstands : Stands s (m.duties.work c) (exchanged (.listener s) log) q)
      (htask : ∀ t ∈ m.tasks, t.id = .listener s →
        t.body = round s (m.duties.work c) ∧ t.current = q)
      (hended : (∀ t ∈ m.tasks, t.id ≠ .listener s) →
        ⟨.abortListeners, ()⟩ ∉ exchanged .main log → q = .done .finished)

/-- Other tasks leave a listener where it is. -/
theorem Goes.kept (h : Goes m log s) (hsound : Sound start body m log) (hbody : Driver start body)
    (heffect : Effect m moved m') (hlisten : ∀ c, ⟨.main, .listen s c, ()⟩ ∉ moved)
    (hother : exchanged (.listener s) moved = [])
    (hold : ∀ t ∈ m'.tasks, t.id = .listener s → t ∈ m.tasks) : Goes m' (log ++ moved) s := by
  cases h with
  | absent hnever hnothing hnone =>
    refine .absent (fun c hc => ?_) (by rw [exchanged_append, hnothing, hother]; rfl) fun t ht hid => ?_
    · rcases heffect.mem_exchanged hc with hbefore | rfl
      · exact hnever c hbefore
      · exact hlisten c (List.mem_singleton.2 rfl)
    · exact hnone t (hold t ht hid) hid
  | going hlisten hlistener hstands htask hended =>
    rw [← heffect.duties] at hstands htask
    refine .going (c := _) (q := _) ?_ (heffect.subscriptions.subset hlistener) ?_
      (fun t ht hid => htask t (hold t ht hid) hid) fun hnone hnever => ?_
    · rw [exchanged_append]
      exact List.mem_append_left _ hlisten
    · rwa [exchanged_append, hother, List.append_nil]
    · rw [exchanged_append] at hnever
      by_cases hthere : ∀ t ∈ m.tasks, t.id ≠ .listener s
      · exact hended hthere fun h => hnever (List.mem_append_left _ h)
      · obtain ⟨t, ht, hid⟩ : ∃ t ∈ m.tasks, t.id = .listener s := by simpa using hthere
        rcases hsound.task_stays heffect ht hid with ⟨t', ht', hid'⟩ | hdone | ⟨id, u, rfl⟩
        · exact absurd hid' (hnone t' ht')
        · exact (htask t ht hid).2.symm.trans hdone
        · obtain rfl := (hsound.may hbody heffect _ (List.mem_singleton.2 rfl)).eq_main (.inl trivial)
          rw [exchanged_own] at hnever
          exact absurd (List.mem_append_right _ (List.mem_singleton.2 rfl)) hnever

/-- A listener that goes on exchanges something and goes on from there. -/
theorem Goes.replied (h : Goes m log s) (hsound : Sound start body m log) (hbody : Driver start body)
    {r : NodeRequest} {reply : r.Reply} (heffect : Effect m [⟨.listener s, r, reply⟩] m') :
    Goes m' (log ++ [⟨.listener s, r, reply⟩]) s := by
  obtain ⟨t, rest, next, node, htasks, hid, hask, hanswer, hnode, htasks'⟩ := heffect.of_move
  have ht := Sound.mem htasks
  cases h with
  | absent _ hnothing hnone => exact absurd hid (hnone t ht)
  | @going c q hlisten hlistener hstands htask hended =>
    have hstaff : ¬r.IsStaffing := by
      have hmay := hsound.may hbody heffect _ (List.mem_singleton.2 rfl)
      cases r <;> first | exact (hmay : False).elim | exact fun h => h
    obtain ⟨-, -, -, hrest⟩ := hsound.goes_on (Node.answered_of_mem hanswer) hstaff hnode htasks'
    obtain ⟨hround, hcurrent⟩ := htask t ht hid
    rw [← hcurrent, hask] at hstands
    rw [← heffect.duties] at hstands hround
    refine .going (c := c) (q := next reply) ?_ (heffect.subscriptions.subset hlistener) ?_ ?_ fun hnone => ?_
    · rw [exchanged_append]
      exact List.mem_append_left _ hlisten
    · rw [exchanged_append, exchanged_own]
      exact hstands.step reply
    · rw [hrest]
      refine List.forall_mem_cons.2 ⟨fun _ => ⟨hround, rfl⟩, fun other hother hsame => ?_⟩
      exact absurd (hsame.trans hid.symm) ((hsound.crew.perm htasks).rest_ne hother)
    · exact absurd hid (hnone { t with current := next reply } (hrest ▸ List.mem_cons_self))

/-- A listener that has gone a round begins another one. -/
theorem Goes.again (h : Goes m log s) (hsound : Sound start body m log)
    (htasks : m.tasks.Perm (t :: rest)) (hid : t.id = .listener s) (hdone : t.current = .done .again)
    (hduties : m'.duties = m.duties) (hnode : m'.node = m.node)
    (htasks' : m'.tasks = { t with current := t.body } :: rest) : Goes m' log s := by
  have ht := Sound.mem htasks
  cases h with
  | absent _ hnothing hnone => exact absurd hid (hnone t ht)
  | going hlisten hlistener hstands htask hended =>
    obtain ⟨hround, hcurrent⟩ := htask t ht hid
    rw [← hcurrent, hdone] at hstands
    rw [← hduties] at hstands hround
    refine .going hlisten (hnode ▸ hlistener) hstands.again ?_ fun hnone => ?_
    · rw [htasks']
      refine List.forall_mem_cons.2 ⟨fun _ => ⟨hround, hround⟩, fun other hother hsame => ?_⟩
      exact absurd (hsame.trans hid.symm) ((hsound.crew.perm htasks).rest_ne hother)
    · exact absurd hid (hnone { t with current := t.body } (htasks' ▸ List.mem_cons_self))

/-- There is no listener for a subscription before one is started. -/
theorem Sound.fresh_of_listen (h : Sound start body m log) (hbody : Driver start body) {c : Context}
    {u : Unit} (heffect : Effect m [⟨.main, .listen s c, u⟩] m') :
    s ∉ m.node.listeners.map (·.subscription) := by
  have hnext := sound_after hbody h heffect
  obtain ⟨q, hleads⟩ := hnext.exists_leads
  have hproper := hbody.proper _ q hleads hnext.coherent
  rw [exchanged_append, exchanged_own] at hproper
  obtain ⟨earlier, connection, o, hearlier⟩ := hproper.listens _ s c u [] rfl
  intro hmem
  obtain ⟨l, hl, hs⟩ := List.mem_map.1 hmem
  exact (h.recent earlier connection o s hearlier).2 l hl hs

/-- A listener that is started begins its first round. -/
theorem Goes.listened (h : Goes m log s) (hsound : Sound start body m log) (hbody : Driver start body)
    {c : Context} {u : Unit} (heffect : Effect m [⟨.main, .listen s c, u⟩] m') :
    Goes m' (log ++ [⟨.main, .listen s c, u⟩]) s := by
  obtain ⟨t, rest, next, node, htasks, hid, hask, hanswer, hnode, htasks'⟩ := heffect.of_move
  have hending : .listener s ∉ node.ending := fun hs =>
    nomatch ending_of_answered (Node.answered_of_mem hanswer) hsound.ending hs
  obtain ⟨-, rfl⟩ := Prod.mk.inj (List.mem_singleton.1 hanswer)
  cases h with
  | going _ hlistener _ _ _ => exact absurd hlistener (hsound.fresh_of_listen hbody heffect)
  | absent _ hnothing hnone =>
    have hnew : m.duties.task (.listen s c) ∈ m'.tasks := by
      rw [htasks', hsound.starting]
      exact List.mem_filter.2 ⟨by simp, decide_eq_true hending⟩
    refine .going (c := c) (q := round s (m'.duties.work c)) ?_ ?_ ?_ ?_ fun hnobody => ?_
    · rw [exchanged_append, exchanged_own]
      exact List.mem_append_right _ (List.mem_singleton.2 rfl)
    · rw [hnode, Node.map_subscription_complied, List.map_append]
      exact List.mem_append_right _ (List.mem_singleton.2 rfl)
    · rw [exchanged_append, hnothing, exchanged_other (by simp)]
      exact .now (.here _)
    · intro t' ht' hid'
      rw [htasks', hsound.starting] at ht'
      rcases mem_snoc.1 (List.mem_filter.1 ht').1 with hold | rfl
      · rcases List.mem_cons.1 hold with rfl | hrest
        · cases hid.symm.trans hid'
        · exact absurd hid' (hnone t' (Sound.mem_rest htasks hrest))
      · rw [heffect.duties]
        exact ⟨rfl, rfl⟩
    · exact absurd rfl (hnobody _ hnew)

/-- Every event leaves each listener on its rounds. -/
theorem Goes.after (h : Goes m log s) (hsound : Sound start body m log) (hbody : Driver start body)
    (heffect : Effect m moved m') : Goes m' (log ++ moved) s := by
  have hwhole := heffect
  cases heffect with
  | outside htasks hduties hnode =>
    exact h.kept hsound hbody hwhole (by simp) rfl fun t ht _ => htasks ▸ ht
  | @again m' t rest htasks hdone hduties hnode htasks' =>
    by_cases hid : t.id = .listener s
    · rw [List.append_nil]
      exact h.again hsound htasks hid hdone hduties hnode htasks'
    · refine h.kept hsound hbody hwhole (by simp) rfl fun t' ht' hid' => ?_
      rw [htasks'] at ht'
      rcases List.mem_cons.1 ht' with rfl | hrest
      · exact absurd hid' hid
      · exact Sound.mem_rest htasks hrest
  | finished htasks hdone hduties hnode htasks' =>
    refine h.kept hsound hbody hwhole (by simp) rfl fun t' ht' _ => ?_
    rw [htasks'] at ht'
    exact Sound.mem_rest htasks (List.mem_filter.1 ht').1
  | @answered m' t rest r next reply node htasks hask hanswer hduties hnode htasks' =>
    by_cases hid : t.id = .listener s
    · rw [hid] at hwhole ⊢
      exact h.replied hsound hbody hwhole
    · have hnobody : (∀ c, r ≠ .listen s c) → Goes m' (log ++ [⟨t.id, r, reply⟩]) s := by
        intro hr
        have hquiet : ∀ c, ⟨.main, .listen s c, ()⟩ ∉ ([⟨t.id, r, reply⟩] : List Move) := by
          intro c hc
          cases (Move.mk.inj (List.mem_singleton.1 hc)).2
          exact hr c rfl
        refine h.kept hsound hbody hwhole hquiet (exchanged_other hid _) fun t' ht' hid' => ?_
        rw [htasks'] at ht'
        rcases List.mem_append.1 (List.mem_filter.1 ht').1 with hold | hnew
        · rcases List.mem_cons.1 hold with rfl | hrest
          · exact absurd hid' hid
          · exact Sound.mem_rest htasks hrest
        · rcases starting_of_answered (Node.answered_of_mem hanswer) hsound.starting with
            ⟨id, c, hlisten, hjob⟩ | ⟨c, -, hjob⟩ | ⟨-, hjob⟩
          · rw [hjob] at hnew
            obtain rfl := List.mem_singleton.1 hnew
            obtain rfl := TaskId.listener.inj hid'
            exact absurd hlisten (hr c)
          · rw [hjob] at hnew
            obtain rfl := List.mem_singleton.1 hnew
            cases hid'
          · rw [hjob] at hnew
            cases hnew
      by_cases hr : ∃ c, r = .listen s c
      · obtain ⟨c, rfl⟩ := hr
        have hmain := (hsound.may hbody hwhole _ (List.mem_singleton.2 rfl)).eq_main
          (.inr (.inr (.inl trivial)))
        rw [show t.id = .main from hmain] at hwhole ⊢
        exact h.listened hsound hbody hwhole
      · exact hnobody fun c hc => hr ⟨c, hc⟩

/-! What a listener asks, it asks for its own subscription. -/

/-- What a listener exchanges brings it on. -/
theorem Sound.advance (h : Sound start body m log) {x : Exchange NodeSignature}
    (heffect : Effect m [⟨.listener s, x⟩] m') : ∃ stage stage', Advance s stage x stage' := by
  obtain ⟨r, reply⟩ := x
  obtain ⟨t, rest, next, node, htasks, hid, hask, -, -, -⟩ := heffect.of_move
  obtain ⟨l, c, stage, ha⟩ := h.crew.attends t (Sound.mem htasks) s hid
  obtain rfl : l.subscription = s := TaskId.listener.inj (ha.id.symm.trans hid)
  have hcurrent := ha.current
  rw [hask] at hcurrent
  obtain ⟨stage', hadvance, -⟩ := hcurrent.advance reply
  exact ⟨stage, stage', hadvance⟩

/-- Ending tasks has no listener tell that it has left. -/
theorem hasLeft_endTasks (ids : List TaskId) {n : Node} {l' : Listener}
    (hl' : l' ∈ (ids.foldl Node.endTask n).listeners) (hleft : l'.hasLeft = true) :
    ∃ l ∈ n.listeners, l.subscription = l'.subscription ∧ l.hasLeft = true := by
  induction ids generalizing n with
  | nil => exact ⟨l', hl', rfl, hleft⟩
  | cons id ids ih =>
    obtain ⟨l, hl, hs, hgone⟩ := ih hl'
    cases id with
    | main | launched => exact ⟨l, hl, hs, hgone⟩
    | listener s =>
      obtain ⟨old, hold, rfl⟩ := Node.mem_changeListener.1 hl
      refine ⟨old, hold, ?_⟩
      split at hs
      next hsame =>
        rw [if_pos hsame] at hgone
        exact ⟨hs, hgone⟩
      next hother =>
        rw [if_neg hother] at hgone
        exact ⟨hs, hgone⟩

/-- A listener that is on record as having left was so before, or it has just told so. -/
theorem Effect.hasLeft (heffect : Effect m moved m') {l' : Listener} (hl' : l' ∈ m'.node.listeners)
    (hleft : l'.hasLeft = true) :
    (∃ l ∈ m.node.listeners, l.subscription = l'.subscription ∧ l.hasLeft = true)
      ∨ ∃ id u, moved = [⟨id, .tellLeft l'.subscription, u⟩] := by
  cases heffect with
  | outside htasks hduties hnode =>
    rw [hnode.same] at hl'
    exact .inl ⟨l', hl', rfl, hleft⟩
  | again htasks hdone hduties hnode htasks' => exact .inl ⟨l', hnode ▸ hl', rfl, hleft⟩
  | @finished m' t rest htasks hdone hduties hnode htasks' =>
    rw [hnode] at hl'
    exact .inl (hasLeft_endTasks [t.id] hl' hleft)
  | @answered m' t rest r next reply node htasks hask hanswer hduties hnode htasks' =>
    rw [hnode] at hl'
    obtain ⟨l, hl, hs, hgone⟩ :=
      hasLeft_endTasks node.ending (n := { node with starting := [] }) hl' hleft
    have hlisteners := congrArg Node.listeners (Node.answered_of_mem hanswer).bare
    have hsame : node.listeners = (m.node.bare.obey ⟨r, reply⟩).listeners := hlisteners
    have hl : l ∈ (m.node.bare.obey ⟨r, reply⟩).listeners := hsame ▸ hl
    cases r with
    | tellLeft s' =>
      obtain ⟨old, hold, rfl⟩ := Node.mem_changeListener.1 hl
      split at hs
      next hown =>
        obtain rfl : s' = l'.subscription := hown.symm.trans hs
        exact .inr ⟨t.id, reply, rfl⟩
      next hother =>
        rw [if_neg hother] at hgone
        exact .inl ⟨old, hold, hs, hgone⟩
    | listen s' c =>
      rcases mem_snoc.1 hl with hold | rfl
      · exact .inl ⟨l, hold, hs, hgone⟩
      · cases hgone
    | awaitEnd => cases reply <;> exact .inl ⟨l, hl, hs, hgone⟩
    | _ => exact .inl ⟨l, hl, hs, hgone⟩

/-- Listeners that are on record as having left have told so. -/
def Tells (m : Machine) (log : List Move) : Prop :=
  ∀ l ∈ m.node.listeners, l.hasLeft = true →
    ⟨.tellLeft l.subscription, ()⟩ ∈ exchanged (.listener l.subscription) log

theorem Tells.after (h : Tells m log) (hsound : Sound start body m log) (hbody : Driver start body)
    (heffect : Effect m moved m') : Tells m' (log ++ moved) := by
  intro l' hl' hleft
  rw [exchanged_append]
  rcases heffect.hasLeft hl' hleft with ⟨l, hl, hs, hgone⟩ | ⟨id, u, rfl⟩
  · exact List.mem_append_left _ (hs ▸ h l hl hgone)
  · have hmay := hsound.may hbody heffect _ (List.mem_singleton.2 rfl)
    cases id with
    | main | launched => exact (hmay : False).elim
    | listener s =>
      obtain ⟨stage, stage', hadvance⟩ := hsound.advance heffect
      cases hadvance
      rw [exchanged_own]
      exact List.mem_append_right _ (List.mem_singleton.2 rfl)

/-! What a listener reads. -/

/-- A message that a listener takes is the next one of its subscription. -/
theorem Sound.took (h : Sound start body m log) {x : Exchange NodeSignature} {d : Delivery}
    (heffect : Effect m [⟨.listener s, x⟩] m') (htaken : taken? x = some d) :
    m.node.stopping = false ∧ m.node.network.broker.incoming s = .delivery d
      ∧ (m.node.network.broker.after (.next s)).Evolves m'.node.network.broker := by
  obtain ⟨stage, stage', hadvance⟩ := h.advance heffect
  obtain ⟨t, rest, next, node, -, -, -, hanswer, hnode, -⟩ := heffect.of_move
  have hcomplied := hnode ▸ node.evolves_complied.broker
  cases hadvance with
  | worked | watched | lost | left | tells => cases htaken
  | @took taken _ =>
    cases taken with
    | closed | stopped | broken => cases htaken
    | delivery d' =>
      obtain rfl := Option.some.inj htaken
      simp only [Node.answers, Node.takeAnswers] at hanswer
      split at hanswer
      · cases List.mem_singleton.1 hanswer
      next hgoes =>
        split at hanswer
        next other broker hnext =>
          obtain ⟨hreply, rfl⟩ := Prod.mk.inj (List.mem_singleton.1 hanswer)
          split at hreply
          · cases hreply
          · obtain rfl := Taken.delivery.inj hreply
            refine ⟨by simpa using hgoes, Broker.incoming_of_next hnext, ?_⟩
            rw [Broker.after, hnext]
            exact hcomplied
        next => cases List.mem_singleton.1 hanswer
        next => cases hanswer

/-- Every listener gets messages of its subscription, in their order. -/
def Reads (m : Machine) (log : List Move) : Prop :=
  ∃ got, m.node.network.broker.InOrder got
    ∧ ∀ s, ((exchanged (.listener s) log).filterMap taken?).Sublist (got s)

theorem Reads.after (h : Reads m log) (hsound : Sound start body m log)
    (heffect : Effect m moved m') : Reads m' (log ++ moved) := by
  obtain ⟨got, hgot, htaken⟩ := h
  have horderly := hsound.crew.orderly
  -- unless a listener takes a message, whatever is read is read by others
  have hothers : (∀ s, (exchanged (.listener s) moved).filterMap taken? = []) →
      Reads m' (log ++ moved) := by
    intro hnone
    obtain ⟨got', hgot', hmore⟩ := heffect.evolves.broker.inOrder horderly hgot
    refine ⟨got', hgot', fun s => ?_⟩
    rw [exchanged_append, List.filterMap_append, hnone, List.append_nil]
    exact (htaken s).trans (hmore s).sublist
  rcases heffect.moved_cases with rfl | ⟨⟨id, x⟩, rfl⟩
  · exact hothers fun s => rfl
  · by_cases hlistener : ∃ s d, id = .listener s ∧ taken? x = some d
    · obtain ⟨s, d, rfl, hd⟩ := hlistener
      obtain ⟨-, hincoming, hevolves⟩ := hsound.took heffect hd
      have hnext := Broker.inOrder_after horderly.sound hgot (.next s)
      obtain ⟨got', hgot', hmore⟩ :=
        hevolves.inOrder ((Broker.Evolves.refl.after _).orderly horderly) hnext
      refine ⟨got', hgot', fun s' => List.Sublist.trans ?_ (hmore s').sublist⟩
      rw [exchanged_append, List.filterMap_append, Broker.read_next _ hincoming]
      refine (htaken s').append ?_
      by_cases hs : s = s'
      · subst hs
        rw [exchanged_own, if_pos rfl, List.filterMap_cons_some hd]
        exact .refl _
      · rw [exchanged_other (by simpa using hs)]
        exact List.nil_sublist _
    · refine hothers fun s => ?_
      by_cases hid : id = .listener s
      · subst hid
        have hnone : taken? x = none := by
          cases hd : taken? x with
          | none => rfl
          | some d => exact absurd ⟨s, d, rfl, hd⟩ hlistener
        rw [exchanged_own, List.filterMap_cons_none hnone]
        rfl
      · rw [exchanged_other hid]
        rfl

/-! All of it, at all times. -/

/-- What holds of the listeners of a machine, given what was asked so far. -/
structure Attended (m : Machine) (log : List Move) : Prop where
  goes : ∀ s, Goes m log s
  tells : Tells m log
  reads : Reads m log

theorem attended_during (hbody : Driver start body) (h : Sound start body m log)
    (hattended : Attended m log) (es : List Event) : Attended (m.during es) (log ++ m.log es) := by
  have hboth := invariant_during (I := fun m log => Sound start body m log ∧ Attended m log)
    (fun m log moved m' hm heffect => ⟨sound_after hbody hm.1 heffect,
      fun s => (hm.2.goes s).after hm.1 hbody heffect, hm.2.tells.after hm.1 hbody heffect,
      hm.2.reads.after hm.1 heffect⟩) ⟨h, hattended⟩ es
  exact hboth.2

/-- Nobody has listened where nothing was exchanged. -/
theorem attended_nil (htasks : ∀ t ∈ m.tasks, ∀ s, t.id ≠ .listener s) (hlisteners : m.node.listeners = [])
    (hreads : ∃ got, m.node.network.broker.InOrder got) : Attended m [] where
  goes s := .absent (fun c => List.not_mem_nil) rfl fun t ht => htasks t ht s
  tells := by
    intro l hl
    rw [hlisteners] at hl
    cases hl
  reads := by
    obtain ⟨got, hgot⟩ := hreads
    exact ⟨got, hgot, fun s => List.nil_sublist _⟩

/-- What a listener does it does about the messages that it takes, one after the other. -/
theorem Attended.inTurn (h : Attended m log) {c : Context}
    (hcontext : ∀ c', ⟨.listen s c', ()⟩ ∈ exchanged .main log → c' = c) :
    InTurn (m.duties.work c) (handlings (exchanged (.listener s) log))
      ∧ (exchanged (.listener s) log).filterMap worked?
        = (handlings (exchanged (.listener s) log)).flatMap (·.work) := by
  cases h.goes s with
  | absent _ hnothing _ =>
    rw [hnothing]
    exact ⟨⟨(fun k hk => nomatch hk), (fun k hk => nomatch hk)⟩, rfl⟩
  | going hlisten _ hstands _ _ =>
    obtain rfl := hcontext _ hlisten
    exact hstands.inTurn

/-- A listener takes messages that were handed to its subscription, in their order. -/
theorem Attended.sublist (h : Attended m log) {sub : Subscription}
    (hsub : sub ∈ m.node.network.broker.subscriptions) :
    ((handlings (exchanged (.listener sub.id) log)).map (·.delivery)).Sublist
      ((m.node.network.broker.share sub).map Broker.delivery) := by
  obtain ⟨got, hgot, htaken⟩ := h.reads
  rw [map_delivery_handlings]
  refine (htaken sub.id).trans ?_
  rw [hgot.got_eq sub hsub]
  exact (List.take_sublist _ _).map _

/-- What was subscribed to stays subscribed to. -/
theorem subscribed_of_exchanged {es : List Event} {id : TaskId} {connection : Nat} {o : ConsumerOptions}
    (h : ⟨.subscribe connection o, .ok s⟩ ∈ exchanged id (m.log es)) :
    ∃ sub ∈ (m.during es).node.network.broker.subscriptions,
      sub.id = s ∧ sub.subject = o.subject ∧ sub.group = o.group := by
  obtain ⟨es₁, e, es₂, rfl, hmoves⟩ := exists_moment_of_mem h
  have heffect := (m.during es₁).after_effect e
  rw [hmoves] at heffect
  obtain ⟨t, rest, next, node, -, -, -, hanswer, hnode, -⟩ := heffect.of_move
  obtain ⟨hok, hsame⟩ := Prod.mk.inj (List.mem_singleton.1 hanswer)
  have hnow : { id := s, subject := o.subject, group := o.group : Subscription }
      ∈ node.network.broker.subscriptions := by
    rw [hsame]
    exact Network.subscribed_of_ok hok.symm
  obtain ⟨sub, hsub, hid, hsubject, hgroup⟩ := node.evolves_complied.broker.subscribed hnow
  rw [← hnode] at hsub
  obtain ⟨sub', hsub', hid', hsubject', hgroup'⟩ := (evolves_during _ es₂).broker.subscribed hsub
  rw [during_append]
  exact ⟨sub', hsub', hid'.trans hid, hsubject'.trans hsubject, hgroup'.trans hgroup⟩

end Waystation.Machine
