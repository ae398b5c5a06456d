import Waystation.Proofs.Node.Invariant
/-!
Moments of a schedule. Each exchange of a task has been made at a moment, and what has come true at a
moment and stays true holds ever after. An observer of a node sees the states of its runner one after
the other, as the driving task sets them.
-/
namespace Waystation

namespace Node

/-- Ending tasks changes the network by dropping their subscriptions, and in no other way. -/
theorem network_endTasks {R : Network → Network → Prop} (hrefl : ∀ n, R n n)
    (htrans : ∀ {a b c}, R a b → R b c → R a c)
    (hdrop : ∀ (n : Network) (s : Nat), R n { n with broker := n.broker.after (.drop s) })
    (ids : List TaskId) (n : Node) : R n.network (ids.foldl Node.endTask n).network := by
  induction ids generalizing n with
  | nil => exact hrefl _
  | cons id ids ih =>
    refine htrans ?_ (ih (n.endTask id))
    cases id with
    | listener s => exact hdrop n.network s
    | main | launched => exact hrefl _

theorem evolves_endTasks (ids : List TaskId) (n : Node) :
    n.network.Evolves (ids.foldl Node.endTask n).network :=
  network_endTasks .refl .trans (fun network s => network.evolves_after (.drop s)) ids n

theorem evolves_complied (n : Node) : n.network.Evolves (Machine.complied n).network :=
  evolves_endTasks n.ending { n with starting := [] }

theorem correlation_endTasks (ids : List TaskId) (n : Node) :
    (ids.foldl Node.endTask n).correlation = n.correlation := by
  induction ids generalizing n with
  | nil => rfl
  | cons id ids ih =>
    rw [List.foldl_cons, ih]
    cases id <;> rfl

end Node

namespace Machine

variable {m m' : Machine} {es es' : List Event} {moved : List Move}

theorem during_append (m : Machine) (es es' : List Event) :
    m.during (es ++ es') = (m.during es).during es' :=
  List.foldl_append

theorem log_append (m : Machine) (es es' : List Event) :
    m.log (es ++ es') = m.log es ++ (m.during es).log es' :=
  logged_append m es es'

/-- An event makes one exchange at most. -/
theorem Effect.moved_cases (h : Effect m moved m') : moved = [] ∨ ∃ x, moved = [x] := by
  cases h with
  | outside | again | finished => exact .inl rfl
  | answered => exact .inr ⟨_, rfl⟩

theorem Effect.moved_eq (h : Effect m moved m') {x : Move} (hx : x ∈ moved) : moved = [x] := by
  rcases h.moved_cases with rfl | ⟨y, rfl⟩
  · cases hx
  · rw [List.mem_singleton.1 hx]

/-- What a task has exchanged, it had exchanged before, or it has just done so. -/
theorem Effect.mem_exchanged (h : Effect m moved m') {log : List Move} {id : TaskId}
    {x : Exchange NodeSignature} (hx : x ∈ exchanged id (log ++ moved)) :
    x ∈ exchanged id log ∨ moved = [⟨id, x⟩] := by
  rw [exchanged_append] at hx
  rcases List.mem_append.1 hx with hold | hnew
  · exact .inl hold
  · obtain ⟨y, hy, hyx⟩ := List.mem_filterMap.1 hnew
    split at hyx
    next hid =>
      obtain rfl := Option.some.inj hyx
      exact .inr (hid ▸ h.moved_eq hy)
    next => cases hyx

/-- What an exchange comes to. -/
theorem Effect.of_move {id : TaskId} {r : NodeRequest} {reply : r.Reply}
    (h : Effect m [⟨id, r, reply⟩] m') : ∃ t rest next node, m.tasks.Perm (t :: rest) ∧ t.id = id
      ∧ t.current = .ask (S := NodeSignature) r next ∧ (reply, node) ∈ m.node.answers r
      ∧ m'.node = complied node
      ∧ m'.tasks = (({ t with current := next reply } :: rest)
        ++ node.starting.map m.duties.task).filter fun other => other.id ∉ node.ending := by
  generalize hmoved : ([⟨id, r, reply⟩] : List Move) = moved at h
  cases h with
  | outside => cases hmoved
  | again => cases hmoved
  | finished => cases hmoved
  | answered htasks hask hanswer hduties hnode htasks' =>
    cases hmoved
    exact ⟨_, _, _, _, htasks, rfl, hask, hanswer, hnode, htasks'⟩

theorem moves_cases (m : Machine) (e : Event) : m.moves e = [] ∨ ∃ x, m.moves e = [x] :=
  (m.after_effect e).moved_cases

/-- An exchange of a task has been made at a moment. -/
theorem exists_moment {id : TaskId} {x : Exchange NodeSignature}
    {before rest : List (Exchange NodeSignature)}
    (h : exchanged id (m.log es) = before ++ x :: rest) :
    ∃ es₁ e es₂, es = es₁ ++ e :: es₂ ∧ exchanged id (m.log es₁) = before
      ∧ (m.during es₁).moves e = [⟨id, x⟩] := by
  induction es generalizing m before with
  | nil => simp [log, logged, exchanged] at h
  | cons e es ih =>
    have hlog : exchanged id (m.log (e :: es))
        = exchanged id (m.moves e) ++ exchanged id ((m.after e).log es) :=
      exchanged_append _ _ _
    rw [hlog] at h
    -- the first event makes the exchange, or it is made later
    have hlater : ∀ {later}, exchanged id ((m.after e).log es) = later ++ x :: rest →
        before = exchanged id (m.moves e) ++ later →
        ∃ es₁ e' es₂, e :: es = es₁ ++ e' :: es₂ ∧ exchanged id (m.log es₁) = before
          ∧ (m.during es₁).moves e' = [⟨id, x⟩] := by
      intro later hsplit hbefore
      obtain ⟨es₁, e', es₂, rfl, hes₁, hmoves⟩ := ih hsplit
      refine ⟨e :: es₁, e', es₂, rfl, ?_, hmoves⟩
      have hlog : exchanged id (m.log (e :: es₁))
          = exchanged id (m.moves e) ++ exchanged id ((m.after e).log es₁) :=
        exchanged_append _ _ _
      rw [hlog, hes₁, hbefore]
    rcases m.moves_cases e with hnone | ⟨⟨other, y⟩, hmoves⟩
    · refine @hlater before ?_ ?_
      · simpa [hnone, exchanged] using h
      · simp [hnone, exchanged]
    · by_cases hid : other = id
      · subst hid
        rw [hmoves, exchanged_own, List.singleton_append] at h
        cases before with
        | nil =>
          obtain ⟨rfl, -⟩ := List.cons.inj h
          exact ⟨[], e, es, rfl, rfl, hmoves⟩
        | cons z before =>
          obtain ⟨rfl, hrest⟩ := List.cons.inj h
          exact hlater hrest (by rw [hmoves, exchanged_own, List.singleton_append])
      · rw [hmoves, exchanged_other hid, List.nil_append] at h
        exact hlater h (by rw [hmoves, exchanged_other hid, List.nil_append])

theorem exists_moment_of_mem {id : TaskId} {x : Exchange NodeSignature}
    (h : x ∈ exchanged id (m.log es)) :
    ∃ es₁ e es₂, es = es₁ ++ e :: es₂ ∧ (m.during es₁).moves e = [⟨id, x⟩] := by
  obtain ⟨before, rest, hsplit⟩ := List.append_of_mem h
  obtain ⟨es₁, e, es₂, hes, -, hmoves⟩ := exists_moment hsplit
  exact ⟨es₁, e, es₂, hes, hmoves⟩

/-! What goes on at all times. -/

theorem Effect.evolves (h : Effect m moved m') : m.node.network.Evolves m'.node.network := by
  cases h with
  | outside htasks hduties hnode =>
    rcases hnode.network with hsame | ⟨op, hop⟩
    · exact hsame ▸ .refl _
    · exact hop ▸ m.node.network.evolves_after op
  | again htasks hdone hduties hnode htasks' => exact hnode ▸ .refl _
  | finished htasks hdone hduties hnode htasks' =>
    rw [hnode]
    exact m.node.evolves_endTasks [_]
  | @answered _ t _ _ _ reply node htasks hask hanswer hduties hnode htasks' =>
    rw [hnode]
    exact (Node.answered_of_mem hanswer).network.trans
      node.evolves_complied

theorem Effect.ages (h : Effect m moved m') : m.node.correlation.Ages m'.node.correlation := by
  cases h with
  | outside htasks hduties hnode =>
    rw [hnode.same]
    exact .refl _
  | again htasks hdone hduties hnode htasks' => exact hnode ▸ .refl _
  | finished htasks hdone hduties hnode htasks' =>
    rw [hnode]
    exact (m.node.correlation_endTasks [_]).symm ▸ .refl _
  | @answered _ t _ _ _ reply node htasks hask hanswer hduties hnode htasks' =>
    rw [hnode, complied, Node.correlation_endTasks]
    exact (Node.answered_of_mem hanswer).correlation

/-- Whoever turns away those who wait turns all of them away. -/
theorem Effect.turns_away {id : TaskId} (h : Effect m [⟨id, .turnAway, ()⟩] m') :
    m'.node.correlation = m.node.correlation.closeAll := by
  obtain ⟨t, rest, next, node, -, -, -, hanswer, hnode, -⟩ := h.of_move
  obtain ⟨-, rfl⟩ := Prod.mk.inj (List.mem_singleton.1 hanswer)
  rw [hnode, complied, Node.correlation_endTasks]

theorem Effect.duties (h : Effect m moved m') : m'.duties = m.duties := by
  cases h with
  | outside htasks hduties hnode => exact hduties
  | again htasks hdone hduties hnode htasks' => exact hduties
  | finished htasks hdone hduties hnode htasks' => exact hduties
  | answered htasks hask hanswer hduties hnode htasks' => exact hduties

theorem duties_during (m : Machine) (es : List Event) : (m.during es).duties = m.duties := by
  induction es generalizing m with
  | nil => rfl
  | cons e es ih => exact (ih (m.after e)).trans (m.after_effect e).duties

theorem evolves_during (m : Machine) (es : List Event) :
    m.node.network.Evolves (m.during es).node.network := by
  induction es generalizing m with
  | nil => exact .refl _
  | cons e es ih => exact (m.after_effect e).evolves.trans (ih (m.after e))

theorem ages_during (m : Machine) (es : List Event) :
    m.node.correlation.Ages (m.during es).node.correlation := by
  induction es generalizing m with
  | nil => exact .refl _
  | cons e es ih => exact (m.after_effect e).ages.trans (ih (m.after e))

/-! Connections. -/

/-- A connection that was made is known. -/
theorem knows_of_connected {id : TaskId} {url : String} {connection : Nat}
    (h : ⟨.connect url, .ok connection⟩ ∈ exchanged id (m.log es)) :
    (m.during es).node.network.broker.Knows connection := by
  obtain ⟨es₁, e, es₂, rfl, hmoves⟩ := exists_moment_of_mem h
  have heffect := (m.during es₁).after_effect e
  rw [hmoves] at heffect
  obtain ⟨t, rest, next, node, -, -, -, hanswer, hnode, -⟩ := heffect.of_move
  obtain ⟨hok, rfl⟩ := Prod.mk.inj (List.mem_singleton.1 hanswer)
  rw [during_append]
  refine (evolves_during _ es₂).broker.knows ?_
  rw [hnode]
  exact (Node.evolves_complied _).broker.knows (Broker.knows_connect hok.symm)

/-- A connection that was made and closed stays closed, and nobody is a member of a group by it. -/
theorem closed_of_closed {id : TaskId} {url : String} {connection : Nat} {u : Unit}
    {before rest : List (Exchange NodeSignature)}
    (h : exchanged id (m.log es) = before ++ ⟨.close connection, u⟩ :: rest)
    (hconnect : ⟨.connect url, .ok connection⟩ ∈ before) :
    (m.during es).node.network.broker.isOpen connection = false := by
  obtain ⟨es₁, e, es₂, rfl, hes₁, hmoves⟩ := exists_moment h
  have hknows : (m.during es₁).node.network.broker.Knows connection :=
    knows_of_connected (hes₁.symm ▸ hconnect)
  have heffect := (m.during es₁).after_effect e
  rw [hmoves] at heffect
  obtain ⟨t, rest, next, node, -, -, -, hanswer, hnode, -⟩ := heffect.of_move
  obtain ⟨-, rfl⟩ := Prod.mk.inj (List.mem_singleton.1 hanswer)
  have hclose := (m.during es₁).node.network.close_network connection
  have hclosed : ((m.during es₁).node.network.close connection).2.broker.isOpen connection = false := by
    rw [hclose]
    exact Broker.isOpen_close hknows
  have hknown := ((m.during es₁).node.network.evolves_close connection).broker.knows hknows
  rw [during_append]
  refine (evolves_during _ es₂).broker.closed ?_ ?_
  · rw [hnode]
    exact (Node.evolves_complied _).broker.knows hknown
  · rw [hnode]
    exact (Node.evolves_complied _).broker.closed hknown hclosed

/-! What an observer sees. -/

/-- The state that the runner comes to by an event, if it changes. -/
def newState (m : Machine) (e : Event) : List RunnerState :=
  if (m.after e).node.runner = m.node.runner then [] else (m.after e).node.runner.toList

/-- The states that the runner comes to, one after the other. -/
def states (m : Machine) (es : List Event) : List RunnerState := logged after newState m es

end Machine

namespace Machine

variable {start : Conduct} {body : Program NodeSignature Turn} {m : Machine} {log : List Move}

theorem Sound.exists_leads (h : Sound start body m log) :
    ∃ q, body.Leads (exchanged .main log) q := by
  rcases h.main with ⟨t, -, -, hleads⟩ | ⟨-, hruns⟩
  · exact ⟨t.current, hleads⟩
  · exact ⟨_, Program.leads_iff_runs.2 hruns⟩

/-- An event shows what it sets. -/
theorem Sound.newState_eq (hbody : Driver start body) (h : Sound start body m log)
    (hdistinct : ∀ t q, body.Leads t q → Coherent start t → Distinct start t) (e : Event) :
    m.newState e = statesSet (exchanged .main (m.moves e)) := by
  have hnext := sound_after hbody h (m.after_effect e)
  have hrunner : ∀ k : Conduct, (m.after e).node.conduct = k → (m.after e).node.runner = k.runner := by
    rintro k rfl
    rfl
  have hbefore : m.node.runner = ((exchanged .main log).foldl Conduct.after start).runner := by
    rw [← h.conduct]
    rfl
  have hafter := hrunner _ hnext.conduct
  rw [exchanged_append, List.foldl_append] at hafter
  have hone : exchanged .main (m.moves e) = [] ∨ ∃ x, exchanged .main (m.moves e) = [x] := by
    rcases m.moves_cases e with hnone | ⟨⟨id, x⟩, hmoves⟩
    · exact .inl (by simp [hnone, exchanged])
    · rw [hmoves]
      by_cases hid : id = .main
      · exact .inr ⟨x, by rw [hid, exchanged_own]⟩
      · exact .inl (exchanged_other hid x)
  rcases hone with hnone | ⟨⟨r, reply⟩, hsome⟩
  · rw [hnone] at hafter ⊢
    rw [newState, if_pos (hafter.trans hbefore.symm)]
    rfl
  · obtain ⟨q, hleads⟩ := hnext.exists_leads
    have hnew := hdistinct _ q hleads hnext.coherent
    rw [exchanged_append, hsome] at hnew
    rw [hsome] at hafter ⊢
    cases r with
    | setRunner s =>
      have hother : m.node.runner ≠ some s := hbefore ▸ hnew _ s reply [] rfl
      have hset : (m.after e).node.runner = some s := hafter
      rw [newState, hset, if_neg (Ne.symm hother)]
      rfl
    | _ =>
      rw [newState, if_pos (hafter.trans hbefore.symm)]
      rfl

/-- What an observer sees of the runner is what the driving task sets. -/
theorem Sound.states_eq (hbody : Driver start body) (h : Sound start body m log)
    (hdistinct : ∀ t q, body.Leads t q → Coherent start t → Distinct start t) (es : List Event) :
    m.states es = statesSet (exchanged .main (m.log es)) := by
  induction es generalizing m log with
  | nil => rfl
  | cons e es ih =>
    have hlog : exchanged .main (m.log (e :: es))
        = exchanged .main (m.moves e) ++ exchanged .main ((m.after e).log es) :=
      exchanged_append _ _ _
    have hstates : m.states (e :: es) = m.newState e ++ (m.after e).states es := rfl
    rw [hstates, hlog, statesSet_append, h.newState_eq hbody hdistinct,
      ih (sound_after hbody h (m.after_effect e))]

end Machine
end Waystation
