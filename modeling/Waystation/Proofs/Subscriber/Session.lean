import Waystation.Proofs.Node.Withdrawal
import Waystation.Proofs.Runner.Driving
/-!
Sessions of a subscriber. It starts once, and is then told to stop, to give up what is still worked on,
or to wait for its listeners, as often as one likes. Whatever it is told, it has awaited its listeners
before it says that it has stopped, and before it ends any of them.
-/
namespace Waystation

open NodeRequest Program

/-- Has a subscriber said that it stops, or that it has stopped? -/
def SubscriberState.IsOver : SubscriberState → Prop
  | unsubscribing | stopped => True
  | _ => False

/-- How a node is run that nobody has driven yet. -/
def Conduct.idle : Conduct where
  runner := none
  subscriber := .idle
  stopping := false
  cancelled := false
  result := none

namespace Subscriber

/-- What a subscriber is told that has been started. -/
inductive Command
  | stop
  | abort
  /-- To wait until every listener has ended. -/
  | exhausted
  /-- To wait for that, or until somebody asks for an end. -/
  | serve
  deriving DecidableEq

def Command.program : Command → Program NodeSignature Unit
  | stop => Subscriber.stop
  | abort => Subscriber.abort
  | exhausted => awaitListeners.ask
  | serve => awaitStop.ask

/-- Does what it is told, one command after the other. -/
def carryOut : List Command → Program NodeSignature Unit
  | [] => return ()
  | k :: ks => do
    k.program
    carryOut ks

/-- Starts, whether that succeeds or not, and does what it is told. -/
def session (c : Context) (inputs : List String) (commands : List Command) :
    Program NodeSignature Unit := do
  let _ ← start c inputs
  carryOut commands

/-- A node with a subscriber and nobody else to drive it. -/
def machine (p : Pipeline Handler) (c : Context) (inputs : List String) (commands : List Command)
    (network : Network) : Machine where
  node := { network }
  duties := { work := p.work }
  queue := [Task.once .main (session c inputs commands)]

/-- Has a session carried out its commands? -/
def Returned (c : Context) (inputs : List String) (commands : List Command)
    (exchanges : List (Exchange NodeSignature)) : Prop :=
  ∃ t, t <+: exchanges ∧ (session c inputs commands).Runs t ()

variable {c : Context} {inputs : List String} {commands : List Command} {k : Conduct}
variable {past t : List (Exchange NodeSignature)}

/-! What is exchanged in carrying out commands. -/

theorem within_carryOut (commands : List Command) : (carryOut commands).Within IsWinding fun _ => True := by
  induction commands with
  | nil => exact trivial
  | cons command commands ih =>
    have hcommand : command.program.Within IsWinding fun _ => True := by
      cases command with
      | stop => exact within_stop
      | abort => exact within_abort
      | exhausted | serve => exact within_ask trivial
    exact hcommand.bind fun _ _ => ih

theorem within_session : (session c inputs commands).Within IsSubscribing fun _ => True :=
  (within_start c inputs).bind fun _ _ => within_winding (within_carryOut commands)

theorem carryOut_append (commands commands' : List Command) :
    carryOut (commands ++ commands') = carryOut commands >>= fun _ => carryOut commands' := by
  induction commands with
  | nil => rfl
  | cons command commands ih =>
    rw [List.cons_append, carryOut, carryOut, ih, bind_assoc]

theorem session_append (commands commands' : List Command) :
    session c inputs (commands ++ commands')
      = session c inputs commands >>= fun _ => carryOut commands' := by
  rw [session, session, bind_assoc]
  simp only [carryOut_append]

/-- What a subscriber that carries out commands has come to, given what was exchanged so far. -/
structure Steady (k : Conduct) (past : List (Exchange NodeSignature)) : Prop where
  finished : (past.foldl Conduct.after k).subscriber.IsOver → ⟨.awaitLeft, ()⟩ ∈ past
  awaits : Awaits past
  stops : Stops past

/-- What neither awaits nor ends listeners. -/
theorem Steady.append (h : Steady k past) (hquiet : ∀ x ∈ t, ¬x.1.IsAwaitLeft ∧ ¬x.1.IsAbort)
    (hstate : ((past ++ t).foldl Conduct.after k).subscriber.IsOver → ⟨.awaitLeft, ()⟩ ∈ past) :
    Steady k (past ++ t) where
  finished hover := List.mem_append_left _ (hstate hover)
  awaits := h.awaits.append (.inl fun x hx => (hquiet x hx).2)
  stops := h.stops.append (stops_of_none fun x hx => (hquiet x hx).1)

/-- A subscriber that stops has awaited its listeners. -/
theorem Steady.stopping (h : Steady k past) {s : SubscriberState}
    (hs : s = (past.foldl Conduct.after k).subscriber) :
    ⟨.awaitLeft, ()⟩ ∈ past ++ stopping s ∧ Steady k (past ++ Subscriber.stopping s) := by
  have hdone : s.IsOver → ⟨.awaitLeft, ()⟩ ∈ past := fun hover => h.finished (hs ▸ hover)
  have hask : ∀ x ∈ ([⟨.subscriber, s⟩] : List (Exchange NodeSignature)),
      ¬x.1.IsAwaitLeft ∧ ¬x.1.IsAbort := by
    simp [IsAwaitLeft, IsAbort]
  cases s with
  | unsubscribing | stopped =>
    exact ⟨List.mem_append_left _ (hdone trivial), h.append hask fun _ => hdone trivial⟩
  | idle | subscribing | listening =>
    refine ⟨by simp [Subscriber.stopping], fun _ => by simp [Subscriber.stopping], ?_, ?_⟩
    · exact h.awaits.append (.inl (by simp [Subscriber.stopping, IsAbort]))
    · exact h.stops.append (Stops.append (t := [_, _]) (stops_of_none (by simp [IsAwaitLeft])) stops_awaitLeft)

/-- What one command comes to: a subscriber that is told to stop has awaited its listeners, and one that
gives up has ended them and is stopped. -/
theorem Steady.command (h : Steady k past) {command : Command} (hruns : command.program.Runs t ())
    (hcoherent : Coherent k (past ++ t)) : Steady k (past ++ t)
      ∧ (command = .stop ∨ command = .abort → ⟨.awaitLeft, ()⟩ ∈ past ++ t)
      ∧ (command = .abort → ⟨.abortListeners, ()⟩ ∈ t
        ∧ ((past ++ t).foldl Conduct.after k).subscriber = .stopped) := by
  have htail := (coherent_append.1 hcoherent).2
  cases command with
  | stop =>
    obtain ⟨s, rfl⟩ := stop_runs_iff.1 hruns
    obtain ⟨hleft, hsteady⟩ := h.stopping htail.1
    exact ⟨hsteady, fun _ => hleft, fun habort => by cases habort⟩
  | abort =>
    obtain ⟨s, rfl⟩ := abort_runs hruns
    obtain ⟨hleft, hsteady⟩ := h.stopping htail.1
    rw [← List.append_assoc]
    refine ⟨⟨fun _ => List.mem_append_left _ hleft, ?_, ?_⟩, fun _ => List.mem_append_left _ hleft,
      fun _ => ⟨by simp, by simp [Conduct.after]⟩⟩
    · exact hsteady.awaits.append (.inr hleft)
    · exact hsteady.stops.append (stops_of_none (by simp [IsAwaitLeft]))
  | exhausted | serve =>
    obtain ⟨⟨⟩, rest, rfl, hdone⟩ := runs_ask_iff.1 hruns
    obtain ⟨rfl, -⟩ := runs_done_iff.1 hdone
    refine ⟨h.append (by simp [IsAwaitLeft, IsAbort]) fun hover => h.finished ?_, by simp, by simp⟩
    simpa [Conduct.after] using hover

/-- A subscriber that is stopped says nothing else any more. -/
theorem stays_stopped (hruns : (carryOut commands).Runs t ()) (hcoherent : Coherent k t)
    (hstopped : k.subscriber = .stopped) :
    ∀ x ∈ t, x.1.TellsSubscriber → x = ⟨.setSubscriber .stopped, ()⟩ := by
  induction commands generalizing k t with
  | nil =>
    obtain ⟨rfl, -⟩ := runs_done_iff.1 hruns
    exact fun x hx => nomatch hx
  | cons command commands ih =>
    obtain ⟨first, _, rest, rfl, hfirst, hrest⟩ := runs_bind_iff.1 hruns
    obtain ⟨hhead, htail⟩ := coherent_append.1 hcoherent
    have hnow : (∀ x ∈ first, x.1.TellsSubscriber → x = ⟨.setSubscriber .stopped, ()⟩)
        ∧ (first.foldl Conduct.after k).subscriber = .stopped := by
      cases command with
      | stop =>
        obtain ⟨s, rfl⟩ := stop_runs_iff.1 hfirst
        obtain rfl : s = .stopped := hhead.1.trans hstopped
        exact ⟨by simp [stopping, TellsSubscriber], hstopped⟩
      | abort =>
        obtain ⟨s, rfl⟩ := abort_runs hfirst
        obtain rfl : s = .stopped := hhead.1.trans hstopped
        exact ⟨by simp [stopping, TellsSubscriber], rfl⟩
      | exhausted | serve =>
        obtain ⟨⟨⟩, rest, rfl, hdone⟩ := runs_ask_iff.1 hfirst
        obtain ⟨rfl, -⟩ := runs_done_iff.1 hdone
        exact ⟨by simp [TellsSubscriber], hstopped⟩
    exact List.forall_mem_append.2 ⟨hnow.1, ih hrest htail hnow.2⟩

theorem stopped_foldl (htells : ∀ x ∈ t, x.1.TellsSubscriber → x = ⟨.setSubscriber .stopped, ()⟩)
    (hstopped : k.subscriber = .stopped) : (t.foldl Conduct.after k).subscriber = .stopped := by
  induction t generalizing k with
  | nil => exact hstopped
  | cons x t ih =>
    obtain ⟨hx, ht⟩ := List.forall_mem_cons.1 htells
    refine ih ht ?_
    by_cases hsets : x.1.TellsSubscriber
    · rw [hx hsets]
      rfl
    · rw [Conduct.subscriber_after hsets, hstopped]

/-- What commands come to, one after the other. -/
theorem Steady.carried (h : Steady k past) (hruns : (carryOut commands).Runs t ())
    (hcoherent : Coherent k (past ++ t)) : Steady k (past ++ t)
      ∧ (.stop ∈ commands ∨ .abort ∈ commands → ⟨.awaitLeft, ()⟩ ∈ past ++ t)
      ∧ (.abort ∈ commands → ⟨.abortListeners, ()⟩ ∈ t
        ∧ ((past ++ t).foldl Conduct.after k).subscriber = .stopped) := by
  induction commands generalizing past t with
  | nil =>
    obtain ⟨rfl, -⟩ := runs_done_iff.1 hruns
    rw [List.append_nil]
    exact ⟨h, by simp, nofun⟩
  | cons command commands ih =>
    obtain ⟨first, _, rest, rfl, hfirst, hrest⟩ := runs_bind_iff.1 hruns
    rw [← List.append_assoc] at hcoherent ⊢
    obtain ⟨hbefore, hbehind⟩ := coherent_append.1 hcoherent
    obtain ⟨hsteady, hleft, hended⟩ := h.command hfirst hbefore
    obtain ⟨hsteady', hleft', hended'⟩ := ih hsteady hrest hcoherent
    refine ⟨hsteady', fun hmem => ?_, fun hmem => ?_⟩
    · by_cases hnow : command = .stop ∨ command = .abort
      · exact List.mem_append_left _ (hleft hnow)
      · refine hleft' (hmem.imp ?_ ?_)
        · exact fun hin => (List.mem_cons.1 hin).resolve_left fun hsame => hnow (.inl hsame.symm)
        · exact fun hin => (List.mem_cons.1 hin).resolve_left fun hsame => hnow (.inr hsame.symm)
    · rcases List.mem_cons.1 hmem with hsame | hlater
      · obtain ⟨haborted, hstopped⟩ := hended hsame.symm
        refine ⟨List.mem_append_left _ haborted, ?_⟩
        rw [List.foldl_append]
        exact stopped_foldl (stays_stopped hrest hbehind hstopped) hstopped
      · obtain ⟨haborted, hstopped⟩ := hended' hlater
        exact ⟨List.mem_append_right _ haborted, hstopped⟩

/-! What is exchanged in a session. -/

/-- The opening of a session: subscribing to subjects and starting listeners for them, up to the first
subject that is refused. -/
structure Opening (c : Context) (inputs : List String) (joined : List (String × Nat))
    (opening : List (Exchange NodeSignature)) : Prop where
  subjects : joined.map (·.1) <+: inputs
  starting : ∀ x ∈ opening, x.1.IsStarting
  listens : Listens opening
  listened : ∀ s c' u, ⟨.listen s c', u⟩ ∈ opening → c' = c
  subscribed : ∀ connection o s, ⟨.subscribe connection o, .ok s⟩ ∈ opening →
    ∃ subject, (subject, s) ∈ joined ∧ o = .forProcess subject c.identity.process
  joined : ∀ subject s, (subject, s) ∈ joined → ⟨.listen s c, ()⟩ ∈ opening

theorem Joins.opening {r : Except RunnerError Unit} (h : Joins c inputs t r) :
    ∃ joined, Opening c inputs joined (⟨.setSubscriber .subscribing, ()⟩ :: t) := by
  obtain ⟨joined, refused, rfl, hsubjects, hrefused⟩ : ∃ joined refused,
      t = joining c joined ++ refused ∧ joined.map (·.1) <+: inputs
        ∧ ∀ x ∈ refused, ∃ o e, x = ⟨.subscribe c.publisher.connection o, .error e⟩ := by
    cases h with
    | all joined => exact ⟨joined, [], by simp, List.prefix_rfl, by simp⟩
    | refused joined subject rest e =>
      exact ⟨joined, _, rfl, List.prefix_append _ _, fun x hx => ⟨_, e, List.mem_singleton.1 hx⟩⟩
  refine ⟨joined, hsubjects, List.forall_mem_cons.2 ⟨trivial, h.isStarting⟩, ?_, ?_, ?_, ?_⟩
  · exact Listens.append (t := [_]) (listens_of_none (by simp [IsListen])) h.listens
  · intro s c' u hlisten
    rcases h.mem ((List.mem_cons.1 hlisten).resolve_left (fun hx => by cases hx)) with ⟨connection, o, hr⟩ | ⟨id, hx⟩
    · cases hr
    · cases hx
      rfl
  · intro connection o s hsubscribe
    rcases List.mem_append.1 ((List.mem_cons.1 hsubscribe).resolve_left (fun hx => by cases hx)) with hin | hout
    · obtain ⟨⟨subject, id⟩, hmem, hx⟩ := List.mem_flatMap.1 hin
      rcases List.mem_cons.1 hx with hsame | hother
      · cases hsame
        exact ⟨subject, hmem, rfl⟩
      · cases List.mem_singleton.1 hother
    · obtain ⟨o', e, hx⟩ := hrefused _ hout
      cases hx
  · intro subject s hmem
    refine List.mem_cons_of_mem _ (List.mem_append_left _ (List.mem_flatMap.2 ⟨_, hmem, ?_⟩))
    exact List.mem_cons_of_mem _ List.mem_cons_self

/-- The course of a session: an opening, and winding up behind it. -/
structure Course (c : Context) (inputs : List String) (t : List (Exchange NodeSignature)) : Prop where
  phases : ∃ joined opening closing, t = opening ++ closing ∧ Opening c inputs joined opening
    ∧ ∀ x ∈ closing, x.1.IsWinding
  steady : Steady .idle t

theorem steady_nil : Steady .idle [] where
  finished hover := hover.elim
  awaits before u rest hsplit := by simp at hsplit
  stops := stops_of_none fun x hx => nomatch hx

theorem course_nil (c : Context) (inputs : List String) : Course c inputs [] where
  phases := by
    refine ⟨[], [], [], rfl, ⟨List.nil_prefix, ?_, listens_of_none ?_, ?_, ?_, ?_⟩, ?_⟩ <;> simp
  steady := steady_nil

/-- Nobody has been awaited when everybody has been told to join. -/
theorem Joins.steady {r : Except RunnerError Unit} (h : Joins c inputs t r) :
    Steady .idle (⟨.setSubscriber .subscribing, ()⟩ :: t) := by
  have hquiet : ∀ x ∈ t, ¬x.1.IsAwaitLeft ∧ ¬x.1.IsAbort := by
    intro x hx
    rcases h.mem hx with ⟨connection, o, hr⟩ | ⟨id, rfl⟩
    · rw [hr]
      exact ⟨fun h => h, fun h => h⟩
    · exact ⟨fun h => h, fun h => h⟩
  refine steady_nil.append (t := _ :: t)
    (List.forall_mem_cons.2 ⟨⟨fun h => h, fun h => h⟩, hquiet⟩) fun hover => ?_
  rw [List.nil_append, List.foldl_cons, foldl_after_eq (f := Conduct.subscriber)
    fun x hx => Conduct.subscriber_after (h.isSilent x hx).not_tellsSubscriber] at hover
  exact hover.elim

theorem course_of_start {r : Except RunnerError Unit} (h : (start c inputs).Runs t r)
    (hcoherent : Coherent .idle t) : Course c inputs t := by
  rcases Plan.start_runs h with ⟨-, rfl, -⟩ | ⟨-, joining, r', hjoins, hjoined⟩
  · exact course_nil c inputs
  · obtain ⟨joined, hopening⟩ := hjoins.opening
    rcases hjoined with ⟨-, -, rfl⟩ | ⟨e, s, -, -, rfl⟩
    · refine ⟨⟨joined, _, _, rfl, hopening, by simp [IsWinding]⟩, hjoins.steady.append ?_ fun hover => ?_⟩
      · simp [IsAwaitLeft, IsAbort]
      · rw [List.foldl_append] at hover
        exact hover.elim
    · have hwinding := (within_stop.runs (stop_runs_iff (u := ()).2 ⟨s, rfl⟩)).1
      exact ⟨⟨joined, _, _, rfl, hopening, hwinding⟩,
        (hjoins.steady.stopping (coherent_append.1 hcoherent).2.1).2⟩

/-- A whole session: what it has been told it has done. -/
theorem course_of_runs (h : (session c inputs commands).Runs t ()) (hcoherent : Coherent .idle t) :
    Course c inputs t ∧ (.stop ∈ commands ∨ .abort ∈ commands → ⟨.awaitLeft, ()⟩ ∈ t)
      ∧ (.abort ∈ commands → ⟨.abortListeners, ()⟩ ∈ t
        ∧ (t.foldl Conduct.after .idle).subscriber = .stopped) := by
  obtain ⟨starting, r, rest, rfl, hstart, hrest⟩ := runs_bind_iff.1 h
  obtain ⟨⟨joined, opening, closing, rfl, hopening, hclosing⟩, hsteady⟩ :=
    course_of_start hstart (coherent_append.1 hcoherent).1
  obtain ⟨hsteady', hleft, hended⟩ := hsteady.carried hrest hcoherent
  refine ⟨⟨⟨joined, opening, closing ++ rest, List.append_assoc .., hopening, ?_⟩, hsteady'⟩, hleft, ?_⟩
  · exact List.forall_mem_append.2 ⟨hclosing, ((within_carryOut commands).runs hrest).1⟩
  · exact fun habort => (hended habort).imp_left (List.mem_append_right _)

theorem Course.proper (h : Course c inputs t) : Proper t := by
  obtain ⟨⟨joined, opening, closing, rfl, hopening, hclosing⟩, hsteady⟩ := h
  have hnone : ∀ x ∈ closing, x.1.Closes := fun x hx => (hclosing x hx).closes
  refine ⟨hopening.listens.append (listens_of_none fun x hx => (hnone x hx).1), hsteady.stops, ?_⟩
  have horder := order_of_phases hopening.starting .nil hnone
  rwa [List.append_nil] at horder

/-! The machine of a session. -/

/-- What drives the node of a subscriber. -/
def body (c : Context) (inputs : List String) (commands : List Command) : Program NodeSignature Turn :=
  (Task.once .main (session c inputs commands)).body

theorem session_of_body {turn : Turn} (h : (body c inputs commands).Runs t turn) :
    (session c inputs commands).Runs t () ∧ turn = .finished := by
  obtain ⟨first, _, rest, rfl, hsession, hdone⟩ := runs_bind_iff.1 h
  obtain ⟨rfl, rfl⟩ := runs_done_iff.1 hdone
  rw [List.append_nil]
  exact ⟨hsession, rfl⟩

theorem within_body : (body c inputs commands).Within IsSubscribing (· = .finished) :=
  within_session.bind fun _ _ => rfl

theorem body_driver (c : Context) (inputs : List String) (commands : List Command) :
    Driver .idle (body c inputs commands) := by
  refine driver_of_runs (within_body.mono (fun _ h => h.isDriving) fun _ h => h)
    fun t turn hruns hcoherent => ?_
  exact (course_of_runs (session_of_body hruns).1 hcoherent).1.proper

theorem sound_machine (p : Pipeline Handler) (c : Context) (inputs : List String)
    (commands : List Command) {network : Network} (h : network.broker.Orderly) :
    Machine.Sound .idle (body c inputs commands) (machine p c inputs commands network) [] :=
  Machine.sound_nil (m := machine p c inputs commands network) rfl rfl rfl rfl rfl h

/-! A session as far as it has come. -/

variable {t' : List (Exchange NodeSignature)} {q : Program NodeSignature Turn}

/-- Whatever a session has come to, it can be brought to its end. -/
theorem exists_course (hleads : (body c inputs commands).Leads t q) (hcoherent : Coherent .idle t) :
    ∃ t', Course c inputs (t ++ t') := by
  obtain ⟨t', turn, hruns, hwhole⟩ := hleads.exists_run hcoherent
  exact ⟨t', (course_of_runs (session_of_body hruns).1 hwhole).1⟩

/-- Listeners are told to join in the opening alone. -/
theorem Course.context (h : Course c inputs (t ++ t')) {s : Nat} {c' : Context} {u : Unit}
    (hlisten : ⟨.listen s c', u⟩ ∈ t) : c' = c := by
  obtain ⟨joined, opening, closing, hsplit, hopening, hclosing⟩ := h.phases
  have hmem := List.mem_append_left t' hlisten
  rw [hsplit] at hmem
  rcases List.mem_append.1 hmem with hin | hout
  · exact hopening.listened s c' u hin
  · exact absurd (hclosing _ hout) fun h => h

/-- What was subscribed to is in the opening. -/
theorem Course.joined (h : Course c inputs (t ++ t')) : ∃ joined : List (String × Nat),
    joined.map (·.1) <+: inputs
      ∧ (∀ connection o s, ⟨.subscribe connection o, .ok s⟩ ∈ t →
        ∃ subject, (subject, s) ∈ joined ∧ o = .forProcess subject c.identity.process)
      ∧ (⟨.awaitLeft, ()⟩ ∈ t → ∀ subject s, (subject, s) ∈ joined → ⟨.listen s c, ()⟩ ∈ t) := by
  obtain ⟨joined, opening, closing, hsplit, hopening, hclosing⟩ := h.phases
  refine ⟨joined, hopening.subjects, fun connection o s hsubscribe => ?_, fun hleft subject s hmem => ?_⟩
  · have hwhole := List.mem_append_left t' hsubscribe
    rw [hsplit] at hwhole
    rcases List.mem_append.1 hwhole with hin | hout
    · exact hopening.subscribed connection o s hin
    · exact absurd (hclosing _ hout) fun h => h
  · -- listeners are awaited behind the opening, so all of that has been exchanged
    rcases prefix_append_cases (hsplit ▸ List.prefix_append t t') with hbefore | ⟨later, rfl, -⟩
    · exact absurd (hopening.starting _ (hbefore.subset hleft)) fun h => h
    · exact List.mem_append_left _ (hopening.joined subject s hmem)

end Subscriber
end Waystation
