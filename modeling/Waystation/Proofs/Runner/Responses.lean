import Waystation.Proofs.Correlation.First
import Waystation.Proofs.Messaging.Reporting
import Waystation.Proofs.Pipeline.Shape
import Waystation.Runner.Basic
/-!
A trigger and the responses to it. Messages are worked on side by side, one request at a time and in
any order, while requests are registered, polled and dropped. A registered request receives the
first message for it that is handed over after it was registered; no other message matters to it.
-/
namespace Waystation

/-- The program that makes some requests in order, whatever is replied, and has one answer. -/
def Program.each {S : Signature} {α : Type} (answer : α) : List S.Request → Program S α
  | [] => .done answer
  | r :: rest => .ask r fun _ => each answer rest

/-- What a trigger asks for in working on a delivery. A message that can be read is handed over and
acknowledged; one that cannot is acknowledged and reported for no request. -/
def responseWork (c : Context) (d : Delivery) : List WorkRequest :=
  match Envelope.decode d.message.payload with
  | .ok e => [.user (.deliver e), .acknowledge d.number]
  | .error err => [.acknowledge d.number,
    .user (.publish c.publisher (.error (PipelineError.decode err).message (some "")))]

/-- Wherever a message comes from, the pipeline of a trigger has one handler for it. -/
theorem resolve_trigger (fromNode : String) :
    TriggerRunner.pipeline.registry.resolve fromNode = some responseHandler :=
  Registry.resolve_setDefault_empty responseHandler fromNode

theorem work_trigger (c : Context) (d : Delivery) :
    TriggerRunner.pipeline.work c d = Program.each (.ok ()) (responseWork c d) := by
  rw [Pipeline.work, Pipeline.process, responseWork]
  cases Envelope.decode d.message.payload with
  | error err => rfl
  | ok e =>
    simp only [Pipeline.execute, resolve_trigger]
    rfl

/-- A delivery that is worked on, and what is left to do for it. -/
structure Errand where
  delivery : Delivery
  rest : Work

/-- A trigger node, the waiters it has given out, and the messages it works on, oldest first. -/
structure Reception where
  node : Node
  waits : List (Correlation.Wait Envelope) := []
  works : List Errand := []

namespace Reception

open Correlation

/-- What can happen: a message arrives, the work on one goes on by one request, or something is done
with a request or a waiter. -/
inductive Event
  | arrive (d : Delivery)
  | proceed (place : Nat)
  | register (id : String)
  | poll (place : Nat)
  | drop (place : Nat)
  | turnAway

/-- The table of the node with the waiters. -/
def session (s : Reception) : Session Envelope := { table := s.node.correlation, waits := s.waits }

def withSession (s : Reception) (t : Session Envelope) : Reception :=
  { s with node := { s.node with correlation := t.table }, waits := t.waits }

variable (c : Context)

def after (s : Reception) : Event → Reception
  | .arrive d => { s with works := s.works ++ [{ delivery := d, rest := TriggerRunner.pipeline.work c d }] }
  | .proceed place => match s.works[place]? with
    | some ⟨d, .ask r next⟩ => match s.node.workAnswers r with
      | (reply, node) :: _ => { s with node, works := s.works.set place ⟨d, next reply⟩ }
      | [] => s
    | _ => s
  | .register id => s.withSession (s.session.after (.register id))
  | .poll place => s.withSession (s.session.after (.poll place))
  | .drop place => s.withSession (s.session.after (.drop place))
  | .turnAway => s.withSession (s.session.after .closeAll)

def run (s : Reception) (es : List Event) : Reception := es.foldl (after c) s

/-- The request that the work at a place makes next. -/
def asking (s : Reception) (place : Nat) : List WorkRequest :=
  match s.works[place]? with
  | some ⟨_, .ask r _⟩ => [r]
  | _ => []

/-- The requests that an event makes for the work at a place. -/
def made (place : Nat) (s : Reception) : Event → List WorkRequest
  | .proceed other => if other = place then s.asking place else []
  | _ => []

/-- The message that a request hands over. -/
def handing : WorkRequest → Option Envelope
  | .user (.deliver e) => some e
  | _ => none

/-- The messages that an event hands over to whoever waits for them. -/
def handed (s : Reception) : Event → List Envelope
  | .proceed place => (s.asking place).filterMap handing
  | _ => []

/-- What comes of events on the way. -/
def log {α : Type} (f : Reception → Event → List α) (s : Reception) (es : List Event) : List α :=
  logged (after c) f s es

/-- The deliveries that arrive. -/
def arrivals (es : List Event) : List Delivery :=
  es.filterMap fun
    | .arrive d => some d
    | _ => none

/-! Each message is worked on as it should be. -/

/-- What is left of each work is what has not been asked for yet. -/
structure OnTrack (s : Reception) (arrived : List Delivery) (asked : Nat → List WorkRequest) :
    Prop where
  deliveries : s.works.map (·.delivery) = arrived
  rest : ∀ place d p, s.works[place]? = some ⟨d, p⟩ →
    ∃ left : List WorkRequest, p = Program.each (.ok ()) left ∧ asked place ++ left = responseWork c d
  fresh : ∀ place, s.works.length ≤ place → asked place = []

variable {c} {s : Reception} {arrived : List Delivery} {asked : Nat → List WorkRequest}

theorem mem_responseWork {d : Delivery} {r : WorkRequest} (h : r ∈ responseWork c d) :
    (∃ e, Envelope.decode d.message.payload = .ok e ∧ r = .user (.deliver e))
      ∨ r = .acknowledge d.number
      ∨ ∃ err, Envelope.decode d.message.payload = .error err ∧ r = .user
        (.publish c.publisher (.error (PipelineError.decode err).message (some ""))) := by
  rw [responseWork] at h
  split at h
  next e hdecode =>
    rcases List.mem_cons.1 h with rfl | hlast
    · exact .inl ⟨e, hdecode, rfl⟩
    · exact .inr (.inl (List.mem_singleton.1 hlast))
  next err hdecode =>
    rcases List.mem_cons.1 h with rfl | hlast
    · exact .inr (.inl rfl)
    · exact .inr (.inr ⟨err, hdecode, List.mem_singleton.1 hlast⟩)

/-- A response handed over, as an operation on the table. -/
def delivering (e : Envelope) : Session.Operation Envelope := .deliver e.requestId e

/-- What a trigger asks for is answered at once, and the table changes only for a response. -/
theorem workAnswers_of_mem {d : Delivery} {r : WorkRequest} (h : r ∈ responseWork c d) (n : Node)
    (waits : List (Wait Envelope)) : ∃ reply node, n.workAnswers r = [(reply, node)]
      ∧ ({ table := node.correlation, waits } : Session Envelope)
        = Session.run { table := n.correlation, waits } ((handing r).toList.map delivering) := by
  rcases mem_responseWork h with ⟨e, -, rfl⟩ | rfl | ⟨err, -, rfl⟩
  · exact ⟨_, _, rfl, rfl⟩
  · exact ⟨_, _, rfl, rfl⟩
  · exact ⟨_, _, rfl, rfl⟩

/-- Work that is not over goes on by the next request. -/
theorem OnTrack.proceed_cases (h : OnTrack c s arrived asked) (place : Nat) :
    (s.asking place = [] ∧ s.after c (.proceed place) = s)
      ∨ ∃ (d : Delivery) (r : WorkRequest) (left : List WorkRequest) (reply : r.Reply) (node : Node),
        s.works[place]? = some ⟨d, Program.each (.ok ()) (r :: left)⟩
        ∧ asked place ++ r :: left = responseWork c d
        ∧ s.asking place = [r] ∧ s.node.workAnswers r = [(reply, node)]
        ∧ s.after c (.proceed place)
          = { s with node, works := s.works.set place ⟨d, Program.each (.ok ()) left⟩ } := by
  cases hplace : s.works[place]? with
  | none =>
    refine .inl ⟨?_, ?_⟩
    · rw [asking, hplace]
    · simp only [after, hplace]
  | some w =>
    obtain ⟨d, p⟩ := w
    obtain ⟨left, rfl, hasked⟩ := h.rest place d p hplace
    cases left with
    | nil =>
      refine .inl ⟨?_, ?_⟩
      · rw [asking, hplace]
        rfl
      · simp only [after, hplace, Program.each]
    | cons r left =>
      have hr : r ∈ responseWork c d := by
        rw [← hasked]
        simp
      obtain ⟨reply, node, hanswers, -⟩ := workAnswers_of_mem hr s.node s.waits
      refine .inr ⟨d, r, left, reply, node, rfl, hasked, ?_, hanswers, ?_⟩
      · rw [asking, hplace]
        rfl
      · simp only [after, hplace, Program.each, hanswers]

theorem OnTrack.same (h : OnTrack c s arrived asked) (s' : Reception) (hworks : s'.works = s.works)
    {more : Nat → List WorkRequest} (hmore : ∀ place, more place = []) :
    OnTrack c s' (arrived ++ []) fun place => asked place ++ more place := by
  simp only [hmore, List.append_nil]
  exact ⟨hworks ▸ h.deliveries, hworks ▸ h.rest, hworks ▸ h.fresh⟩

theorem OnTrack.arrive (h : OnTrack c s arrived asked) (d : Delivery) :
    OnTrack c (s.after c (.arrive d)) (arrived ++ [d]) fun place => asked place ++ [] := by
  simp only [List.append_nil]
  refine ⟨?_, fun place d' p hplace => ?_, fun place hplace => ?_⟩
  · simp only [after, List.map_append, h.deliveries, List.map_singleton]
  · simp only [after, List.getElem?_append] at hplace
    split at hplace
    · exact h.rest place d' p hplace
    next hlength =>
      have hnew := List.mem_singleton.1 (List.mem_of_getElem? hplace)
      obtain ⟨rfl, rfl⟩ := Errand.mk.inj hnew
      refine ⟨responseWork c d', work_trigger c d', ?_⟩
      rw [h.fresh place (Nat.le_of_not_lt hlength), List.nil_append]
  · simp only [after, List.length_append] at hplace
    exact h.fresh place (by omega)

theorem OnTrack.proceed (h : OnTrack c s arrived asked) (place : Nat) :
    OnTrack c (s.after c (.proceed place)) (arrived ++ [])
      fun other => asked other ++ made other s (.proceed place) := by
  rcases h.proceed_cases place with
    ⟨hasking, hafter⟩ | ⟨d, r, left, reply, node, hplace, hasked, hasking, -, hafter⟩
  · refine h.same _ (congrArg works hafter) fun other => ?_
    by_cases hsame : place = other
    · rw [made, if_pos hsame, ← hsame, hasking]
    · rw [made, if_neg hsame]
  · rw [hafter, List.append_nil]
    have hlt : place < s.works.length := (List.getElem?_eq_some_iff.1 hplace).1
    refine ⟨?_, fun other d' p hother => ?_, fun other hother => ?_⟩
    · have hsame : (s.works.map (·.delivery))[place]? = some d := by
        rw [List.getElem?_map, hplace]
        rfl
      obtain ⟨hlength, hd⟩ := List.getElem?_eq_some_iff.1 hsame
      rw [← h.deliveries, List.map_set, ← hd]
      exact List.set_getElem_self hlength
    · by_cases hsame : place = other
      · subst hsame
        rw [List.getElem?_set_self hlt] at hother
        obtain ⟨rfl, rfl⟩ := Errand.mk.inj (Option.some.inj hother)
        refine ⟨left, rfl, ?_⟩
        simpa only [made, if_true, hasking, List.append_assoc, List.singleton_append] using hasked
      · rw [List.getElem?_set_ne hsame] at hother
        simpa only [made, if_neg hsame, List.append_nil] using h.rest other d' p hother
    · rw [List.length_set] at hother
      have hne : place ≠ other := Nat.ne_of_lt (Nat.lt_of_lt_of_le hlt hother)
      simpa only [made, if_neg hne, List.append_nil] using h.fresh other hother

theorem OnTrack.after (h : OnTrack c s arrived asked) (e : Event) :
    OnTrack c (s.after c e) (arrived ++ arrivals [e]) fun place => asked place ++ made place s e := by
  cases e with
  | arrive d => exact h.arrive d
  | proceed place => exact h.proceed place
  | register id => exact h.same (s.withSession _) rfl fun _ => rfl
  | poll place => exact h.same (s.withSession _) rfl fun _ => rfl
  | drop place => exact h.same (s.withSession _) rfl fun _ => rfl
  | turnAway => exact h.same (s.withSession _) rfl fun _ => rfl

theorem OnTrack.run (h : OnTrack c s arrived asked) (es : List Event) :
    OnTrack c (s.run c es) (arrived ++ arrivals es)
      fun place => asked place ++ log c (made place) s es := by
  induction es generalizing s arrived asked with
  | nil => exact h.same s rfl fun _ => rfl
  | cons e es ih =>
    have hrest := ih (h.after e)
    have harrivals : arrivals (e :: es) = arrivals [e] ++ arrivals es :=
      List.filterMap_append (l := [e])
    simp only [List.append_assoc, ← harrivals] at hrest
    exact hrest

/-- From anywhere on, the work at a place goes through what is left of it. -/
theorem OnTrack.proceed_all (h : OnTrack c s arrived asked) {place : Nat} {d : Delivery}
    {left : List WorkRequest} (hplace : s.works[place]? = some ⟨d, Program.each (.ok ()) left⟩)
    (hasked : asked place ++ left = responseWork c d) :
    log c (made place) s (List.replicate left.length (.proceed place)) = left := by
  induction left generalizing s arrived asked with
  | nil => rfl
  | cons r left ih =>
    have hafter := h.after (.proceed place)
    rcases h.proceed_cases place with
      ⟨hasking, -⟩ | ⟨d', r', left', reply, node, hplace', hasked', hasking, -, hstep⟩
    · rw [asking, hplace] at hasking
      cases hasking
    · obtain ⟨rfl, hprogram⟩ := Errand.mk.inj (Option.some.inj (hplace.symm.trans hplace'))
      obtain ⟨rfl, rfl⟩ := List.cons.inj (List.append_cancel_left (hasked.trans hasked'.symm))
      have hmade : made place s (.proceed place) = [r] := by
        rw [made, if_pos rfl, hasking]
      have hlt : place < s.works.length := (List.getElem?_eq_some_iff.1 hplace).1
      have hrest := ih hafter
        (by rw [hstep]; exact List.getElem?_set_self hlt)
        (by rw [hmade, List.append_assoc]; exact hasked)
      simp only [log, List.length_cons, List.replicate_succ, logged, hmade] at hrest ⊢
      rw [hrest]
      rfl

/-! The table of the node. -/

/-- What an event does to the table and to the waiters. -/
def operations (s : Reception) : Event → List (Session.Operation Envelope)
  | .arrive _ => []
  | .proceed place => (s.handed (.proceed place)).map delivering
  | .register id => [.register id]
  | .poll place => [.poll place]
  | .drop place => [.drop place]
  | .turnAway => [.closeAll]

theorem OnTrack.session_proceed (h : OnTrack c s arrived asked) (place : Nat) :
    (s.after c (.proceed place)).session
      = s.session.run ((s.handed (.proceed place)).map delivering) := by
  rcases h.proceed_cases place with
    ⟨hasking, hafter⟩ | ⟨d, r, left, reply, node, hplace, hasked, hasking, hanswers, hafter⟩
  · rw [hafter, handed, hasking]
    rfl
  · have hr : r ∈ responseWork c d := by
      rw [← hasked]
      simp
    obtain ⟨reply', node', hanswers', hsession⟩ := workAnswers_of_mem hr s.node s.waits
    obtain ⟨rfl, rfl⟩ := Prod.mk.inj (List.singleton_inj.1 (hanswers.symm.trans hanswers'))
    have hhanded : s.handed (.proceed place) = (handing r).toList := by
      rw [handed, hasking, List.filterMap_cons]
      cases handing r <;> rfl
    rw [hafter, hhanded]
    exact hsession

theorem OnTrack.session_after (h : OnTrack c s arrived asked) (e : Event) :
    (s.after c e).session = s.session.run (s.operations e) := by
  cases e with
  | proceed place => exact h.session_proceed place
  | arrive d => rfl
  | register id => rfl
  | poll place => rfl
  | drop place => rfl
  | turnAway => rfl

theorem OnTrack.session_run (h : OnTrack c s arrived asked) (es : List Event) :
    (s.run c es).session = s.session.run (log c operations s es) := by
  induction es generalizing s arrived asked with
  | nil => rfl
  | cons e es ih =>
    have hrest := ih (h.after e)
    rw [h.session_after e] at hrest
    simpa only [Reception.run, log, logged, Session.run, List.foldl_cons, List.foldl_append]
      using hrest

theorem findSome?_delivering (id : String) (es : List Envelope) :
    (es.map delivering).findSome? (·.response? id) = es.find? (·.requestId = id) := by
  induction es with
  | nil => rfl
  | cons e es ih =>
    have hresponse : (delivering e).response? id = if e.requestId = id then some e else none := rfl
    rw [List.map_cons, List.findSome?_cons, hresponse, ih]
    by_cases hid : e.requestId = id
    · simp [hid]
    · simp [hid]

/-- The first response that the table is given for a request is the first that is handed over. -/
theorem findSome?_operations (id : String) (s : Reception) (es : List Event) :
    (log c operations s es).findSome? (·.response? id)
      = (log c handed s es).find? (·.requestId = id) := by
  induction es generalizing s with
  | nil => rfl
  | cons e es ih =>
    have hfirst : (s.operations e).findSome? (·.response? id)
        = (s.handed e).find? (·.requestId = id) := by
      cases e with
      | proceed place => exact findSome?_delivering id _
      | arrive d => rfl
      | register id => rfl
      | poll place => rfl
      | drop place => rfl
      | turnAway => rfl
    have hrest := ih (s.after c e)
    simp only [log] at hrest
    simp only [log, logged, List.findSome?_append, List.find?_append, hfirst, hrest]

/-- An event that registers a request again, closes the table, or drops the waiter at a place. -/
def Event.Ends (id : String) (place : Nat) (e : Event) : Prop :=
  e = .register id ∨ e = .turnAway ∨ e = .drop place

theorem not_ends_of_mem {id : String} {place : Nat} {e : Event} (he : ¬e.Ends id place)
    {op : Session.Operation Envelope} (hop : op ∈ s.operations e) : ¬op.Ends id place := by
  cases e with
  | arrive d => cases hop
  | proceed other =>
    obtain ⟨response, -, rfl⟩ := List.mem_map.1 hop
    rintro (h | h | h | h)
    all_goals cases h
  | register other =>
    obtain rfl := List.mem_singleton.1 hop
    rintro (h | h | h | h)
    · cases h
      exact he (.inl rfl)
    all_goals cases h
  | poll other =>
    obtain rfl := List.mem_singleton.1 hop
    rintro (h | h | h | h)
    all_goals cases h
  | drop other =>
    obtain rfl := List.mem_singleton.1 hop
    rintro (h | h | h | h)
    case inr.inr.inr =>
      cases h
      exact he (.inr (.inr rfl))
    all_goals cases h
  | turnAway => exact absurd (.inr (.inl rfl)) he

theorem not_ends_operations {id : String} {place : Nat} {es : List Event}
    (hes : ∀ e ∈ es, ¬e.Ends id place) (s : Reception) :
    ∀ op ∈ log c operations s es, ¬op.Ends id place := by
  intro op hop
  obtain ⟨before, e, rest, rfl, hop'⟩ := exists_of_mem_logged hop
  exact not_ends_of_mem (hes e (by simp)) hop'

theorem length_handed (s : Reception) (place : Nat) : (s.handed (.proceed place)).length ≤ 1 := by
  have hasking : (s.asking place).length ≤ 1 := by
    rw [asking]
    split
    · exact Nat.le_refl 1
    · exact Nat.zero_le 1
  exact Nat.le_trans (List.length_filterMap_le _ _) hasking

theorem waits_delivering (t : Session Envelope) (es : List Envelope) :
    (t.run (es.map delivering)).waits = t.waits := by
  induction es generalizing t with
  | nil => rfl
  | cons e es ih => exact ih (t.after (delivering e))

theorem poll_delivering {t : Session Envelope} {log : List (Waiter × Envelope)} (ht : t.Sound log)
    {es : List Envelope} (hes : es.length ≤ 1) {x : Wait Envelope} (hx : x ∈ t.waits)
    (hother : ∀ e ∈ es, ¬(x.waiter.id = e.requestId ∧ t.table.stands x.waiter = true)) :
    ((t.run (es.map delivering)).table.poll x.waiter).1 = (t.table.poll x.waiter).1 := by
  rcases es with - | ⟨e, - | ⟨e', es⟩⟩
  · rfl
  · exact Session.poll_deliver_other ht hx (hother e (by simp))
  · simp at hes

/-- A message for no request is for nobody who waits for one that has an identity. -/
theorem not_awaited_of_uncorrelated {e : Envelope} (he : e.isCorrelated = false) {id : String}
    (hid : id ≠ "") : id ≠ e.requestId := by
  rintro rfl
  exact hid (by simpa [Envelope.isCorrelated] using he)

/-! What is acknowledged and published. -/

/-- The number of the delivery that a request acknowledges. -/
def acknowledging : WorkRequest → Option Nat
  | .acknowledge number => some number
  | .user _ => none

/-- The deliveries that an event acknowledges. -/
def acknowledged (s : Reception) : Event → List Nat
  | .proceed place => (s.asking place).filterMap acknowledging
  | _ => []

/-- An event does nothing to the network but acknowledge a delivery, or publish the report of a
message that cannot be read. -/
theorem OnTrack.network_after (h : OnTrack c s arrived asked) (e : Event) :
    (s.after c e).node.network = s.node.network
      ∨ ∃ place d, e = .proceed place ∧ arrived[place]? = some d
        ∧ ((s.after c e).node.network = (s.node.network.acknowledge d.number).2
          ∨ ∃ err, Envelope.decode d.message.payload = .error err
            ∧ c.publisher.Published s.node.network
              { requestId := "", error := (PipelineError.decode err).message
                fromNode := c.publisher.fromNode, messageType := MessageType.error.number }
              c.publisher.output (s.after c e).node.network) := by
  cases e with
  | proceed place =>
    rcases h.proceed_cases place with
      ⟨-, hafter⟩ | ⟨d, r, left, reply, node, hplace, hasked, -, hanswers, hafter⟩
    · rw [hafter]
      exact .inl rfl
    · have hr : r ∈ responseWork c d := by
        rw [← hasked]
        simp
      have harrived : arrived[place]? = some d := by
        rw [← h.deliveries, List.getElem?_map, hplace]
        rfl
      rw [hafter]
      rcases mem_responseWork hr with ⟨e, -, rfl⟩ | rfl | ⟨err, hdecode, rfl⟩
      · obtain ⟨-, rfl⟩ := Prod.mk.inj (List.singleton_inj.1 hanswers)
        exact .inl rfl
      · obtain ⟨-, rfl⟩ := Prod.mk.inj (List.singleton_inj.1 hanswers)
        exact .inr ⟨place, d, rfl, harrived, .inl rfl⟩
      · obtain ⟨-, rfl⟩ := Prod.mk.inj (List.singleton_inj.1 hanswers)
        have htext : (PipelineError.decode err).message ≠ "" :=
          Pipeline.text_ne_empty (p := TriggerRunner.pipeline) (c := c) (.undecodable hdecode)
        rcases c.publisher.send_error htext "" s.node.network with
          ⟨e, hsend⟩ | ⟨network, hsend, hpublished⟩
        · refine .inl ?_
          simp only [hsend]
        · refine .inr ⟨place, d, rfl, harrived, .inr ⟨err, hdecode, ?_⟩⟩
          simp only [hsend]
          exact hpublished
  | arrive d => exact .inl rfl
  | register id => exact .inl rfl
  | poll place => exact .inl rfl
  | drop place => exact .inl rfl
  | turnAway => exact .inl rfl

theorem OnTrack.acknowledged_after (h : OnTrack c s arrived asked) (e : Event) :
    (s.after c e).node.acknowledged = s.node.acknowledged ++ s.acknowledged e := by
  cases e with
  | proceed place =>
    rcases h.proceed_cases place with
      ⟨hasking, hafter⟩ | ⟨d, r, left, reply, node, hplace, hasked, hasking, hanswers, hafter⟩
    · rw [hafter, acknowledged, hasking, List.filterMap_nil, List.append_nil]
    · have hr : r ∈ responseWork c d := by
        rw [← hasked]
        simp
      rw [hafter, acknowledged, hasking]
      rcases mem_responseWork hr with ⟨e, -, rfl⟩ | rfl | ⟨err, -, rfl⟩
      all_goals
        obtain ⟨-, rfl⟩ := Prod.mk.inj (List.singleton_inj.1 hanswers)
        simp [acknowledging]
  | arrive d => exact (List.append_nil _).symm
  | register id => exact (List.append_nil _).symm
  | poll place => exact (List.append_nil _).symm
  | drop place => exact (List.append_nil _).symm
  | turnAway => exact (List.append_nil _).symm

/-! Whole runs. -/

/-- A trigger node that waits for nothing yet. -/
def begin (n : Node) : Reception := { node := { n with correlation := {} } }

theorem onTrack_begin (c : Context) (n : Node) : OnTrack c (begin n) [] fun _ => [] where
  deliveries := rfl
  rest place d p h := by cases h
  fresh _ _ := rfl

theorem onTrack_run (c : Context) (n : Node) (es : List Event) :
    OnTrack c (run c (begin n) es) (arrivals es)
      fun place => log c (made place) (begin n) es := by
  simpa only [List.nil_append] using (onTrack_begin c n).run es

theorem sound_run (c : Context) (n : Node) (es : List Event) :
    ∃ log, (run c (begin n) es).session.Sound log := by
  rw [(onTrack_begin c n).session_run es]
  exact ⟨_, Session.sound_run _⟩

theorem acknowledged_run (c : Context) (n : Node) (es : List Event) :
    (run c (begin n) es).node.acknowledged
      = n.acknowledged ++ log c acknowledged (begin n) es := by
  suffices ∀ s arrived asked, OnTrack c s arrived asked →
      (run c s es).node.acknowledged = s.node.acknowledged ++ log c acknowledged s es from
    this _ _ _ (onTrack_begin c n)
  induction es with
  | nil => exact fun s _ _ _ => (List.append_nil _).symm
  | cons e es ih =>
    intro s arrived asked h
    have hrest := ih _ _ _ (h.after e)
    simp only [log] at hrest
    rw [run, List.foldl_cons, ← run, hrest, h.acknowledged_after e, log, logged,
      List.append_assoc]

/-- The fate of a waiter that polls after a run is decided by the responses handed over since it was
given out. -/
theorem fate_run (c : Context) (n : Node) (before : List Event) (id : String) {rest : List Event}
    {place : Nat} (hplace : (run c (begin n) before).waits.length = place)
    (hrest : ∀ e ∈ rest, ¬e.Ends id place) :
    ∃ w : Waiter, w.id = id
      ∧ (run c (begin n) (before ++ .register id :: rest ++ [.poll place])).waits[place]?
        = some ⟨w, Session.fateOf
          ((log c handed (run c (begin n) (before ++ [.register id])) rest).find?
            (·.requestId = id))⟩ := by
  subst hplace
  obtain ⟨sessionLog, hsound⟩ := sound_run c n before
  let s := run c (begin n) (before ++ [.register id])
  have hregister : s.session = (run c (begin n) before).session.after (.register id) := by
    simp only [s, run, List.foldl_append]
    rfl
  have hrun := (onTrack_run c n (before ++ [.register id])).session_run rest
  have hfate := Session.fate_after_register hsound id (not_ends_operations (c := c) hrest s)
  rw [findSome?_operations, ← hregister, ← hrun] at hfate
  let w : Waiter := { id, generation := (run c (begin n) before).node.correlation.nextGeneration }
  refine ⟨w, rfl, ?_⟩
  have hsplit : before ++ .register id :: rest = (before ++ [.register id]) ++ rest := by simp
  rw [hsplit, run, List.foldl_append, List.foldl_append]
  exact hfate

/-- Whatever arrives at a trigger, however the work on it is interleaved, and whatever is done with
requests meanwhile: a registered request receives the first message for it that is handed over
afterwards, unless it is registered again, dropped or turned away before; a message that is handed
over matters only to waiters of the registration it is for, and one for no request to nobody but those
who have registered the empty identity; every message is handed over or found unreadable, and
acknowledged once; and nothing is published but one report, for no request, of each message that
cannot be read. -/
theorem run_receives (c : Context) (n : Node) (es : List Event) :
    (∀ before id rest, es = before ++ .register id :: rest →
      let place := (run c (begin n) before).waits.length
      (∀ e ∈ rest, ¬e.Ends id place) →
        ∃ w : Waiter, w.id = id ∧ (run c (begin n) (es ++ [.poll place])).waits[place]?
          = some ⟨w, Session.fateOf
            ((log c handed (run c (begin n) (before ++ [.register id])) rest).find?
              (·.requestId = id))⟩)
    ∧ (∀ place, let s := run c (begin n) es
      (s.after c (.proceed place)).waits = s.waits
      ∧ ∀ x ∈ s.waits, (∀ e ∈ s.handed (.proceed place),
          ¬(x.waiter.id = e.requestId ∧ s.node.correlation.stands x.waiter = true)) →
        ((s.after c (.proceed place)).node.correlation.poll x.waiter).1
          = (s.node.correlation.poll x.waiter).1)
    ∧ (∀ place, let s := run c (begin n) es
      (∀ e ∈ s.handed (.proceed place), e.isCorrelated = false) →
        ∀ x ∈ s.waits, x.waiter.id ≠ "" →
          ((s.after c (.proceed place)).node.correlation.poll x.waiter).1
            = (s.node.correlation.poll x.waiter).1)
    ∧ (∀ place d, (arrivals es)[place]? = some d →
      ∃ left, log c (made place) (begin n) es ++ left = responseWork c d
        ∧ log c (made place) (begin n) (es ++ List.replicate left.length (.proceed place))
          = responseWork c d)
    ∧ (run c (begin n) es).node.acknowledged = n.acknowledged ++ log c acknowledged (begin n) es
    ∧ ∀ e, let s := run c (begin n) es
      (s.after c e).node.network = s.node.network
        ∨ ∃ place d, e = .proceed place ∧ (arrivals es)[place]? = some d
          ∧ ((s.after c e).node.network = (s.node.network.acknowledge d.number).2
            ∨ ∃ err, Envelope.decode d.message.payload = .error err
              ∧ c.publisher.Published s.node.network
                { requestId := "", error := (PipelineError.decode err).message
                  fromNode := c.publisher.fromNode, messageType := MessageType.error.number }
                c.publisher.output (s.after c e).node.network) := by
  have htrack := onTrack_run c n es
  have hmatters : ∀ place, ∀ x ∈ (run c (begin n) es).waits,
      (∀ e ∈ (run c (begin n) es).handed (.proceed place), ¬(x.waiter.id = e.requestId
        ∧ (run c (begin n) es).node.correlation.stands x.waiter = true)) →
      (((run c (begin n) es).after c (.proceed place)).node.correlation.poll x.waiter).1
        = ((run c (begin n) es).node.correlation.poll x.waiter).1 := by
    intro place x hx hother
    obtain ⟨sessionLog, hsound⟩ := sound_run c n es
    have hpoll := poll_delivering hsound (length_handed (run c (begin n) es) place) hx hother
    rw [← htrack.session_proceed place] at hpoll
    exact hpoll
  refine ⟨?_, fun place => ⟨?_, hmatters place⟩, fun place huncorrelated x hx hid => ?_,
    fun place d hd => ?_, acknowledged_run c n es, fun e => htrack.network_after e⟩
  · rintro before id rest rfl place hrest
    exact fate_run c n before id rfl hrest
  · exact (congrArg Session.waits (htrack.session_proceed place)).trans (waits_delivering _ _)
  · exact hmatters place x hx fun e he hwaits =>
      not_awaited_of_uncorrelated (huncorrelated e he) hid hwaits.1
  · have hwork : ((run c (begin n) es).works.map (·.delivery))[place]? = some d :=
      htrack.deliveries ▸ hd
    rw [List.getElem?_map, Option.map_eq_some_iff] at hwork
    obtain ⟨⟨_, p⟩, hplace, rfl⟩ := hwork
    obtain ⟨left, rfl, hasked⟩ := htrack.rest place _ p hplace
    refine ⟨left, hasked, ?_⟩
    rw [log, logged_append]
    exact (congrArg (_ ++ ·) (htrack.proceed_all hplace hasked)).trans hasked

/-- Whoever registers the empty identity receives a message that is for no request. -/
theorem resolved_of_uncorrelated :
    let c : Context := {
      identity := { process := "entry" }
      publisher := { connection := 1, stream := "workflow", output := "entry.out", fromNode := "entry" }
      settings := {} }
    let response : Envelope := { payload := some {}, fromNode := "exit" }
    let d : Delivery := { number := 0, message := { subject := "exit.out", payload := response.encode } }
    let registered := run c (begin { network := {} }) [.register "", .arrive d]
    let w : Waiter := { id := "", generation := 0 }
    response.isCorrelated = false ∧ registered.waits.map (·.waiter) = [w]
      ∧ (registered.node.correlation.poll w).1 = .pending
      ∧ registered.handed (.proceed 0) = [response]
      ∧ ((registered.after c (.proceed 0)).node.correlation.poll w).1 = .resolved (some response) := by
  decide +kernel

end Reception
end Waystation
