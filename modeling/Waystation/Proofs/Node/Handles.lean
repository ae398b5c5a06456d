import Waystation.Proofs.Node.Rounds
/-!
Tasks that a node knows nothing of. User code may start tasks of its own and give them the handle of its
node: they register requests and wait for the responses, whatever the tasks of the node do meanwhile.
They change nothing but the table of open requests.
-/
namespace Waystation

open Listener

/-- What is done with the handle of a node, or with a waiter that it has given out. -/
inductive Use
  | register (id : String)
  | await (id : String)
  | poll (w : Waiter)
  | release (w : Waiter)

namespace Use

variable {α : Type}

/-- The table after a use. -/
def after (c : Correlation α) : Use → Correlation α
  | register id => (c.register id).2
  | await id => (c.await id).2
  | poll w => (c.poll w).2
  | release w => c.release w

/-- The waiters that a use gives out. -/
def granted (c : Correlation α) : Use → List Waiter
  | register id => [(c.register id).1]
  | await id => [(c.await id).1]
  | poll _ | release _ => []

variable {c : Correlation α}

theorem ages (u : Use) (c : Correlation α) : c.Ages (u.after c) := by
  cases u with
  | register id => exact c.ages_register id
  | await id => exact c.ages_await id
  | poll w => exact c.ages_poll w
  | release w => exact c.ages_release w

theorem generation_lt (u : Use) (h : c.Dated) :
    ∀ w ∈ u.granted c, w.generation < (u.after c).nextGeneration := by
  cases u with
  | register id => exact List.forall_mem_singleton.2 (c.generation_register_lt id)
  | await id => exact List.forall_mem_singleton.2 (Correlation.generation_await_lt h id)
  | poll w | release w => exact fun w hw => nomatch hw

end Use

/-- The waiter that work is given. -/
def granted? : Exchange WorkSignature → Option Waiter
  | ⟨.user (.register _), w⟩ => some w
  | ⟨.user (.await _), w⟩ => some w
  | _ => none

namespace Node

variable {n node : Node}

theorem workAnswers_of_answers {r : NodeRequest} {reply : r.Reply} (h : (reply, node) ∈ n.answers r)
    {x : Exchange WorkSignature} (hx : worked? ⟨r, reply⟩ = some x) : (x.2, node) ∈ n.workAnswers x.1 := by
  cases r with
  | work r =>
    obtain rfl := Option.some.inj hx
    exact h
  | watched r =>
    cases reply with
    | none => cases hx
    | some reply =>
      obtain rfl := Option.some.inj hx
      simp only [answers] at h
      split at h
      next =>
        rw [once] at h
        split at h
        · cases List.mem_singleton.1 h
        · cases h
      next answers hanswers =>
        obtain ⟨⟨reply', node'⟩, hmem, heq⟩ := List.mem_map.1 h
        obtain ⟨hreply, rfl⟩ := Prod.mk.inj heq
        obtain rfl := Option.some.inj hreply
        exact hmem
  | _ => cases hx

theorem generation_lt {x : Exchange WorkSignature} (h : (x.2, node) ∈ n.workAnswers x.1)
    (hdated : n.correlation.Dated) {w : Waiter} (hw : granted? x = some w) :
    w.generation < node.correlation.nextGeneration := by
  unfold granted? at hw
  split at hw
  next id w' =>
    obtain ⟨rfl, rfl⟩ := Prod.mk.inj (List.mem_singleton.1 h)
    obtain rfl := Option.some.inj hw
    exact n.correlation.generation_register_lt id
  next id w' =>
    obtain ⟨rfl, rfl⟩ := Prod.mk.inj (List.mem_singleton.1 h)
    obtain rfl := Option.some.inj hw
    exact Correlation.generation_await_lt hdated id
  next => cases hw

end Node

namespace Machine

/-- What can happen to a node with a handle that others hold as well: what happens to any node, or
something is done with the handle. -/
inductive Happening
  | event (e : Event)
  | use (u : Use)

def undergo (m : Machine) : Happening → Machine
  | .event e => m.after e
  | .use u => { m with node := { m.node with correlation := u.after m.node.correlation } }

/-- The requests that the tasks of the node make in a happening, with their replies. -/
def made (m : Machine) : Happening → List Move
  | .event e => m.moves e
  | .use _ => []

/-- The waiters that are given out in a happening, to whomever. -/
def granted (m : Machine) : Happening → List Waiter
  | .event e => (m.moves e).filterMap fun x => (worked? x.exchange).bind granted?
  | .use u => u.granted m.node.correlation

def through (m : Machine) (hs : List Happening) : Machine := hs.foldl undergo m

/-- The requests that the tasks of the node make, whatever happens. -/
def record (m : Machine) (hs : List Happening) : List Move := logged undergo made m hs

/-- The waiters that are given out, whatever happens. -/
def waiters (m : Machine) (hs : List Happening) : List Waiter := logged undergo granted m hs

variable {start : Conduct} {body : Program NodeSignature Turn} {m : Machine} {log : List Move}

theorem through_append (m : Machine) (hs hs' : List Happening) :
    m.through (hs ++ hs') = (m.through hs).through hs' :=
  List.foldl_append

theorem record_append (m : Machine) (hs hs' : List Happening) :
    m.record (hs ++ hs') = m.record hs ++ (m.through hs).record hs' :=
  logged_append m hs hs'

/-- Where nobody uses the handle, nothing happens but what happens to any node. -/
theorem through_events (m : Machine) (es : List Event) : m.through (es.map .event) = m.during es :=
  List.foldl_map

theorem record_events (m : Machine) (es : List Event) : m.record (es.map .event) = m.log es := by
  induction es generalizing m with
  | nil => rfl
  | cons e es ih => exact congrArg (m.moves e ++ ·) (ih (m.after e))

/-- A handle is of no use for anything but requests. -/
theorem Sound.use (h : Sound start body m log) (u : Use) :
    Sound start body (m.undergo (.use u)) log where
  starting := h.starting
  ending := h.ending
  crew := h.crew.evolves rfl (.refl _)
  main := h.main
  coherent := h.coherent
  conduct := h.conduct
  recent := h.recent
  launched := h.launched

theorem sound_undergo (hbody : Driver start body) (h : Sound start body m log) (x : Happening) :
    Sound start body (m.undergo x) (log ++ m.made x) := by
  cases x with
  | event e => exact sound_after hbody h (m.after_effect e)
  | use u => exact (List.append_nil log).symm ▸ h.use u

theorem sound_through (hbody : Driver start body) (h : Sound start body m log) (hs : List Happening) :
    Sound start body (m.through hs) (log ++ m.record hs) :=
  invariant_logged (I := Sound start body) (fun _ _ x hm => sound_undergo hbody hm x) h hs

/-! The table of open requests. -/

theorem ages_undergo (m : Machine) (x : Happening) :
    m.node.correlation.Ages (m.undergo x).node.correlation := by
  cases x with
  | event e => exact (m.after_effect e).ages
  | use u => exact u.ages m.node.correlation

theorem ages_through (m : Machine) (hs : List Happening) :
    m.node.correlation.Ages (m.through hs).node.correlation := by
  induction hs generalizing m with
  | nil => exact .refl _
  | cons x hs ih => exact (m.ages_undergo x).trans (ih (m.undergo x))

/-- A waiter is older than the table it was given out by. -/
theorem generation_lt_of_granted (hdated : m.node.correlation.Dated) {x : Happening} {w : Waiter}
    (hw : w ∈ m.granted x) : w.generation < (m.undergo x).node.correlation.nextGeneration := by
  cases x with
  | use u => exact u.generation_lt hdated w hw
  | event e =>
    obtain ⟨⟨id, r, reply⟩, hmem, hgranted⟩ := List.mem_filterMap.1 hw
    obtain ⟨y, hy, hw'⟩ := Option.bind_eq_some_iff.1 hgranted
    have heffect := m.after_effect e
    rw [heffect.moved_eq hmem] at heffect
    obtain ⟨t, rest, next, node, -, -, -, hanswer, hnode, -⟩ := heffect.of_move
    have hlt := Node.generation_lt (Node.workAnswers_of_answers hanswer hy) hdated hw'
    have hsame : (m.after e).node.correlation = node.correlation := by
      rw [hnode, complied, Node.correlation_endTasks]
    exact hsame ▸ hlt

theorem generation_lt_of_waiters (hdated : m.node.correlation.Dated) {hs : List Happening} {w : Waiter}
    (hw : w ∈ m.waiters hs) : w.generation < (m.through hs).node.correlation.nextGeneration := by
  obtain ⟨before, x, rest, rfl, hw'⟩ := exists_of_mem_logged hw
  have hlt := generation_lt_of_granted ((m.ages_through before).dated hdated) hw'
  rw [through_append]
  exact Nat.lt_of_lt_of_le hlt (((m.through before).undergo x).ages_through rest).next

/-- Are all who wait turned away behind some happenings? -/
def TurnsAway (m : Machine) (hs before : List Happening) : Prop :=
  ∃ x rest, hs = before ++ x :: rest ∧ (m.through before).made x = [⟨.main, .turnAway, ()⟩]

theorem TurnsAway.ages {hs before : List Happening} (h : m.TurnsAway hs before) :
    (m.through before).node.correlation.closeAll.Ages (m.through hs).node.correlation := by
  obtain ⟨x, rest, rfl, hmade⟩ := h
  cases x with
  | use u => cases hmade
  | event e =>
    have heffect := (m.through before).after_effect e
    have hmoves : (m.through before).moves e = [⟨.main, .turnAway, ()⟩] := hmade
    rw [hmoves] at heffect
    have hlater := ((m.through before).after e).ages_through rest
    rw [heffect.turns_away] at hlater
    rw [through_append]
    exact hlater

theorem exists_turnsAway {hs : List Happening}
    (h : ⟨.turnAway, ()⟩ ∈ exchanged .main (m.record hs)) : ∃ before, m.TurnsAway hs before := by
  obtain ⟨y, hy, hmove⟩ := List.mem_filterMap.1 h
  split at hmove
  next hid =>
    obtain ⟨id, exchange⟩ := y
    obtain rfl := Option.some.inj hmove
    obtain rfl : id = .main := hid
    obtain ⟨before, x, rest, rfl, hmade⟩ := exists_of_mem_logged hy
    refine ⟨before, x, rest, rfl, ?_⟩
    cases x with
    | event e => exact ((m.through before).after_effect e).moved_eq hmade
    | use u => cases hmade
  next => cases hmove

end Machine
end Waystation
