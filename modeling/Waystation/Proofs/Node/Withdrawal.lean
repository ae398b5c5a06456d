import Waystation.Proofs.Node.Histories
import Waystation.Proofs.Node.Progress
/-!
Listeners that withdraw. Once they are told to stop none takes another message; once they have been
awaited none is a member of a group, and whoever still works can get on with it; once they have been
ended they do nothing more.
-/
namespace Waystation

/-- Does a request end the listeners? -/
def NodeRequest.IsAbort : NodeRequest → Prop
  | abortListeners => True
  | _ => False

/-- Listeners are ended when they have been awaited. -/
def Awaits (t : List (Exchange NodeSignature)) : Prop :=
  ∀ before u rest, t = before ++ ⟨.abortListeners, u⟩ :: rest → ⟨.awaitLeft, ()⟩ ∈ before

variable {t t' : List (Exchange NodeSignature)}

theorem Awaits.of_append (h : Awaits (t ++ t')) : Awaits t :=
  fun before u rest hsplit =>
    h before u (rest ++ t') (by rw [hsplit, List.append_assoc, List.cons_append])

/-- Listeners may be ended behind where they have been awaited. -/
theorem Awaits.append (h : Awaits t) (h' : (∀ x ∈ t', ¬x.1.IsAbort) ∨ ⟨.awaitLeft, ()⟩ ∈ t) :
    Awaits (t ++ t') := by
  intro before u rest hsplit
  rcases append_eq_append_cons hsplit with ⟨rest', rfl⟩ | ⟨before', rfl, rfl⟩
  · exact h before u rest' rfl
  · rcases h' with hnone | hleft
    · exact absurd trivial (hnone ⟨.abortListeners, u⟩ (by simp))
    · exact List.mem_append_left _ hleft

namespace Machine

open Listener

variable {start : Conduct} {body : Program NodeSignature Turn} {m m' : Machine} {log : List Move}
variable {moved : List Move} {es : List Event} {s : Nat}

/-- The subscription of a listener that exchanges something was made before. -/
theorem Sound.issued_of_move (h : Sound start body m log) {x : Exchange NodeSignature}
    (heffect : Effect m [⟨.listener s, x⟩] m') : s ≤ m.node.network.broker.issued := by
  obtain ⟨r, reply⟩ := x
  obtain ⟨t, rest, next, node, htasks, hid, -⟩ := heffect.of_move
  obtain ⟨l, c, stage, ha⟩ := h.crew.attends t (Sound.mem htasks) s hid
  obtain rfl : l.subscription = s := TaskId.listener.inj (ha.id.symm.trans hid)
  exact h.crew.issued l ha.listener

/-- A listener leaves its group, unless leaving a group fails. -/
theorem Sound.leaves_group (h : Sound start body m log) {u : Unit}
    (heffect : Effect m [⟨.listener s, .leave s, u⟩] m')
    (hfault : m.node.network.faults.unsubscribe = none) : ¬m'.node.network.broker.Enrolls s := by
  have hissued := h.issued_of_move heffect
  obtain ⟨t, rest, next, node, -, -, -, hanswer, hnode, -⟩ := heffect.of_move
  obtain ⟨-, rfl⟩ := Prod.mk.inj (List.mem_singleton.1 hanswer)
  have hbroker : (m.node.network.unsubscribe s).2.broker = m.node.network.broker.unsubscribe s := by
    rw [Network.unsubscribe, hfault]
    rfl
  have hevolves := m.node.network.evolves_unsubscribe s
  rw [hnode]
  refine (Node.evolves_complied _).broker.not_enrolls
    (Nat.le_trans hissued hevolves.broker.issued) ?_
  have hleft : ¬(m.node.network.unsubscribe s).2.broker.Enrolls s := by
    rw [hbroker]
    exact h.crew.orderly.sound.not_enrolls_unsubscribe s
  exact hleft

/-- A subscription that is found to be closed has no member. -/
theorem Sound.finds_closed (h : Sound start body m log)
    (heffect : Effect m [⟨.listener s, .take s, .closed⟩] m') :
    ¬m'.node.network.broker.Enrolls s := by
  have hissued := h.issued_of_move heffect
  obtain ⟨t, rest, next, node, -, -, -, hanswer, hnode, -⟩ := heffect.of_move
  obtain ⟨hclosed, rfl⟩ := (Node.works_of_take hanswer).2 rfl
  rw [hnode]
  exact (Node.evolves_complied _).broker.not_enrolls hissued
    (h.crew.orderly.sound.not_enrolls_of_closed hclosed)

/-- A subscription breaks where it is to. -/
theorem Effect.broken (heffect : Effect m [⟨.listener s, .take s, .broken⟩] m') :
    m.node.network.faults.broken ≠ [] := by
  obtain ⟨t, rest, next, node, -, -, -, hanswer, -, -⟩ := heffect.of_move
  simp only [Node.answers, Node.takeAnswers] at hanswer
  split at hanswer
  · cases List.mem_singleton.1 hanswer
  · split at hanswer
    · obtain ⟨hreply, -⟩ := Prod.mk.inj (List.mem_singleton.1 hanswer)
      split at hreply
      next hmem => exact List.ne_nil_of_mem hmem
      next => cases hreply
    · cases List.mem_singleton.1 hanswer
    · cases hanswer

/-- Does nothing keep listeners in their groups? -/
structure LetsLeave (f : Faults) : Prop where
  unsubscribe : f.unsubscribe = none
  broken : f.broken = []

/-- A listener that has left, or that has found its subscription closed, is a member of no group ever
after. -/
theorem Sound.not_enrolls_of_left (h : Sound start body m []) (hbody : Driver start body)
    (hfaults : LetsLeave m.node.network.faults)
    (hleft : ⟨.leave s, ()⟩ ∈ exchanged (.listener s) (m.log es)
      ∨ ⟨.take s, .closed⟩ ∈ exchanged (.listener s) (m.log es)
      ∨ ⟨.take s, .broken⟩ ∈ exchanged (.listener s) (m.log es)) :
    ¬(m.during es).node.network.broker.Enrolls s := by
  -- what was so at that moment has been so ever after
  have hafter : ∀ {x : Exchange NodeSignature}, x ∈ exchanged (.listener s) (m.log es) →
      (∀ es₁ e, Effect (m.during es₁) [⟨.listener s, x⟩] ((m.during es₁).after e) →
        ¬((m.during es₁).after e).node.network.broker.Enrolls s) →
      ¬(m.during es).node.network.broker.Enrolls s := by
    intro x hx hnow
    obtain ⟨es₁, e, es₂, rfl, hmoves⟩ := exists_moment_of_mem hx
    have heffect := (m.during es₁).after_effect e
    rw [hmoves] at heffect
    have hissued := (sound_during hbody h es₁).issued_of_move heffect
    rw [during_append]
    exact (evolves_during _ es₂).broker.not_enrolls
      (Nat.le_trans hissued heffect.evolves.broker.issued) (hnow es₁ e heffect)
  rcases hleft with hleave | hclosed | hbroken
  · refine hafter hleave fun es₁ e heffect => ?_
    refine (sound_during hbody h es₁).leaves_group heffect ?_
    rw [(evolves_during m es₁).faults]
    exact hfaults.unsubscribe
  · exact hafter hclosed fun es₁ e heffect => (sound_during hbody h es₁).finds_closed heffect
  · refine hafter hbroken fun es₁ e heffect => absurd ?_ heffect.broken
    rw [(evolves_during m es₁).faults]
    exact hfaults.broken

/-- A listener that has told that it left, or is finished, is a member of no group, unless a panic broke
its work off. -/
theorem Attended.not_enrolls (hattended : Attended (m.during es) (m.log es)) (h : Sound start body m [])
    (hbody : Driver start body) (hfaults : LetsLeave m.node.network.faults) {c : Context}
    (hlisten : ⟨.listen s c, ()⟩ ∈ exchanged .main (m.log es))
    (hcontext : ∀ c', ⟨.listen s c', ()⟩ ∈ exchanged .main (m.log es) → c' = c)
    (hunbroken : ∀ k ∈ handlings (exchanged (.listener s) (m.log es)),
      ¬k.IsBroken (m.duties.work c))
    (hnever : ⟨.abortListeners, ()⟩ ∉ exchanged .main (m.log es))
    (hgone : ∀ l ∈ (m.during es).node.listeners, l.subscription = s → l.IsGone) :
    ¬(m.during es).node.network.broker.Enrolls s := by
  have hsound := sound_during hbody h es
  obtain ⟨l, hl, hs⟩ := exists_listener hlisten
  refine h.not_enrolls_of_left hbody hfaults ?_
  cases hattended.goes s with
  | absent habsent _ _ => exact absurd hlisten (habsent c)
  | going hlistens _ hstands _ hended =>
    obtain rfl := hcontext _ hlistens
    rw [duties_during] at hstands
    have hcases := hstands.left (by
      rcases hgone l hl hs with hleft | hdone
      · have htold := hattended.tells l hl hleft
        rw [hs] at htold
        exact .inl htold
      · refine .inr (hended (fun t ht hid => ?_) hnever)
        obtain ⟨l', c', stage, ha⟩ := hsound.crew.attends t ht s hid
        have hs' : l'.subscription = s := TaskId.listener.inj (ha.id.symm.trans hid)
        obtain rfl := hsound.crew.listener_eq ha.listener hl (hs'.trans hs.symm)
        have hgoes := ha.goesOn
        rw [hdone] at hgoes
        cases hgoes)
    rcases hcases with hleave | hclosed | hbroken | ⟨k, hk, hbroken⟩
    · exact .inl hleave
    · exact .inr (.inl hclosed)
    · exact .inr (.inr hbroken)
    · exact absurd hbroken (hunbroken k hk)

end Machine
end Waystation
