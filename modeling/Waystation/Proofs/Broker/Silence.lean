import Waystation.Proofs.Broker.Evolution
/-!
Silence. A broker remembers what was published, up to a limit, so whatever is done to it without
publishing leaves it with a part of what it remembered before. Through the network that goes without
drawing identities, too.
-/
namespace Waystation

namespace History

/-- Nothing has been added to the blobs that are remembered. -/
def Silent (h h' : History) : Prop := h'.published <:+ h.published

theorem Silent.refl (h : History) : h.Silent h := List.suffix_rfl

theorem silent_of_eq {h h' : History} (heq : h' = h) : h.Silent h' := heq ▸ .refl h

theorem Silent.trans {h h' h'' : History} (h₁ : h.Silent h') (h₂ : h'.Silent h'') : h.Silent h'' :=
  List.IsSuffix.trans h₂ h₁

theorem silent_recordDelivery (h : History) (r : DeliveryRecord) : h.Silent (h.recordDelivery r) :=
  lastOf_suffix _ _

theorem silent_setLimit (h : History) (limit : Nat) : h.Silent (h.setLimit limit) :=
  lastOf_suffix _ _

theorem silent_acknowledge {h h' : History} {delivery : Nat}
    (hacked : h.acknowledge? delivery = some h') : h.Silent h' := by
  rw [acknowledge?] at hacked
  split at hacked
  · obtain rfl := Option.some.inj hacked
    exact .refl h
  · split at hacked
    · obtain rfl := Option.some.inj hacked
      exact .refl h
    · cases hacked

end History

namespace Group

theorem silent_offer (g : Group) (h : History) (m : Message) : h.Silent (g.offer h m).2 := by
  rcases g.offer_cases h m with ⟨member, -, hoffer⟩ | ⟨-, hoffer⟩
  · rw [hoffer]
    exact h.silent_recordDelivery _
  · rw [hoffer]
    exact .refl h

/-- Handing out messages that were published before publishes nothing. -/
theorem silent_offerAll (ms : List Message) (g : Group) (h : History) :
    h.Silent (g.offerAll h ms).2 := by
  induction ms generalizing g h with
  | nil => exact .refl h
  | cons m ms ih => exact (g.silent_offer h m).trans (ih _ _)

end Group

namespace Broker

/-- Does an operation publish a blob? -/
def Operation.Publishes : Operation → Prop
  | .publish .. | .inject _ => True
  | _ => False

theorem history_changeGroup (b : Broker) (id : Nat) (f : Group → Group) :
    (b.changeGroup id f).history = b.history := by
  rw [changeGroup]
  split <;> rfl

theorem silent_after (b : Broker) (op : Operation) (hop : ¬op.Publishes) :
    b.history.Silent (b.after op).history := by
  cases op with
  | publish connection m => exact absurd trivial hop
  | inject m => exact absurd trivial hop
  | setOffline offline | setMaxPayload limit => exact .refl _
  | setHistoryLimit limit => exact b.history.silent_setLimit limit
  | connect url =>
    simp only [after, connect]
    split <;> exact .refl _
  | subscribe connection o =>
    simp only [after]
    rcases b.subscribe_cases connection o with ⟨-, -, hjoined⟩ | ⟨issued, -, hsame⟩
    · rw [hjoined]
      exact Group.silent_offerAll _ _ _
    · rw [hsame]
      exact .refl _
  | next subscription =>
    simp only [after, next]
    split <;> exact .refl _
  | acknowledge delivery =>
    simp only [after, acknowledge]
    split
    next history hacked => exact History.silent_acknowledge hacked
    next => exact .refl _
  | unsubscribe subscription | drop subscription =>
    have hsame := b.history_changeGroup subscription
    simp only [after, unsubscribe, drop, hsame]
    exact .refl _
  | close connection =>
    simp only [after, close]
    split <;> exact .refl _

end Broker

namespace Network

/-- Nothing has been published, and no identity drawn. -/
structure Silent (n n' : Network) : Prop where
  history : n.broker.history.Silent n'.broker.history
  drawn : n'.drawn = n.drawn

variable {n n' n'' : Network}

theorem Silent.refl (n : Network) : n.Silent n := ⟨.refl _, rfl⟩

theorem Silent.trans (h : n.Silent n') (h' : n'.Silent n'') : n.Silent n'' :=
  ⟨h.history.trans h'.history, h'.drawn.trans h.drawn⟩

theorem silent_after (n : Network) (op : Broker.Operation) (hop : ¬op.Publishes) :
    n.Silent { n with broker := n.broker.after op } :=
  ⟨n.broker.silent_after op hop, rfl⟩

theorem silent_attempt {α : Type} (n : Network) (fault : Option String) (answer : Unit → Answer α)
    (h : n.broker.history.Silent (answer ()).2.history) : n.Silent (n.attempt fault answer).2 := by
  cases fault with
  | some text => exact .refl n
  | none => exact ⟨h, rfl⟩

theorem silent_connect (n : Network) (url : String) : n.Silent (n.connect url).2 :=
  n.silent_after (.connect url) id

theorem silent_subscribe (n : Network) (connection : Nat) (o : ConsumerOptions) :
    n.Silent (n.subscribe connection o).2 :=
  n.silent_attempt _ _ (n.broker.silent_after (.subscribe connection o) id)

theorem silent_unsubscribe (n : Network) (subscription : Nat) :
    n.Silent (n.unsubscribe subscription).2 :=
  n.silent_attempt _ _ (n.broker.silent_after (.unsubscribe subscription) id)

theorem silent_close (n : Network) (connection : Nat) : n.Silent (n.close connection).2 := by
  rw [close_network]
  exact n.silent_after (.close connection) id

theorem silent_acknowledge (n : Network) (delivery : Nat) :
    n.Silent (n.acknowledge delivery).2 := by
  rw [acknowledge]
  cases n.faults.acknowledge with
  | some text => exact .refl n
  | none => exact n.silent_after (.acknowledge delivery) id

end Network

namespace Settings

variable {key : String} {scope : Option Scope} {b : Broker}

theorem history_set (s : Settings) (value : Bytes) :
    (s.set key value scope b).2.history = b.history := by
  simp only [set]
  split
  · rfl
  · split <;> rfl

theorem history_delete (s : Settings) : (s.delete key scope b).2.history = b.history := by
  simp only [delete]
  split
  · rfl
  · split <;> rfl

end Settings
end Waystation
