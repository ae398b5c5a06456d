import Waystation.Network
import Waystation.Proofs.Broker.Members
import Waystation.Proofs.Messaging.Reporting
import Waystation.Settings
/-!
What becomes of a broker behind a network. Everything that is done through the network comes down to
operations on the broker and changes to its buckets, so whatever these keep holds at all times.
-/
namespace Waystation

namespace Broker

/-- One broker comes from another by operations and by changes to its buckets. -/
inductive Evolves (b : Broker) : Broker → Prop
  | refl : Evolves b b
  | after {b' : Broker} (h : Evolves b b') (op : Operation) : Evolves b (b'.after op)
  | store {b' : Broker} (h : Evolves b b') (buckets : List (String × Bucket)) :
    Evolves b { b' with buckets }

/-- What holds of a broker that is used as it should be. -/
structure Orderly (b : Broker) : Prop where
  sound : b.Sound
  connected : b.Connected

variable {b b' b'' : Broker} {connection id : Nat}

theorem Evolves.trans (h : b.Evolves b') (h' : b'.Evolves b'') : b.Evolves b'' := by
  induction h' with
  | refl => exact h
  | after _ op ih => exact ih.after op
  | store _ buckets ih => exact ih.store buckets

theorem Evolves.orderly (h : b.Evolves b') (hb : b.Orderly) : b'.Orderly := by
  induction h with
  | refl => exact hb
  | after _ op ih => exact ⟨sound_after ih.sound op, connected_after ih.connected op⟩
  | store _ buckets ih =>
    exact ⟨⟨ih.sound.names, ih.sound.ids, ih.sound.issued, ih.sound.joined, ih.sound.groups⟩,
      ih.connected⟩

theorem Evolves.issued (h : b.Evolves b') : b.issued ≤ b'.issued := by
  induction h with
  | refl => exact Nat.le_refl _
  | after _ op ih => exact Nat.le_trans ih (issued_after _ op)
  | store _ buckets ih => exact ih

theorem Evolves.knows (h : b.Evolves b') (hknows : b.Knows connection) : b'.Knows connection := by
  induction h with
  | refl => exact hknows
  | after _ op ih => exact knows_after ih op
  | store _ buckets ih => exact ih

theorem Evolves.closed (h : b.Evolves b') (hknows : b.Knows connection)
    (hclosed : b.isOpen connection = false) : b'.isOpen connection = false := by
  induction h with
  | refl => exact hclosed
  | after h op ih => exact closed_after (h.knows hknows) ih op
  | store _ buckets ih => exact ih

theorem Evolves.not_holds (h : b.Evolves b') (hid : id ≤ b.issued) (hholds : ¬b.Holds id) :
    ¬b'.Holds id := by
  induction h with
  | refl => exact hholds
  | after h op ih => exact not_holds_after ih (Nat.le_trans hid h.issued) op
  | store _ buckets ih => exact ih

theorem Evolves.not_enrolls (h : b.Evolves b') (hid : id ≤ b.issued) (hnobody : ¬b.Enrolls id) :
    ¬b'.Enrolls id := by
  induction h with
  | refl => exact hnobody
  | after h op ih => exact not_enrolls_after ih (Nat.le_trans hid h.issued) op
  | store _ buckets ih => exact ih

theorem Evolves.run (b : Broker) (ops : List Operation) : b.Evolves (b.run ops) := by
  induction ops generalizing b with
  | nil => exact .refl
  | cons op ops ih => exact (Evolves.refl.after op).trans (ih (b.after op))

/-- A broker that is declared with streams and buckets and then used is orderly. -/
theorem orderly_run (streams : List (String × Option Nat)) (buckets : List (String × Bucket))
    (ops : List Operation) : (run { streams, buckets } ops).Orderly := by
  refine (Evolves.run _ ops).orderly ⟨⟨List.nodup_nil, List.nodup_nil, ?_, ?_, ?_⟩, ?_⟩
  · intro s hs
    cases hs
  · intro s hs
    cases hs
  · intro g hg
    cases hg
  · rintro m ⟨g, hg, -⟩
    cases hg

theorem knows_connect {url : String} {b : Broker} {id : Nat} (h : (b.connect url).1 = .ok id) :
    (b.connect url).2.Knows id := by
  rw [connect] at h ⊢
  split at h
  · cases h
  next hoffline =>
    obtain rfl := Except.ok.inj h
    rw [if_neg hoffline, Knows, connection?, List.find?_append]
    simp

theorem issued_subscribe {o : ConsumerOptions} (h : (b.subscribe connection o).1 = .ok id) :
    id = b.issued + 1 ∧ (b.subscribe connection o).2.issued = id := by
  simp only [subscribe, whenOpen] at h ⊢
  split at h
  next hopen =>
    rw [if_pos hopen]
    split at h
    next hfilter =>
      rw [if_pos hfilter]
      exact ⟨(Except.ok.inj h).symm, Except.ok.inj h⟩
    next => cases h
  next => cases h

end Broker

namespace Network

/-- One network comes from another by what is done to its broker; its faults stay. -/
structure Evolves (n n' : Network) : Prop where
  faults : n'.faults = n.faults
  broker : n.broker.Evolves n'.broker

variable {n n' n'' : Network}

theorem Evolves.refl (n : Network) : n.Evolves n := ⟨rfl, .refl⟩

theorem Evolves.trans (h : n.Evolves n') (h' : n'.Evolves n'') : n.Evolves n'' :=
  ⟨h'.faults.trans h.faults, h.broker.trans h'.broker⟩

theorem evolves_of_broker {b : Broker} (h : n.broker.Evolves b) : n.Evolves { n with broker := b } :=
  ⟨rfl, h⟩

theorem evolves_after (n : Network) (op : Broker.Operation) :
    n.Evolves { n with broker := n.broker.after op } :=
  evolves_of_broker (.after .refl op)

theorem evolves_attempt {α : Type} (fault : Option String) {answer : Unit → Answer α}
    (h : n.broker.Evolves (answer ()).2) : n.Evolves (n.attempt fault answer).2 := by
  cases fault with
  | some text => exact .refl n
  | none => exact evolves_of_broker h

theorem evolves_connect (n : Network) (url : String) : n.Evolves (n.connect url).2 :=
  n.evolves_after (.connect url)

theorem evolves_subscribe (n : Network) (connection : Nat) (o : ConsumerOptions) :
    n.Evolves (n.subscribe connection o).2 :=
  evolves_attempt _ (.after .refl (.subscribe connection o))

/-- A fault of closing is reported when the connection is closed. -/
theorem close_network (n : Network) (connection : Nat) :
    (n.close connection).2 = { n with broker := n.broker.close connection } := by
  simp only [close, attempt, keep]
  split
  · rfl
  · rfl

theorem evolves_close (n : Network) (connection : Nat) : n.Evolves (n.close connection).2 := by
  rw [close_network]
  exact n.evolves_after (.close connection)

theorem evolves_unsubscribe (n : Network) (subscription : Nat) :
    n.Evolves (n.unsubscribe subscription).2 :=
  evolves_attempt _ (.after .refl (.unsubscribe subscription))

theorem evolves_acknowledge (n : Network) (delivery : Nat) :
    n.Evolves (n.acknowledge delivery).2 := by
  rw [acknowledge]
  cases n.faults.acknowledge with
  | some text => exact .refl n
  | none => exact n.evolves_after (.acknowledge delivery)

theorem evolves_draw (n : Network) : n.Evolves n.draw.2 := ⟨rfl, .refl⟩

theorem evolves_publishEnvelope (p : Publisher) (e : Envelope) (channel : Option String)
    (n : Network) : n.Evolves (p.publishEnvelope e channel n).2 := by
  rcases p.publishEnvelope_cases e channel n with
    ⟨err, h⟩ | ⟨_, h, _, blob, _, _, rfl⟩
  · rw [h]
    exact .refl n
  · rw [h]
    exact n.evolves_after (.inject { subject := p.outputSubject channel, payload := blob })

theorem evolves_identify (requestId : Option String) (n : Network) :
    n.Evolves (Publisher.identify requestId n).2 := by
  cases requestId with
  | none => exact n.evolves_draw
  | some id =>
    simp only [Publisher.identify]
    split
    · exact n.evolves_draw
    · exact .refl n

theorem evolves_send (p : Publisher) (what : Publication) (n : Network) :
    n.Evolves (p.send what n).2 := by
  cases what with
  | payload payload type requestId channel =>
    simp only [Publisher.send, Publisher.publish]
    split
    · exact .refl n
    · have henvelope := evolves_publishEnvelope p
        (Envelope.withPayload (Publisher.identify requestId n).1 payload p.fromNode type) channel
        (Publisher.identify requestId n).2
      have hsend := (evolves_identify requestId n).trans henvelope
      split
      next h =>
        rw [h] at hsend
        exact hsend
      next h =>
        rw [h] at hsend
        exact hsend
  | error text requestId => exact evolves_publishEnvelope p _ none n
  | envelope e channel => exact evolves_publishEnvelope p e channel n

end Network

namespace Settings

theorem evolves_set (s : Settings) (key : String) (value : Bytes) (scope : Option Scope)
    (b : Broker) : b.Evolves (s.set key value scope b).2 := by
  simp only [set]
  split
  · exact .refl
  · split
    · exact .refl
    · exact .store .refl _

theorem evolves_delete (s : Settings) (key : String) (scope : Option Scope) (b : Broker) :
    b.Evolves (s.delete key scope b).2 := by
  simp only [delete]
  split
  · exact .refl
  · split
    · exact .refl
    · exact .store .refl _

end Settings
end Waystation
