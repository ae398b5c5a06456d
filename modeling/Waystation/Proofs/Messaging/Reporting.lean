import Waystation.Messaging.Publisher
import Waystation.Proofs.Broker.Run
/-!
What publishing does to the network. An envelope is published whole or not at all: either the broker
takes the blob that the envelope was fitted to, or the network stays as it is.
-/
namespace Waystation

theorem Network.publish_cases (n : Network) (connection : Nat) (m : Message) :
    (∃ err, n.publish connection m = (.error err, n))
      ∨ n.publish connection m = (.ok (), { n with broker := n.broker.inject m }) := by
  simp only [Network.publish, Network.attempt, Network.keep]
  split
  · exact .inl ⟨_, rfl⟩
  · rcases n.broker.publish_cases connection m with ⟨err, h⟩ | h
    · exact .inl ⟨err, by rw [h]⟩
    · exact .inr (by rw [h])

namespace Publisher

/-- An envelope was taken by the broker under a subject, in the blob it was fitted to. -/
def Published (p : Publisher) (n : Network) (e : Envelope) (subject : String) (after : Network) :
    Prop :=
  ∃ limit blob, p.maxMessageSize n = .ok limit ∧ fitToSize e.encode limit = .ok blob
    ∧ after = { n with broker := n.broker.inject { subject, payload := blob } }

theorem publishEnvelope_cases (p : Publisher) (e : Envelope) (channel : Option String)
    (n : Network) :
    (∃ err, p.publishEnvelope e channel n = (.error err, n))
      ∨ ∃ after, p.publishEnvelope e channel n = (.ok (), after)
        ∧ p.Published n e (p.outputSubject channel) after := by
  rw [publishEnvelope]
  split
  · split
    · exact .inl ⟨_, rfl⟩
    next limit hlimit =>
      split
      · exact .inl ⟨_, rfl⟩
      next blob hblob =>
        rcases n.publish_cases p.connection { subject := p.outputSubject channel, payload := blob }
          with ⟨err, h⟩ | h
        · simp only [h]
          exact .inl ⟨_, rfl⟩
        · simp only [h]
          exact .inr ⟨_, rfl, limit, blob, hlimit, hblob, rfl⟩
  · exact .inl ⟨_, rfl⟩

/-- A report is an error envelope with the given identity, even an empty one, on the output itself;
no identity is drawn for it. -/
theorem send_error (p : Publisher) {text : String} (htext : text ≠ "") (requestId : String)
    (n : Network) :
    (∃ err, p.send (.error text (some requestId)) n = (.error err, n))
      ∨ ∃ after, p.send (.error text (some requestId)) n = (.ok none, after)
        ∧ p.Published n
          { requestId, error := text, fromNode := p.fromNode
            messageType := MessageType.error.number }
          p.output after := by
  have henvelope : Envelope.ofError requestId text p.fromNode
      = { requestId, error := text, fromNode := p.fromNode
          messageType := MessageType.error.number } := by
    rw [Envelope.ofError, if_neg htext]
  simp only [send, publishError, Option.getD_some, henvelope]
  rcases p.publishEnvelope_cases { requestId, error := text, fromNode := p.fromNode
                                   messageType := MessageType.error.number } none n
    with ⟨err, h⟩ | ⟨after, h, hpublished⟩
  · rw [h]
    exact .inl ⟨err, rfl⟩
  · rw [h]
    exact .inr ⟨after, rfl, hpublished⟩

end Publisher
end Waystation
