import Waystation.Context
import Waystation.Proofs.Messaging.Outcome
/-!
What goes out for a request. Whatever user code sends by its context carries the identity of the
request that the context is for. Where that has none, a payload gets an identity of its own and an
error stays without one.
-/
namespace Waystation

/-! What a context sends. -/

namespace Context

/-- What user code can send by its context, and the type that goes out with it. -/
inductive Sends (c : Context) : MessageType → Publication → Prop
  | output (payload : Payload) (channel : Option String) : Sends c .ok (c.output payload channel)
  | earlyReply (payload : Payload) (channel : Option String) :
      Sends c .earlyReply (c.earlyReply payload channel)
  | earlyExit (payload : Payload) (channel : Option String) :
      Sends c .earlyExit (c.earlyExit payload channel)
  | error (text : String) : Sends c .error (c.errorReply text)

/-- What is published while a request is worked on: what user code sends by its context, and the
report of what failed. -/
inductive Publishes (c : Context) : MessageType → Publication → Prop
  | sent {type : MessageType} {what : Publication} (h : c.Sends type what) : Publishes c type what
  | reported (text : String) : Publishes c .error (.error text (some c.requestId))

variable {c : Context} {type : MessageType} {what : Publication}

theorem currentId?_getD (c : Context) : c.currentId?.getD "" = c.requestId := by
  by_cases h : c.requestId = "" <;> simp [currentId?, h]

theorem currentId?_of_ne (h : c.requestId ≠ "") : c.currentId? = some c.requestId := if_neg h

theorem currentId?_of_empty (h : c.requestId = "") : c.currentId? = none := if_pos h

/-- What is published is a payload for the request, if that has an identity, or an error for it. -/
theorem Publishes.cases (h : c.Publishes type what) :
    (type ≠ .error ∧ ∃ payload channel, what = .payload payload type c.currentId? channel)
      ∨ type = .error ∧ ∃ text requestId, what = .error text requestId
        ∧ requestId.getD "" = c.requestId := by
  cases h with
  | sent h =>
    cases h with
    | output payload channel | earlyReply payload channel | earlyExit payload channel =>
      exact .inl ⟨by decide, payload, channel, rfl⟩
    | error text => exact .inr ⟨rfl, text, _, rfl, c.currentId?_getD⟩
  | reported text => exact .inr ⟨rfl, text, _, rfl, rfl⟩

end Context

/-! What the envelopes say. -/

namespace Envelope

@[simp] theorem kind_withPayload (id : String) (payload : Payload) (fromNode : String)
    (t : MessageType) : (withPayload id payload fromNode t).kind = t :=
  MessageType.ofNumber_number t

@[simp] theorem kind_ofError (id text fromNode : String) : (ofError id text fromNode).kind = .error :=
  MessageType.ofNumber_number .error

/-- An envelope goes out for a request from a node, while the network draws the identities that are
needed: none, unless a payload goes out for a request that has no identity. -/
structure GoesOut (e : Envelope) (type : MessageType) (requestId fromNode : String)
    (n after : Network) : Prop where
  kind : e.kind = type
  consistent : e.isConsistent = true
  text : e.error ≠ "" ↔ type = .error
  fromNode : e.fromNode = fromNode
  correlated : requestId ≠ "" → e.requestId = requestId ∧ after.drawn = n.drawn
  fresh : requestId = "" → type ≠ .error → e.requestId = freshIdentity (n.drawn + 1)
    ∧ e.requestId ≠ "" ∧ after.drawn = n.drawn + 1
  uncorrelated : requestId = "" → type = .error → e.requestId = "" ∧ after.drawn = n.drawn

variable {e : Envelope} {type : MessageType} {requestId fromNode : String} {n after : Network}

/-- A consistent envelope has an error text exactly if it goes out as an error. -/
theorem text_iff_of_consistent (h : e.isConsistent = true) (hkind : e.kind = type) :
    e.error ≠ "" ↔ type = .error := by
  rw [← hkind]
  exact (e.isConsistent_iff.1 h).symm

theorem goesOut_ofError (text : String) (hdrawn : after.drawn = n.drawn) :
    (ofError requestId text fromNode).GoesOut .error requestId fromNode n after where
  kind := kind_ofError _ _ _
  consistent := isConsistent_ofError _ _ _
  text := text_iff_of_consistent (isConsistent_ofError _ _ _) (kind_ofError _ _ _)
  fromNode := rfl
  correlated _ := ⟨rfl, hdrawn⟩
  fresh _ htype := absurd rfl htype
  uncorrelated hempty _ := ⟨hempty, hdrawn⟩

theorem goesOut_given (payload : Payload) (htype : type ≠ .error) (hid : requestId ≠ "")
    (hdrawn : after.drawn = n.drawn) :
    (withPayload requestId payload fromNode type).GoesOut type requestId fromNode n after where
  kind := kind_withPayload _ _ _ _
  consistent := isConsistent_withPayload _ _ _ htype
  text := text_iff_of_consistent (isConsistent_withPayload _ _ _ htype) (kind_withPayload _ _ _ _)
  fromNode := rfl
  correlated _ := ⟨rfl, hdrawn⟩
  fresh hempty := absurd hempty hid
  uncorrelated hempty := absurd hempty hid

theorem goesOut_fresh (payload : Payload) (htype : type ≠ .error)
    (hdrawn : after.drawn = n.drawn + 1) :
    (withPayload (freshIdentity (n.drawn + 1)) payload fromNode type).GoesOut type "" fromNode n
      after where
  kind := kind_withPayload _ _ _ _
  consistent := isConsistent_withPayload _ _ _ htype
  text := text_iff_of_consistent (isConsistent_withPayload _ _ _ htype) (kind_withPayload _ _ _ _)
  fromNode := rfl
  correlated hid := absurd rfl hid
  fresh _ _ := ⟨rfl, Publisher.freshIdentity_ne_empty _, hdrawn⟩
  uncorrelated _ herror := absurd herror htype

end Envelope

/-! What becomes of it. -/

/-- A publication leaves the broker as it was, or the broker takes one envelope of it, fitted to a
limit. -/
def Publisher.Delivers (p : Publisher) (what : Publication) (n after : Network)
    (P : Envelope → Prop) : Prop :=
  after.broker = n.broker ∨ ∃ e limit blob, P e ∧ fitToSize e.encode limit = .ok blob
    ∧ after.broker = n.broker.inject { subject := what.subject p, payload := blob }

namespace Publisher

variable {p : Publisher} {what : Publication} {type : MessageType} {n n' : Network}

/-- What becomes of an envelope, seen from before an identity was drawn for it. -/
theorem delivers_of_cases {e : Envelope} {after : Network} {P : Envelope → Prop}
    (hbroker : n'.broker = n.broker) (he : after.drawn = n'.drawn → P e)
    (h : after = n' ∨ p.Published n' e (what.subject p) after) : p.Delivers what n after P := by
  rcases h with rfl | ⟨limit, blob, -, hblob, rfl⟩
  · exact .inl hbroker
  · exact .inr ⟨e, limit, blob, he rfl, hblob, congrArg (Broker.inject · _) hbroker⟩

theorem send_payload_cases (p : Publisher) (payload : Payload) (htype : type ≠ .error)
    {requestId : Option String} (channel : Option String) {id : String}
    (hid : identify requestId n = (id, n')) :
    let after := (p.send (.payload payload type requestId channel) n).2
    after = n' ∨ p.Published n' (.withPayload id payload p.fromNode type) (p.outputSubject channel)
      after := by
  simp only [send, publish, if_neg htype, hid]
  rcases p.publishEnvelope_cases (.withPayload id payload p.fromNode type) channel n' with
    ⟨err, h⟩ | ⟨after, h, hpublished⟩
  · rw [h]
    exact .inl rfl
  · rw [h]
    exact .inr hpublished

theorem send_error_cases (p : Publisher) (text : String) (requestId : Option String) (n : Network) :
    let after := (p.send (.error text requestId) n).2
    after = n ∨ p.Published n (.ofError (requestId.getD "") text p.fromNode) p.output after := by
  simp only [send, publishError]
  rcases p.publishEnvelope_cases (.ofError (requestId.getD "") text p.fromNode) none n with
    ⟨err, h⟩ | ⟨after, h, hpublished⟩
  · rw [h]
    exact .inl rfl
  · rw [h]
    exact .inr hpublished

end Publisher

/-- What is published in a context goes out for its request, if it goes out at all. -/
theorem Context.Publishes.goesOut {c : Context} {type : MessageType} {what : Publication}
    (h : c.Publishes type what) (n : Network) :
    let after := (c.publisher.send what n).2
    c.publisher.Delivers what n after
      (·.GoesOut type c.requestId c.publisher.fromNode n after) := by
  intro after
  rcases h.cases with ⟨htype, payload, channel, rfl⟩ | ⟨rfl, text, requestId, rfl, hid⟩
  · by_cases hid : c.requestId = ""
    · have hidentify : Publisher.identify c.currentId? n = n.draw := by
        rw [currentId?_of_empty hid, Publisher.identify]
      have hsend := c.publisher.send_payload_cases payload htype channel hidentify
      have hbroker : n.draw.2.broker = n.broker := rfl
      rw [hid]
      exact Publisher.delivers_of_cases hbroker (Envelope.goesOut_fresh payload htype) hsend
    · have hidentify : Publisher.identify c.currentId? n = (c.requestId, n) := by
        rw [currentId?_of_ne hid]
        exact if_neg hid
      have hsend := c.publisher.send_payload_cases payload htype channel hidentify
      exact Publisher.delivers_of_cases rfl (Envelope.goesOut_given payload htype hid) hsend
  · have hsend := c.publisher.send_error_cases text requestId n
    rw [hid] at hsend
    exact Publisher.delivers_of_cases rfl (Envelope.goesOut_ofError text) hsend

end Waystation
