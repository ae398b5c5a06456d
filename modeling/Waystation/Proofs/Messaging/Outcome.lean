import Waystation.Proofs.Messaging.Reporting
/-!
What becomes of a publication. It is refused for one of three reasons, the first that applies, and
then the broker stays as it is; or the broker takes one blob, the one that the envelope was fitted
to. What was fitted to the limits that hold is never refused by the broker.
-/
namespace Waystation

theorem fitToSize_cases (encoded : Bytes) (limit : Nat) :
    (∃ blob, fitToSize encoded limit = .ok blob ∧ blob.length ≤ limit
        ∧ (encoded.length ≤ limit ∨ (Gzip.compress encoded).length ≤ limit))
      ∨ fitToSize encoded limit = .error (.tooLarge (Gzip.compress encoded).length limit)
        ∧ limit < encoded.length ∧ limit < (Gzip.compress encoded).length := by
  rw [fitToSize]
  by_cases hplain : encoded.length ≤ limit
  · exact .inl ⟨encoded, if_pos hplain, hplain, .inl hplain⟩
  · rw [if_neg hplain]
    by_cases hfit : (Gzip.compress encoded).length ≤ limit
    · exact .inl ⟨_, if_pos hfit, hfit, .inr hfit⟩
    · exact .inr ⟨if_neg hfit, by omega, by omega⟩

theorem length_of_fitToSize {encoded blob : Bytes} {limit : Nat}
    (h : fitToSize encoded limit = .ok blob) : blob.length ≤ limit := by
  rcases fitToSize_cases encoded limit with ⟨fitted, hfitted, hlength, -⟩ | ⟨herror, -⟩
  · obtain rfl : fitted = blob := Except.ok.inj (hfitted.symm.trans h)
    exact hlength
  · rw [herror] at h
    cases h

/-! What the history remembers of a blob. -/

theorem lastOf_eq_self {α : Type} {n : Nat} {xs : List α} (h : xs.length ≤ n) : lastOf n xs = xs := by
  rw [lastOf, Nat.sub_eq_zero_of_le h, List.drop_zero]

namespace History

/-- The blobs that are remembered, and how many may be. -/
def memory (h : History) : List Message × Nat := (h.published, h.limit)

theorem memory_recordDelivery {h : History} (hwithin : h.published.length ≤ h.limit)
    (r : DeliveryRecord) : (h.recordDelivery r).memory = h.memory := by
  simp only [memory, recordDelivery, trim, lastOf_eq_self hwithin]

end History

theorem Group.memory_dispatch (m : Message) (gs : List Group) {h : History}
    (hwithin : h.published.length ≤ h.limit) : (dispatch m gs h).2.memory = h.memory := by
  induction gs generalizing h with
  | nil => rfl
  | cons g gs ih =>
    obtain ⟨g', h', hdispatch, hcases⟩ := dispatch_cons m g gs h
    have hkept : h'.memory = h.memory := by
      rcases hcases with ⟨-, -, rfl⟩ | ⟨-, -, rfl⟩
      · rcases g.offer_cases h m with ⟨_, -, hoffer⟩ | ⟨-, hoffer⟩
        · rw [hoffer]
          exact History.memory_recordDelivery hwithin _
        · rw [hoffer]
      · rfl
    obtain ⟨hpublished, hlimit⟩ := Prod.mk.inj hkept
    have hrest := ih (h := h') (by rw [hpublished, hlimit]; exact hwithin)
    rw [hdispatch]
    exact hrest.trans hkept

/-- A published blob is the newest that is remembered. -/
theorem Broker.published_inject (b : Broker) (m : Message) :
    (b.inject m).history.published = lastOf b.history.limit (b.history.published ++ [m]) := by
  have hwithin : (b.history.recordPublish m).published.length
      ≤ (b.history.recordPublish m).limit := by
    simp only [History.recordPublish, History.trim, length_lastOf]
    exact Nat.min_le_left _ _
  exact congrArg Prod.fst (Group.memory_dispatch m b.groups hwithin)

/-! The limits that hold. -/

namespace Broker

variable {b : Broker} {connection : Nat}

theorem streamMax_eq (b : Broker) (connection : Nat) (stream : String) :
    (b.streamMax connection stream).1
      = if b.isOpen connection then match b.streams.lookup stream with
          | some declared => .ok declared
          | none => .error (.streamNotFound stream)
        else .error .closed := by
  rw [streamMax, whenOpen]
  cases b.isOpen connection with
  | false => rfl
  | true => cases b.streams.lookup stream <;> rfl

theorem publish_of_fits (hopen : b.isOpen connection = true) {m : Message}
    (hfits : m.payload.length ≤ b.maxPayload) : b.publish connection m = (.ok (), b.inject m) := by
  rw [publish, whenOpen, if_pos hopen, if_neg (by omega)]

end Broker

/-- The size limit on a stream with a declared maximum, if it has one. -/
def Broker.sizeLimit (b : Broker) (declared : Option Nat) : Nat :=
  declared.elim b.maxPayload fun max => min max b.maxPayload

theorem Broker.sizeLimit_le (b : Broker) (declared : Option Nat) :
    b.sizeLimit declared ≤ b.maxPayload := by
  cases declared with
  | none => exact Nat.le_refl _
  | some max => exact Nat.min_le_right _ _

namespace Broker

variable {b : Broker} {connection : Nat}

/-- A blob that was fitted is taken, also later, while the limits are no tighter. -/
theorem publish_of_fitted {later : Broker} {encoded blob : Bytes} {declared : Option Nat}
    (hblob : fitToSize encoded (b.sizeLimit declared) = .ok blob)
    (hopen : later.isOpen connection = true) (hmax : b.maxPayload ≤ later.maxPayload)
    (subject : String) : later.publish connection { subject, payload := blob }
      = (.ok (), later.inject { subject, payload := blob }) := by
  have hlength := length_of_fitToSize hblob
  have hlimit := b.sizeLimit_le declared
  exact publish_of_fits hopen (Nat.le_trans hlength (Nat.le_trans hlimit hmax))

/-- Where the limits can be told, nothing keeps them from being told. -/
theorem tellable (hopen : b.isOpen connection = true) {stream : String} {declared : Option Nat}
    (hstream : b.streams.lookup stream = some declared) :
    ¬(b.isOpen connection = false ∨ b.streams.lookup stream = none) := by
  simp [hopen, hstream]

end Broker

namespace Publisher

/-- What can become of an envelope that is published on a subject while no operation fails by
itself: the answer, and the broker afterwards. -/
inductive Outcome (p : Publisher) (b : Broker) (e : Envelope) (subject : String) :
    Except MessagingError Unit → Broker → Prop
  | inconsistent (hkind : e.isConsistent = false) :
      Outcome p b e subject (.error (.misplacedText e.kind)) b
  | closed (hkind : e.isConsistent = true) (hclosed : b.isOpen p.connection = false) :
      Outcome p b e subject (.error (.maxMessageSize p.stream .closed)) b
  | undeclared (hkind : e.isConsistent = true) (hopen : b.isOpen p.connection = true)
      (hstream : b.streams.lookup p.stream = none) :
      Outcome p b e subject (.error (.maxMessageSize p.stream (.streamNotFound p.stream))) b
  | tooLarge {declared : Option Nat} (hkind : e.isConsistent = true)
      (hopen : b.isOpen p.connection = true) (hstream : b.streams.lookup p.stream = some declared)
      (hplain : b.sizeLimit declared < e.encode.length)
      (hcompressed : b.sizeLimit declared < (Gzip.compress e.encode).length) :
      Outcome p b e subject
        (.error (.envelope (.tooLarge (Gzip.compress e.encode).length (b.sizeLimit declared)))) b
  | published {declared : Option Nat} {blob : Bytes} (hkind : e.isConsistent = true)
      (hopen : b.isOpen p.connection = true) (hstream : b.streams.lookup p.stream = some declared)
      (hblob : fitToSize e.encode (b.sizeLimit declared) = .ok blob)
      (hlength : blob.length ≤ b.sizeLimit declared)
      (hfits : e.encode.length ≤ b.sizeLimit declared
        ∨ (Gzip.compress e.encode).length ≤ b.sizeLimit declared) :
      Outcome p b e subject (.ok ()) (b.inject { subject, payload := blob })

theorem maxMessageSize_eq (p : Publisher) (b : Broker) (drawn : Nat) :
    p.maxMessageSize { broker := b, drawn }
      = if b.isOpen p.connection then match b.streams.lookup p.stream with
          | some declared => .ok (b.sizeLimit declared)
          | none => .error (.maxMessageSize p.stream (.streamNotFound p.stream))
        else .error (.maxMessageSize p.stream .closed) := by
  have hstream : Network.streamMax { broker := b, drawn } p.connection p.stream
      = (b.streamMax p.connection p.stream).1 := rfl
  rw [maxMessageSize, hstream, b.streamMax_eq]
  cases b.isOpen p.connection with
  | false => rfl
  | true =>
    cases b.streams.lookup p.stream with
    | none => rfl
    | some declared => cases declared <;> rfl

theorem publishEnvelope_outcome (p : Publisher) (e : Envelope) (channel : Option String)
    (b : Broker) (drawn : Nat) :
    ∃ answer after, p.publishEnvelope e channel { broker := b, drawn }
        = (answer, { broker := after, drawn })
      ∧ p.Outcome b e (p.outputSubject channel) answer after := by
  rw [publishEnvelope, maxMessageSize_eq]
  cases hkind : e.isConsistent with
  | false => exact ⟨_, _, rfl, .inconsistent hkind⟩
  | true =>
    cases hopen : b.isOpen p.connection with
    | false => exact ⟨_, _, rfl, .closed hkind hopen⟩
    | true =>
      cases hstream : b.streams.lookup p.stream with
      | none => exact ⟨_, _, rfl, .undeclared hkind hopen hstream⟩
      | some declared =>
        rcases fitToSize_cases e.encode (b.sizeLimit declared) with
          ⟨blob, hblob, hlength, hfits⟩ | ⟨herror, hplain, hcompressed⟩
        · have hpublish := Broker.publish_of_fits hopen
            (m := { subject := p.outputSubject channel, payload := blob })
            (Nat.le_trans hlength (b.sizeLimit_le declared))
          refine ⟨_, _, ?_, .published hkind hopen hstream hblob hlength hfits⟩
          simp only [if_true, hblob, Network.publish, Network.attempt, Network.keep, hpublish]
        · refine ⟨_, _, ?_, .tooLarge hkind hopen hstream hplain hcompressed⟩
          simp only [if_true, herror]

end Publisher

/-! Publications. -/

namespace Publication

/-- The envelope that goes out, with the identity it gets. -/
def written (p : Publisher) (n : Network) : Publication → Envelope
  | .payload content type requestId _ =>
    .withPayload (Publisher.identify requestId n).1 content p.fromNode type
  | .error text requestId => .ofError (requestId.getD "") text p.fromNode
  | .envelope e _ => e

/-- The subject it goes out on. -/
def subject (p : Publisher) : Publication → String
  | .payload _ _ _ channel | .envelope _ channel => p.outputSubject channel
  | .error _ _ => p.output

/-- What is answered when it is out: the identity, if that was left open. -/
def answer (e : Envelope) : Publication → Option String
  | .payload .. => some e.requestId
  | .error .. | .envelope .. => none

/-- Payloads cannot be published as errors, and a ready envelope must carry error text exactly if it
is an error. -/
def IsMisfit : Publication → Prop
  | .payload _ type _ _ => type = .error
  | .error .. => False
  | .envelope e _ => ¬(e.kind = .error ↔ e.error ≠ "")

/-- The error that a misfit is refused with. -/
def misfit : Publication → MessagingError
  | .payload .. => .payloadAsError
  | .error .. => .misplacedText .error
  | .envelope e _ => .misplacedText e.kind

theorem misfit_eq (what : Publication) : ∃ type reason, what.misfit = .inconsistent type reason := by
  cases what with
  | payload => exact ⟨_, _, rfl⟩
  | error => exact ⟨_, _, rfl⟩
  | envelope => exact ⟨_, _, rfl⟩

end Publication

theorem Envelope.isConsistent_iff (e : Envelope) :
    e.isConsistent = true ↔ (e.kind = .error ↔ e.error ≠ "") := by
  rw [isConsistent, isError]
  by_cases hkind : e.kind = .error <;> by_cases htext : e.error = "" <;> simp [hkind, htext]

theorem Envelope.isConsistent_withPayload (id : String) (payload : Payload) (fromNode : String)
    {t : MessageType} (ht : t ≠ .error) :
    (withPayload id payload fromNode t).isConsistent = true := by
  rw [isConsistent_iff]
  simp [kind, withPayload, ht]

theorem Envelope.isConsistent_ofError (id text fromNode : String) :
    (ofError id text fromNode).isConsistent = true := by
  rw [isConsistent_iff]
  by_cases htext : text = "" <;> simp [kind, ofError, htext, unspecifiedError]

namespace Publisher

theorem freshIdentity_ne_empty (n : Nat) : freshIdentity n ≠ "" := by
  delta freshIdentity
  intro h
  have hlist := congrArg String.toList h
  simp only [List.append_assoc, String.toList_ofList] at hlist
  exact List.append_ne_nil_of_left_ne_nil (by simp) _ hlist

theorem identify_cases (requestId : Option String) (b : Broker) (drawn : Nat) :
    ∃ id drawn', identify requestId { broker := b, drawn } = (id, { broker := b, drawn := drawn' })
      ∧ id ≠ "" ∧ ∀ given, requestId = some given → given ≠ "" → id = given := by
  have hdraw := freshIdentity_ne_empty (drawn + 1)
  cases requestId with
  | none => exact ⟨freshIdentity (drawn + 1), drawn + 1, rfl, hdraw, fun _ h => by cases h⟩
  | some given =>
    by_cases hgiven : given = ""
    · refine ⟨freshIdentity (drawn + 1), drawn + 1, if_pos hgiven, hdraw, fun given' h hne => ?_⟩
      exact absurd (Option.some.inj h ▸ hgiven) hne
    · exact ⟨given, drawn, if_neg hgiven, hgiven, fun given' h _ => Option.some.inj h⟩

/-- A payload goes out under a given identity, or a fresh one if none or an empty one is given. -/
theorem written_id (p : Publisher) (content : Payload) (type : MessageType)
    (given channel : Option String) (b : Broker) (drawn : Nat) :
    let e := (Publication.payload content type given channel).written p { broker := b, drawn }
    e.requestId ≠ "" ∧ ∀ id, given = some id → id ≠ "" → e.requestId = id := by
  obtain ⟨id, drawn', hid, hne, hgiven⟩ := identify_cases given b drawn
  have hwritten : ((Publication.payload content type given channel).written p
      { broker := b, drawn }).requestId = id := congrArg Prod.fst hid
  simp only [hwritten]
  exact ⟨hne, hgiven⟩

/-- A publication that is not a misfit fares as its envelope does, and keeps its place in the order
of identities. -/
theorem send_cases (p : Publisher) (what : Publication) (b : Broker) (drawn : Nat) :
    what.IsMisfit ∧ p.send what { broker := b, drawn } = (.error what.misfit, { broker := b, drawn })
      ∨ ¬what.IsMisfit ∧ ∃ answer after drawn', p.send what { broker := b, drawn }
          = (answer.map fun _ => what.answer (what.written p { broker := b, drawn }),
            { broker := after, drawn := drawn' })
        ∧ (what.written p { broker := b, drawn }).isConsistent = true
        ∧ p.Outcome b (what.written p { broker := b, drawn }) (what.subject p) answer after := by
  cases what with
  | payload payload type requestId channel =>
    by_cases htype : type = .error
    · refine .inl ⟨htype, ?_⟩
      simp only [send, publish, if_pos htype]
      rfl
    · obtain ⟨id, drawn', hid, -, -⟩ := identify_cases requestId b drawn
      obtain ⟨answer, after, hpublish, houtcome⟩ := p.publishEnvelope_outcome
        (Envelope.withPayload id payload p.fromNode type) channel b drawn'
      refine .inr ⟨htype, answer, after, drawn', ?_, ?_, ?_⟩
      · simp only [send, publish, if_neg htype, hid, hpublish, Publication.answer, Publication.written]
        cases answer <;> rfl
      · simp only [Publication.written]
        exact Envelope.isConsistent_withPayload _ _ _ htype
      · simpa only [Publication.written, Publication.subject, hid] using houtcome
  | error text requestId =>
    obtain ⟨answer, after, hpublish, houtcome⟩ := p.publishEnvelope_outcome
      (Envelope.ofError (requestId.getD "") text p.fromNode) none b drawn
    refine .inr ⟨not_false, answer, after, drawn, ?_, Envelope.isConsistent_ofError _ _ _, houtcome⟩
    simp only [send, publishError, hpublish, Publication.answer]
  | envelope e channel =>
    obtain ⟨answer, after, hpublish, houtcome⟩ := p.publishEnvelope_outcome e channel b drawn
    cases hkind : e.isConsistent with
    | true =>
      refine .inr ⟨?_, answer, after, drawn, ?_, hkind, houtcome⟩
      · exact fun h => h (e.isConsistent_iff.1 hkind)
      · simp only [send, hpublish, Publication.answer]
    | false =>
      refine .inl ⟨?_, ?_⟩
      · exact fun h => Bool.false_ne_true (hkind.symm.trans (e.isConsistent_iff.2 h))
      · simp only [send, publishEnvelope, hkind]
        rfl

/-- A publication is refused and leaves the broker as it was, or the broker takes the one blob that
its envelope was fitted to. It is refused if it is a misfit, else if the limits cannot be told, else
if it does not fit even compressed; the broker never refuses what was fitted, not even later, while
the connection is open and the limits are no tighter. -/
theorem send_outcome (p : Publisher) (what : Publication) (b : Broker) (drawn : Nat) :
    let n : Network := { broker := b, drawn }
    let e := what.written p n
    let (result, after) := p.send what n
    (∀ err, result = .error err → after.broker = b)
    ∧ (∀ id, result = .ok id → ∃ declared blob, id = what.answer e
      ∧ b.streams.lookup p.stream = some declared
      ∧ fitToSize e.encode (b.sizeLimit declared) = .ok blob ∧ blob.length ≤ b.sizeLimit declared
      ∧ after.broker = b.inject { subject := what.subject p, payload := blob }
      ∧ after.broker.history.published = lastOf b.history.limit
        (b.history.published ++ [{ subject := what.subject p, payload := blob }]))
    ∧ (∀ content type given channel, what = .payload content type given channel →
      e.requestId ≠ "" ∧ ∀ id, given = some id → id ≠ "" → e.requestId = id)
    ∧ ((∃ type reason, result = .error (.inconsistent type reason)) ↔ what.IsMisfit)
    ∧ (¬what.IsMisfit →
      ((∃ source, result = .error (.maxMessageSize p.stream source))
        ↔ b.isOpen p.connection = false ∨ b.streams.lookup p.stream = none)
      ∧ ∀ declared, b.isOpen p.connection = true → b.streams.lookup p.stream = some declared →
        ((∃ size, result = .error (.envelope (.tooLarge size (b.sizeLimit declared))))
          ↔ b.sizeLimit declared < e.encode.length
            ∧ b.sizeLimit declared < (Gzip.compress e.encode).length)
        ∧ ((∃ id, result = .ok id)
          ↔ e.encode.length ≤ b.sizeLimit declared
            ∨ (Gzip.compress e.encode).length ≤ b.sizeLimit declared)
        ∧ ∀ blob (later : Broker), fitToSize e.encode (b.sizeLimit declared) = .ok blob →
          later.isOpen p.connection = true → b.maxPayload ≤ later.maxPayload →
            later.publish p.connection { subject := what.subject p, payload := blob }
              = (.ok (), later.inject { subject := what.subject p, payload := blob }))
    ∧ ∀ subject source, result ≠ .error (.publish subject source) := by
  intro n e
  have hid : ∀ content type given channel, what = .payload content type given channel →
      e.requestId ≠ "" ∧ ∀ id, given = some id → id ≠ "" → e.requestId = id := by
    rintro content type given channel rfl
    exact p.written_id content type given channel b drawn
  rcases p.send_cases what b drawn with
    ⟨hmisfit, hsend⟩ | ⟨hfine, answer, after, drawn', hsend, hkind, houtcome⟩
  · obtain ⟨type, reason, hrefused⟩ := what.misfit_eq
    simp only [n, hsend, hrefused]
    refine ⟨fun _ _ => trivial, nofun, hid, ⟨fun _ => hmisfit, fun _ => ⟨type, reason, rfl⟩⟩,
      fun hfine => absurd hmisfit hfine, nofun⟩
  · change p.Outcome b e _ _ _ at houtcome
    simp only [n, hsend]
    cases houtcome with
    | inconsistent hinconsistent => exact absurd (hkind.symm.trans hinconsistent) (by simp)
    | closed _ hclosed =>
      refine ⟨fun _ _ => rfl, nofun, hid, ⟨nofun, fun h => absurd h hfine⟩,
        fun _ => ⟨⟨fun _ => .inl hclosed, fun _ => ⟨_, rfl⟩⟩, fun declared hopen => ?_⟩, nofun⟩
      exact absurd (hclosed.symm.trans hopen) (by simp)
    | undeclared _ hopen hstream =>
      refine ⟨fun _ _ => rfl, nofun, hid, ⟨nofun, fun h => absurd h hfine⟩,
        fun _ => ⟨⟨fun _ => .inr hstream, fun _ => ⟨_, rfl⟩⟩, fun declared _ hdeclared => ?_⟩, nofun⟩
      exact absurd (hstream.symm.trans hdeclared) (by simp)
    | @tooLarge declared _ hopen hstream hplain hcompressed =>
      refine ⟨fun _ _ => rfl, nofun, hid, ⟨nofun, fun h => absurd h hfine⟩,
        fun _ => ⟨⟨nofun, fun h => absurd h (Broker.tellable hopen hstream)⟩,
          fun declared' _ hdeclared => ?_⟩, nofun⟩
      · obtain rfl : declared = declared' := Option.some.inj (hstream.symm.trans hdeclared)
        refine ⟨⟨fun _ => ⟨hplain, hcompressed⟩, fun _ => ⟨_, rfl⟩⟩, ⟨nofun, fun h => ?_⟩,
          fun blob later hblob hopen hmax => Broker.publish_of_fitted hblob hopen hmax _⟩
        exact absurd h (by omega)
    | @published declared blob _ hopen hstream hblob hlength hfits =>
      refine ⟨nofun, ?_, hid, ⟨nofun, fun h => absurd h hfine⟩,
        fun _ => ⟨⟨nofun, fun h => absurd h (Broker.tellable hopen hstream)⟩,
          fun declared' _ hdeclared => ?_⟩, nofun⟩
      · intro id hid'
        obtain rfl := Except.ok.inj hid'
        exact ⟨declared, blob, rfl, hstream, hblob, hlength, rfl, b.published_inject _⟩
      · obtain rfl : declared = declared' := Option.some.inj (hstream.symm.trans hdeclared)
        refine ⟨⟨nofun, fun h => ?_⟩, ⟨fun _ => hfits, fun _ => ⟨_, rfl⟩⟩,
          fun blob later hblob hopen hmax => Broker.publish_of_fitted hblob hopen hmax _⟩
        have hfits' := hfits
        omega

end Publisher
end Waystation
