import Waystation.Messaging.Error
import Waystation.Network
import Waystation.Transport.Remote
/-!
Publishing: an envelope is checked, encoded, compressed if it would not fit, and sent to the output
subject of its node.
-/
namespace Waystation

/-- What is published, and for which request and channel. -/
inductive Publication
  | payload (payload : Payload) (type : MessageType) (requestId channel : Option String)
  | error (text : String) (requestId : Option String)
  | envelope (e : Envelope) (channel : Option String)
  deriving DecidableEq, Repr

/-- Where a node publishes, and the name it gives itself there. -/
structure Publisher where
  connection : Nat
  stream : String
  output : String
  fromNode : String
  deriving DecidableEq, Repr

namespace Publisher

/-- The subject of a channel; without one, or with an empty one, it is the output itself. -/
def outputSubject (p : Publisher) (channel : Option String) : String :=
  match channel with
  | some c => if c = "" then p.output else p.output ++ "." ++ c
  | none => p.output

/-- The largest blob that can be published now. -/
def maxMessageSize (p : Publisher) (n : Network) : Except MessagingError Nat :=
  match n.streamMax p.connection p.stream with
  | .ok limit => .ok (effectiveLimit limit n.broker.maxPayload)
  | .error e => .error (.maxMessageSize p.stream e)

/-- Publishes an envelope, unless it is inconsistent or does not fit. -/
def publishEnvelope (p : Publisher) (e : Envelope) (channel : Option String) (n : Network) :
    Except MessagingError Unit × Network :=
  if e.isConsistent then
    match p.maxMessageSize n with
    | .error err => (.error err, n)
    | .ok limit => match fitToSize e.encode limit with
      | .error err => (.error (.envelope err), n)
      | .ok blob =>
        let subject := p.outputSubject channel
        match n.publish p.connection { subject, payload := blob } with
        | (.ok (), n) => (.ok (), n)
        | (.error err, n) => (.error (.publish subject err), n)
  else (.error (.misplacedText e.kind), n)

/-- The identity to publish under: the given one, or a fresh one if it is missing or empty. -/
def identify (requestId : Option String) (n : Network) : String × Network :=
  match requestId with
  | some id => if id = "" then n.draw else (id, n)
  | none => n.draw

/-- Publishes a payload; it answers the identity used. -/
def publish (p : Publisher) (payload : Payload) (type : MessageType)
    (requestId channel : Option String) (n : Network) : Except MessagingError String × Network :=
  if type = .error then (.error .payloadAsError, n)
  else
    let (id, n) := identify requestId n
    match p.publishEnvelope (Envelope.withPayload id payload p.fromNode type) channel n with
    | (.ok (), n) => (.ok id, n)
    | (.error e, n) => (.error e, n)

/-- Reports an error on the output itself. Without an identity it stays uncorrelated. -/
def publishError (p : Publisher) (text : String) (requestId : Option String) (n : Network) :
    Except MessagingError Unit × Network :=
  p.publishEnvelope (Envelope.ofError (requestId.getD "") text p.fromNode) none n

/-- Publishes; it answers the identity used where one is chosen. -/
def send (p : Publisher) : Publication → Network → Except MessagingError (Option String) × Network
  | .payload payload type requestId channel, n =>
    let (r, n) := p.publish payload type requestId channel n
    (r.map some, n)
  | .error text requestId, n =>
    let (r, n) := p.publishError text requestId n
    (r.map fun _ => none, n)
  | .envelope e channel, n =>
    let (r, n) := p.publishEnvelope e channel n
    (r.map fun _ => none, n)

end Publisher
end Waystation
