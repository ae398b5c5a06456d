import Waystation.Report
/-!
What can go wrong between a node and the messaging server.
-/
namespace Waystation

/-- What went wrong on the way to the server or there. -/
inductive TransportError
  | connect (url message : String)
  | closed
  | streamNotFound (stream : String)
  | bucketNotFound (bucket : String)
  | maxPayloadExceeded (size max : Nat)
  | subscribe (subject message : String)
  | ack (message : String)
  | other (message : String)
  deriving DecidableEq, Repr

namespace TransportError

def label : TransportError → String
  | connect .. => "Connect"
  | closed => "Closed"
  | streamNotFound _ => "StreamNotFound"
  | bucketNotFound _ => "BucketNotFound"
  | maxPayloadExceeded .. => "MaxPayloadExceeded"
  | subscribe .. => "Subscribe"
  | ack _ => "Ack"
  | other _ => "Other"

def report : TransportError → Report
  | connect url message =>
    { message := s!"failed connecting to {url}: {message}"
      code := some "nodekit::transport::connect"
      help := some "Check that the messaging server is reachable at the configured url." }
  | closed =>
    { message := "connection closed", code := some "nodekit::transport::closed" }
  | streamNotFound stream =>
    { message := s!"stream not found: {stream}"
      code := some "nodekit::transport::stream_not_found" }
  | bucketNotFound bucket =>
    { message := s!"key-value bucket not found: {bucket}"
      code := some "nodekit::transport::bucket_not_found" }
  | maxPayloadExceeded size max =>
    { message := s!"payload of {size} bytes exceeds max payload {max}"
      code := some "nodekit::transport::max_payload" }
  | subscribe subject message =>
    { message := s!"failed subscribing to {subject}: {message}"
      code := some "nodekit::transport::subscribe" }
  | ack message =>
    { message := s!"failed acknowledging message: {message}"
      code := some "nodekit::transport::ack" }
  | other message =>
    { message := s!"transport error: {message}", code := some "nodekit::transport::other" }

def message (e : TransportError) : String := e.report.message

instance : Reportable TransportError := ⟨label, report⟩

end TransportError
end Waystation
