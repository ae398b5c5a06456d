import Waystation.Envelope.Frame
import Waystation.Transport.Error
/-!
Why an envelope was not published.
-/
namespace Waystation

/-- Why nothing was published. -/
inductive MessagingError
  | maxMessageSize (stream : String) (source : TransportError)
  | envelope (source : EnvelopeError)
  | inconsistent (messageType : MessageType) (reason : String)
  | publish (subject : String) (source : TransportError)
  deriving DecidableEq, Repr

namespace MessagingError

def label : MessagingError → String
  | maxMessageSize .. => "MaxMessageSize"
  | envelope _ => "Envelope"
  | inconsistent .. => "Inconsistent"
  | publish .. => "Publish"

def report : MessagingError → Report
  | maxMessageSize stream source =>
    { message := s!"failed getting max message size for stream {stream}: {source.message}"
      code := some "nodekit::messaging::max_size"
      causes := source.report.chain }
  | envelope source => source.report
  | inconsistent messageType reason =>
    { message := s!"refusing to publish inconsistent {messageType.label} envelope: {reason}"
      code := some "nodekit::messaging::inconsistent"
      help := some "Publish errors through `publish_error` / `send_error`." }
  | publish subject source =>
    { message := s!"failed publishing to {subject}: {source.message}"
      code := some "nodekit::messaging::publish"
      causes := source.report.chain }

/-- A payload cannot be sent as an error. -/
def payloadAsError : MessagingError :=
  inconsistent .error "error envelopes carry error text, not a payload"

/-- An envelope must not carry error text unless it is an error, and then must. -/
def misplacedText (messageType : MessageType) : MessagingError :=
  inconsistent messageType "error text must be set exactly for ERROR envelopes"

instance : Reportable MessagingError := ⟨label, report⟩

end MessagingError
end Waystation
