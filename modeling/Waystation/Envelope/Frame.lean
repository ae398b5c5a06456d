import Waystation.Envelope.Wire
import Waystation.Gzip.Member
import Waystation.Decimal.Rounding
import Waystation.Report
/-!
Blobs on the wire: an envelope in its plain form, or that form in a gzip frame, which its first two
bytes show. A sender compresses only what would not fit; a reader refuses to inflate without bound.
-/
namespace Waystation

/-- A size in mebibytes with two decimal places. The size is first taken to the 53 binary digits of
a double. -/
def sizeText (size : Nat) : String :=
  Decimal.toFixed 2 (Decimal.roundBits 53 size) (1024 * 1024) ++ " MB"

/-- Why a blob cannot be read or made. -/
inductive EnvelopeError
  | decompress (reason : String)
  | compress (reason : String)
  | decode (reason : Wire.DecodeError)
  | inflatedTooLarge (limit : Nat)
  | tooLarge (compressed allowed : Nat)
  deriving DecidableEq, Repr

namespace EnvelopeError

def label : EnvelopeError → String
  | decompress _ => "Decompress"
  | compress _ => "Compress"
  | decode _ => "Decode"
  | inflatedTooLarge _ => "InflatedTooLarge"
  | tooLarge .. => "TooLarge"

def report : EnvelopeError → Report
  | decompress reason =>
    { message := s!"failed decompressing message: {reason}"
      code := some "nodekit::envelope::decompress"
      causes := [reason] }
  | compress reason =>
    { message := s!"failed compressing message: {reason}"
      code := some "nodekit::envelope::compress"
      causes := [reason] }
  | decode reason =>
    { message := s!"message is not a valid envelope: {reason.message}"
      code := some "nodekit::envelope::decode"
      help := some "The producer may be running an incompatible schema version."
      causes := [reason.message] }
  | inflatedTooLarge limit =>
    { message := s!"inflated message exceeds {limit} bytes"
      code := some "nodekit::envelope::inflated_too_large" }
  | tooLarge compressed allowed =>
    { message := s!"compressed message size {sizeText compressed} ({compressed} bytes) exceeds "
        ++ s!"maximum allowed size {sizeText allowed} ({allowed} bytes)"
      code := some "nodekit::envelope::too_large"
      help := some "Reduce the payload or raise the stream's max message size." }

def message (e : EnvelopeError) : String := e.report.message

instance : Reportable EnvelopeError := ⟨label, report⟩

end EnvelopeError

/-- The largest size an inflated blob may have. -/
def maxInflatedSize : Nat := 64 * 1024 * 1024

/-- Does a blob start like a gzip member? -/
def isCompressed (blob : Bytes) : Bool := Gzip.magic.isPrefixOf blob

/-- Inflates a blob of at most `limit` bytes. One byte more than the limit is asked for, to tell a
result of exactly that size from a longer one; that number has 64 bits, so the largest limit asks
for nothing and finds the empty string. -/
def decompressWithin (limit : Nat) (blob : Bytes) : Except EnvelopeError Bytes :=
  if (limit + 1) % UInt64.size = 0 then .ok []
  else match Gzip.decompress? limit blob with
    | .ok (some out) => .ok out
    | .ok none => .error (.inflatedTooLarge limit)
    | .error fault => .error (.decompress fault.message)

/-- Inflates a frame to the default limit at most. -/
def decompress (blob : Bytes) : Except EnvelopeError Bytes := decompressWithin maxInflatedSize blob

namespace Envelope

/-- Reads a blob, inflating it first if it is compressed. -/
def decode (blob : Bytes) : Except EnvelopeError Envelope := do
  let plain ← if isCompressed blob then decompress blob else .ok blob
  (decodePlain plain).mapError .decode

end Envelope

/-- Makes a serialized envelope fit: left as it is if it already does, else compressed once. -/
def fitToSize (encoded : Bytes) (maxSize : Nat) : Except EnvelopeError Bytes :=
  if encoded.length ≤ maxSize then .ok encoded
  else
    let compressed := Gzip.compress encoded
    if compressed.length ≤ maxSize then .ok compressed
    else .error (.tooLarge compressed.length maxSize)

end Waystation
