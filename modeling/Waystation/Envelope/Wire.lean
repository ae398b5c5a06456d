import Waystation.Envelope.Basic
import Waystation.Wire.Field
/-!
The wire form of envelopes. Fields stand in the order of their numbers and default values are left
out; a payload is written even when it is empty, so that it differs from none. A reader takes fields
in any order, passes over fields it does not know, lets the last text or number win and merges
repeated payloads.
-/
namespace Waystation

open Wire

namespace Payload

def write (p : Payload) : Bytes := writeTextField 1 p.typeUrl ++ writeBytesField 2 p.value

def mergeField (depth : Nat) (p : Payload) (bs : Bytes) : Except DecodeError (Payload × Bytes) := do
  let ((number, t), rest) ← readKey bs
  match number with
  | 1 =>
    let (typeUrl, rest) ← inField "Any" "type_url" (readText t rest)
    return ({ p with typeUrl }, rest)
  | 2 =>
    let (value, rest) ← inField "Any" "value" (readDelimited t rest)
    return ({ p with value }, rest)
  | _ => return (p, ← skipValue depth number t rest)

end Payload

namespace Envelope

/-- The number as a 64-bit word: a negative one keeps its sign and takes ten bytes. -/
def typeWord (n : Int32) : Nat := n.toInt64.toUInt64.toNat

/-- The low 32 bits of a word, with sign. -/
def ofTypeWord (n : Nat) : Int32 := (UInt32.ofNat n).toInt32

/-- The wire form, without any framing. -/
def encode (e : Envelope) : Bytes :=
  writeTextField 1 e.requestId
    ++ ((match e.payload with
        | some p => writeDelimited 2 p.write
        | none => [])
    ++ (writeTextField 3 e.error
    ++ (writeTextField 4 e.fromNode
    ++ writeNatField 5 (typeWord e.messageType))))

/-- How deep messages and groups may nest. -/
def depthLimit : Nat := 100

def mergeField (e : Envelope) (bs : Bytes) : Except DecodeError (Envelope × Bytes) := do
  let ((number, t), rest) ← readKey bs
  match number with
  | 1 =>
    let (requestId, rest) ← inField "Envelope" "request_id" (readText t rest)
    return ({ e with requestId }, rest)
  | 2 =>
    let (payload, rest) ← inField "Envelope" "payload"
      (readNested (Payload.mergeField (depthLimit - 1)) (e.payload.getD {}) t rest)
    return ({ e with payload := some payload }, rest)
  | 3 =>
    let (error, rest) ← inField "Envelope" "error" (readText t rest)
    return ({ e with error }, rest)
  | 4 =>
    let (fromNode, rest) ← inField "Envelope" "from_node" (readText t rest)
    return ({ e with fromNode }, rest)
  | 5 =>
    let (word, rest) ← inField "Envelope" "message_type" do
      expectType t .varint
      readNat rest
    return ({ e with messageType := ofTypeWord word }, rest)
  | _ => return (e, ← skipValue depthLimit number t rest)

/-- Reads the wire form, without any framing. -/
def decodePlain (bs : Bytes) : Except DecodeError Envelope := readMessage mergeField {} bs

end Envelope
end Waystation
