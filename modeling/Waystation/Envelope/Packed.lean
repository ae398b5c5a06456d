import Waystation.Envelope.Wire
/-!
Messages packed into payloads. A payload names the type of its message by a url; what follows the
last slash of the url is the name of the type, and a payload is unpacked only as the type it names.
-/
namespace Waystation

/-- A type of messages: its full name, how a message is written and how it is read. -/
structure MessageKind (α : Type) where
  name : String
  write : α → Bytes
  read : Bytes → Except Wire.DecodeError α

namespace MessageKind

variable {α : Type}

/-- The url that payloads of this type carry. -/
def typeUrl (k : MessageKind α) : String := "/" ++ k.name

/-- What follows the last slash, if there is one. -/
def afterLastSlash (cs : List Char) : Option (List Char) :=
  if '/' ∈ cs then some (cs.reverse.takeWhile (· ≠ '/')).reverse else none

/-- The name of the type that a url names; names must not begin with a dot. -/
def nameInUrl (url : String) : Option (List Char) :=
  (afterLastSlash url.toList).filter fun name => name.head? ≠ some '.'

/-- The payload that carries a message. -/
def pack (k : MessageKind α) (a : α) : Payload := { typeUrl := k.typeUrl, value := k.write a }

/-- The message in a payload, if it is one of this type. -/
def unpack (k : MessageKind α) (p : Payload) : Except Wire.DecodeError α :=
  if (nameInUrl p.typeUrl).isSome ∧ nameInUrl p.typeUrl = nameInUrl k.typeUrl then k.read p.value
  else .error
    { fault := .typeUrl k.typeUrl p.typeUrl
      path := [("unexpected type URL", "type_url")] }

end MessageKind

/-- A message that is one text. -/
def Greeting.mergeField (text : String) (bs : Bytes) :
    Except Wire.DecodeError (String × Bytes) := do
  let ((number, t), rest) ← Wire.readKey bs
  match number with
  | 1 => Wire.inField "Greeting" "text" (Wire.readText t rest)
  | _ => return (text, ← Wire.skipValue Envelope.depthLimit number t rest)

/-- Greetings: messages with one text in field 1. -/
def greeting : MessageKind String where
  name := "nodekit.test.Greeting"
  write := Wire.writeTextField 1
  read := Wire.readMessage Greeting.mergeField ""

end Waystation
