import Waystation.Bytes
/-!
Envelopes: what nodes send each other. An envelope names the request it belongs to, the node it
comes from and its type, and carries either a typed payload or the text of an error.
-/
namespace Waystation

/-- A typed value: the name of its type and its bytes. -/
structure Payload where
  typeUrl : String := ""
  value : Bytes := []
  deriving DecidableEq, Repr, Inhabited

/-- What an envelope is for. -/
inductive MessageType
  | undefined | ok | error | earlyReply | earlyExit
  deriving DecidableEq, Repr

namespace MessageType

def label : MessageType → String
  | undefined => "UNDEFINED"
  | ok => "OK"
  | error => "ERROR"
  | earlyReply => "EARLY_REPLY"
  | earlyExit => "EARLY_EXIT"

/-- The number of a type on the wire. -/
def number : MessageType → Int32
  | undefined => 0
  | ok => 1
  | error => 2
  | earlyReply => 3
  | earlyExit => 4

/-- The type with a number; a number that nobody assigned is undefined. -/
def ofNumber (n : Int32) : MessageType :=
  if n = 1 then ok else if n = 2 then error else if n = 3 then earlyReply
  else if n = 4 then earlyExit else undefined

@[simp] theorem ofNumber_number (t : MessageType) : ofNumber t.number = t := by
  cases t <;> decide

end MessageType

/-- What one node sends another. -/
structure Envelope where
  requestId : String := ""
  payload : Option Payload := none
  error : String := ""
  fromNode : String := ""
  messageType : Int32 := 0
  deriving DecidableEq, Repr, Inhabited

namespace Envelope

/-- The text of an error nobody described. -/
def unspecifiedError : String := "unspecified error"

/-- An envelope around a payload. -/
def withPayload (requestId : String) (payload : Payload) (fromNode : String) (t : MessageType) :
    Envelope :=
  { requestId, payload := some payload, fromNode, messageType := t.number }

/-- An error report. An empty id leaves it uncorrelated; an empty text is replaced. -/
def ofError (requestId error fromNode : String) : Envelope :=
  { requestId, error := if error = "" then unspecifiedError else error, fromNode,
    messageType := MessageType.error.number }

def kind (e : Envelope) : MessageType := MessageType.ofNumber e.messageType

def isOk (e : Envelope) : Bool := e.kind = .ok
def isError (e : Envelope) : Bool := e.kind = .error
def isEarlyReply (e : Envelope) : Bool := e.kind = .earlyReply
def isEarlyExit (e : Envelope) : Bool := e.kind = .earlyExit

/-- Does the envelope belong to a request? -/
def isCorrelated (e : Envelope) : Bool := e.requestId ≠ ""

/-- The error text is set exactly for error envelopes. -/
def isConsistent (e : Envelope) : Bool := e.isError ≠ (e.error = "" : Bool)

end Envelope
end Waystation
