import Waystation.Config.Basic
import Waystation.Messaging.Publisher
import Waystation.Settings
/-!
What user code sees of its node: who the node is, what it may publish, its settings, and the request
it is working for. What is published while a request is worked on is published for that request.
-/
namespace Waystation

/-- What user code knows and can use. -/
structure Context where
  identity : Identity
  publisher : Publisher
  settings : Settings
  /-- The request being worked for; none outside of messages. -/
  request : Option Envelope := none
  deriving DecidableEq, Repr

namespace Context

/-- The context of a node connected to its server. -/
def ofConfig (c : Config) (connection : Nat) (settings : Settings) : Context :=
  { identity := c.identity
    publisher :=
      { connection := connection
        stream := c.wiring.stream
        output := c.wiring.output
        fromNode := c.identity.process }
    settings := settings }

/-- The context for working on a request. -/
def forRequest (c : Context) (e : Envelope) : Context := { c with request := some e }

/-- The identity of the request; empty outside of one. -/
def requestId (c : Context) : String :=
  match c.request with
  | some e => e.requestId
  | none => ""

/-- The identity that publications carry, if the request has one. -/
def currentId? (c : Context) : Option String := if c.requestId = "" then none else some c.requestId

/-- What the request is for; outside of one that is undefined. -/
def requestKind (c : Context) : MessageType :=
  match c.request with
  | some e => e.kind
  | none => .undefined

/-- The error that the request reports, if it is one. -/
def errorMessage (c : Context) : String :=
  match c.request with
  | some e => if e.isError then e.error else ""
  | none => ""

/-! What user code publishes for the request. -/

/-- Output for the request being worked for, if there is one. -/
def output (c : Context) (payload : Payload) (channel : Option String) : Publication :=
  .payload payload .ok c.currentId? channel

def earlyReply (c : Context) (payload : Payload) (channel : Option String) : Publication :=
  .payload payload .earlyReply c.currentId? channel

def earlyExit (c : Context) (payload : Payload) (channel : Option String) : Publication :=
  .payload payload .earlyExit c.currentId? channel

def errorReply (c : Context) (text : String) : Publication := .error text c.currentId?

end Context

/-- An output for a request other than the one being worked for. -/
def Publication.outputFor (payload : Payload) (requestId : String) (channel : Option String) :
    Publication :=
  .payload payload .ok (some requestId) channel

end Waystation
