import Waystation.Transport.Error
import Waystation.Text.Quoted
/-!
Connections to a messaging server across a network, as far as they go without one: which urls are
refused before anything is sent, and how a server states the size limit of a stream.
-/
namespace Waystation

/-- What opens connections; servers are told its name. -/
structure RemoteConnector where
  clientName : String := "nodekit"
  deriving DecidableEq, Repr

namespace RemoteConnector

def describe (c : RemoteConnector) : String :=
  Text.record "NatsConnector" [("client_name", Text.quoted c.clientName)]

/-- The schemes of urls that can be connected to. -/
def schemes : List String := ["nats", "tls", "ws", "wss"]

/-- The scheme of a url: what stands before the first colon, in lower case. -/
def scheme (url : String) : String :=
  String.ofList ((url.toList.takeWhile (· ≠ ':')).map Char.toLower)

/-- The error that a url is refused with, if it is. -/
def refusal? (url : String) : Option TransportError :=
  if scheme url ∈ schemes then none
  else some (.connect url
    s!"failed to parse server or server list: invalid scheme for NATS server URL: {scheme url}")

end RemoteConnector

/-- A size limit as servers state it: numbers below one mean there is none. -/
def streamLimit (max : Int) : Option Nat := if 0 < max then some max.toNat else none

/-- The largest blob that may be published: the limit of the stream if it has one, and never more
than the connection takes. -/
def effectiveLimit (streamMax : Option Nat) (maxPayload : Nat) : Nat :=
  match streamMax with
  | some n => min n maxPayload
  | none => maxPayload

end Waystation
