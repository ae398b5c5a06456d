import Waystation.Broker.Basic
/-!
A broker as nodes reach it: the way to it may fail, each operation with a text of its own, and blobs
that name no request are given an identity nobody else has.
-/
namespace Waystation

/-- Which operations fail, and with what text. -/
structure Faults where
  stream : Option String := none
  publish : Option String := none
  /-- By the subject of the subscription. -/
  subscribe : List (String × String) := []
  /-- Reported after the connection is closed all the same. -/
  close : Option String := none
  /-- The member stays in its group. -/
  unsubscribe : Option String := none
  /-- Of every key-value bucket, once it is open. -/
  store : Option String := none
  acknowledge : Option String := none
  /-- The subjects whose subscriptions break when they take a message. -/
  broken : List String := []
  deriving DecidableEq, Repr

/-- A broker, the operations on it that fail, and the source of identities. -/
structure Network where
  broker : Broker := {}
  faults : Faults := {}
  /-- How many identities have been drawn. -/
  drawn : Nat := 0
  deriving DecidableEq, Repr

/-- Does a text have the form of a random identity: hexadecimal digits in five groups, with the mark
of the fourth version and of the variant? -/
def isIdentityForm (s : String) : Bool :=
  s.length = 36 && s.toList.zipIdx.all fun (c, i) =>
    if i ∈ [8, 13, 18, 23] then c = '-'
    else if i = 14 then c = '4'
    else if i = 19 then c ∈ ['8', '9', 'a', 'b']
    else c.isDigit || ('a' ≤ c && c ≤ 'f')

/-- The `n`-th identity, in the form of a random one. -/
def freshIdentity (n : Nat) : String :=
  let digits := Nat.toDigits 16 (n % 0x1000000000000)
  String.ofList
    ("00000000-0000-4000-8000-".toList ++ List.replicate (12 - digits.length) '0' ++ digits)

namespace Network

/-- Keeps the broker that an operation leaves behind. -/
def keep {α : Type} (n : Network) (answer : Answer α) : Except TransportError α × Network :=
  (answer.1, { n with broker := answer.2 })

/-- Fails with a text if there is one; otherwise the operation takes place. -/
def attempt {α : Type} (n : Network) (fault : Option String) (answer : Unit → Answer α) :
    Except TransportError α × Network :=
  match fault with
  | some text => (.error (.other text), n)
  | none => n.keep (answer ())

/-- Connects to the broker. -/
def connect (n : Network) (url : String) : Except TransportError Nat × Network :=
  n.keep (n.broker.connect url)

/-- The size limit of a stream, if it has one. -/
def streamMax (n : Network) (connection : Nat) (stream : String) :
    Except TransportError (Option Nat) :=
  (n.attempt n.faults.stream fun _ => n.broker.streamMax connection stream).1

/-- Publishes a blob. -/
def publish (n : Network) (connection : Nat) (m : Message) : Except TransportError Unit × Network :=
  n.attempt n.faults.publish fun _ => n.broker.publish connection m

/-- Joins the group of a consumer. -/
def subscribe (n : Network) (connection : Nat) (o : ConsumerOptions) :
    Except TransportError Nat × Network :=
  n.attempt (n.faults.subscribe.lookup o.subject) fun _ => n.broker.subscribe connection o

/-- Closes a connection; a fault is reported afterwards. -/
def close (n : Network) (connection : Nat) : Except TransportError Unit × Network :=
  let n := { n with broker := n.broker.close connection }
  n.attempt n.faults.close fun _ => (.ok (), n.broker)

/-- Detaches a subscription from its group. -/
def unsubscribe (n : Network) (subscription : Nat) : Except TransportError Unit × Network :=
  n.attempt n.faults.unsubscribe fun _ => (.ok (), n.broker.unsubscribe subscription)

/-- Acknowledges a delivery. -/
def acknowledge (n : Network) (delivery : Nat) : Except TransportError Unit × Network :=
  match n.faults.acknowledge with
  | some text => (.error (.ack text), n)
  | none => n.keep (n.broker.acknowledge delivery)

/-- Draws an identity. -/
def draw (n : Network) : String × Network :=
  (freshIdentity (n.drawn + 1), { n with drawn := n.drawn + 1 })

end Network
end Waystation
