import Waystation.Broker.Bucket
import Waystation.Broker.Group
import Waystation.Transport.Consumer
import Waystation.Transport.Error
import Waystation.Text.Quoted
/-!
A messaging server that lives in memory: connections, streams with their size limits, durable
consumer groups, key-value buckets, and a bounded history. Every operation is made through a
connection and tells what it answered and what the broker is afterwards.
-/
namespace Waystation

/-- A client of the broker. -/
structure Connection where
  id : Nat
  url : String
  isOpen : Bool := true
  deriving DecidableEq, Repr

/-- A subscription: a place in the log of its group. -/
structure Subscription where
  id : Nat
  subject : String
  group : String
  /-- How many of the messages handed to it have been read. -/
  taken : Nat := 0
  deriving DecidableEq, Repr

/-- A message as its consumer gets it, with the number to acknowledge it by. -/
structure Delivery where
  number : Nat
  message : Message
  deriving DecidableEq, Repr

/-- What a connection shows of itself. -/
def Connection.describe (c : Connection) : String :=
  Text.record "InMemoryTransport"
    [("id", toString c.id), ("url", Text.quoted c.url),
      ("closed", if c.isOpen then "false" else "true")]

/-- A delivery as its subject and the length of its blob. -/
def Delivery.describe (d : Delivery) : String :=
  Text.record "Delivery"
    [("subject", Text.quoted d.message.subject), ("len", toString d.message.payload.length)]

/-- What a subscription holds for its reader. -/
inductive Incoming
  | delivery (d : Delivery)
  | pending
  | closed
  deriving DecidableEq, Repr

/-- The largest payload a broker takes unless told otherwise. -/
def defaultMaxPayload : Nat := 1024 * 1024

/-- What the server holds. -/
structure Broker where
  maxPayload : Nat := defaultMaxPayload
  offline : Bool := false
  streams : List (String × Option Nat) := []
  buckets : List (String × Bucket) := []
  groups : List Group := []
  connections : List Connection := []
  subscriptions : List Subscription := []
  history : History := { limit := History.defaultLimit }
  /-- How many identities have been given to connections and subscriptions. A counter of 64 bits, taken
  to be unbounded: no broker lives to use it up. -/
  issued : Nat := 0
  deriving DecidableEq, Repr

/-- What an operation answers, and the broker after it. -/
abbrev Answer (α : Type) := Except TransportError α × Broker

namespace Broker

/-! Declaring what the server has. -/

/-- The broker with another limit on payloads. -/
def withMaxPayload (b : Broker) (maxPayload : Nat) : Broker := { b with maxPayload }

/-- The broker with another limit on its history, which evicts what is above it. -/
def withHistoryLimit (b : Broker) (limit : Nat) : Broker :=
  { b with history := b.history.setLimit limit }

def withStream (b : Broker) (name : String) (limit : Option Nat) : Broker :=
  { b with streams := (name, limit) :: b.streams.filter (·.1 ≠ name) }

/-- Declares an empty bucket; it takes the place of an earlier one. -/
def withBucket (b : Broker) (name : String) (bucket : Bucket := {}) : Broker :=
  { b with buckets := (name, bucket) :: b.buckets.filter (·.1 ≠ name) }

/-- An offline broker takes no new connections. -/
def setOffline (b : Broker) (offline : Bool) : Broker := { b with offline }

/-! Looking at it. -/

def bucket? (b : Broker) (name : String) : Option Bucket := b.buckets.lookup name

def group? (b : Broker) (name : String) : Option Group := b.groups.find? (·.name = name)

def connection? (b : Broker) (id : Nat) : Option Connection := b.connections.find? (·.id = id)

def subscription? (b : Broker) (id : Nat) : Option Subscription := b.subscriptions.find? (·.id = id)

/-- The retained blobs of a subject, oldest first. -/
def published (b : Broker) (subject : String) : List Bytes :=
  (b.history.published.filter (·.subject = subject)).map (·.payload)

def deliveries (b : Broker) : List DeliveryRecord := b.history.deliveries

/-- How many members a group has. -/
def activeConsumers (b : Broker) (group : String) : Nat :=
  match b.group? group with
  | some g => g.members.length
  | none => 0

/-! Connections. -/

def isOpen (b : Broker) (connection : Nat) : Bool :=
  match b.connection? connection with
  | some c => c.isOpen
  | none => false

/-- Opens a connection; it answers its identity. -/
def connect (b : Broker) (url : String) : Answer Nat :=
  if b.offline then (.error (.connect url "broker offline"), b)
  else
    let id := b.issued + 1
    (.ok id, { b with issued := id, connections := b.connections ++ [{ id, url }] })

/-- Does something through a connection unless it is closed. -/
def whenOpen {α : Type} (b : Broker) (connection : Nat) (act : Answer α) : Answer α :=
  if b.isOpen connection then act else (.error .closed, b)

/-- Closes a connection; its members leave their groups. -/
def close (b : Broker) (connection : Nat) : Broker :=
  if b.isOpen connection then
    { b with
      connections := b.connections.map fun c =>
        if c.id = connection then { c with isOpen := false } else c
      groups := b.groups.map (·.dismiss (·.connection = connection)) }
  else b

/-! Streams and blobs. -/

/-- The size limit of a stream. -/
def streamMax (b : Broker) (connection : Nat) (stream : String) : Answer (Option Nat) :=
  b.whenOpen connection <| match b.streams.lookup stream with
    | some limit => (.ok limit, b)
    | none => (.error (.streamNotFound stream), b)

/-- Takes a blob as if another node had sent it, whatever its size. -/
def inject (b : Broker) (m : Message) : Broker :=
  let (groups, history) := Group.dispatch m b.groups (b.history.recordPublish m)
  { b with groups, history }

/-- Publishes a blob, if the connection is open and the blob is not too large. -/
def publish (b : Broker) (connection : Nat) (m : Message) : Answer Unit :=
  b.whenOpen connection <|
    if b.maxPayload < m.payload.length then
      (.error (.maxPayloadExceeded m.payload.length b.maxPayload), b)
    else (.ok (), b.inject m)

/-! Subscriptions. -/

/-- A group as its first consumer finds it. -/
def freshGroup (b : Broker) (o : ConsumerOptions) : Group :=
  { name := o.group
    filter := o.subject
    backlog := match o.deliver with
      | .new => []
      | .all => b.history.published.filter fun m => Subject.accepts o.subject m.subject }

/-- Attaches a member to the group that the options name, which is made if need be. -/
def attach (b : Broker) (connection id : Nat) (o : ConsumerOptions) (g : Group) : Broker :=
  let (g, history) := g.attach b.history { id, connection }
  { b with
    history
    groups := if (b.group? o.group).isSome then
        b.groups.map fun other => if other.name = g.name then g else other
      else b.groups ++ [g]
    subscriptions := b.subscriptions ++ [{ id, subject := o.subject, group := o.group }] }

/-- Joins a consumer group; it answers the identity of the subscription. A group keeps the filter it
was made with. -/
def subscribe (b : Broker) (connection : Nat) (o : ConsumerOptions) : Answer Nat :=
  b.whenOpen connection <|
    let id := b.issued + 1
    let b := { b with issued := id }
    let g := (b.group? o.group).getD (b.freshGroup o)
    if g.filter = o.subject then (.ok id, b.attach connection id o g)
    else
      (.error (.subscribe o.subject s!"consumer group {o.group} already filters {g.filter}"), b)

/-- What a subscription has not read yet. -/
def queue (b : Broker) (s : Subscription) : List Handed :=
  match b.group? s.group with
  | some g => (g.share s.id).drop s.taken
  | none => []

/-- Is a subscription still attached to its group? -/
def isMember (b : Broker) (s : Subscription) : Bool :=
  match b.group? s.group with
  | some g => g.hasMember s.id
  | none => false

/-- The next message of a subscription. One that has left its group still reads what it was handed
before. -/
def incoming (b : Broker) (id : Nat) : Incoming :=
  match b.subscription? id with
  | none => .closed
  | some s => match b.queue s with
    | handed :: _ => .delivery { number := handed.delivery, message := handed.message }
    | [] => if b.isMember s then .pending else .closed

/-- Takes the next message of a subscription, if it has one. -/
def next (b : Broker) (id : Nat) : Incoming × Broker :=
  match b.incoming id with
  | .delivery d =>
    (.delivery d, { b with
      subscriptions := b.subscriptions.map fun s =>
        if s.id = id then { s with taken := s.taken + 1 } else s })
  | answer => (answer, b)

/-- Counts an acknowledgement; a delivery that never happened cannot be acknowledged. -/
def acknowledge (b : Broker) (delivery : Nat) : Answer Unit :=
  match b.history.acknowledge? delivery with
  | some history => (.ok (), { b with history })
  | none => (.error (.ack s!"unknown delivery {delivery}"), b)

/-- Applies a change to the group of a subscription. -/
def changeGroup (b : Broker) (id : Nat) (f : Group → Group) : Broker :=
  match b.subscription? id with
  | some s => { b with groups := b.groups.map fun g => if g.name = s.group then f g else g }
  | none => b

/-- A subscription leaves its group. -/
def unsubscribe (b : Broker) (id : Nat) : Broker := b.changeGroup id (·.dismiss (·.id = id))

/-- Nobody will read a subscription any more. -/
def drop (b : Broker) (id : Nat) : Broker := b.changeGroup id (·.abandon id)

/-! Buckets. -/

/-- Is there a bucket of this name for a connection? -/
def openBucket (b : Broker) (connection : Nat) (name : String) : Answer Unit :=
  b.whenOpen connection <| match b.bucket? name with
    | some _ => (.ok (), b)
    | none => (.error (.bucketNotFound name), b)

/-- The value under a key of a bucket. -/
def getKey (b : Broker) (bucket key : String) : Option Bytes :=
  match b.bucket? bucket with
  | some store => store.get? key
  | none => none

/-- Applies a change to a bucket. -/
def changeBucket (b : Broker) (name : String) (f : Bucket → Bucket) : Broker :=
  { b with buckets := b.buckets.map fun e => if e.1 = name then (e.1, f e.2) else e }

/-- Sets the value under a key of a bucket. -/
def putKey (b : Broker) (bucket key : String) (value : Bytes) : Broker :=
  b.changeBucket bucket (·.put key value)

/-- Removes a key from a bucket. -/
def eraseKey (b : Broker) (bucket key : String) : Broker := b.changeBucket bucket (·.erase key)

end Broker
end Waystation
