import Waystation.Subject
/-!
Consumers: how a process asks for the messages of a subject, and the durable consumer that a server
keeps for it.
-/
namespace Waystation

/-- Which messages a fresh consumer starts from. -/
inductive DeliverPolicy
  | new
  | all
  deriving DecidableEq, Repr

/-- Seconds a server waits for an acknowledgement before it delivers again. -/
def ackWait : Nat := 22 * 60 * 60

/-- How a consumer of a subject is set up. -/
structure ConsumerOptions where
  subject : String
  group : String
  deliver : DeliverPolicy := .new
  manualAck : Bool := true
  ackWait : Nat := Waystation.ackWait
  deriving DecidableEq, Repr

/-- The consumer every node uses. -/
def ConsumerOptions.forProcess (subject process : String) : ConsumerOptions :=
  { subject, group := Subject.groupName subject process }

/-- Must messages be acknowledged? -/
inductive AckPolicy
  | explicit
  | none
  deriving DecidableEq, Repr

/-- A consumer that a server keeps while nobody is connected. -/
structure DurableConsumer where
  durableName : String
  name : Option String
  filterSubject : String
  deliver : DeliverPolicy
  ackPolicy : AckPolicy
  ackWait : Nat
  deriving DecidableEq, Repr

/-- The durable consumer for some options is named by the group alone. -/
def ConsumerOptions.durable (o : ConsumerOptions) : DurableConsumer :=
  { durableName := o.group, name := none, filterSubject := o.subject, deliver := o.deliver
    ackPolicy := if o.manualAck then .explicit else .none, ackWait := o.ackWait }

end Waystation
