import Waystation.Broker.History
import Waystation.Subject
/-!
Consumer groups. A group filters subjects, and hands each message that passes to one of its members,
in turn. While it has no member its messages wait. What was handed out stays in the group's log,
where every member reads its own share at its own pace.
-/
namespace Waystation

/-- A subscription attached to a group. -/
structure Member where
  id : Nat
  /-- The connection it was made through. -/
  connection : Nat
  /-- Whether somebody can still read what it is handed. -/
  held : Bool := true
  deriving DecidableEq, Repr

/-- A message handed to a member, with the number of its delivery. -/
structure Handed where
  member : Nat
  delivery : Nat
  message : Message
  deriving DecidableEq, Repr

/-- Members that share the messages of a filter: each message goes to one of them. -/
structure Group where
  name : String
  filter : String
  members : List Member := []
  /-- Counts deliveries, to take the members in turn. -/
  cursor : UInt64 := 0
  backlog : List Message := []
  handed : List Handed := []
  deriving DecidableEq, Repr

namespace Group

/-- Without the members that nobody holds any more. -/
def swept (g : Group) : Group := { g with members := g.members.filter (·.held) }

/-- The member whose turn it is. -/
def turn? (g : Group) : Option Member := g.members[g.cursor.toNat % g.members.length]?

/-- Hands a message to the member whose turn it is; without members the message waits. -/
def offer (g : Group) (h : History) (m : Message) : Group × History :=
  let g := g.swept
  match g.turn? with
  | some member =>
    ({ g with
        cursor := g.cursor + 1
        handed := g.handed ++ [{ member := member.id, delivery := h.nextDelivery, message := m }] },
      h.recordDelivery { subject := m.subject, group := g.name })
  | none => ({ g with backlog := g.backlog ++ [m] }, h)

/-- Offers messages one after another. -/
def offerAll (g : Group) (h : History) : List Message → Group × History
  | [] => (g, h)
  | m :: ms =>
    let (g, h) := g.offer h m
    g.offerAll h ms

/-- Adds a member, which gets what has been waiting. -/
def attach (g : Group) (h : History) (member : Member) : Group × History :=
  offerAll { g with members := g.members ++ [member], backlog := [] } h g.backlog

/-- Offers a message to every group that takes its subject, one group after the other in the order in
which they were made. In another order the deliveries of one message to several groups have other
numbers; what each group is handed, and which of its members takes it, is the same in any order. -/
def dispatch (m : Message) : List Group → History → List Group × History
  | [], h => ([], h)
  | g :: gs, h =>
    let (g, h) := if Subject.accepts g.filter m.subject then g.offer h m else (g, h)
    let (gs, h) := dispatch m gs h
    (g :: gs, h)

/-- Removes the members that satisfy a condition. -/
def dismiss (g : Group) (p : Member → Bool) : Group :=
  { g with members := g.members.filter fun m => !p m }

/-- Marks a member as held by nobody. It leaves at the next delivery. -/
def abandon (g : Group) (id : Nat) : Group :=
  { g with members := g.members.map fun m => if m.id = id then { m with held := false } else m }

/-- What has been handed to a member. -/
def share (g : Group) (id : Nat) : List Handed := g.handed.filter (·.member = id)

def hasMember (g : Group) (id : Nat) : Bool := g.members.any (·.id = id)

theorem turn?_isSome (g : Group) (h : g.members ≠ []) : g.turn?.isSome := by
  have : 0 < g.members.length := List.length_pos_iff.2 h
  simp [turn?, Nat.mod_lt _ this]

theorem turn?_mem {g : Group} {m : Member} (h : g.turn? = some m) : m ∈ g.members :=
  List.mem_of_getElem? h

end Group
end Waystation
