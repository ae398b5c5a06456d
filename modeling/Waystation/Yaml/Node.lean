import Waystation.Yaml.Event
import Waystation.Yaml.Value
/-!
The tree of a document. An alias holds the number of its anchor; which node that is, the whole
document decides: a number given twice means the later node.
-/
namespace Waystation.Yaml

/-- A node as it is written, before it is known what its scalars stand for. -/
inductive Node
  | reference (anchor : Nat)
  | scalar (tag : Option String) (text : String) (plain : Bool)
  | sequence (tag : Option String) (items : List Node)
  | mapping (tag : Option String) (entries : List (Node × Node))
  deriving Repr, Inhabited

/-- A document: its tree, the nodes of its anchors, and how often aliases may be followed. Without a
root it is empty. -/
structure Document where
  root : Option Node
  anchors : List (Nat × Node)
  aliasLimit : Nat

/-- A document under construction. Anchors are numbered by how many names there are when one is
met. -/
structure Composing where
  events : List Event
  names : List (String × Nat) := []
  /-- The nodes of anchors, the latest in the text first; each with its place in the text. -/
  nodes : List (Nat × Nat × Node) := []
  place : Nat := 0

namespace Composing

/-- Notes an anchor; gives its number. -/
def addAnchor (s : Composing) : Option String → Option Nat × Composing
  | none => (none, s)
  | some name =>
    let id := s.names.length
    (some id, { s with names := (name, id) :: s.names.filter (·.1 ≠ name) })

/-- Notes the node of an anchor. -/
def addNode (s : Composing) (id : Option Nat) (place : Nat) (n : Node) : Composing :=
  match id with
  | none => s
  | some id => { s with nodes := (id, place, n) :: s.nodes }

mutual

/-- The node that the next events describe. -/
def readNode : (fuel : Nat) → Composing → Option (Node × Composing)
  | 0, _ => none
  | fuel + 1, s =>
    let place := s.place
    let advance := fun (events : List Event) => { s with events, place := place + 1 }
    match s.events with
    | .reference name :: events => do
      return (.reference (← s.names.lookup name), advance events)
    | .scalar props text plain :: events =>
      let (id, s) := (advance events).addAnchor props.anchor
      let n := .scalar props.tag text plain
      some (n, s.addNode id place n)
    | .sequenceStart props :: events => do
      let (id, s) := (advance events).addAnchor props.anchor
      let (items, s) ← readNodes fuel s
      let n := .sequence props.tag items
      return (n, s.addNode id place n)
    | .mappingStart props :: events => do
      let (id, s) := (advance events).addAnchor props.anchor
      let (items, s) ← readNodes fuel s
      let n := .mapping props.tag (pairs items)
      return (n, s.addNode id place n)
    | _ => none
where
  /-- Keys and values in turn. -/
  pairs : List Node → List (Node × Node)
    | k :: v :: rest => (k, v) :: pairs rest
    | _ => []

/-- Nodes up to the end of their collection. -/
def readNodes : (fuel : Nat) → Composing → Option (List Node × Composing)
  | 0, _ => none
  | fuel + 1, s =>
    match s.events with
    | .sequenceEnd :: events | .mappingEnd :: events =>
      some ([], { s with events, place := s.place + 1 })
    | _ => do
      let (n, s) ← readNode fuel s
      let (rest, s) ← readNodes fuel s
      return (n :: rest, s)

end

/-- The node of each anchor number: the one furthest on in the text. -/
def anchors (s : Composing) : List (Nat × Node) :=
  (s.nodes.mergeSort fun a b => b.2.1 ≤ a.2.1).map fun (id, _, n) => (id, n)

end Composing

/-- The only document of a text. -/
def Document.ofText? (s : String) : Option Document := do
  match ← Event.ofText? s with
  | [] => return { root := none, anchors := [], aliasLimit := 0 }
  | .documentStart :: events =>
    let (root, c) ← Composing.readNode (2 * events.length + 2) { events }
    if c.events ≠ [.documentEnd] then none
    return { root := some root, anchors := c.anchors, aliasLimit := 100 * c.place }
  | _ => none

/-- How deep collections may nest. -/
def depthLimit : Nat := 128

namespace Node

/-- The name of a local tag; without one for tags of the core kinds. -/
def localTag? (tag : Option String) : Option String :=
  match tag.map String.toList with
  | some ['!'] => some "!"
  | some ('!' :: rest) => some (String.ofList rest)
  | _ => none

/-- The tag of a core kind. -/
def coreTag (kind : String) : String := "tag:yaml.org,2002:" ++ kind

/-- What a scalar stands for. A tag of a core kind makes it that kind or an error; quoted scalars
and others with a foreign tag are texts. `localTag` tells that a local tag has been dealt with. -/
def scalarValue? (localTag : Bool) (tag : Option String) (text : String) (plain : Bool) :
    Option Scalar :=
  match (if localTag then none else tag) with
  | some t =>
    if t = coreTag "bool" then (Scalar.bool? text).map .bool
    else if t = coreTag "int" then
      match Scalar.int? text with
      | some n => if Scalar.fitsWord n then some (.int n) else none
      | none => none
    else if t = coreTag "float" then (Scalar.float? text).map .float
    else if t = coreTag "null" then (if Scalar.isNull text then some .null else none)
    else some (.text text)
  | none => if plain then Scalar.ofPlain? text else some (.text text)

/-- Reading values counts the aliases that are followed. -/
abbrev Reading := StateT Nat Option

mutual

/-- The value of a node. A key must not be given twice. -/
def value (doc : Document) : (fuel depth : Nat) → (localTag : Bool) → Node → Reading Value
  | 0, _, _, _ => failure
  | fuel + 1, depth, localTag, n =>
    let within := fun (tag : Option String) (plain : Reading Value) =>
      match (if localTag then none else localTag? tag) with
      | some "" => failure
      | some t => do return .tagged t (← value doc fuel depth true n)
      | none => plain
    match n with
    | reference id => do
      let followed := (← get) + 1
      set followed
      if doc.aliasLimit < followed then failure
      match doc.anchors.lookup id with
      | some target => value doc fuel depth localTag target
      | none => failure
    | scalar tag text plain =>
      within tag do return .scalar (← StateT.lift (scalarValue? localTag tag text plain))
    | sequence tag items =>
      within tag do
        if depth = 0 then failure
        return .list (← values doc fuel (depth - 1) items)
    | mapping tag entries =>
      within tag do
        if depth = 0 then failure
        return .map (← entryValues doc fuel (depth - 1) entries [])

def values (doc : Document) : (fuel depth : Nat) → List Node → Reading (List Value)
  | 0, _, _ => failure
  | _, _, [] => return []
  | fuel + 1, depth, n :: rest => do
    let v ← value doc fuel depth false n
    return v :: (← values doc fuel depth rest)

def entryValues (doc : Document) : (fuel depth : Nat) → List (Node × Node) →
    (done : List (Value × Value)) → Reading (List (Value × Value))
  | 0, _, _, _ => failure
  | _, _, [], done => return done
  | fuel + 1, depth, (k, v) :: rest, done => do
    let key ← value doc fuel depth false k
    if (Value.lookup key done).isSome then failure
    let v ← value doc fuel depth false v
    entryValues doc fuel depth rest (done ++ [(key, v)])

end

end Node

namespace Document

/-- Enough for every node of a document at every depth. -/
def fuel (d : Document) : Nat := (d.aliasLimit + 2) * (depthLimit + 2)

/-- The value of a node, at some depth of its document. -/
def valueAt? (d : Document) (depth : Nat) (n : Node) : Option Value :=
  (Node.value d d.fuel (depthLimit - depth) false n).run' 0

/-- The value of the whole document. -/
def value? (d : Document) : Option Value :=
  match d.root with
  | none => some Value.null
  | some n => d.valueAt? 0 n

end Document
end Waystation.Yaml
