import Waystation.Yaml.Node
/-!
Reading values of known shape. There are two sources: the nodes of a text, where every plain scalar
can serve as a text, and values, where only texts can. From either, nothing at all can stand for an
empty collection.
-/
namespace Waystation.Yaml

/-- How to read a node of some kind. -/
structure Source (ν : Type) where
  text? : ν → Option String
  items? : ν → Option (List ν)
  /-- The entries of a mapping whose keys are texts. -/
  fields? : ν → Option (List (String × ν))
  /-- Is an optional value left out? `none` if that cannot be told. -/
  absent? : ν → Option Bool
  /-- The name of one of several choices. -/
  choice? : ν → Option String
  value? : ν → Option Value

namespace Source

variable {ν α : Type}

/-- The field of a name. A known field must not be given twice. -/
def field? (name : String) (fields : List (String × ν)) : Option (Option ν) :=
  match fields.filter fun f => f.1 = name with
  | [] => some none
  | [(_, n)] => some (some n)
  | _ => none

/-- The value of a field, or a default if it is missing. -/
def fieldOr (name : String) (missing : α) (read : ν → Option α) (fields : List (String × ν)) :
    Option α := do
  match ← field? name fields with
  | none => return missing
  | some n => read n

/-- The value of a field that must be there. -/
def required (name : String) (read : ν → Option α) (fields : List (String × ν)) : Option α := do
  read (← (← field? name fields))

/-- The value of a node that may be left out. -/
def optional (src : Source ν) (read : ν → Option α) (n : ν) : Option (Option α) := do
  if ← src.absent? n then return none
  return some (← read n)

end Source

namespace Value

/-- The key of an entry, which must be a text. -/
def textKey? : Value → Option String
  | .scalar (.text s) => some s
  | _ => none

/-- The text itself, perhaps with a tag. -/
def text? (v : Value) : Option String :=
  match v.untagged with
  | .scalar (.text s) => some s
  | _ => none

/-- The items of a list. -/
def items? (v : Value) : Option (List Value) :=
  match v.untagged with
  | .list items => some items
  | .scalar .null => some []
  | _ => none

def fields? (v : Value) : Option (List (String × Value)) :=
  match v.untagged with
  | .map entries => entries.mapM fun (k, v) => do return (← k.textKey?, v)
  | .scalar .null => some []
  | _ => none

def choice? : Value → Option String
  | .scalar (.text s) => some s
  | .tagged t (.scalar .null) => some t
  | _ => none

/-- Values as a source. -/
def source : Source Value where
  text?
  items?
  fields?
  absent? v := some (v.same null)
  choice?
  value? := some

end Value

namespace Document

/-- A node and the depth it stands at. -/
abbrev Placed := Nat × Option Node

/-- The node itself, if it is an alias then the node that it names. -/
def resolve? (d : Document) : Node → Option Node
  | .reference id => d.anchors.lookup id
  | n => some n

/-- Is the node empty: nothing, or a plain scalar without text? -/
def isEmpty : Option Node → Bool
  | none => true
  | some (.scalar _ "" true) => true
  | _ => false

/-- Applies a reader to the node behind an alias. -/
def follow {α : Type} (d : Document) (read : Option Node → Option α) : Option Node → Option α
  | none => read none
  | some n => do read (some (← d.resolve? n))

/-- The text of a scalar, whatever it stands for. -/
def nodeText? (d : Document) : Option Node → Option String :=
  d.follow fun
    | some (.scalar _ text _) => some text
    | _ => none

/-- The items of a sequence, one level deeper. -/
def nodeItems? (d : Document) (depth : Nat) : Option Node → Option (List Placed) :=
  d.follow fun n =>
    if isEmpty n then some []
    else match n with
      | some (.sequence _ items) =>
        if depthLimit ≤ depth then none else some (items.map fun i => (depth + 1, some i))
      | _ => none

def nodeFields? (d : Document) (depth : Nat) : Option Node → Option (List (String × Placed)) :=
  d.follow fun n =>
    if isEmpty n then some []
    else match n with
      | some (.mapping _ entries) =>
        if depthLimit ≤ depth then none
        else entries.mapM fun (k, v) => do return (← d.nodeText? (some k), (depth + 1, some v))
      | _ => none

/-- A plain scalar that is empty or a null leaves a value out, and so does one tagged as null. -/
def nodeAbsent? (d : Document) : Option Node → Option Bool :=
  d.follow fun
    | none => some true
    | some (.scalar tag text plain) =>
      if !plain then some false
      else match tag with
        | some t =>
          if t = Node.coreTag "null" then (if Scalar.isNull text then some true else none)
          else some false
        | none => some (text = "" || Scalar.isNull text)
    | _ => some false

/-- A choice is made by a scalar, or by a local tag on nothing. -/
def nodeChoice? (d : Document) : Option Node → Option String :=
  d.follow fun
    | some (.scalar tag text plain) =>
      match Node.localTag? tag with
      | some t => if plain ∧ (text = "" ∨ Scalar.isNull text) then some t else none
      | none => some text
    | _ => none

/-- The nodes of a document as a source. -/
def source (d : Document) : Source Placed where
  text? n := d.nodeText? n.2
  items? n := d.nodeItems? n.1 n.2
  fields? n := d.nodeFields? n.1 n.2
  absent? n := d.nodeAbsent? n.2
  choice? n := d.nodeChoice? n.2
  value? n := match n.2 with
    | none => some Value.null
    | some node => d.valueAt? n.1 node

end Document
end Waystation.Yaml
