import Waystation.Lookup
import Waystation.Text.Case
import Waystation.Text.Quoted
/-!
The handlers of a node, by the name of the node that a message comes from, in lower case. The
handler under the name `default` serves every other node.
-/
namespace Waystation

/-- Handlers by name; a name has one. -/
structure Registry (α : Type) where
  entries : List (String × α) := []

namespace Registry

variable {α : Type}

/-- The name that the handler for all other nodes is kept under. -/
def defaultName : String := "default"

def empty : Registry α := {}

/-- The handler under a name in lower case. -/
def get? (r : Registry α) (key : String) : Option α := r.entries.lookup key

/-- Registers a handler for a node; it takes the place of an earlier one. -/
def insert (r : Registry α) (name : String) (handler : α) : Registry α :=
  let key := Text.lower name
  { entries := (key, handler) :: r.entries.filter fun e => e.1 ≠ key }

/-- Sets the handler for names that have none of their own. -/
def setDefault (r : Registry α) (handler : α) : Registry α := r.insert defaultName handler

def hasDefault (r : Registry α) : Bool := (r.get? defaultName).isSome

/-- The handler for messages from a node: its own, else the default one. -/
def resolve (r : Registry α) (fromNode : String) : Option α :=
  match r.get? (Text.lower fromNode) with
  | some handler => some handler
  | none => r.get? defaultName

theorem lower_defaultName : Text.lower defaultName = defaultName := by
  decide +kernel

theorem get?_insert (r : Registry α) (name key : String) (handler : α) :
    (r.insert name handler).get? key
      = if key = Text.lower name then some handler else r.get? key := by
  rw [insert, get?, lookup_cons_if]
  by_cases hkey : key = Text.lower name
  · rw [if_pos hkey, if_pos hkey]
  · rw [if_neg hkey, if_neg hkey, lookup_filter_ne, if_neg hkey, get?]

theorem resolve_eq (r : Registry α) (fromNode : String) :
    r.resolve fromNode = (r.get? (Text.lower fromNode)).or (r.get? defaultName) := by
  rw [resolve]
  cases r.get? (Text.lower fromNode) <;> rfl

/-- A default handler and no other serves every node. -/
theorem resolve_setDefault_empty (handler : α) (fromNode : String) :
    (empty.setDefault handler).resolve fromNode = some handler := by
  rw [resolve_eq, setDefault, get?_insert, get?_insert, lower_defaultName, if_pos rfl]
  split <;> rfl

def size (r : Registry α) : Nat := r.entries.length

def isEmpty (r : Registry α) : Bool := r.entries.isEmpty

/-- The names with a handler, in order. -/
def names (r : Registry α) : List String := (r.entries.map (·.1)).mergeSort fun a b => a ≤ b

def describe (r : Registry α) : String :=
  Text.record "HandlerRegistry" [("keys", Text.quotedList r.names)]

end Registry
end Waystation
