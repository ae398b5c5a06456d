import Waystation.Network
import Waystation.Scope
/-!
Settings: keys that are looked up in buckets, one for each configured scope, narrowest first. The
first bucket that holds a key shadows the others.
-/
namespace Waystation

/-- The bucket of a scope, and what every access to it fails with, if it fails. -/
structure Store where
  scope : Scope
  bucket : String
  fault : Option String := none
  deriving DecidableEq, Repr

/-- Stores in the order of lookups. -/
structure Settings where
  stores : List Store := []
  deriving DecidableEq, Repr

namespace Store

/-- The value of a key in one store. -/
def get (s : Store) (key : String) (b : Broker) : Except ScopedConfigError (Option String) :=
  match s.fault with
  | some text => .error (.get key s.scope (.other text))
  | none => match b.getKey s.bucket key with
    | none => .ok none
    | some value => match value.toText? with
      | some text => .ok (some text)
      | none => .error (.notText key s.scope)

end Store

namespace Settings

/-- Opens the bucket of every scope; the first that cannot be opened ends it. -/
def connect (n : Network) (connection : Nat) :
    List (Scope × String) → Except ScopedConfigError Settings
  | [] => .ok {}
  | (scope, bucket) :: rest =>
    match (n.broker.openBucket connection bucket).1 with
    | .error e => .error (.init scope bucket e)
    | .ok () => match connect n connection rest with
      | .error e => .error e
      | .ok s => .ok { stores := { scope, bucket, fault := n.faults.store } :: s.stores }

/-- The configured scopes. -/
def scopes (s : Settings) : List Scope := s.stores.map (·.scope)

/-- The first store of a scope. -/
def store (s : Settings) (scope : Scope) : Except ScopedConfigError Store :=
  match s.stores.find? (·.scope = scope) with
  | some store => .ok store
  | none => .error (.scopeNotConfigured scope)

/-- The value of a key in the first store that has it. -/
def search (key : String) (b : Broker) : List Store → Except ScopedConfigError (Option String)
  | [] => .ok none
  | store :: rest => match store.get key b with
    | .error e => .error e
    | .ok (some text) => .ok (some text)
    | .ok none => search key b rest

/-- The value of a key: in one scope if that is given, else in the first that has it. -/
def get (s : Settings) (key : String) (scope : Option Scope) (b : Broker) :
    Except ScopedConfigError (Option String) :=
  match scope with
  | none => search key b s.stores
  | some scope => match s.store scope with
    | .error e => .error e
    | .ok store => store.get key b

/-- Writes a key, by default in the process scope. -/
def set (s : Settings) (key : String) (value : Bytes) (scope : Option Scope) (b : Broker) :
    Except ScopedConfigError Unit × Broker :=
  let scope := scope.getD .process
  match s.store scope with
  | .error e => (.error e, b)
  | .ok store => match store.fault with
    | some text => (.error (.set key scope (.other text)), b)
    | none => (.ok (), b.putKey store.bucket key value)

/-- Removes a key, by default from the process scope; it answers whether the key was there. -/
def delete (s : Settings) (key : String) (scope : Option Scope) (b : Broker) :
    Except ScopedConfigError Bool × Broker :=
  let scope := scope.getD .process
  match s.store scope with
  | .error e => (.error e, b)
  | .ok store => match store.fault with
    | some text => (.error (.delete key scope (.other text)), b)
    | none => (.ok (b.getKey store.bucket key).isSome, b.eraseKey store.bucket key)

end Settings
end Waystation
