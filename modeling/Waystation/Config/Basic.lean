import Waystation.Config.Error
import Waystation.Scope
import Waystation.Yaml.Block
/-!
The configuration of a node: its identity, how it is connected, where its settings are kept, and how
it logs. A configuration that can be run names its url, stream, output and process, and gives a
bucket to every scope it lists.
-/
namespace Waystation

/-- Who the node is, from its product down to its version. -/
structure Identity where
  product : String := ""
  workflow : String := ""
  process : String := ""
  version : String := ""
  deriving DecidableEq, Repr, Inhabited

/-- What the node is connected to: a server, a stream there, a subject to publish on and subjects to
listen to. -/
structure Wiring where
  url : String := ""
  stream : String := ""
  output : String := ""
  inputs : List String := []
  deriving DecidableEq, Repr, Inhabited

/-- The bucket of the process scope, and the entries put into it at startup, in the order of their
keys. -/
structure ProcessSection where
  bucket : String := ""
  entries : List (String × Yaml.Value) := []
  deriving Repr, Inhabited

/-- The buckets of the scopes. -/
structure Sections where
  /-- The scopes in the order of lookups, if it is given. -/
  order : Option (List Scope) := none
  global : Option String := none
  product : Option String := none
  workflow : Option String := none
  process : Option ProcessSection := none
  deriving Repr, Inhabited

/-- Are log lines coloured? By default that is left to the terminal. -/
inductive ColorMode
  | auto | colored | plain
  deriving DecidableEq, Repr, Inhabited

namespace ColorMode

def name : ColorMode → String
  | auto => "auto"
  | colored => "colored"
  | plain => "plain"

def ofName? (s : String) : Option ColorMode := [auto, colored, plain].find? (·.name = s)

/-- Whether log lines are coloured, where that is not left to the terminal. -/
def isColored? : ColorMode → Option Bool
  | auto => none
  | colored => some true
  | plain => some false

end ColorMode

/-- All that a node is told before it starts. -/
structure Config where
  identity : Identity := {}
  wiring : Wiring := {}
  sections : Sections := {}
  level : String := "info"
  color : ColorMode := .auto
  deriving Repr, Inhabited

namespace Sections

/-- The bucket given for a scope, even if its name is empty. -/
def given? (s : Sections) : Scope → Option String
  | .global => s.global
  | .product => s.product
  | .workflow => s.workflow
  | .process => s.process.map (·.bucket)

/-- The bucket of a scope; an empty name gives none. -/
def bucket? (s : Sections) (scope : Scope) : Option String := (s.given? scope).filter (· ≠ "")

/-- The scopes that have a bucket, in the order of lookups. -/
def buckets (s : Sections) : List (Scope × String) :=
  (s.order.getD Scope.all).filterMap fun scope => (s.bucket? scope).map (scope, ·)

/-- The text of a value: scalars as they are, the rest as a block. -/
def valueText : Yaml.Value → String
  | .scalar s => s.render
  | v => Text.trimEnd v.block

/-- The entries of the process scope, as texts. -/
def processEntries (s : Sections) : List (String × String) :=
  match s.process with
  | some p => p.entries.map fun (k, v) => (k, valueText v)
  | none => []

end Sections

namespace Config

/-- The fields that must not be blank, by name. -/
def requiredFields (c : Config) : List (String × String) :=
  [("nats.url", c.wiring.url), ("nats.stream", c.wiring.stream), ("nats.output", c.wiring.output),
    ("metadata.process_id", c.identity.process)]

/-- Why a configuration cannot be run, if it cannot: a blank field comes before a scope without a
bucket. -/
def fault? (c : Config) : Option String :=
  match c.requiredFields.find? fun f => (Text.trim f.2).isEmpty with
  | some (field, _) => some s!"{field} must not be empty"
  | none =>
    match (c.sections.order.getD []).find? fun s => (c.sections.bucket? s).isNone with
    | some scope => some s!"scope {scope.name} is listed but has no bucket configured"
    | none => none

/-- Refuses a configuration that cannot be run, for the first reason there is. -/
def validate (c : Config) : Except ConfigError Unit :=
  match c.fault? with
  | some reason => .error (.invalid reason)
  | none => .ok ()

end Config
end Waystation
