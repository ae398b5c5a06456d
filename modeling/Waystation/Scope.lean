import Waystation.Transport.Error
/-!
Configuration scopes, from the narrowest to the widest, and what can go wrong in reading or writing
one.
-/
namespace Waystation

/-- How widely an entry is shared: by the nodes of one process up to all of them. -/
inductive Scope
  | process | workflow | product | global
  deriving DecidableEq, Repr

namespace Scope

def name : Scope → String
  | process => "process"
  | workflow => "workflow"
  | product => "product"
  | global => "global"

/-- All scopes, narrowest first: the order in which keys are looked up. -/
def all : List Scope := [process, workflow, product, global]

def ofName? (s : String) : Option Scope := all.find? (·.name = s)

theorem ofName?_name (s : Scope) : ofName? s.name = some s := by cases s <;> decide

theorem mem_all (s : Scope) : s ∈ all := by cases s <;> decide

end Scope

/-- Why an entry could not be read or written. -/
inductive ScopedConfigError
  | init (scope : Scope) (bucket : String) (source : TransportError)
  | scopeNotConfigured (scope : Scope)
  | get (key : String) (scope : Scope) (source : TransportError)
  | notText (key : String) (scope : Scope)
  | set (key : String) (scope : Scope) (source : TransportError)
  | delete (key : String) (scope : Scope) (source : TransportError)
  deriving DecidableEq, Repr

namespace ScopedConfigError

def label : ScopedConfigError → String
  | init .. => "Init"
  | scopeNotConfigured _ => "ScopeNotConfigured"
  | get .. => "Get"
  | notText .. => "NotUtf8"
  | set .. => "Set"
  | delete .. => "Delete"

/-- The report of a failed access to a key. -/
def accessReport (verb action key : String) (scope : Scope) (source : TransportError) : Report :=
  { message := s!"failed {verb} configuration given key {key} and scope {scope.name}: "
      ++ source.message
    code := some s!"nodekit::scoped_config::{action}"
    causes := source.report.chain }

def report : ScopedConfigError → Report
  | init scope bucket source =>
    { message := s!"failed initializing configuration bucket {bucket} for scope {scope.name}: "
        ++ source.message
      code := some "nodekit::scoped_config::init"
      help := some "Every configured scope needs an existing key-value bucket."
      causes := source.report.chain }
  | scopeNotConfigured scope =>
    { message := s!"scope {scope.name} is not configured"
      code := some "nodekit::scoped_config::unknown_scope" }
  | get key scope source => accessReport "getting" "get" key scope source
  | notText key scope =>
    { message := s!"configuration value for key {key} in scope {scope.name} is not valid UTF-8"
      code := some "nodekit::scoped_config::utf8" }
  | set key scope source => accessReport "setting" "set" key scope source
  | delete key scope source => accessReport "deleting" "delete" key scope source

instance : Reportable ScopedConfigError := ⟨label, report⟩

end ScopedConfigError
end Waystation
