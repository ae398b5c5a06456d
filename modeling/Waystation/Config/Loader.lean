import Waystation.Config.Environment
import Waystation.Config.Overrides
import Waystation.Config.Shape
/-!
Loading a configuration: files are laid over each other in order, missing ones are passed over, and
variables of the environment come last. At least one file must say something.
-/
namespace Waystation

/-- Files by their path from the working directory, as names. -/
abbrev FileTree := List (List String × Bytes)

namespace FileTree

/-- The names in a path. -/
def names (path : String) : List String :=
  ((path.toList.splitOn '/').map String.ofList).filter fun n => n ≠ "" ∧ n ≠ "."

def isDirectory (t : FileTree) (path : List String) : Bool :=
  path.isEmpty || t.any fun (p, _) => path.length < p.length && p.take path.length = path

/-- Where names lead from a directory; all but the last must be directories. -/
def walk (t : FileTree) : (here : List String) → List String → Option (List String)
  | here, [] => some here
  | here, ".." :: rest => if t.isDirectory here then walk t here.dropLast rest else none
  | here, n :: rest => if t.isDirectory here then walk t (here ++ [n]) rest else none

/-- The contents of the file at a path. -/
def file? (t : FileTree) (path : String) : Option Bytes := do
  if path.startsWith "/" then none
  t.lookup (← t.walk [] (names path))

end FileTree

/-- The paths of a configuration, and whether the environment counts. -/
structure Loader where
  paths : List String := []
  useEnvironment : Bool := false
  deriving DecidableEq, Repr

namespace Loader

/-- The file that is read first in every place. -/
def baseFile : String := "config.yaml"

/-- The file that is laid over it. -/
def appFile : String := "app.yaml"

/-- The variable that names a further directory. -/
def pathVariable : String := "APP_CONFIG_PATH"

/-- The path of a file in a directory. -/
def within (dir file : String) : String :=
  if dir = "" ∨ dir.endsWith "/" then dir ++ file else dir ++ "/" ++ file

/-- Adds a file to the end of the list. -/
def withFile (l : Loader) (path : String) : Loader := { l with paths := l.paths ++ [path] }

def withDirectory (l : Loader) (dir : String) : Loader :=
  (l.withFile (within dir baseFile)).withFile (within dir appFile)

/-- The working directory, and the one that the environment names. -/
def withDefaults (env : Environment) (l : Loader) : Loader :=
  let l := l.withDirectory "."
  match env.lookup pathVariable with
  | some dir => if dir = "" then l else l.withDirectory dir
  | none => l

def withEnvironment (l : Loader) : Loader := { l with useEnvironment := true }

/-- The value in a file. -/
def readLayer (path : String) (contents : Bytes) : Except ConfigError Yaml.Value :=
  match contents.toText? with
  | none => .error (.read path "stream did not contain valid UTF-8")
  | some text =>
    match (Yaml.Document.ofText? text).bind (·.value?) with
    | some v => .ok v
    | none => .error (.parse path)

/-- The values of the files that are there. -/
def readLayers (files : FileTree) : List String → Except ConfigError (List Yaml.Value)
  | [] => .ok []
  | path :: rest =>
    match files.file? path with
    | none => readLayers files rest
    | some contents => do
      let v ← readLayer path contents
      return v :: (← readLayers files rest)

/-- Does the value say something? -/
def isSubstantial : Yaml.Value → Bool
  | .map entries => !entries.isEmpty
  | _ => false

/-- The file of assignments in the working directory. -/
def assignmentsFile : String := ".env"

/-- The environment once the file of assignments has been applied. -/
def fullEnvironment (files : FileTree) (env : Environment) : Environment :=
  match files.file? assignmentsFile with
  | some contents => env.applyFile contents
  | none => env

/-- The configuration that the files and the environment give, fit to be run or not. -/
def build (l : Loader) (files : FileTree) (env : Environment) : Except ConfigError Config := do
  let layers ← readLayers files l.paths
  if !layers.any isSubstantial then .error (.notFound (", ".intercalate l.paths))
  match Config.ofValue? (Yaml.Value.merge layers) with
  | none => .error (.parse "merged configuration")
  | some c =>
    if l.useEnvironment then
      return c.applyOverrides fun name => (fullEnvironment files env).lookup name
    else return c

/-- The loader of a node that is given nothing else. -/
def standard (env : Environment) : Loader := (withDefaults env {}).withEnvironment

end Loader

/-- The configuration of a node in its working directory. -/
def Config.load (files : FileTree) (env : Environment) : Except ConfigError Config :=
  (Loader.standard env).build files env

end Waystation
