import Waystation.Config.Basic
import Waystation.Yaml.Source
/-!
The shape of a configuration in YAML. Sections and fields that are missing have defaults, but a
bucket must be named where its section stands; unknown fields are passed over.
-/
namespace Waystation

open Yaml (Source Value Document)

namespace Config

variable {ν : Type}

/-- A list of texts. -/
def readTexts (src : Source ν) (n : ν) : Option (List String) := do
  (← src.items? n).mapM src.text?

def readIdentity (src : Source ν) (n : ν) : Option Identity := do
  let fields ← src.fields? n
  let text := fun name => Source.fieldOr name "" src.text? fields
  return {
    product := ← text "product_id", workflow := ← text "workflow_id"
    process := ← text "process_id", version := ← text "version_id" }

def readWiring (src : Source ν) (n : ν) : Option Wiring := do
  let fields ← src.fields? n
  let text := fun name => Source.fieldOr name "" src.text? fields
  return {
    url := ← text "url", stream := ← text "stream", output := ← text "output"
    inputs := ← Source.fieldOr "inputs" [] (readTexts src) fields }

/-- The bucket that a section names. -/
def readBucket (src : Source ν) (n : ν) : Option String := do
  Source.required "bucket" src.text? (← src.fields? n)

/-- Puts an entry in the place of its key; a later one replaces an earlier one. -/
def insertEntry (key : String) (value : Value) :
    List (String × Value) → List (String × Value)
  | [] => [(key, value)]
  | (k, v) :: rest =>
    if key < k then (key, value) :: (k, v) :: rest
    else if key = k then (key, value) :: rest
    else (k, v) :: insertEntry key value rest

/-- The entries of the process section, in the order of their keys; a key given twice has its later
value. -/
def readEntries (src : Source ν) (n : ν) : Option (List (String × Value)) := do
  let entries ← (← src.fields? n).mapM fun (k, v) => do return (k, ← src.value? v)
  return entries.foldl (fun done (k, v) => insertEntry k v done) []

def readProcess (src : Source ν) (n : ν) : Option ProcessSection := do
  let fields ← src.fields? n
  return {
    bucket := ← Source.required "bucket" src.text? fields
    entries := ← Source.fieldOr "config" [] (readEntries src) fields }

def readScope (src : Source ν) (n : ν) : Option Scope := do Scope.ofName? (← src.choice? n)

def readSections (src : Source ν) (n : ν) : Option Sections := do
  let fields ← src.fields? n
  let section? := fun name => Source.fieldOr name none (src.optional (readBucket src)) fields
  let scopes := fun n => do (← src.items? n).mapM (readScope src)
  return {
    order := ← Source.fieldOr "scopes" none (src.optional scopes) fields
    global := ← section? "global", product := ← section? "product"
    workflow := ← section? "workflow"
    process := ← Source.fieldOr "process" none (src.optional (readProcess src)) fields }

def readColor (src : Source ν) (n : ν) : Option ColorMode := do ColorMode.ofName? (← src.choice? n)

/-- The level and the colours of the log. -/
def readLogger (src : Source ν) (n : ν) : Option (String × ColorMode) := do
  let fields ← src.fields? n
  return (← Source.fieldOr "level" "info" src.text? fields,
    ← Source.fieldOr "color" .auto (readColor src) fields)

def readRunner (src : Source ν) (n : ν) : Option (String × ColorMode) := do
  Source.fieldOr "logger" ("info", .auto) (readLogger src) (← src.fields? n)

/-- A configuration of this shape. -/
def read (src : Source ν) (n : ν) : Option Config := do
  let fields ← src.fields? n
  let identity ← Source.fieldOr "metadata" {} (readIdentity src) fields
  let wiring ← Source.fieldOr "nats" {} (readWiring src) fields
  let sections ← Source.fieldOr "centralized_configuration" {} (readSections src) fields
  let (level, color) ← Source.fieldOr "runner" ("info", .auto) (readRunner src) fields
  return { identity, wiring, sections, level, color }

def ofValue? (v : Value) : Option Config := read Value.source v

def ofDocument? (d : Document) : Option Config := read d.source (0, d.root)

/-- Reads a configuration from one text. -/
def ofText (s : String) : Except ConfigError Config :=
  match (Document.ofText? s).bind ofDocument? with
  | some c => .ok c
  | none => .error (.parse "<inline>")

end Config
end Waystation
