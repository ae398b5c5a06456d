import Waystation.Text.Class
/-!
Log filters. A filter is a list of directives joined by commas, each
`target[span{field=value}]=level` with most parts left out. Directives are kept most specific first,
and of two that select the same the later stays. A filter that cannot be read gives way to the next
best one.
-/
namespace Waystation.Log

/-- How grave a log line must be to be kept. -/
inductive Level
  | off | error | warn | info | debug | trace
  deriving DecidableEq, Repr

namespace Level

def name : Level → String
  | off => "off"
  | error => "error"
  | warn => "warn"
  | info => "info"
  | debug => "debug"
  | trace => "trace"

/-- All levels; their places are the numbers they go by. -/
def all : List Level := [off, error, warn, info, debug, trace]

/-- The number that a text of digits spells, a plus sign allowed. -/
def number? (s : String) : Option Nat :=
  let digits := match s.toList with
    | '+' :: rest => rest
    | cs => cs
  if digits ≠ [] ∧ digits.all Char.isDigit then some (Nat.ofDigitChars 10 digits 0) else none

/-- Reads a number or a name in any case; an empty text is the level of errors. -/
def ofText? (s : String) : Option Level :=
  match number? s with
  | some n => all[n]?
  | none =>
    if s = "" then some error
    else all.find? fun l => l.name.toList = s.toList.map Char.toLower

end Level

/-- A field that a span must have, and its value if that matters. -/
structure FieldMatch where
  name : String
  value : Option String
  deriving DecidableEq, Repr

/-- The form that a match is written in. -/
def FieldMatch.text (m : FieldMatch) : String :=
  match m.value with
  | some v => m.name ++ "=" ++ v
  | none => m.name

/-- Reads `name` or `name=value`; what follows a second sign is ignored. -/
def FieldMatch.ofChars (cs : List Char) : FieldMatch :=
  let name := cs.takeWhile (· ≠ '=')
  match cs.drop name.length with
  | [] => ⟨String.ofList name, none⟩
  | _ :: rest => ⟨String.ofList name, some (String.ofList (rest.takeWhile (· ≠ '=')))⟩

/-- A rule of a filter: which lines it is about, and how grave those must be. -/
structure Directive where
  target : Option String := none
  span : Option String := none
  fields : List FieldMatch := []
  level : Level := .trace
  deriving DecidableEq, Repr

/-- How far the reading of a directive has come. What has been read of the current part is held last
character first. -/
inductive Reading
  | start
  | levelOrTarget (read : List Char)
  | span (read : List Char)
  | field (read : List Char)
  | fields
  | target
  | level (read : List Char)

namespace Directive

/-- The part that was read. -/
def part (read : List Char) : String := String.ofList read.reverse

/-- Takes one character. -/
def step (d : Directive) (c : Char) : Reading → Option (Directive × Reading)
  | .start =>
    if c = '[' then some (d, .span [])
    else if c = '-' ∨ c = ':' ∨ c = '_' ∨ Text.isAlphanumeric c then some (d, .levelOrTarget [c])
    else none
  | .levelOrTarget read =>
    if c = '=' then some ({ d with target := some (part read) }, .level [])
    else if c = '[' then some ({ d with target := some (part read) }, .span [])
    else some (d, .levelOrTarget (c :: read))
  | .target => if c = '=' then some (d, .level []) else none
  | .span read =>
    if c = ']' then some ({ d with span := some (part read) }, .target)
    else if c.toNat = 0x7b then
      some ({ d with span := if read = [] then none else some (part read) }, .field [])
    else some (d, .span (c :: read))
  | .field read =>
    if c.toNat = 0x7d then
      if read = [] then none
      else some ({ d with fields := d.fields ++ [FieldMatch.ofChars read.reverse] }, .fields)
    else some (d, .field (c :: read))
  | .fields => if c = ']' then some (d, .target) else none
  | .level read => some (d, .level (c :: read))

/-- What a directive is at its end. A part that is no level is a target; a level left out is the
most verbose. -/
def finish (d : Directive) : Reading → Option Directive
  | .levelOrTarget read =>
    match Level.ofText? (part read) with
    | some level => some { d with level, target := none }
    | none => some { d with level := .trace, target := some (part read) }
  | .level [] => some { d with level := .trace }
  | .level read => (Level.ofText? (part read)).map fun level => { d with level }
  | .target => some d
  | _ => none

def run (d : Directive) (r : Reading) : List Char → Option Directive
  | [] => d.finish r
  | c :: cs =>
    match d.step c r with
    | some (d, r) => run d r cs
    | none => none

def ofText? (s : String) : Option Directive := run {} .start (Text.trim s).toList

/-- Does the directive depend on the spans around an event? -/
def isDynamic (d : Directive) : Bool := d.span.isSome || !d.fields.isEmpty

/-- Can the directive be decided without the values of spans? -/
def isStatic (d : Directive) : Bool := d.span.isNone && d.fields.all (·.value.isNone)

/-- An order key: a missing part comes before every other. -/
def optionKey : Option String → Nat × String
  | none => (0, "")
  | some s => (1 + s.utf8ByteSize, s)

/-- Compares by how specific two directives are. -/
def order (a b : Directive) : Ordering :=
  (compare (optionKey a.target).1 (optionKey b.target).1)
    |>.then (compare a.span.isSome.toNat b.span.isSome.toNat)
    |>.then (compare a.fields.length b.fields.length)
    |>.then (compare (optionKey a.target).2 (optionKey b.target).2)
    |>.then (compare ((a.span.map fun s => [s]).getD []) ((b.span.map fun s => [s]).getD []))
    |>.then (compare (a.fields.map (·.text)) (b.fields.map (·.text)))

/-- Puts a directive in its place, the most specific first. -/
def insert (d : Directive) : List Directive → List Directive
  | [] => [d]
  | e :: rest =>
    match order d e with
    | .gt => d :: e :: rest
    | .eq => d :: rest
    | .lt => e :: insert d rest

def text (d : Directive) : String :=
  let fields :=
    if d.fields = [] then "" else "\x7b" ++ ",".intercalate (d.fields.map (·.text)) ++ "\x7d"
  let spans := if d.isDynamic then "[" ++ d.span.getD "" ++ fields ++ "]" else ""
  let target := d.target.getD ""
  let level := d.level.name
  let selects := d.target.isSome || d.isDynamic
  if selects then target ++ spans ++ "=" ++ level else level

end Directive

/-- Directives in order, those that do not depend on spans first. -/
def filterText (directives : List Directive) : String :=
  let dynamic := directives.filter (·.isDynamic)
  let static := directives.filter (!·.isDynamic) ++ dynamic.filter (·.isStatic)
  let sorted := fun (ds : List Directive) => ds.foldl (fun acc d => d.insert acc) []
  ",".intercalate ((sorted static ++ sorted dynamic).map (·.text))

/-- The parts of a text between commas. -/
def splitComma (s : String) : List String :=
  (s.splitOn ",").filter (· ≠ "")

/-- Reads a filter and gives its normal form. -/
def filter? (s : String) : Option String :=
  ((splitComma s).mapM Directive.ofText?).map filterText

/-- The filter from the environment if there is a good one, else from the configured level, else
the one for information. -/
def filterFor (level : String) (environment : Option String) : String :=
  match environment.bind filter? with
  | some f => f
  | none => (filter? level).getD "info"

end Waystation.Log
