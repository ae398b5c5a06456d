import Waystation.Bytes
import Waystation.Text.Class
/-!
Environment variables, and files of assignments that set those not set yet. An assignment is
`NAME=value`, perhaps behind the word export. Values may be quoted, escape single characters, refer
to variables and be followed by a comment; a quoted value may run over several lines. Reading such a
file stops at the first line that is no assignment.
-/
namespace Waystation

/-- Variables and their values; a name occurs once. -/
abbrev Environment := List (String × String)

namespace Environment

/-- Sets a variable unless it is set. -/
def setDefault (env : Environment) (name value : String) : Environment :=
  if (env.lookup name).isSome then env else env ++ [(name, value)]

/-- Where a line stands with respect to quotes. -/
inductive LineState
  | open
  | blank
  | escape
  | weak
  | weakEscape
  | strong
  | strongEscape
  deriving DecidableEq

/-- Takes one character; `none` where a comment begins. -/
def LineState.next (s : LineState) (c : Char) : Option LineState :=
  let outside :=
    if c = '\\' then LineState.escape
    else if c = '"' then .weak
    else if c = '\'' then .strong
    else .open
  match s with
  | .blank => if c = '#' then none else some outside
  | .open => some (if Text.isBlank c ∧ c ≠ '\n' ∧ c ≠ '\r' then .blank else outside)
  | .escape => some .open
  | .weak => some (if c = '\\' then .weakEscape else if c = '"' then .open else .weak)
  | .weakEscape => some .weak
  | .strong => some (if c = '\\' then .strongEscape else if c = '\'' then .open else .strong)
  | .strongEscape => some .strong

/-- Runs over a line. Gives what stands before a comment, and the state at the end or `none` if
there is a comment. -/
def scanLine : LineState → List Char → (read : List Char) → List Char × Option LineState
  | s, [], read => (read.reverse, some s)
  | s, c :: rest, read =>
    match s.next c with
    | none => (read.reverse, none)
    | some s => scanLine s rest (c :: read)

/-- Lines with their ends; the last may have none. -/
def rawLines : Bytes → (line : Bytes) → List Bytes
  | [], [] => []
  | [], line => [line.reverse]
  | b :: rest, line =>
    if b = 10 then (b :: line).reverse :: rawLines rest [] else rawLines rest (b :: line)

/-- Joins the lines that quoted values run over. `none` stands for a line that cannot be read;
nothing follows it. -/
def joinLines : List Bytes → (started : List Char) → LineState → List (Option String)
  | [], started, _ => if started = [] then [] else [none]
  | b :: rest, started, state =>
    match Bytes.toText? b with
    | none => [none]
    | some line =>
      let all := started ++ line.toList
      if (all.dropWhile Text.isBlank).head? = some '#' then some "" :: joinLines rest [] .open
      else match scanLine state line.toList [] with
        | (kept, none) => some (String.ofList (started ++ kept)) :: joinLines rest [] .open
        | (_, some .open) => some (String.ofList all) :: joinLines rest [] .open
        | (_, some state) => joinLines rest all state

/-- How far the reading of a value has come. -/
inductive ValueState
  | bare
  | weak
  | strong
  | escape (inWeak : Bool)
  /-- A name behind a dollar sign, last character first. -/
  | reference (inWeak : Bool) (name : List Char)
  /-- A name behind a dollar sign and a brace. -/
  | braced (inWeak : Bool) (name : List Char)
  | ended

namespace ValueState

/-- Outside escapes and references. -/
def base (inWeak : Bool) : ValueState := if inWeak then .weak else .bare

/-- Takes one character. `value` gives what a reference stands for. What has been read is held last
character first. -/
def next (value : String → String) (c : Char) (read : List Char) :
    ValueState → Option (ValueState × List Char)
  | .ended => if c = ' ' ∨ c = '\t' then some (.ended, read) else none
  | .escape inWeak =>
    if c ∈ ['\\', '\'', '"', '$', ' '] then some (base inWeak, c :: read)
    else if c = 'n' then some (base inWeak, '\n' :: read)
    else none
  | .strong => some (if c = '\'' then (.bare, read) else (.strong, c :: read))
  | .reference inWeak name =>
    if Text.isAlphanumeric c then some (.reference inWeak (c :: name), read)
    else if c.toNat = 0x7b ∧ name = [] then some (.braced inWeak [], read)
    else
      let read := (value (String.ofList name.reverse)).toList.reverse ++ read
      if c = '$' then some (.reference inWeak [], read) else some (base inWeak, c :: read)
  | .braced inWeak name =>
    if c.toNat = 0x7d then
      some (base inWeak, (value (String.ofList name.reverse)).toList.reverse ++ read)
    else some (.braced inWeak (c :: name), read)
  | .weak =>
    if c = '$' then some (.reference true [], read)
    else if c = '"' then some (.bare, read)
    else if c = '\\' then some (.escape true, read)
    else some (.weak, c :: read)
  | .bare =>
    if c = '$' then some (.reference false [], read)
    else if c = '\'' then some (.strong, read)
    else if c = '"' then some (.weak, read)
    else if c = '\\' then some (.escape false, read)
    else if c = ' ' ∨ c = '\t' then some (.ended, read)
    else some (.bare, c :: read)

end ValueState

/-- A value up to the end of its line or a comment. -/
def readValue (value : String → String) : ValueState → List Char → (read : List Char) →
    Option String
  | s, [], read =>
    match s with
    | .strong | .weak | .escape true | .braced .. | .reference true _ => none
    | .reference false name =>
      some (String.ofList read.reverse ++ value (String.ofList name.reverse))
    | _ => some (String.ofList read.reverse)
  | s, c :: rest, read =>
    match s with
    | .ended => if c = '#' then some (String.ofList read.reverse) else
      match s.next value c read with
      | some (s, read) => readValue value s rest read
      | none => none
    | _ =>
      match s.next value c read with
      | some (s, read) => readValue value s rest read
      | none => none

/-- A name at the start of a text. -/
def readName (cs : List Char) : Option (String × List Char) :=
  match cs with
  | c :: _ =>
    if c.isAlpha || c = '_' then
      let name := cs.takeWhile fun c => c.isAlphanum || c = '_' || c = '.'
      some (String.ofList name, cs.drop name.length)
    else none
  | [] => none

/-- What stands behind an equals sign. -/
def afterEquals (cs : List Char) : Option (List Char) :=
  match cs.dropWhile Text.isBlank with
  | '=' :: rest => some (rest.dropWhile Text.isBlank)
  | _ => none

/-- An assignment: `some none` for an empty line or a comment, `none` for what is no assignment. -/
def readLine (value : String → String) (line : String) : Option (Option (String × String)) := do
  let cs := (Text.trim line).toList
  if cs = [] ∨ cs.head? = some '#' then return none
  let (name, rest) ← readName cs
  let (name, rest) ← match afterEquals rest with
    | some rest => some (name, rest)
    | none =>
      if name = "export" then do
        let (name, rest) ← readName (rest.dropWhile Text.isBlank)
        some (name, ← afterEquals rest)
      else none
  if rest = [] ∨ rest.head? = some '#' then return some (name, "")
  return some (name, ← readValue value .bare rest [])

/-- Applies lines in order, up to the first bad one. `earlier` holds what earlier lines assigned,
whether or not that set a variable. -/
def applyLines : List (Option String) → (earlier : Environment) → Environment → Environment
  | some line :: rest, earlier, env =>
    let value := fun name => ((env.lookup name).orElse fun _ => earlier.lookup name).getD ""
    match readLine value line with
    | none => env
    | some none => applyLines rest earlier env
    | some (some (name, v)) => applyLines rest ((name, v) :: earlier) (env.setDefault name v)
  | _, _, env => env

/-- The mark that may stand at the start of a file in UTF-8. -/
def byteOrderMark : Bytes := [0xEF, 0xBB, 0xBF]

/-- Sets the variables that a file assigns and that are not set. -/
def applyFile (file : Bytes) (env : Environment) : Environment :=
  let file := if byteOrderMark.isPrefixOf file then file.drop 3 else file
  applyLines (joinLines (rawLines file []) [] .open) [] env

end Environment
end Waystation
