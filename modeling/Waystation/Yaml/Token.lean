import Waystation.Yaml.ScalarText
/-!
The tokens of a YAML text. Indentation is made explicit: where a block collection starts and where
it ends. A mapping key is recognised only by the colon behind it, so the places where a simple key
may begin are remembered, one for each level of flow collections, until a colon shows that it is one
or something else that it is not.
-/
namespace Waystation.Yaml

/-- The smallest pieces of a text. -/
inductive Token
  | streamEnd
  | version (major minor : Nat)
  | tagHandle (handle start : String)
  | documentStart
  | documentEnd
  | blockSequenceStart
  | blockMappingStart
  | blockEnd
  | flowSequenceStart
  | flowSequenceEnd
  | flowMappingStart
  | flowMappingEnd
  | blockEntry
  | flowEntry
  | key
  | value
  | reference (name : String)
  | anchor (name : String)
  | tag (handle suffix : String)
  | scalar (text : String) (plain : Bool)
  deriving DecidableEq, Repr

/-- A place where a simple key may begin: the number of the token there, and whether nothing else
may stand there. -/
structure KeyPlace where
  token : Nat
  required : Bool
  index : Nat
  line : Nat
  column : Nat

/-- The text still to be read, the tokens so far, and where blocks and keys stand. -/
structure Scanner where
  cursor : Cursor
  tokens : Array Token := #[]
  /-- The indentation of the current block; -1 outside all. -/
  indent : Int := -1
  /-- The indentations around it. -/
  indents : List Int := []
  /-- For each level of flow collections, and outside all, the last place for a simple key. -/
  keys : List (Option KeyPlace) := [none]
  keyAllowed : Bool := true
  ended : Bool := false

namespace Scanner

/-- Inside flow collections indentation does not count. -/
def inFlow (s : Scanner) : Bool := 1 < s.keys.length

def push (s : Scanner) (t : Token) : Scanner := { s with tokens := s.tokens.push t }

def setKey (s : Scanner) (k : Option KeyPlace) : Scanner := { s with keys := k :: s.keys.tail }

/-- Gives up the last place for a simple key, unless one is required there. -/
def removeKey (s : Scanner) : Option Scanner :=
  match s.keys with
  | some k :: _ => if k.required then none else some (s.setKey none)
  | _ => some s

/-- Remembers the cursor as a place for a simple key, if one may stand there. -/
def saveKey (s : Scanner) : Option Scanner :=
  if s.keyAllowed then do
    let required := !s.inFlow && s.indent = s.cursor.column
    let s ← s.removeKey
    let c := s.cursor
    return s.setKey (some
      { token := s.tokens.size, required, index := c.index, line := c.line, column := c.column })
  else some s

/-- Simple keys are limited to one line and to 1024 characters. -/
def isStale (s : Scanner) (k : KeyPlace) : Bool :=
  k.line < s.cursor.line || k.index + 1024 < s.cursor.index

/-- Forgets places where no simple key can be any more; fails if nothing else may stand there. -/
def dropStaleKeys (s : Scanner) : Option Scanner := do
  let keys ← s.keys.mapM fun
    | some k => if s.isStale k then (if k.required then none else some none) else some (some k)
    | none => some none
  return { s with keys }

/-- Opens a block at a column further in than the current block; its first token is put at a
place. -/
def openBlock (s : Scanner) (column : Nat) (place : Nat) (t : Token) : Scanner :=
  if s.inFlow ∨ (column : Int) ≤ s.indent then s
  else
    { s with
      indents := s.indent :: s.indents, indent := column
      tokens := s.tokens.insertIdxIfInBounds place t }

/-- Closes the blocks that are further in than a column. -/
def closeBlocksOnto (column : Int) : List Int → Int → Array Token → List Int × Int × Array Token
  | [], indent, tokens => ([], indent, tokens)
  | outer :: rest, indent, tokens =>
    if column < indent then closeBlocksOnto column rest outer (tokens.push .blockEnd)
    else (outer :: rest, indent, tokens)

/-- Closes the blocks that stand further in than a column. -/
def closeBlocks (s : Scanner) (column : Int) : Scanner :=
  if s.inFlow then s
  else
    let (indents, indent, tokens) := closeBlocksOnto column s.indents s.indent s.tokens
    { s with indents, indent, tokens }

/-- Past blanks, comments and breaks. Tabs may not indent a block. -/
def skipGap : (fuel : Nat) → Scanner → Scanner
  | 0, s => s
  | fuel + 1, s =>
    let c := s.cursor
    let c := if c.index = 0 ∧ (c.peek?).any (·.toNat = 0xFEFF) then c.skip else c
    let tabs := s.inFlow || !s.keyAllowed
    let c := c.skipWhile fun x => x = ' ' || (tabs && x = '\t')
    let c := if c.startsWith '#' then c.toLineEnd else c
    if c.isBreakAt 0 then
      skipGap fuel
        { s with cursor := c.skipBreak, keyAllowed := if s.inFlow then s.keyAllowed else true }
    else { s with cursor := c }

/-- A token of `n` characters. -/
def take (s : Scanner) (n : Nat) (t : Token) : Scanner :=
  { s with cursor := s.cursor.skipMany n }.push t

/-- What stands at the left margin ends all blocks. -/
def atMargin (s : Scanner) : Option Scanner := do
  let s ← (s.closeBlocks (-1)).removeKey
  return { s with keyAllowed := false }

/-- Characters of a tag; `wide` adds those allowed between angle brackets and in directives. -/
def isTagChar (wide : Bool) (c : Char) : Bool :=
  isNameChar c
    || c ∈ [';', '/', '?', ':', '@', '&', '=', '+', '$', '.', '!', '~', '*', '\'', '(', ')']
    || (wide && c ∈ [',', '[', ']'])

/-- The bytes that follow a first byte of UTF-8. -/
def utf8Width? (b : Nat) : Option Nat :=
  if b < 0x80 then some 1 else if 0xC0 ≤ b ∧ b < 0xE0 then some 2
  else if 0xE0 ≤ b ∧ b < 0xF0 then some 3 else if 0xF0 ≤ b ∧ b < 0xF8 then some 4 else none

/-- A byte written as a percent sign and two digits. -/
def percentByte? (c : Cursor) : Option (Nat × Cursor) := do
  if !c.startsWith '%' then none
  let digits := (c.rest.drop 1).take 2
  if digits.length < 2 then none
  return (← hexValue? digits, c.skipMany 3)

/-- Further bytes of a character. -/
def percentBytes : (n : Nat) → Cursor → List UInt8 → Option (List UInt8 × Cursor)
  | 0, c, read => some (read.reverse, c)
  | n + 1, c, read => do
    let (b, c) ← percentByte? c
    if b / 64 ≠ 2 then none
    percentBytes n c (UInt8.ofNat b :: read)

/-- A character written byte by byte. -/
def percentChar? (c : Cursor) : Option (List Char × Cursor) := do
  let (b, c) ← percentByte? c
  let width ← utf8Width? b
  let (more, c) ← percentBytes (width - 1) c []
  let s ← String.fromUTF8? ⟨(UInt8.ofNat b :: more).toArray⟩
  return (s.toList, c)

/-- The characters of a tag. Also counts them. -/
def scanTagText (wide : Bool) : (fuel : Nat) → Cursor → List Char → Nat →
    Option (List Char × Nat × Cursor)
  | 0, c, read, n => some (read, n, c)
  | fuel + 1, c, read, n =>
    match c.peek? with
    | none => some (read, n, c)
    | some x =>
      if x = '%' then do
        let (cs, c) ← percentChar? c
        scanTagText wide fuel c (read ++ cs) (n + 1)
      else if isTagChar wide x then scanTagText wide fuel c.skip (read ++ [x]) (n + 1)
      else some (read, n, c)

/-- A tag handle: an exclamation mark, a name, and perhaps another mark. -/
def scanHandle (directive : Bool) (c : Cursor) : Option (List Char × Cursor) := do
  if !c.startsWith '!' then none
  let (name, c) := c.skip.span isNameChar
  if c.startsWith '!' then return ('!' :: name ++ ['!'], c.skip)
  if directive ∧ name ≠ [] then none
  return ('!' :: name, c)

/-- A tag: in angle brackets, with a handle, or a local one. -/
def scanTag (c : Cursor) : Option (Token × Cursor) := do
  let fuel := c.rest.length + 1
  if c.at? 1 = some '<' then
    let (uri, n, c) ← scanTagText true fuel (c.skipMany 2) [] 0
    if n = 0 ∨ !c.startsWith '>' then none
    return (.tag "" (String.ofList uri), c.skip)
  let (handle, c) ← scanHandle false c
  if 1 < handle.length ∧ handle.getLast? = some '!' then
    let (suffix, n, c) ← scanTagText false fuel c [] 0
    if n = 0 then none
    return (.tag (String.ofList handle) (String.ofList suffix), c)
  let (suffix, _, c) ← scanTagText false fuel c handle.tail 0
  if suffix = [] then return (.tag "" "!", c)
  return (.tag "!" (String.ofList suffix), c)

/-- A directive, to the end of its line. -/
def scanDirective (c : Cursor) : Option (Token × Cursor) := do
  let (name, c) := c.skip.span isNameChar
  if name = [] ∨ !c.isGapAt 0 then none
  let c := c.skipWhile isSpaceOrTab
  let number := fun (c : Cursor) => do
    let (digits, c) := c.span Char.isDigit
    if digits = [] ∨ 9 < digits.length then none
    return (Nat.ofDigitChars 10 digits 0, c)
  let (t, c) ←
    if String.ofList name = "YAML" then do
      let (major, c) ← number c
      if !c.startsWith '.' then none
      let (minor, c) ← number c.skip
      some (Token.version major minor, c)
    else if String.ofList name = "TAG" then do
      let (handle, c) ← scanHandle true c
      if !c.isBlankAt 0 then none
      let c := c.skipWhile isSpaceOrTab
      let (start, n, c) ← scanTagText true (c.rest.length + 1) c [] 0
      if n = 0 ∨ !c.isGapAt 0 then none
      some (Token.tagHandle (String.ofList handle) (String.ofList start), c)
    else none
  return (t, ← skipRestOfLine c)

/-- The name of an anchor or alias. -/
def scanAnchor (c : Cursor) : Option (String × Cursor) :=
  let (name, c) := c.skip.span isNameChar
  if name = [] then none
  else if c.isGapAt 0 || (c.peek?).any (· ∈ ['?', ':', ',', ']', '\x7d', '%', '@', '\x60']) then
    some (String.ofList name, c)
  else none

/-- A token that may begin a simple key, and after which none may begin. -/
def withKey (s : Scanner) (scan : Cursor → Option (Token × Cursor)) : Option Scanner := do
  let s ← s.saveKey
  let (t, cursor) ← scan s.cursor
  return { s with cursor, keyAllowed := false }.push t

/-- The start of a flow collection, itself perhaps a simple key. -/
def openFlow (s : Scanner) (t : Token) : Option Scanner := do
  let s ← s.saveKey
  return { s with keys := none :: s.keys, keyAllowed := true }.take 1 t

/-- The end of a flow collection. -/
def closeFlow (s : Scanner) (t : Token) : Option Scanner := do
  let s ← s.removeKey
  let keys := if s.inFlow then s.keys.tail else s.keys
  return { s with keys, keyAllowed := false }.take 1 t

/-- A comma. -/
def flowEntry (s : Scanner) : Option Scanner := do
  let s ← s.removeKey
  return { s with keyAllowed := true }.take 1 .flowEntry

/-- A dash, which opens a block if it stands further in. -/
def blockEntry (s : Scanner) : Option Scanner := do
  if !s.inFlow && !s.keyAllowed then none
  let s ← (s.openBlock s.cursor.column s.tokens.size .blockSequenceStart).removeKey
  return { s with keyAllowed := true }.take 1 .blockEntry

/-- A question mark before a key. -/
def complexKey (s : Scanner) : Option Scanner := do
  if !s.inFlow && !s.keyAllowed then none
  let s ← (s.openBlock s.cursor.column s.tokens.size .blockMappingStart).removeKey
  return { s with keyAllowed := !s.inFlow }.take 1 .key

/-- A colon makes the last place for a simple key one; without such a place it follows a complex
key. -/
def valueMark (s : Scanner) : Option Scanner :=
  match s.keys with
  | some k :: _ =>
    let s := { s with tokens := s.tokens.insertIdxIfInBounds k.token .key }
    let s := s.openBlock k.column k.token .blockMappingStart
    some ({ s.setKey none with keyAllowed := false }.take 1 .value)
  | _ =>
    if !s.inFlow && !s.keyAllowed then none
    else
      let s := s.openBlock s.cursor.column s.tokens.size .blockMappingStart
      some ({ s with keyAllowed := !s.inFlow }.take 1 .value)

def blockScalar (s : Scanner) (literal : Bool) : Option Scanner := do
  let s ← s.removeKey
  let (text, cursor) ← scanBlock literal s.indent s.cursor.skip
  return { s with cursor, keyAllowed := true }.push (.scalar (String.ofList text) false)

def quotedScalar (s : Scanner) (single : Bool) : Option Scanner :=
  s.withKey fun c => do
    let (read, c) ← scanQuoted single (c.rest.length + 1) c.skip []
    return (.scalar (String.ofList read.reverse) false, c)

def plainScalar (s : Scanner) : Option Scanner := do
  let s ← s.saveKey
  let c := s.cursor
  let (read, broken, cursor) ← scanPlain s.inFlow (s.indent + 1) (c.rest.length + 1) c [] {}
  return { s with cursor, keyAllowed := broken }.push (.scalar (String.ofList read.reverse) true)

/-- Characters that a plain scalar cannot begin with. -/
def isIndicator (c : Char) : Bool :=
  c ∈ ['-', '?', ':', ',', '[', ']', '\x7b', '\x7d', '#', '&', '*', '!', '|', '>', '\'', '"', '%',
    '@', '\x60']

/-- A dash, a question mark or a colon may begin a plain scalar before what is no blank. -/
def startsPlain (inFlow : Bool) (c : Cursor) : Bool :=
  (!c.isGapAt 0 && !(c.peek?).any isIndicator) || (c.startsWith '-' && !c.isBlankAt 1)
    || (!inFlow && (c.startsWith '?' || c.startsWith ':') && !c.isGapAt 1)

/-- The next token or tokens. -/
def step (s : Scanner) : Option Scanner := do
  let s := s.skipGap (s.cursor.rest.length + 1)
  let s ← s.dropStaleKeys
  let s := s.closeBlocks s.cursor.column
  let c := s.cursor
  match c.peek? with
  | none =>
    let s ← s.atMargin
    return { s with ended := true }.push .streamEnd
  | some x =>
    if c.column = 0 ∧ x = '%' then
      let s ← s.atMargin
      let (t, cursor) ← scanDirective c
      return { s with cursor }.push t
    if c.atDocumentMark '-' then return (← s.atMargin).take 3 .documentStart
    if c.atDocumentMark '.' then return (← s.atMargin).take 3 .documentEnd
    if x = '[' then return ← s.openFlow .flowSequenceStart
    if x = '\x7b' then return ← s.openFlow .flowMappingStart
    if x = ']' then return ← s.closeFlow .flowSequenceEnd
    if x = '\x7d' then return ← s.closeFlow .flowMappingEnd
    if x = ',' then return ← s.flowEntry
    if x = '-' ∧ c.isGapAt 1 then return ← s.blockEntry
    if x = '?' ∧ (s.inFlow ∨ c.isGapAt 1) then return ← s.complexKey
    if x = ':' ∧ (s.inFlow ∨ c.isGapAt 1) then return ← s.valueMark
    if x = '*' then
      return ← s.withKey fun c => (scanAnchor c).map fun (name, c) => (.reference name, c)
    if x = '&' then
      return ← s.withKey fun c => (scanAnchor c).map fun (name, c) => (.anchor name, c)
    if x = '!' then
      let s ← s.withKey scanTag
      if (s.inFlow ∧ s.cursor.startsWith ',') ∨ s.cursor.isGapAt 0 then return s else none
    if x = '|' ∧ !s.inFlow then return ← s.blockScalar true
    if x = '>' ∧ !s.inFlow then return ← s.blockScalar false
    if x = '\'' then return ← s.quotedScalar true
    if x = '"' then return ← s.quotedScalar false
    if startsPlain s.inFlow c then return ← s.plainScalar
    none

/-- Every step but the last takes a character. -/
def run : (fuel : Nat) → Scanner → Option (Array Token)
  | 0, _ => none
  | fuel + 1, s => do
    let s ← s.step
    if s.ended then return s.tokens else run fuel s

end Scanner

/-- Characters that a text may hold. -/
def isAllowed (c : Char) : Bool :=
  let n := c.toNat
  n = 9 || n = 10 || n = 13 || (0x20 ≤ n && n ≤ 0x7E) || n = 0x85 || (0xA0 ≤ n && n ≤ 0xD7FF)
    || (0xE000 ≤ n && n ≤ 0xFFFD) || 0x10000 ≤ n

/-- The tokens of a text; the last one ends the stream. -/
def Token.ofText? (s : String) : Option (Array Token) :=
  let cs := s.toList
  if cs.all isAllowed then Scanner.run (cs.length + 2) { cursor := { rest := cs } } else none

end Waystation.Yaml
