import Waystation.Yaml.Cursor
/-!
The texts of scalars: plain ones, which run on until something ends them, quoted ones with their
escapes, and blocks. Line breaks inside plain and quoted scalars fold: one becomes a space, and of
several the first is dropped.
-/
namespace Waystation.Yaml

/-- Blanks between two parts of a scalar: spaces in a line, or breaks. -/
structure Gap where
  /-- Spaces and tabs before the first break, last first. -/
  spaces : List Char := []
  /-- What the first break stands for. -/
  first : List Char := []
  /-- What the others stand for. -/
  others : List Char := []
  /-- Has a line ended? -/
  broken : Bool := false

namespace Gap

/-- Folded: what the gap stands for. -/
def folded (g : Gap) : List Char :=
  if g.broken then
    if g.first.head? = some '\n' then (if g.others = [] then [' '] else g.others)
    else g.first ++ g.others
  else g.spaces.reverse

/-- A blank counts only before the first break. -/
def addSpace (g : Gap) (c : Char) : Gap :=
  if g.broken then g else { g with spaces := c :: g.spaces }

/-- A break; the first one takes the blanks before it away. -/
def addBreak (g : Gap) (text : List Char) : Gap :=
  if g.broken then { g with others := g.others ++ text }
  else { g with spaces := [], first := text, broken := true }

end Gap

/-- Runs over the blanks at a cursor. In a line after the first, a tab must not stand before column
`indent`. -/
def scanGap (indent : Int) : (fuel : Nat) → Cursor → Gap → Option (Gap × Cursor)
  | 0, c, g => some (g, c)
  | fuel + 1, c, g =>
    match c.peek? with
    | none => some (g, c)
    | some x =>
      if isSpaceOrTab x then
        if g.broken ∧ (c.column : Int) < indent ∧ x = '\t' then none
        else scanGap indent fuel c.skip (g.addSpace x)
      else if isLineBreak x then scanGap indent fuel c.skipBreak (g.addBreak c.breakText)
      else some (g, c)

/-- Where a plain scalar ends although no blank does. -/
def endsPlain (inFlow : Bool) (c : Cursor) : Bool :=
  (c.startsWith ':' && c.isGapAt 1)
    || (inFlow && (c.peek?).any (· ∈ [',', '[', ']', '\x7b', '\x7d']))

/-- A colon before one of these is an error inside flow collections. -/
def badColon (inFlow : Bool) (c : Cursor) : Bool :=
  inFlow && c.startsWith ':' && (c.at? 1).any (· ∈ [',', '?', '[', ']', '\x7b', '\x7d'])

/-- The characters of a plain scalar up to a blank or its end, added to what has been read, last
first. -/
def scanWord (inFlow : Bool) : (fuel : Nat) → Cursor → List Char → Option (List Char × Cursor)
  | 0, c, read => some (read, c)
  | fuel + 1, c, read =>
    if c.isGapAt 0 then some (read, c)
    else if badColon inFlow c then none
    else if endsPlain inFlow c then some (read, c)
    else scanWord inFlow fuel c.skip ((c.peek?).toList ++ read)

/-- A plain scalar. `gap` is what stands between what has been read and the cursor. Also tells
whether a line ended last. -/
def scanPlain (inFlow : Bool) (indent : Int) : (fuel : Nat) → Cursor → List Char → Gap →
    Option (List Char × Bool × Cursor)
  | 0, c, read, gap => some (read, gap.broken, c)
  | fuel + 1, c, read, gap =>
    if c.atAnyDocumentMark || c.startsWith '#' then some (read, gap.broken, c)
    else do
      let joined := gap.folded.reverse ++ read
      let (word, c') ← scanWord inFlow (c.rest.length + 1) c joined
      let (read, gap) := if c'.index = c.index then (read, gap) else (word, {})
      if c'.isGapAt 0 && !c'.rest.isEmpty then
        let (gap, c') ← scanGap indent (c'.rest.length + 1) c' gap
        if !inFlow && (c'.column : Int) < indent then some (read, gap.broken, c')
        else scanPlain inFlow indent fuel c' read gap
      else some (read, gap.broken, c')

/-- The value of a hexadecimal digit. -/
def hexDigit? (c : Char) : Option Nat :=
  if c.isDigit then some (c.toNat - '0'.toNat)
  else if 'a' ≤ c ∧ c ≤ 'f' then some (c.toNat - 'a'.toNat + 10)
  else if 'A' ≤ c ∧ c ≤ 'F' then some (c.toNat - 'A'.toNat + 10)
  else none

/-- The number that hexadecimal digits spell. -/
def hexValue? (cs : List Char) : Option Nat :=
  cs.foldlM (fun n c => (hexDigit? c).map (16 * n + ·)) 0

/-- What a letter stands for behind a backslash. -/
def escapeFor? (c : Char) : Option Char :=
  match c with
  | '0' => some (Char.ofNat 0)
  | 'a' => some (Char.ofNat 7)
  | 'b' => some (Char.ofNat 8)
  | 't' => some '\t'
  | '\t' => some '\t'
  | 'n' => some '\n'
  | 'v' => some (Char.ofNat 11)
  | 'f' => some (Char.ofNat 12)
  | 'r' => some '\r'
  | 'e' => some (Char.ofNat 27)
  | ' ' => some ' '
  | '"' => some '"'
  | '/' => some '/'
  | '\\' => some '\\'
  | 'N' => some (Char.ofNat 0x85)
  | '_' => some (Char.ofNat 0xA0)
  | 'L' => some (Char.ofNat 0x2028)
  | 'P' => some (Char.ofNat 0x2029)
  | _ => none

/-- How many digits follow a letter behind a backslash. -/
def escapeDigits? (c : Char) : Option Nat :=
  match c with
  | 'x' => some 2
  | 'u' => some 4
  | 'U' => some 8
  | _ => none

/-- The character of a number, unless it is a surrogate or too large. -/
def charOf? (n : Nat) : Option Char :=
  if (0xD800 ≤ n ∧ n ≤ 0xDFFF) ∨ 0x10FFFF < n then none else some (Char.ofNat n)

/-- An escape sequence. -/
def scanEscape (c : Cursor) : Option (Char × Cursor) := do
  let letter ← c.at? 1
  match escapeDigits? letter with
  | some n =>
    let digits := (c.rest.drop 2).take n
    if digits.length < n then none
    let value ← hexValue? digits
    return (← charOf? value, c.skipMany (2 + n))
  | none => return (← escapeFor? letter, c.skipMany 2)

/-- The characters of a quoted scalar up to a blank or its end. Also tells whether it ended with an
escaped line break. -/
def scanQuotedWord (single : Bool) : (fuel : Nat) → Cursor → List Char →
    Option (List Char × Bool × Cursor)
  | 0, c, read => some (read, false, c)
  | fuel + 1, c, read =>
    if c.isGapAt 0 then some (read, false, c)
    else if single && c.startsWith '\'' && c.at? 1 = some '\'' then
      scanQuotedWord single fuel (c.skipMany 2) ('\'' :: read)
    else if c.startsWith (if single then '\'' else '"') then some (read, false, c)
    else if !single && c.startsWith '\\' && c.isBreakAt 1 then some (read, true, c.skip.skipBreak)
    else if !single && c.startsWith '\\' then do
      let (x, c) ← scanEscape c
      scanQuotedWord single fuel c (x :: read)
    else scanQuotedWord single fuel c.skip ((c.peek?).toList ++ read)

/-- A quoted scalar, from behind its opening quote to behind the closing one. -/
def scanQuoted (single : Bool) : (fuel : Nat) → Cursor → List Char → Option (List Char × Cursor)
  | 0, _, _ => none
  | fuel + 1, c, read => do
    if c.atAnyDocumentMark || c.rest.isEmpty then none
    let (read, escaped, c) ← scanQuotedWord single (c.rest.length + 1) c read
    if c.startsWith (if single then '\'' else '"') then return (read, c.skip)
    -- an escaped break counts as a line ended, but stands for nothing
    let (gap, c) ← scanGap 0 (c.rest.length + 1) c { broken := escaped }
    scanQuoted single fuel c (gap.folded.reverse ++ read)

/-- What becomes of the breaks at the end of a block. -/
inductive Chomping
  | strip | clip | keep
  deriving DecidableEq

/-- Runs over the indentation and the empty lines of a block. Gives what the breaks stand for and
the greatest indentation met. -/
def scanBlockBreaks (indent : Nat) : (fuel : Nat) → Cursor → List Char → Nat →
    Option (List Char × Nat × Cursor)
  | 0, c, breaks, deepest => some (breaks, deepest, c)
  | fuel + 1, c, breaks, deepest =>
    let within := fun (c : Cursor) => indent = 0 || decide (c.column < indent)
    if within c && c.startsWith ' ' then scanBlockBreaks indent fuel c.skip breaks deepest
    else
      let deepest := max deepest c.column
      if within c && c.startsWith '\t' then none
      else if c.isBreakAt 0 then
        scanBlockBreaks indent fuel c.skipBreak (breaks ++ c.breakText) deepest
      else some (breaks, deepest, c)

/-- The lines of a block. `leading` stands for the break before the current line and `breaks` for
those of the empty lines after it; `spaced` tells whether the line before began with a blank. -/
def scanBlockLines (literal : Bool) (indent : Nat) : (fuel : Nat) → Cursor →
    (text leading breaks : List Char) → (spaced : Bool) →
    Option (List Char × List Char × List Char × Cursor)
  | 0, c, text, leading, breaks, _ => some (text, leading, breaks, c)
  | fuel + 1, c, text, leading, breaks, spaced =>
    if c.column ≠ indent ∨ c.rest.isEmpty then some (text, leading, breaks, c)
    else do
      let blank := c.isBlankAt 0
      let fold := !literal && leading.head? = some '\n' && !spaced && !blank
      let joint := if fold then (if breaks = [] then [' '] else []) else leading
      let (line, c) := c.span fun x => !isLineBreak x
      let text := text ++ joint ++ breaks ++ line
      let leading := c.breakText
      let (breaks, _, c) ← scanBlockBreaks indent (c.rest.length + 1) c.skipBreak [] 0
      scanBlockLines literal indent fuel c text leading breaks blank

/-- The indicators behind `|` or `>`: how to end, and how far to indent. -/
def scanBlockHeader (c : Cursor) : Option (Chomping × Nat × Cursor) :=
  let chomping := fun (c : Cursor) =>
    if c.startsWith '+' then some (Chomping.keep, c.skip)
    else if c.startsWith '-' then some (Chomping.strip, c.skip)
    else none
  let increment := fun (c : Cursor) =>
    match c.peek? with
    | some x =>
      if x = '0' then none
      else if x.isDigit then some (x.toNat - '0'.toNat, c.skip)
      else some (0, c)
    | none => some (0, c)
  match chomping c with
  | some (ch, c) => (increment c).map fun (n, c) => (ch, n, c)
  | none => (increment c).map fun (n, c) =>
    match (if n = 0 then none else chomping c) with
    | some (ch, c) => (ch, n, c)
    | none => (.clip, n, c)

/-- To the next line, past blanks and a comment. -/
def skipRestOfLine (c : Cursor) : Option Cursor :=
  let c := c.skipWhile isSpaceOrTab
  let c := if c.startsWith '#' then c.toLineEnd else c
  if c.atLineEnd then some c.skipBreak else none

/-- A block scalar, from behind its `|` or `>`. `parent` is the indentation around it. -/
def scanBlock (literal : Bool) (parent : Int) (c : Cursor) : Option (List Char × Cursor) := do
  let (chomping, increment, c) ← scanBlockHeader c
  let c ← skipRestOfLine c
  let given := if increment = 0 then 0 else (max parent 0).toNat + increment
  let (breaks, deepest, c) ← scanBlockBreaks given (c.rest.length + 1) c [] 0
  let indent := if given = 0 then max deepest (max (parent + 1) 1).toNat else given
  let (text, leading, breaks, c) ←
    scanBlockLines literal indent (c.rest.length + 1) c [] [] breaks false
  let text := if chomping = .strip then text else text ++ leading
  let text := if chomping = .keep then text ++ breaks else text
  return (text, c)

end Waystation.Yaml
