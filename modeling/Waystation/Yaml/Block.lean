import Waystation.Text.Class
import Waystation.Yaml.Value
/-!
Values as indented blocks. Lists in mappings stand at the indentation of their key; a scalar is
plain where that reads back as the same scalar, in single quotes where those do, in double quotes
with escapes otherwise, and as a literal block when it has several lines.
-/
namespace Waystation.Yaml

/-- Text under construction. `blank` tells that a blank or the start of a line came last, `fresh`
that nothing but indentation and dashes stands in the line. -/
structure Writer where
  text : String := ""
  column : Nat := 0
  blank : Bool := true
  fresh : Bool := true

namespace Writer

/-- Characters as they are. -/
def put (w : Writer) (cs : List Char) : Writer :=
  { w with text := w.text ++ String.ofList cs, column := w.column + cs.length }

/-- Ends the line. -/
def newline (w : Writer) : Writer := { w with text := w.text.push '\n', column := 0 }

/-- To a column, in a new line unless the current one has not gone so far. -/
def indent (w : Writer) (column : Nat) : Writer :=
  let w := if !w.fresh || column < w.column || (w.column = column && !w.blank) then w.newline else w
  { w.put (List.replicate (column - w.column) ' ') with blank := true, fresh := true }

/-- A mark, behind a blank if it needs one. A dash or a question mark leaves the line fresh. -/
def mark (w : Writer) (s : String) (apart blankAfter entry : Bool) : Writer :=
  let w := if apart && !w.blank then w.put [' '] else w
  { w.put s.toList with blank := blankAfter, fresh := w.fresh && entry }

/-- Ends a scalar. -/
def closed (w : Writer) : Writer := { w with blank := false, fresh := false }

end Writer

/-- How a scalar is written. -/
inductive Style
  | plain | single | double | literal
  deriving DecidableEq, Repr

namespace Style

/-- Can the character be written as it is? -/
def isShown (c : Char) : Bool :=
  let n := c.toNat
  n = 10 || (0x20 ≤ n && n ≤ 0x7E) || (0xA0 ≤ n && n ≤ 0xD7FF)
    || (0xE000 ≤ n && n ≤ 0xFFFD && n ≠ 0xFEFF) || 0x10000 ≤ n

/-- Neighbouring characters with these properties. -/
def hasPair (p q : Char → Bool) : List Char → Bool
  | a :: b :: rest => (p a && q b) || hasPair p q (b :: rest)
  | _ => false

/-- Is there a colon before a gap or the end, or a hash behind a gap? -/
def hasIndicatorInside : List Char → Bool
  | a :: rest =>
    let gapNext := rest.head?.all fun c => isSpaceOrTab c || isLineBreak c
    (a = ':' && gapNext) || ((isSpaceOrTab a || isLineBreak a) && rest.head? = some '#')
      || hasIndicatorInside rest
  | [] => false

/-- Would the text be taken for something else at its start? -/
def startsWithIndicator (cs : List Char) : Bool :=
  match cs with
  | [] => false
  | c :: rest =>
    let gapNext := rest.head?.all fun c => isSpaceOrTab c || isLineBreak c
    c ∈ ['#', ',', '[', ']', '\x7b', '\x7d', '&', '*', '!', '|', '>', '\'', '"', '%', '@', '\x60']
      || ((c = '?' || c = ':' || c = '-') && gapNext)
      || cs.take 3 = ['-', '-', '-'] || cs.take 3 = ['.', '.', '.']

/-- The style for a text. `key` tells that it must stand in one line. -/
def forText (key literal quoted : Bool) (cs : List Char) : Style :=
  let isSpace := fun c => c = ' '
  let blankEnds := (cs.head?).any (fun c => isSpace c || isLineBreak c)
    || (cs.getLast?).any (fun c => isSpace c || isLineBreak c)
  let trailingSpace := (cs.getLast?).any isSpace
  let breakSpace := hasPair isLineBreak isSpace cs
  let spaceBreak := hasPair isSpace isLineBreak cs
  let tabs := cs.any (· = '\t')
  let special := cs.any fun c => !isShown c && c ≠ '\t'
  let lines := cs.any isLineBreak
  let plainAllowed := !blankEnds && !breakSpace && !spaceBreak && !tabs && !special && !lines
    && !startsWithIndicator cs && !hasIndicatorInside cs
  let singleAllowed := !breakSpace && !spaceBreak && !tabs && !special
  let blockAllowed := !trailingSpace && !spaceBreak && !special && !cs.isEmpty
  if key && lines then .double
  else if literal then (if blockAllowed && !key then .literal else .double)
  else if !quoted && plainAllowed && !(cs.isEmpty && key) then .plain
  else if singleAllowed then .single
  else .double

end Style

namespace Writer

/-- A number as hexadecimal digits in capitals. -/
def hexDigits (width n : Nat) : List Char :=
  let digits := (Nat.toDigits 16 n).map Char.toUpper
  List.replicate (width - digits.length) '0' ++ digits

/-- How a character stands in double quotes. -/
def escape (c : Char) : List Char :=
  let n := c.toNat
  if c = '"' then ['\\', '"']
  else if c = '\\' then ['\\', '\\']
  else if Style.isShown c && !isLineBreak c then [c]
  else match n with
    | 0 => ['\\', '0']
    | 7 => ['\\', 'a']
    | 8 => ['\\', 'b']
    | 9 => ['\\', 't']
    | 10 => ['\\', 'n']
    | 11 => ['\\', 'v']
    | 12 => ['\\', 'f']
    | 13 => ['\\', 'r']
    | 27 => ['\\', 'e']
    | 0x85 => ['\\', 'N']
    | 0xA0 => ['\\', '_']
    | 0x2028 => ['\\', 'L']
    | 0x2029 => ['\\', 'P']
    | _ =>
      if n ≤ 0xFF then ['\\', 'x'] ++ hexDigits 2 n
      else if n ≤ 0xFFFF then ['\\', 'u'] ++ hexDigits 4 n
      else ['\\', 'U'] ++ hexDigits 8 n

/-- A scalar without quotes. -/
def plain (w : Writer) (cs : List Char) : Writer :=
  let w := if !w.blank && !cs.isEmpty then w.put [' '] else w
  (w.put cs).closed

/-- Characters in single quotes; a break counts double if it is the first of several. -/
def singleChars (column : Nat) : List Char → (broken : Bool) → Writer → Writer
  | [], broken, w => if broken then w.indent column else w
  | c :: rest, broken, w =>
    if isLineBreak c then
      let w := if !broken && c = '\n' then w.newline else w
      let w := if c = '\n' then w.newline else { w.put [c] with column := 0 }
      singleChars column rest true { w with fresh := true }
    else
      let w := if broken then w.indent column else w
      let w := if c = '\'' then w.put ['\'', '\''] else w.put [c]
      singleChars column rest false { w with fresh := false }

/-- A scalar in single quotes. -/
def single (w : Writer) (column : Nat) (cs : List Char) : Writer :=
  ((singleChars column cs false (w.mark "'" true false false)).mark "'" false false false).closed

/-- A scalar in double quotes, in one line. -/
def double (w : Writer) (cs : List Char) : Writer :=
  (((w.mark "\"" true false false).put (cs.flatMap escape)).mark "\"" false false false).closed

/-- How the end of a literal block is marked: it has no break there, one, or more. -/
def chompingMark (cs : List Char) : String :=
  match cs.reverse with
  | [] => "-"
  | c :: rest =>
    if !isLineBreak c then "-"
    else match rest with
      | [] => "+"
      | d :: _ => if isLineBreak d then "+" else ""

def literalChars (column : Nat) : List Char → (broken : Bool) → Writer → Writer
  | [], _, w => w
  | c :: rest, broken, w =>
    if isLineBreak c then
      let w := if c = '\n' then w.newline else { w.put [c] with column := 0 }
      literalChars column rest true { w with fresh := true }
    else
      let w := if broken then w.indent column else w
      literalChars column rest false { w.put [c] with fresh := false }

/-- A scalar as a block of its lines. -/
def literal (w : Writer) (column : Nat) (cs : List Char) : Writer :=
  let hint := if (cs.head?).any fun c => c = ' ' || isLineBreak c then "2" else ""
  let w := w.mark ("|" ++ hint ++ chompingMark cs) true false false
  literalChars column cs true { w.newline with fresh := true, blank := true }

/-- Characters of a tag that need no escape. -/
def isTagText (c : Char) : Bool :=
  isNameChar c || c ∈ [';', '/', '?', ':', '@', '&', '=', '+', '$', ',', '.', '~', '*', '\'', '(',
    ')', '[', ']', '!']

/-- A local tag. -/
def tag (w : Writer) (t : String) : Writer :=
  let w := if w.blank then w else w.put [' ']
  let text := t.toList.flatMap fun c =>
    if isTagText c then [c]
    else (String.singleton c).toUTF8.toList.flatMap fun b => '%' :: hexDigits 2 b.toNat
  (w.put ('!' :: text)).closed

/-- A scalar in the collection at an indentation. -/
def scalar (w : Writer) (indent : Int) (key : Bool) (s : Scalar) : Writer :=
  let inner := if indent < 0 then 2 else (indent + 2).toNat
  match s with
  | .null => w.plain "null".toList
  | .text t =>
    let cs := t.toList
    let quoted := match Scalar.ofPlain? t with
      | some (.text _) => Scalar.isPaddedNumber cs
      | _ => true
    match Style.forText key (cs.contains '\n') quoted cs with
    | .plain => w.plain cs
    | .single => w.single inner cs
    | .double => w.double cs
    | .literal => w.literal inner cs
  | s => w.plain s.render.toList

end Writer

namespace Value

/-- Can the value stand before a colon in one line? -/
def isSimpleKey : Value → Bool
  | scalar (.text s) => s.utf8ByteSize ≤ 128 && !s.toList.any isLineBreak
  | scalar _ => true
  | list items => items.isEmpty
  | map entries => entries.isEmpty
  | tagged t v => t.utf8ByteSize ≤ 100 && isSimpleKey v

/-- The indentation of a collection inside another. -/
def deeper (indent : Int) : Int := if indent < 0 then 0 else indent + 2

mutual

/-- Writes a value. `inMapping` tells that it is a key or value of a mapping, `key` that it must
stand in one line. -/
def write (indent : Int) (inMapping key : Bool) : Value → Writer → Writer
  | scalar s, w => w.scalar indent key s
  | list [], w => (w.mark "[" true true false).mark "]" false false false
  | map [], w => (w.mark "\x7b" true true false).mark "\x7d" false false false
  | list items, w =>
    let level := if inMapping && !w.fresh && 0 ≤ indent then indent else deeper indent
    writeItems level items w
  | map entries, w => writeEntries (deeper indent) entries w
  | tagged t v, w => write indent inMapping key v (w.tag t)

def writeItems (level : Int) : List Value → Writer → Writer
  | [], w => w
  | v :: rest, w =>
    writeItems level rest
      (write level false false v ((w.indent level.toNat).mark "-" true false true))

def writeEntries (level : Int) : List (Value × Value) → Writer → Writer
  | [], w => w
  | (k, v) :: rest, w =>
    let w := w.indent level.toNat
    let w :=
      if isSimpleKey k then (write level true true k w).mark ":" false false false
      else
        let w := write level true false k (w.mark "?" true false true)
        (w.indent level.toNat).mark ":" true false true
    writeEntries level rest (write level true false v w)

end

/-- A value as a block. -/
def block (v : Value) : String := (write (-1) false false v {}).text

end Value
end Waystation.Yaml
