/-!
A place in a text, with its line and column. Lines end at a line feed, a carriage return, both
together, or one of three separators beyond ASCII; what a break stands for in a value is a line
feed, but for two of the separators, which stand for themselves.
-/
namespace Waystation.Yaml

def isSpaceOrTab (c : Char) : Bool := c = ' ' ∨ c = '\t'

/-- Characters that end a line, within ASCII and beyond. -/
def isLineBreak (c : Char) : Bool :=
  c = '\n' ∨ c = '\r' ∨ c.toNat = 0x85 ∨ c.toNat = 0x2028 ∨ c.toNat = 0x2029

/-- Characters of names: letters and digits of ASCII, dash and underscore. -/
def isNameChar (c : Char) : Bool := c.isAlphanum || c = '_' || c = '-'

/-- The text still to be read, and how far the reading has come. -/
structure Cursor where
  rest : List Char
  index : Nat := 0
  line : Nat := 0
  column : Nat := 0

namespace Cursor

def peek? (c : Cursor) : Option Char := c.rest.head?

/-- The character `n` places on. -/
def at? (c : Cursor) (n : Nat) : Option Char := c.rest[n]?

def startsWith (c : Cursor) (x : Char) : Bool := c.peek? = some x

/-- Is the character `n` places on a space or a tab? -/
def isBlankAt (c : Cursor) (n : Nat) : Bool := (c.at? n).any isSpaceOrTab

def isBreakAt (c : Cursor) (n : Nat) : Bool := (c.at? n).any isLineBreak

/-- Is the character `n` places on a space, a tab, a break or the end? -/
def isGapAt (c : Cursor) (n : Nat) : Bool :=
  (c.at? n).all fun x => isSpaceOrTab x || isLineBreak x

/-- Does the line end here? -/
def atLineEnd (c : Cursor) : Bool := (c.peek?).all isLineBreak

/-- One character on, in the same line. -/
def skip (c : Cursor) : Cursor :=
  match c.rest with
  | [] => c
  | _ :: rest => { rest, index := c.index + 1, line := c.line, column := c.column + 1 }

def skipMany : (n : Nat) → Cursor → Cursor
  | 0, c => c
  | n + 1, c => skipMany n c.skip

/-- Past a break, if there is one. -/
def skipBreak (c : Cursor) : Cursor :=
  match c.rest with
  | '\r' :: '\n' :: rest => { rest, index := c.index + 2, line := c.line + 1, column := 0 }
  | x :: rest =>
    if isLineBreak x then { rest, index := c.index + 1, line := c.line + 1, column := 0 } else c
  | [] => c

/-- What the break here stands for. -/
def breakText (c : Cursor) : List Char :=
  match c.rest with
  | x :: _ =>
    if x.toNat = 0x2028 ∨ x.toNat = 0x2029 then [x] else if isLineBreak x then ['\n'] else []
  | [] => []

/-- Past all characters of a kind; also gives them. -/
def span (p : Char → Bool) (c : Cursor) : List Char × Cursor :=
  let taken := c.rest.takeWhile p
  (taken, skipMany taken.length c)

def skipWhile (p : Char → Bool) (c : Cursor) : Cursor := (c.span p).2

/-- To the end of the line. -/
def toLineEnd (c : Cursor) : Cursor := c.skipWhile fun x => !isLineBreak x

/-- Does a line begin here with three dashes or three dots and a gap? -/
def atDocumentMark (x : Char) (c : Cursor) : Bool :=
  c.column = 0 && c.rest.take 3 = [x, x, x] && c.isGapAt 3

def atAnyDocumentMark (c : Cursor) : Bool := c.atDocumentMark '-' || c.atDocumentMark '.'

end Cursor
end Waystation.Yaml
