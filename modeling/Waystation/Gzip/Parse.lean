import Waystation.Gzip.Matcher
/-!
Splitting input into literals and copies, lazily: a short match is held back for one place, and
dropped for a literal if the next place has a longer one. The tokens are cut into blocks when the
buffer that holds them is nearly full, or when they have not made the input smaller.
-/
namespace Waystation.Gzip

/-- What a block is made of. -/
inductive Token
  | literal (b : UInt8)
  | copy (length distance : Nat)
  deriving DecidableEq, Repr

/-- How many bytes of input a token stands for. -/
def Token.span : Token → Nat
  | literal _ => 1
  | copy n _ => n

/-- A match held back, with the byte it would be dropped for. -/
structure Held where
  literal : UInt8
  found : Match

/-- A run of tokens and where the input it stands for begins. `ahead` tells how far the parser has
looked past the start, and `history` how much input before that place can still be reached. -/
structure Block where
  start : Nat := 0
  tokens : List Token := []
  size : Nat := 0
  ahead : Nat := 0
  history : Nat := 0

/-- A parse under way. `tokens` are those of the current block, last first, `size` is the input they
stand for, and `room` is what they take in the token buffer. -/
structure Parsing where
  pos : Nat := 0
  history : Nat := 0
  held : Option Held := none
  blockStart : Nat := 0
  tokens : List Token := []
  count : Nat := 0
  size : Nat := 0
  room : Nat := 1
  done : List Block := []

namespace Parsing

/-- Adds a token. In the buffer a literal takes one byte and a copy three, and every eight tokens
share one more. -/
def emit (s : Parsing) (t : Token) : Parsing :=
  let room := s.room + match t with | .literal _ => 1 | .copy .. => 3
  let room := if (s.count + 1) % 8 = 0 then room + 1 else room
  { s with tokens := t :: s.tokens, count := s.count + 1, size := s.size + t.span, room }

/-- The current block, closed. -/
def block (s : Parsing) : Block :=
  { start := s.blockStart, tokens := s.tokens.reverse, size := s.size,
    ahead := s.pos - s.blockStart, history := s.history }

/-- Begins a new block. -/
def cut (s : Parsing) : Parsing :=
  { s with
    done := s.block :: s.done, blockStart := s.blockStart + s.size
    tokens := [], count := 0, size := 0, room := 1 }

/-- The token buffer is nearly full, or much input has come out no smaller. -/
def mustCut (s : Parsing) : Bool :=
  65536 - 8 < s.room || (31 * 1024 < s.size && s.size ≤ s.room * 115 / 128)

/-- Deals with what was found at the current place, and tells how far to go on. -/
def take (s : Parsing) (byte : UInt8) (found : Match) : Parsing × Nat :=
  match s.held with
  | some h =>
    if h.found.length < found.length then
      let s := s.emit (.literal h.literal)
      if 128 ≤ found.length then
        ({ s.emit (.copy found.length found.distance) with held := none }, found.length)
      else ({ s with held := some ⟨byte, found⟩ }, 1)
    else
      ({ s.emit (.copy h.found.length h.found.distance) with held := none }, h.found.length - 1)
  | none =>
    if found.distance = 0 then (s.emit (.literal byte), 1)
    else if 128 ≤ found.length then
      (s.emit (.copy found.length found.distance), found.length)
    else ({ s with held := some ⟨byte, found⟩ }, 1)

/-- A short match far back costs more than it saves; and no match reaches the place that has the
same remainder as its distance. -/
def worthwhile (pos : Nat) (found : Match) : Match :=
  if (found.length = minMatch ∧ 8 * 1024 ≤ found.distance) ∨ pos % windowSize = found.distance
  then ⟨0, 0⟩ else found

/-- Parses from the current place to the end of the input, and closes the last block. Every round
goes on by at least one place. -/
def run (input : Array UInt8) : (fuel : Nat) → Chains → Parsing → List Block
  | 0, _, s => (s.block :: s.done).reverse
  | fuel + 1, chains, s =>
    if input.size ≤ s.pos then (s.block :: s.done).reverse
    else
      let lookahead := min maxMatch (input.size - s.pos)
      let chains := chains.extend input (s.pos + lookahead - 2 - chains.upTo)
      let history := min (windowSize - lookahead) s.history
      let inHand := match s.held with | some h => h.found.length | none => minMatch - 1
      let found := worthwhile s.pos (findMatch input chains s.pos history lookahead inHand)
      let (s, n) := s.take (input.getD s.pos 0) found
      let s := { s with pos := s.pos + n, history := min (history + n) windowSize }
      run input fuel chains (if s.mustCut then s.cut else s)

end Parsing

/-- The blocks of an input; there is at least one. -/
def blocksOf (input : Array UInt8) : List Block := Parsing.run input input.size {} {}

end Waystation.Gzip
