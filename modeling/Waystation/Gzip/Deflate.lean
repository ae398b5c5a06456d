import Waystation.Gzip.CodeLengths
import Waystation.Gzip.Inflate
import Waystation.Gzip.Parse
/-!
Deflating: the blocks of a parse, each written under the fixed code if it is short, else under codes
made for it, or as it is if that would not be longer. The result is inflated again, and should that
not give the input back, or should the result be long for an input that repeats itself, the input is
sent as runs of equal bytes; so what is written can always be read, and runs are always sent short.
-/
namespace Waystation.Gzip

/-- The index of the last row of a table whose base is at most `n`. -/
def rowFor (table : Array (Nat × Nat)) (n : Nat) : Nat :=
  (table.toList.takeWhile fun row => row.1 ≤ n).length - 1

/-- The rows of the length table for lengths up to the longest. -/
def lengthRows : Array Nat := (Array.range 259).map (rowFor lengthTable)

/-- The row of the distance table for a distance. -/
def distanceRow (d : Nat) : Nat := rowFor distanceTable d

/-- The words of the symbols of a canonical code. -/
def wordsOf (lengths : Array Nat) : Array (List Bool) :=
  let tree := canonicalTree lengths.toList
  (Array.range lengths.size).map fun s => (tree.word? s).getD []

/-- The words a block is written in. -/
structure Words where
  literals : Array (List Bool)
  distances : Array (List Bool)

def fixedWords : Words where
  literals := wordsOf fixedLengths.toArray
  distances := wordsOf (Array.replicate 32 5)

/-- The bits of a token: its word, and for a copy the rest of its length and its distance. -/
def Token.bits (w : Words) : Token → List Bool
  | literal b => w.literals.getD b.toNat []
  | copy n d =>
    let row := lengthRows.getD n 0
    let (base, extra) := lengthTable.getD row (0, 0)
    let drow := distanceRow d
    let (dbase, dextra) := distanceTable.getD drow (0, 0)
    w.literals.getD (257 + row) [] ++ bitsOfNat extra (n - base)
      ++ w.distances.getD drow [] ++ bitsOfNat dextra (d - dbase)

/-- The tokens of a block and its end. -/
def tokenBits (w : Words) (tokens : List Token) : List Bool :=
  tokens.flatMap (Token.bits w) ++ w.literals.getD endOfBlock []

/-- How often each literal and length symbol and each distance symbol occurs in a block. -/
def countSymbols : List Token → Array Nat → Array Nat → Array Nat × Array Nat
  | [], literals, distances => (literals, distances)
  | .literal b :: rest, literals, distances =>
    countSymbols rest (literals.modify b.toNat (· + 1)) distances
  | .copy n d :: rest, literals, distances =>
    countSymbols rest (literals.modify (257 + lengthRows.getD n 0) (· + 1))
      (distances.modify (distanceRow d) (· + 1))

/-- A symbol of the code that sends code lengths, with the value of its extra bits. -/
structure LengthSymbol where
  symbol : Nat
  extra : Nat := 0

/-- How many extra bits a symbol of that code has. -/
def extraWidth (symbol : Nat) : Nat :=
  if symbol = 16 then 2 else if symbol = 17 then 3 else if symbol = 18 then 7 else 0

/-- Zeros in a row. -/
def zeroRun (n : Nat) : List LengthSymbol :=
  if n < 3 then List.replicate n ⟨0, 0⟩
  else if n ≤ 10 then [⟨17, n - 3⟩]
  else [⟨18, n - 11⟩]

/-- Repetitions of the length before. -/
def repeatRun (length n : Nat) : List LengthSymbol :=
  if n < 3 then List.replicate n ⟨length, 0⟩ else [⟨16, n - 3⟩]

/-- Runs of code lengths: zeros by up to 138, others once and then repeated by up to 6. `last` is
the length before, if any. -/
def runLengths : List Nat → (last : Option Nat) → (zeros repeats : Nat) → List LengthSymbol
  | [], last, zeros, repeats =>
    if repeats ≠ 0 then repeatRun (last.getD 0) repeats else zeroRun zeros
  | n :: rest, last, zeros, repeats =>
    if n = 0 then
      let before := repeatRun (last.getD 0) repeats
      if zeros + 1 = 138 then before ++ zeroRun 138 ++ runLengths rest (some 0) 0 0
      else before ++ runLengths rest (some 0) (zeros + 1) 0
    else
      let before := zeroRun zeros
      if last ≠ some n then
        before ++ repeatRun (last.getD 0) repeats ++ ⟨n, 0⟩ :: runLengths rest (some n) 0 0
      else if repeats + 1 = 6 then before ++ repeatRun n 6 ++ runLengths rest (some n) 0 0
      else before ++ runLengths rest (some n) 0 (repeats + 1)

/-- How many places of an array count, at least `least`: all behind are zero. -/
def usedCount (least : Nat) (a : Array Nat) : Nat :=
  max least (a.size - (a.toList.reverse.takeWhile (· = 0)).length)

/-- The bits of a block under codes of its own, from the type of the block on. -/
def transmittedBits (tokens : List Token) : List Bool :=
  let (literals, distances) :=
    countSymbols tokens ((Array.replicate 286 0).setIfInBounds endOfBlock 1) (Array.replicate 30 0)
  let literals := codeLengths longest literals
  let distances := codeLengths longest distances
  let literalCount := usedCount 257 literals
  let distanceCount := usedCount 1 distances
  let symbols := runLengths
    (literals.toList.take literalCount ++ distances.toList.take distanceCount) none 0 0
  let counts := symbols.foldl (fun a x => a.modify x.symbol (· + 1)) (Array.replicate 19 0)
  let lengths := codeLengths 7 counts
  let sent := (codeOrder.map fun i => lengths.getD i 0).toArray
  let sentCount := usedCount 4 sent
  let words := wordsOf lengths
  [false, true] ++ bitsOfNat 5 (literalCount - 257) ++ bitsOfNat 5 (distanceCount - 1)
    ++ bitsOfNat 4 (sentCount - 4) ++ (sent.toList.take sentCount).flatMap (bitsOfNat 3)
    ++ symbols.flatMap (fun x => words.getD x.symbol [] ++ bitsOfNat (extraWidth x.symbol) x.extra)
    ++ tokenBits ⟨wordsOf literals, wordsOf distances⟩ tokens

/-- The bits of a block under the fixed code, from the type of the block on. -/
def fixedBits (tokens : List Token) : List Bool :=
  [true, false] ++ tokenBits fixedWords tokens

/-- Bytes as they are, from the type of the block on; `behind` bits stand before it. -/
def storedBits (behind : Nat) (bytes : Bytes) : List Bool :=
  let n := bytes.length
  [false, false] ++ List.replicate ((8 - (behind + 2) % 8) % 8) false
    ++ bitsOfNat 16 n ++ bitsOfNat 16 (65535 - n) ++ bitsOfBytes bytes

/-- One block, with `behind` bits before it. A block of more than 32 bytes that does not come out
smaller is stored, if the input is still in the window. -/
def Block.bits (input : Array UInt8) (behind : Nat) (final : Bool) (b : Block) : List Bool :=
  let body := if b.size < 48 then fixedBits b.tokens else transmittedBits b.tokens
  let written := (behind + 1 + body.length) / 8 - (behind + 1) / 8
  let body :=
    if 32 < b.size ∧ b.size ≤ written + 1 ∧ b.ahead ≤ b.history then
      storedBits (behind + 1) (input.toList.drop b.start |>.take b.size)
    else body
  final :: body

/-- Blocks one behind the other, the last marked; `done` holds the bits so far, last block first. -/
def joinBlocks (input : Array UInt8) : List Block → (behind : Nat) → (done : List (List Bool)) →
    List Bool
  | [], _, done => done.reverse.flatten
  | b :: rest, behind, done =>
    let bits := b.bits input behind rest.isEmpty
    joinBlocks input rest (behind + bits.length) (bits :: done)

/-- A stream that is as small as the parse makes it. -/
def packedStream (input : Bytes) : List Bool :=
  joinBlocks input.toArray (blocksOf input.toArray) 0 []

/-- The token that repeats the byte before as often as one token can. -/
def Token.again : Token := .copy maxMatch 1

/-- Input as literals and repetitions of the byte before. `last` is that byte, if there is one. -/
def runTokens (last : Option UInt8) : Bytes → List Token
  | [] => []
  | b :: rest =>
    if last = some b ∧ (List.replicate (maxMatch - 1) b).isPrefixOf rest then
      .again :: runTokens last (rest.drop (maxMatch - 1))
    else .literal b :: runTokens (some b) rest
termination_by input => input.length
decreasing_by all_goals simp only [List.length_drop, List.length_cons]; omega

/-- A stream of repetitions and literals, in one block under the fixed code. -/
def runStream (input : Bytes) : List Bool := true :: fixedBits (runTokens none input)

/-- Does a stream, packed into bytes, inflate to this input? -/
def restores (input : Bytes) (packed : Bytes) : Bool :=
  match inflate (input.length + 1) (bitsOfBytes packed) with
  | .ok s => s.out == input.toArray && s.bits.length < 8
  | .error _ => false

/-- How long deflated input may be: two bytes for each of its literals and repetitions, and room for
the codes. -/
def deflateLimit (input : Bytes) : Nat := 2 * (runTokens none input).length + 1000

/-- The deflated input, in bytes. The packed stream is taken only if it is seen to restore the input,
and else the stream of repetitions, which always does. So that inflating gives the input back is made
sure of here, whatever the parse does; of a deflater made by others it would have to be assumed. -/
def deflate (input : Bytes) : Bytes :=
  let packed := pack (packedStream input)
  if restores input packed && packed.length ≤ deflateLimit input then packed
  else pack (runStream input)

end Waystation.Gzip
