import Waystation.Gzip.Huffman
/-!
Inflating a deflate stream: blocks of stored bytes, or of literals and copies of earlier output
under a fixed or a transmitted prefix code. A copy may reach before the start of the output, where
it finds zeros. Output stops at a cap, before the byte that would pass it.
-/
namespace Waystation.Gzip

/-- Why inflating stopped early. -/
inductive InflateFault
  /-- The stream breaks the rules of the format. -/
  | corrupt
  /-- The stream ends inside a block, after `produced` bytes of output. -/
  | incomplete (produced : Nat)
  /-- More output comes than the cap allows. -/
  | full
  deriving DecidableEq, Repr

/-- The bits still to read and the output so far. -/
structure Inflating where
  bits : List Bool
  out : Array UInt8 := #[]

/-- What a step of inflating comes to. -/
abbrev InflateStep := Except InflateFault Inflating

/-- Base and number of extra bits of each length symbol from 257 on. -/
def lengthTable : Array (Nat × Nat) := #[(3, 0), (4, 0), (5, 0), (6, 0), (7, 0), (8, 0), (9, 0),
  (10, 0), (11, 1), (13, 1), (15, 1), (17, 1), (19, 2), (23, 2), (27, 2), (31, 2), (35, 3), (43, 3),
  (51, 3), (59, 3), (67, 4), (83, 4), (99, 4), (115, 4), (131, 5), (163, 5), (195, 5), (227, 5),
  (258, 0)]

/-- Base and number of extra bits of each distance symbol. -/
def distanceTable : Array (Nat × Nat) := #[(1, 0), (2, 0), (3, 0), (4, 0), (5, 1), (7, 1), (9, 2),
  (13, 2), (17, 3), (25, 3), (33, 4), (49, 4), (65, 5), (97, 5), (129, 6), (193, 6), (257, 7),
  (385, 7), (513, 8), (769, 8), (1025, 9), (1537, 9), (2049, 10), (3073, 10), (4097, 11),
  (6145, 11), (8193, 12), (12289, 12), (16385, 13), (24577, 13)]

/-- The word lengths of the fixed literal and length code. -/
def fixedLengths : List Nat :=
  List.replicate 144 8 ++ List.replicate 112 9 ++ List.replicate 24 7 ++ List.replicate 8 8

def fixedLiterals : Tree := canonicalTree fixedLengths

/-- The fixed distance code: thirty-two words of five bits. -/
def fixedDistances : Tree := canonicalTree (List.replicate 32 5)

/-- The symbol that ends a block. -/
def endOfBlock : Nat := 256

/-- The order in which the lengths of the length code are sent. -/
def codeOrder : List Nat := [16, 17, 18, 0, 8, 7, 9, 6, 10, 5, 11, 4, 12, 3, 13, 2, 14, 1, 15]

namespace Inflating

/-- Takes a number of some bits. -/
def takeNat (s : Inflating) (width : Nat) : Except InflateFault (Nat × Inflating) :=
  match Gzip.takeNat width s.bits with
  | some (n, bits) => .ok (n, { s with bits })
  | none => .error (.incomplete s.out.size)

/-- Takes a symbol. -/
def decode (s : Inflating) (t : Tree) : Except InflateFault (Nat × Inflating) :=
  match t.decode s.bits with
  | .symbol n bits => .ok (n, { s with bits })
  | .invalid => .error .corrupt
  | .short => .error (.incomplete s.out.size)

/-- Puts a byte out, if the cap allows it. -/
def push (cap : Nat) (s : Inflating) (b : UInt8) : InflateStep :=
  if cap ≤ s.out.size then .error .full else .ok { s with out := s.out.push b }

/-- Repeats the byte `distance` back, `count` times over. -/
def copy (cap distance : Nat) : (count : Nat) → Inflating → InflateStep
  | 0, s => .ok s
  | count + 1, s => do
    let b := if s.out.size < distance then 0 else s.out.getD (s.out.size - distance) 0
    copy cap distance count (← s.push cap b)

/-- Copies `count` bytes from the stream, which stands at a byte boundary. -/
def copyStored (cap : Nat) : (count : Nat) → Inflating → InflateStep
  | 0, s => .ok s
  | count + 1, s =>
    if cap ≤ s.out.size then .error .full
    else do
      let (n, s) ← s.takeNat 8
      copyStored cap count (← s.push cap (UInt8.ofNat n))

/-- A value given by a symbol's base and extra bits. -/
def extended (s : Inflating) (table : Array (Nat × Nat)) (symbol : Nat) :
    Except InflateFault (Nat × Inflating) :=
  match table[symbol]? with
  | none => .error .corrupt
  | some (base, extra) => do
    let (n, s) ← s.takeNat extra
    return (base + n, s)

/-- The literals and copies of a block, up to its end. Every symbol takes at least one bit. -/
def symbols (cap : Nat) (literals distances : Tree) : (fuel : Nat) → Inflating → InflateStep
  | 0, s => .error (.incomplete s.out.size)
  | fuel + 1, s => do
    let (symbol, s) ← s.decode literals
    if symbol < endOfBlock then
      symbols cap literals distances fuel (← s.push cap (UInt8.ofNat symbol))
    else if symbol = endOfBlock then
      return s
    else
      let (count, s) ← s.extended lengthTable (symbol - 257)
      let (symbol, s) ← s.decode distances
      let (distance, s) ← s.extended distanceTable symbol
      symbols cap literals distances fuel (← s.copy cap distance count)

/-- A compressed block: the symbols of two codes. -/
def compressed (cap : Nat) (literals distances : Tree) (s : Inflating) : InflateStep :=
  s.symbols cap literals distances (s.bits.length + 1)

/-- A stored block: its length and the complement of it, then its bytes. -/
def stored (cap : Nat) (s : Inflating) : InflateStep := do
  let s := { s with bits := s.bits.drop (s.bits.length % 8) }
  let (n, s) ← s.takeNat 16
  let (complement, s) ← s.takeNat 16
  if n + complement = 0xFFFF then s.copyStored cap n else .error .corrupt

/-- Reads three-bit lengths into the places of `order`. -/
def sentLengths : (order : List Nat) → Array Nat → Inflating →
    Except InflateFault (Array Nat × Inflating)
  | [], lengths, s => .ok (lengths, s)
  | i :: order, lengths, s => do
    let (n, s) ← s.takeNat 3
    sentLengths order (lengths.setIfInBounds i n) s

/-- Reads word lengths until `total` of them are known. A run repeats the length before it, or
zero. -/
def wordLengths (tree : Tree) (total : Nat) : (fuel : Nat) → Array Nat → Inflating →
    Except InflateFault (Array Nat × Inflating)
  | 0, _, s => .error (.incomplete s.out.size)
  | fuel + 1, lengths, s =>
    if total ≤ lengths.size then
      if lengths.size = total then .ok (lengths, s) else .error .corrupt
    else do
      let (symbol, s) ← s.decode tree
      if symbol < 16 then wordLengths tree total fuel (lengths.push symbol) s
      else if symbol = 16 then
        match lengths.back? with
        | none => .error .corrupt
        | some last =>
          let (n, s) ← s.takeNat 2
          wordLengths tree total fuel (lengths ++ Array.replicate (n + 3) last) s
      else if symbol = 17 then
        let (n, s) ← s.takeNat 3
        wordLengths tree total fuel (lengths ++ Array.replicate (n + 3) 0) s
      else
        let (n, s) ← s.takeNat 7
        wordLengths tree total fuel (lengths ++ Array.replicate (n + 11) 0) s

/-- A code must be complete, or have at most one word. -/
def usableTree (lengths : List Nat) : Except InflateFault Tree :=
  if isComplete lengths || isTrivial lengths then .ok (canonicalTree lengths) else .error .corrupt

/-- A block that sends its own codes. -/
def transmitted (cap : Nat) (s : Inflating) : InflateStep := do
  let (n, s) ← s.takeNat 5
  let (m, s) ← s.takeNat 5
  let (k, s) ← s.takeNat 4
  let literalCount := n + 257
  let distanceCount := m + 1
  if 286 < literalCount ∨ 30 < distanceCount then .error .corrupt
  let (lengths, s) ← s.sentLengths (codeOrder.take (k + 4)) (Array.replicate 19 0)
  if !isComplete lengths.toList then .error .corrupt
  let total := literalCount + distanceCount
  let (lengths, s) ← s.wordLengths (canonicalTree lengths.toList) total (total + 1) #[]
  let distances ← usableTree (lengths.toList.drop literalCount)
  let literals ← usableTree (lengths.toList.take literalCount)
  s.compressed cap literals distances

/-- The blocks of a stream, up to the one marked as the last. Every block takes at least three
bits. -/
def blocks (cap : Nat) : (fuel : Nat) → Inflating → InflateStep
  | 0, s => .error (.incomplete s.out.size)
  | fuel + 1, s => do
    let (final, s) ← s.takeNat 1
    let (type, s) ← s.takeNat 2
    let s ← match type with
      | 0 => s.stored cap
      | 1 => s.compressed cap fixedLiterals fixedDistances
      | 2 => s.transmitted cap
      | _ => .error .corrupt
    if final = 1 then return s else blocks cap fuel s

end Inflating

/-- Inflates a stream to at most `cap` bytes; gives the output and the bits behind the stream. -/
def inflate (cap : Nat) (bits : List Bool) : InflateStep :=
  Inflating.blocks cap (bits.length + 1) { bits }

end Waystation.Gzip
