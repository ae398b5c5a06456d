import Waystation.Gzip.Bits
/-!
Prefix codes as binary trees. A canonical code is given by the lengths of its words: words of one
length are consecutive numbers in the order of their symbols, and shorter words come first. Walking
the tree along the word of a symbol gives that symbol, whatever bits follow.
-/
namespace Waystation.Gzip

attribute [local instance (10000)] instPowNat

/-- A prefix code; a place where no word goes is `none`. -/
inductive Tree
  | none
  | leaf (symbol : Nat)
  | node (zero one : Tree)
  deriving Repr, Inhabited

/-- What the next bits say: a symbol, no word of the code, or not enough. -/
inductive Decoded
  | symbol (s : Nat) (rest : List Bool)
  | invalid
  | short
  deriving Repr

namespace Tree

/-- Places a symbol at the end of a path. -/
def insert : Tree → List Bool → Nat → Tree
  | _, [], s => leaf s
  | node l r, false :: path, s => node (l.insert path s) r
  | node l r, true :: path, s => node l (r.insert path s)
  | _, false :: path, s => node (insert none path s) none
  | _, true :: path, s => node none (insert none path s)

/-- Reads one symbol. -/
def decode : Tree → List Bool → Decoded
  | none, _ => .invalid
  | leaf s, bits => .symbol s bits
  | node _ _, [] => .short
  | node l _, false :: bits => l.decode bits
  | node _ r, true :: bits => r.decode bits

/-- The word of a symbol. -/
def word? : Tree → Nat → Option (List Bool)
  | none, _ => Option.none
  | leaf t, s => if t = s then some [] else Option.none
  | node l r, s =>
    match l.word? s with
    | some w => some (false :: w)
    | Option.none => (r.word? s).map (true :: ·)

theorem decode_word {t : Tree} {s : Nat} {w : List Bool} (h : t.word? s = some w)
    (rest : List Bool) : t.decode (w ++ rest) = .symbol s rest := by
  induction t generalizing w with
  | none => simp [word?] at h
  | leaf t =>
    simp only [word?] at h
    split at h
    next e => obtain rfl := Option.some.inj h; simp [decode, e]
    next => simp at h
  | node l r ihl ihr =>
    simp only [word?] at h
    split at h
    next w' hw => obtain rfl := Option.some.inj h; simpa [decode] using ihl hw
    next hw =>
      obtain ⟨w', hr, rfl⟩ := Option.map_eq_some_iff.1 h
      simpa [decode] using ihr hr

end Tree

/-- How many words have a length. -/
def countLength (lengths : List Nat) (n : Nat) : Nat := lengths.count n

/-- The first word of each length, as a number: the words of lengths up to the one before, doubled.
-/
def firstWord (lengths : List Nat) : Nat → Nat
  | 0 => 0
  | 1 => 0
  | n + 2 => 2 * (firstWord lengths (n + 1) + countLength lengths (n + 1))

/-- The `width` bits of a number, highest first. -/
def wordBits (width n : Nat) : List Bool := (bitsOfNat width n).reverse

/-- The tree of the canonical code with the given lengths; length zero stands for no word. `next`
holds the next word of each length. -/
def placeSymbols : List Nat → (symbol : Nat) → (next : Array Nat) → Tree → Tree
  | [], _, _, t => t
  | 0 :: rest, s, next, t => placeSymbols rest (s + 1) next t
  | n :: rest, s, next, t =>
    let w := next.getD n 0
    placeSymbols rest (s + 1) (next.setIfInBounds n (w + 1)) (t.insert (wordBits n (w % 2 ^ n)) s)

def canonicalTree (lengths : List Nat) : Tree :=
  placeSymbols lengths 0 ((Array.range 16).map (firstWord lengths)) .none

/-- The greatest length of a word. -/
def longest : Nat := 15

/-- How much of the space of the longest words a code uses, in units of one such word. -/
def usedSpace (lengths : List Nat) : Nat :=
  lengths.foldl (fun n l => if l = 0 then n else n + 2 ^ (longest - l)) 0

/-- The code uses every word. -/
def isComplete (lengths : List Nat) : Bool := usedSpace lengths = 2 ^ longest

/-- At most one symbol has a word. -/
def isTrivial (lengths : List Nat) : Bool := (lengths.filter (· ≠ 0)).length ≤ 1

end Waystation.Gzip
