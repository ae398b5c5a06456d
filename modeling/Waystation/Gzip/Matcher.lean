import Waystation.Bytes
/-!
Looking for earlier occurrences. Places where three bytes hash alike are chained, newest first; a
search follows the chain from the current place for a bounded number of steps and keeps the nearest
of the longest occurrences it meets. Chains hold places modulo 2^16, and zero ends a chain.
-/
namespace Waystation.Gzip

/-- The shortest and the longest copy, and how far back a copy may reach. -/
def minMatch : Nat := 3

/-- The longest copy. -/
def maxMatch : Nat := 258

/-- How far back a copy may reach. -/
def windowSize : Nat := 32768

/-- How many rounds of three steps a search takes, for a short and for a long match in hand. -/
def shortProbes : Nat := 257
def longProbes : Nat := 65

/-- The chains: the newest place of each hash, and for each place in the window the one before. -/
structure Chains where
  heads : Array Nat := Array.replicate 32768 0
  links : Array Nat := Array.replicate 32768 0
  /-- The first place not yet chained. -/
  upTo : Nat := 0

/-- The hash of the three bytes from `i` on. -/
def hashAt (input : Array UInt8) (i : Nat) : Nat :=
  let a := (input.getD i 0).toNat
  let b := (input.getD (i + 1) 0).toNat
  let c := (input.getD (i + 2) 0).toNat
  ((a <<< 10) ^^^ (b <<< 5) ^^^ c) % 32768

/-- Chains the next `count` places. -/
def Chains.extend (input : Array UInt8) : (count : Nat) → Chains → Chains
  | 0, c => c
  | count + 1, ⟨heads, links, i⟩ =>
    let h := hashAt input i
    let links := links.setIfInBounds (i % windowSize) (heads.getD h 0)
    Chains.extend input count ⟨heads.setIfInBounds h (i % 65536), links, i + 1⟩

/-- How many bytes from `i` on equal those from `j` on, at most `most`. -/
def commonLength (input : Array UInt8) : (most i j count : Nat) → Nat
  | 0, _, _, count => count
  | most + 1, i, j, count =>
    if input[i]? = input[j]? then commonLength input most (i + 1) (j + 1) (count + 1) else count

/-- A match: how far back and how long. Distance zero stands for none. -/
structure Match where
  distance : Nat
  length : Nat
  deriving Repr, DecidableEq

/-- Do two bytes from `i` on equal those from `j` on? -/
def samePair (input : Array UInt8) (i j : Nat) : Bool :=
  input[i]? = input[j]? && input[i + 1]? = input[j + 1]?

/-- Follows the chain. `steps` counts what is left of the rounds of three; a round also ends at a
place that might give a longer match. -/
def search (input : Array UInt8) (links : Array Nat) (pos maxDistance maxLength : Nat) :
    (fuel rounds steps place : Nat) → Match → Match
  | 0, _, _, _, best => best
  | fuel + 1, rounds, steps, place, best =>
    -- a new round
    if steps = 0 ∧ rounds ≤ 1 then best
    else
      let rounds := if steps = 0 then rounds - 1 else rounds
      let steps := if steps = 0 then 3 else steps
      let next := links.getD place 0
      let distance := (pos + 65536 - next) % 65536
      if next = 0 ∨ maxDistance < distance then best
      else
        let place := next % windowSize
        let start := pos - distance
        let probe := samePair input (start + best.length - 1) (pos + best.length - 1)
        if !probe then
          search input links pos maxDistance maxLength fuel rounds (steps - 1) place best
        else if distance = 0 then best
        else if !samePair input start pos then
          search input links pos maxDistance maxLength fuel rounds 0 place best
        else
          let length := commonLength input maxLength pos start 0
          if best.length < length then
            if length = maxLength then ⟨distance, length⟩
            else search input links pos maxDistance maxLength fuel rounds 0 place ⟨distance, length⟩
          else search input links pos maxDistance maxLength fuel rounds 0 place best

/-- The best match at `pos` that is longer than `inHand`, or distance zero. -/
def findMatch (input : Array UInt8) (c : Chains) (pos maxDistance maxLength inHand : Nat) : Match :=
  if maxLength ≤ inHand then ⟨0, inHand⟩
  else
    let rounds := if inHand < 32 then shortProbes else longProbes
    search input c.links pos maxDistance maxLength (3 * rounds + 3) rounds 0 (pos % windowSize)
      ⟨0, inHand⟩

end Waystation.Gzip
