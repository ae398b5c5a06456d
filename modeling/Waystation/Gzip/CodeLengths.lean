import Waystation.Gzip.Huffman
/-!
Code lengths from symbol counts: Huffman's construction, then lengths above a maximum cut down to
it, with shorter words lengthened until the code fits again. Common symbols get short words; of
equally common ones the one with the larger number does.
-/
namespace Waystation.Gzip

attribute [local instance (10000)] instPowNat

/-- The shape of a Huffman tree. -/
inductive Shape
  | leaf
  | node (left right : Shape)

/-- The lightest of the remaining leaves and joints, a leaf if it is no heavier than the first
joint. -/
def takeLightest : List Nat → List (Nat × Shape) →
    Option ((Nat × Shape) × List Nat × List (Nat × Shape))
  | [], [] => none
  | l :: leaves, [] => some ((l, .leaf), leaves, [])
  | [], j :: joints => some (j, [], joints)
  | l :: leaves, j :: joints =>
    if j.1 < l then some (j, l :: leaves, joints) else some ((l, .leaf), leaves, j :: joints)

/-- Joins the two lightest until one is left. Both lists are in ascending order. -/
def joinLightest : (fuel : Nat) → List Nat → List (Nat × Shape) → Option Shape
  | 0, _, _ => none
  | fuel + 1, leaves, joints =>
    match takeLightest leaves joints with
    | none => none
    | some (a, leaves, joints) =>
      match takeLightest leaves joints with
      | none => some a.2
      | some (b, leaves, joints) =>
        joinLightest fuel leaves (joints ++ [(a.1 + b.1, .node a.2 b.2)])

/-- Counts the leaves of a tree by depth. -/
def Shape.countDepths : Shape → (depth : Nat) → Array Nat → Array Nat
  | leaf, depth, counts => counts.modify depth (· + 1)
  | node l r, depth, counts => r.countDepths (depth + 1) (l.countDepths (depth + 1) counts)

/-- One word of the greatest length is dropped, and the longest shorter word is replaced by two that
are one bit longer, until the words fill the space of words of the greatest length. -/
def shorten (maxLength : Nat) : (excess : Nat) → Array Nat → Array Nat
  | 0, counts => counts
  | excess + 1, counts =>
    let counts := counts.modify maxLength (· - 1)
    match (List.range (maxLength - 1)).reverse.find? fun i => counts.getD (i + 1) 0 ≠ 0 with
    | some i => shorten maxLength excess ((counts.modify (i + 1) (· - 1)).modify (i + 2) (· + 2))
    | none => shorten maxLength excess counts

/-- How many words of each length there are once no length exceeds a maximum. -/
def limitLengths (maxLength : Nat) (counts : Array Nat) : Array Nat :=
  let long := (counts.toList.drop (maxLength + 1)).foldl (· + ·) 0
  let counts := (counts.toList.take (maxLength + 1)).toArray.modify maxLength (· + long)
  let space (i : Nat) : Nat := counts.getD (i + 1) 0 * 2 ^ (maxLength - 1 - i)
  let used := (List.range maxLength).foldl (fun n i => n + space i) 0
  shorten maxLength (used - 2 ^ maxLength) counts

/-- The code lengths for symbol counts; a symbol that does not occur has length zero. -/
def codeLengths (maxLength : Nat) (counts : Array Nat) : Array Nat :=
  let used := (List.range counts.size).filter fun s => counts.getD s 0 ≠ 0
  let sorted := used.mergeSort fun a b => counts.getD a 0 ≤ counts.getD b 0
  let none := Array.replicate counts.size 0
  match sorted with
  | [] => none
  | [s] => none.setIfInBounds s 1
  | _ =>
    let shape := (joinLightest sorted.length (sorted.map fun s => counts.getD s 0) []).getD .leaf
    let depths := limitLengths maxLength
      (shape.countDepths 0 (Array.replicate (sorted.length + maxLength + 1) 0))
    let lengths := (List.range maxLength).flatMap fun i =>
      List.replicate (depths.getD (i + 1) 0) (i + 1)
    (sorted.reverse.zip lengths).foldl (fun a (s, n) => a.setIfInBounds s n) none

end Waystation.Gzip
