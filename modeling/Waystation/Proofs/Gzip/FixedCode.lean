import Waystation.Gzip.Deflate
/-!
The words of the fixed code: every symbol has one, and none is longer than nine bits.
-/
namespace Waystation.Gzip

/-- Every symbol of the fixed code has a word, of at most nine bits. -/
theorem fixed_words :
    ∀ s < 288, (fixedLiterals.word? s).any (fun w => 0 < w.length && w.length ≤ 9) = true := by
  decide +kernel

theorem fixed_distance_word : fixedDistances.word? 0 = some (List.replicate 5 false) := by
  decide +kernel

theorem wordsOf_getD {lengths : Array Nat} {s : Nat} {w : List Bool} (hs : s < lengths.size)
    (hw : (canonicalTree lengths.toList).word? s = some w) : (wordsOf lengths).getD s [] = w := by
  simp [wordsOf, Array.getD, hs, hw]

theorem fixed_word {s : Nat} (hs : s < 288) :
    fixedLiterals.word? s = some (fixedWords.literals.getD s [])
      ∧ 0 < (fixedWords.literals.getD s []).length
      ∧ (fixedWords.literals.getD s []).length ≤ 9 := by
  have h := fixed_words s hs
  cases hw : fixedLiterals.word? s with
  | none => simp [hw] at h
  | some w =>
    have hsize : fixedLengths.toArray.size = 288 := by
      simp only [fixedLengths, List.size_toArray, List.length_append, List.length_replicate]
    have hget : fixedWords.literals.getD s [] = w := wordsOf_getD (hsize ▸ hs) hw
    rw [hget]
    simpa [hw] using h

theorem fixed_distance : fixedWords.distances.getD 0 [] = List.replicate 5 false :=
  wordsOf_getD (by simp) fixed_distance_word

theorem bits_again :
    Token.again.bits fixedWords = fixedWords.literals.getD 285 [] ++ List.replicate 5 false := by
  have hlongest : rowFor lengthTable maxMatch = 28 := by decide +kernel
  have hrow : lengthRows.getD maxMatch 0 = 28 := by
    simpa [lengthRows, maxMatch, Array.getD] using hlongest
  have hdistance : distanceRow 1 = 0 := by decide +kernel
  have hlength : lengthTable.getD 28 (0, 0) = (maxMatch, 0) := rfl
  have hone : distanceTable.getD 0 (0, 0) = (1, 0) := rfl
  rw [Token.again, Token.bits, hrow, hdistance]
  simp only [hlength, hone, fixed_distance, bitsOfNat, List.append_nil]

/-- A token of runs takes at least one bit and at most fourteen. -/
theorem length_bits_literal (b : UInt8) :
    0 < (Token.bits fixedWords (.literal b)).length
      ∧ (Token.bits fixedWords (.literal b)).length ≤ 14 := by
  have h := (fixed_word (s := b.toNat) (Nat.lt_trans b.toNat_lt (by decide))).2
  simp only [Token.bits]
  omega

theorem length_bits_again :
    0 < (Token.again.bits fixedWords).length ∧ (Token.again.bits fixedWords).length ≤ 14 := by
  have h := (fixed_word (s := 285) (by decide)).2
  rw [bits_again, List.length_append, List.length_replicate]
  omega

end Waystation.Gzip
