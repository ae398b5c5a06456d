import Waystation.Proofs.Gzip.Bits
import Waystation.Proofs.Gzip.FixedCode
/-!
Streams of runs: they inflate to their input, and they are short for an input that repeats itself.
Whatever is deflated inherits both from them.
-/
namespace Waystation.Gzip

/-! Reading single tokens. -/

namespace Inflating

theorem decode_word {t : Tree} {n : Nat} {w : List Bool} (hw : t.word? n = some w)
    (rest : List Bool) (out : Array UInt8) :
    decode ⟨w ++ rest, out⟩ t = .ok (n, ⟨rest, out⟩) := by
  simp [decode, Tree.decode_word hw]

theorem decode_literal {n : Nat} (hn : n < 288) (rest : List Bool) (out : Array UInt8) :
    decode ⟨fixedWords.literals.getD n [] ++ rest, out⟩ fixedLiterals = .ok (n, ⟨rest, out⟩) :=
  decode_word (fixed_word hn).1 rest out

theorem push_of_lt {cap : Nat} {s : Inflating} (h : s.out.size < cap) (b : UInt8) :
    s.push cap b = .ok { s with out := s.out.push b } := by
  rw [push, if_neg (by omega)]

theorem push_append (out : Array UInt8) (b : UInt8) (bs : Bytes) :
    out.push b ++ bs.toArray = out ++ (b :: bs).toArray := by
  apply Array.ext'
  simp

/-- Copying from one byte back repeats the last byte. -/
theorem copy_again {cap : Nat} {b : UInt8} (count : Nat) (bits : List Bool) {out : Array UInt8}
    (hlast : out.back? = some b) (hcap : out.size + count ≤ cap) :
    copy cap 1 count ⟨bits, out⟩ = .ok ⟨bits, out ++ (List.replicate count b).toArray⟩ := by
  induction count generalizing out with
  | zero => simp [copy]
  | succ count ih =>
    have hpos : 0 < out.size := by
      rcases Nat.eq_zero_or_pos out.size with h | h
      · simp [Array.eq_empty_of_size_eq_zero h] at hlast
      · exact h
    have hbyte : out.getD (out.size - 1) 0 = b := by
      rw [Array.back?] at hlast
      simp [Array.getD_eq_getD_getElem?, hlast]
    have hpush : push cap ⟨bits, out⟩ b = .ok ⟨bits, out.push b⟩ :=
      push_of_lt (show out.size < cap by omega) b
    have hrest := @ih (out.push b) Array.back?_push (by rw [Array.size_push]; omega)
    rw [copy, if_neg (by simp only; omega), hbyte, hpush]
    simp only [bind, Except.bind, hrest, push_append, List.replicate_succ]

theorem back?_append_run (out : Array UInt8) (b : UInt8) (n : Nat) :
    (out ++ (List.replicate (n + 1) b).toArray).back? = some b := by
  simp [Array.back?_append, Array.back?_replicate]

theorem toArray_run (b : UInt8) (n : Nat) (others : Bytes) :
    (b :: (List.replicate n b ++ others)).toArray
      = (List.replicate (n + 1) b).toArray ++ others.toArray := by
  apply Array.ext'
  simp [List.replicate_succ]

theorem extended_again (bits : List Bool) (out : Array UInt8) :
    extended ⟨bits, out⟩ lengthTable (285 - 257) = .ok (maxMatch, ⟨bits, out⟩) := rfl

theorem extended_one (bits : List Bool) (out : Array UInt8) :
    extended ⟨bits, out⟩ distanceTable 0 = .ok (1, ⟨bits, out⟩) := rfl

/-- Runs read back are the input they were made of. -/
theorem symbols_runTokens {cap : Nat} (last : Option UInt8) (input : Bytes) {fuel : Nat}
    {out : Array UInt8} (rest : List Bool) (hlast : last = none ∨ out.back? = last)
    (hcap : out.size + input.length ≤ cap) (hfuel : (runTokens last input).length < fuel) :
    symbols cap fixedLiterals fixedDistances fuel
        ⟨tokenBits fixedWords (runTokens last input) ++ rest, out⟩
      = .ok ⟨rest, out ++ input.toArray⟩ := by
  fun_induction runTokens last input generalizing fuel out with
  | case1 last =>
    obtain ⟨fuel, rfl⟩ := Nat.exists_eq_add_one_of_ne_zero (Nat.ne_of_gt hfuel)
    rw [tokenBits, symbols, List.flatMap_nil, List.nil_append, decode_literal (by decide)]
    simp [endOfBlock, bind, Except.bind, pure, Except.pure]
  | case2 last b tail hrun ih =>
    obtain ⟨hb, hstart⟩ := hrun
    obtain ⟨fuel, rfl⟩ := Nat.exists_eq_add_one_of_ne_zero (Nat.ne_of_gt (Nat.zero_lt_of_lt hfuel))
    obtain ⟨others, htail⟩ := List.isPrefixOf_iff_prefix.1 hstart
    have hdrop : tail.drop (maxMatch - 1) = others := by
      rw [← htail, List.drop_left' List.length_replicate]
    have hback : out.back? = some b := by
      rcases hlast with h | h
      · simp [h] at hb
      · rw [h, hb]
    rw [hdrop] at ih hfuel ⊢
    have hlen : (b :: tail).length = maxMatch + others.length := by
      rw [← htail, List.length_cons, List.length_append, List.length_replicate]
      simp only [maxMatch]
      omega
    rw [hlen] at hcap
    rw [List.length_cons] at hfuel
    have hbits : tokenBits fixedWords (.again :: runTokens last others) ++ rest
        = fixedWords.literals.getD 285 []
          ++ (List.replicate 5 false ++ (tokenBits fixedWords (runTokens last others) ++ rest)) := by
      simp [tokenBits, bits_again]
    have hcopy := @copy_again cap b maxMatch
      (tokenBits fixedWords (runTokens last others) ++ rest) out hback (by omega)
    have hrest := @ih fuel (out ++ (List.replicate maxMatch b).toArray)
      (.inr (hb ▸ back?_append_run out b (maxMatch - 1))) (by simp; omega) (by omega)
    have hinput : (b :: tail).toArray = (List.replicate maxMatch b).toArray ++ others.toArray :=
      htail ▸ toArray_run b (maxMatch - 1) others
    rw [hbits, symbols, decode_literal (by decide)]
    simp only [bind, Except.bind, endOfBlock, extended_again, decode_word fixed_distance_word,
      extended_one, hcopy, hrest, hinput]
    simp
  | case3 last b tail hrun ih =>
    obtain ⟨fuel, rfl⟩ := Nat.exists_eq_add_one_of_ne_zero (Nat.ne_of_gt (Nat.zero_lt_of_lt hfuel))
    have hb : b.toNat < 288 := Nat.lt_trans b.toNat_lt (by decide)
    have hbits : tokenBits fixedWords (.literal b :: runTokens (some b) tail) ++ rest
        = fixedWords.literals.getD b.toNat []
          ++ (tokenBits fixedWords (runTokens (some b) tail) ++ rest) := by
      simp [tokenBits, Token.bits]
    rw [List.length_cons] at hcap hfuel
    have hrest := @ih fuel (out.push b) (.inr Array.back?_push)
      (by rw [Array.size_push]; omega) (by omega)
    have hpush : push cap ⟨tokenBits fixedWords (runTokens (some b) tail) ++ rest, out⟩ b
        = .ok ⟨tokenBits fixedWords (runTokens (some b) tail) ++ rest, out.push b⟩ :=
      push_of_lt (show out.size < cap by omega) b
    rw [hbits, symbols, decode_literal hb]
    simp only [bind, Except.bind, endOfBlock, if_pos b.toNat_lt, UInt8.ofNat_toNat, hpush, hrest,
      push_append]

end Inflating

/-! How long runs are on the wire. -/

/-- A token of runs takes at least one bit and at most fourteen. -/
theorem length_tokenBits_runTokens (last : Option UInt8) (input : Bytes) :
    (runTokens last input).length ≤ ((runTokens last input).flatMap (Token.bits fixedWords)).length
      ∧ ((runTokens last input).flatMap (Token.bits fixedWords)).length
        ≤ 14 * (runTokens last input).length := by
  fun_induction runTokens last input with
  | case1 last => simp
  | case2 last b tail hrun ih =>
    have h := length_bits_again
    simp only [List.flatMap_cons, List.length_append, List.length_cons]
    omega
  | case3 last b tail hrun ih =>
    have h := length_bits_literal b
    simp only [List.flatMap_cons, List.length_append, List.length_cons]
    omega

theorem length_tokenBits_le (input : Bytes) :
    (tokenBits fixedWords (runTokens none input)).length
      ≤ 14 * (runTokens none input).length + 9 := by
  have h := (length_tokenBits_runTokens none input).2
  have hend := (fixed_word (s := endOfBlock) (by decide)).2.2
  rw [tokenBits, List.length_append]
  omega

/-- A stream of runs inflates to its input. -/
theorem inflate_runStream {cap : Nat} {input : Bytes} (hcap : input.length ≤ cap)
    (rest : List Bool) :
    inflate cap (runStream input ++ rest) = .ok ⟨rest, input.toArray⟩ := by
  have hfuel : (runTokens none input).length
      < (tokenBits fixedWords (runTokens none input) ++ rest).length + 1 := by
    have h := (length_tokenBits_runTokens none input).1
    rw [tokenBits, List.length_append, List.length_append]
    omega
  have hsymbols := @Inflating.symbols_runTokens cap none input _ #[] rest (.inl rfl)
    (by simpa using hcap) hfuel
  have hstream : runStream input ++ rest
      = true :: true :: false :: (tokenBits fixedWords (runTokens none input) ++ rest) := by
    simp [runStream, fixedBits]
  rw [hstream, inflate, Inflating.blocks]
  simp only [Inflating.takeNat, takeNat, Option.map_some, bind, Except.bind, Inflating.compressed,
    hsymbols]
  simp [pure, Except.pure]

theorem restores_runStream (input : Bytes) : restores input (pack (runStream input)) = true := by
  have h := inflate_runStream (Nat.le_succ input.length) (filling (runStream input))
  simp [restores, bitsOfBytes_pack, h, length_filling_lt]

/-! What holds of everything deflated. -/

theorem restores_deflate (input : Bytes) : restores input (deflate input) = true := by
  simp only [deflate]
  split
  next h => exact (Bool.and_eq_true_iff.1 h).1
  next => exact restores_runStream input

theorem length_deflate_le (input : Bytes) : (deflate input).length ≤ deflateLimit input := by
  simp only [deflate]
  split
  next h => simpa using (Bool.and_eq_true_iff.1 h).2
  next =>
    have h := length_tokenBits_le input
    rw [length_pack, runStream, fixedBits, deflateLimit]
    simp only [List.length_cons, List.length_append, List.length_nil]
    omega

/-- What is deflated inflates to its input, and less than a byte is left. -/
theorem inflate_deflate (input : Bytes) :
    ∃ left : List Bool, left.length < 8 ∧
      inflate (input.length + 1) (bitsOfBytes (deflate input)) = .ok ⟨left, input.toArray⟩ := by
  have h := restores_deflate input
  unfold restores at h
  split at h
  next s hs =>
    obtain ⟨hout, hleft⟩ := Bool.and_eq_true_iff.1 h
    have hout : s.out = input.toArray := by simpa using hout
    exact ⟨s.bits, by simpa using hleft, by rw [hs, ← hout]⟩
  next => cases h

/-! How few tokens an input takes that repeats one byte. -/

theorem replicate_isPrefixOf_iff (b : UInt8) (m n : Nat) :
    (List.replicate m b).isPrefixOf (List.replicate n b) ↔ m ≤ n := by
  rw [List.isPrefixOf_iff_prefix]
  constructor
  · intro h
    simpa using h.length_le
  · intro h
    exact ⟨List.replicate (n - m) b, by rw [List.replicate_append_replicate]; congr; omega⟩

theorem length_runTokens_replicate (b : UInt8) (n : Nat) :
    (runTokens (some b) (List.replicate n b)).length = n / maxMatch + n % maxMatch := by
  induction n using Nat.strongRecOn with
  | ind n ih =>
    cases n with
    | zero => simp [runTokens]
    | succ n =>
      rw [List.replicate_succ, runTokens]
      by_cases hn : maxMatch - 1 ≤ n
      · rw [if_pos ⟨rfl, (replicate_isPrefixOf_iff b _ _).2 hn⟩, List.drop_replicate,
          List.length_cons, ih _ (by omega)]
        simp only [maxMatch] at hn ⊢
        omega
      · have hshort : ¬(some b = some b
            ∧ ((List.replicate (maxMatch - 1) b).isPrefixOf (List.replicate n b) : Prop)) :=
          fun h => hn ((replicate_isPrefixOf_iff b _ _).1 h.2)
        rw [if_neg hshort, List.length_cons, ih _ (by omega)]
        simp only [maxMatch] at hn ⊢
        omega

/-- A run costs one token for 258 bytes, whatever stands before it. -/
theorem length_runTokens_append_replicate (last : Option UInt8) (before : Bytes) (b : UInt8)
    (n : Nat) :
    (runTokens last (before ++ List.replicate n b)).length
      ≤ before.length + n / maxMatch + maxMatch := by
  induction hlen : before.length using Nat.strongRecOn generalizing last before n with
  | ind len ih =>
    cases before with
    | nil =>
      subst hlen
      have hmod : n % maxMatch < maxMatch := Nat.mod_lt n (by decide)
      by_cases hlast : last = some b
      · rw [hlast, List.nil_append, length_runTokens_replicate]
        omega
      · cases n with
        | zero => simp [runTokens]
        | succ n =>
          have hrun := length_runTokens_replicate b n
          have hmod : n % maxMatch < maxMatch := Nat.mod_lt n (by decide)
          have hdiv : n / maxMatch ≤ (n + 1) / maxMatch := Nat.div_le_div_right (by omega)
          rw [List.nil_append, List.replicate_succ, runTokens, if_neg fun h => hlast h.1]
          simp only [List.length_cons, List.length_nil]
          omega
    | cons c before =>
      rw [List.length_cons] at hlen
      rw [List.cons_append, runTokens]
      split
      · have hrest := ih (before.drop (maxMatch - 1)).length
          (by rw [List.length_drop]; omega) last (before.drop (maxMatch - 1))
          (n - (maxMatch - 1 - before.length)) rfl
        have hdiv : (n - (maxMatch - 1 - before.length)) / maxMatch ≤ n / maxMatch :=
          Nat.div_le_div_right (by omega)
        rw [List.drop_append, List.drop_replicate]
        rw [List.length_drop] at hrest
        rw [List.length_cons]
        omega
      · have hrest := ih before.length (by omega) (some c) before n rfl
        rw [List.length_cons]
        omega

end Waystation.Gzip
