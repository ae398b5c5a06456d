import Waystation.Bytes
/-!
Base-128 numbers: seven bits a byte, lowest first, the high bit set on every byte but the last. A
reader takes at most ten bytes and 64 bits. Reading what was written gives the number back.
-/
namespace Waystation.Wire

attribute [local instance (10000)] instPowNat

/-- The shortest base-128 form of a number. -/
def writeVarint (n : Nat) : Bytes :=
  if n < 128 then [UInt8.ofNat n] else UInt8.ofNat (n % 128 + 128) :: writeVarint (n / 128)
termination_by n
decreasing_by omega

/-- Reads a base-128 number of at most `left` bytes; the tenth byte carries the last bit of 64. -/
def readVarintWithin : Nat → Bytes → Option (Nat × Bytes)
  | 0, _ => none
  | _ + 1, [] => none
  | left + 1, b :: rest =>
    if b < 128 then
      if left = 0 ∧ 2 ≤ b then none else some (b.toNat, rest)
    else (readVarintWithin left rest).map fun (n, tail) => (b.toNat - 128 + 128 * n, tail)

/-- Reads a number of at most 64 bits; gives it and the bytes behind it. -/
def readVarint (bs : Bytes) : Option (Nat × Bytes) := readVarintWithin 10 bs

theorem readVarintWithin_write (left n : Nat) (rest : Bytes) (hn : n < 2 ^ (7 * left + 1)) :
    readVarintWithin (left + 1) (writeVarint n ++ rest) = some (n, rest) := by
  induction left generalizing n with
  | zero =>
    have : n < 2 := by simpa using hn
    rw [writeVarint, if_pos (by omega)]
    rcases n with _ | _ | n
    · rfl
    · rfl
    · omega
  | succ left ih =>
    rw [writeVarint]
    split
    next h =>
      have hb : (UInt8.ofNat n).toNat = n := by simp; omega
      have hlt : UInt8.ofNat n < 128 := by rw [UInt8.lt_iff_toNat_lt, hb]; exact h
      simp [readVarintWithin, hlt, hb]
    next h =>
      have hb : (UInt8.ofNat (n % 128 + 128)).toNat = n % 128 + 128 := by simp; omega
      have hlt : ¬ UInt8.ofNat (n % 128 + 128) < 128 := by
        rw [UInt8.lt_iff_toNat_lt, hb]; simp
      have hdiv : n / 128 < 2 ^ (7 * left + 1) := by
        have : 2 ^ (7 * (left + 1) + 1) = 128 * 2 ^ (7 * left + 1) := by
          rw [show 7 * (left + 1) + 1 = 7 + (7 * left + 1) by omega, Nat.pow_add]
        omega
      simp only [List.cons_append, readVarintWithin, if_neg hlt, ih _ hdiv, Option.map_some, hb]
      have : n % 128 + 128 - 128 + 128 * (n / 128) = n := by omega
      rw [this]

theorem readVarint_write (n : Nat) (rest : Bytes) (hn : n < UInt64.size) :
    readVarint (writeVarint n ++ rest) = some (n, rest) :=
  readVarintWithin_write 9 n rest (by simpa using hn)

end Waystation.Wire
