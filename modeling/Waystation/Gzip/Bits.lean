import Waystation.Bytes
/-!
Bit strings, lowest bit of each byte first, and numbers packed into them lowest bit first. Packing
bits fills the last byte with zeros; reading the bytes back gives the bits and that filling.
-/
namespace Waystation.Gzip

attribute [local instance (10000)] instPowNat

/-- The lowest `width` bits of a number, lowest first. -/
def bitsOfNat : (width : Nat) → Nat → List Bool
  | 0, _ => []
  | width + 1, n => (n % 2 == 1) :: bitsOfNat width (n / 2)

/-- The number that bits spell, lowest first. -/
def natOfBits : List Bool → Nat
  | [] => 0
  | b :: bs => b.toNat + 2 * natOfBits bs

/-- The bits of a byte string. -/
def bitsOfBytes (bs : Bytes) : List Bool := bs.flatMap fun b => bitsOfNat 8 b.toNat

/-- Bits in bytes, the last byte filled with zeros. `done` holds the bytes so far, last first. -/
def packOnto : List Bool → (done : Bytes) → Bytes
  | b₀ :: b₁ :: b₂ :: b₃ :: b₄ :: b₅ :: b₆ :: b₇ :: rest, done =>
    packOnto rest (UInt8.ofNat (natOfBits [b₀, b₁, b₂, b₃, b₄, b₅, b₆, b₇]) :: done)
  | [], done => done.reverse
  | bits, done => (UInt8.ofNat (natOfBits bits) :: done).reverse

/-- Bits in bytes, the first in the lowest place; the last byte is filled up with zeros. -/
def pack (bits : List Bool) : Bytes := packOnto bits []

/-- The whole bytes behind the byte that the next bit stands in. -/
def alignedBytes (bits : List Bool) : Bytes := pack (bits.drop (bits.length % 8))

/-- The number in the next `width` bits, and the bits behind it. -/
def takeNat : (width : Nat) → List Bool → Option (Nat × List Bool)
  | 0, bits => some (0, bits)
  | _ + 1, [] => none
  | width + 1, b :: bits => (takeNat width bits).map fun (n, rest) => (b.toNat + 2 * n, rest)

theorem natOfBits_bitsOfNat (width n : Nat) : natOfBits (bitsOfNat width n) = n % 2 ^ width := by
  induction width generalizing n with
  | zero => simp [bitsOfNat, natOfBits, Nat.mod_one]
  | succ width ih =>
    have h : (n % 2 == 1).toNat = n % 2 := by
      rcases Nat.mod_two_eq_zero_or_one n with h | h <;> simp [h]
    rw [bitsOfNat, natOfBits, ih, h, Nat.pow_succ, Nat.mul_comm (2 ^ width) 2, Nat.mod_mul]

theorem length_bitsOfNat (width n : Nat) : (bitsOfNat width n).length = width := by
  induction width generalizing n with
  | zero => rfl
  | succ width ih => simp [bitsOfNat, ih]

end Waystation.Gzip
