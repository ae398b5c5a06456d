import Waystation.Gzip.Bits
/-!
Bytes as bits and bits as bytes. Packing the bits of bytes gives these bytes back, and the bits of
packed bits are these bits with zeros behind them, fewer than a byte.
-/
namespace Waystation.Gzip

attribute [local instance (10000)] instPowNat

@[simp] theorem bitsOfBytes_nil : bitsOfBytes [] = [] := rfl

@[simp] theorem bitsOfBytes_append (xs ys : Bytes) :
    bitsOfBytes (xs ++ ys) = bitsOfBytes xs ++ bitsOfBytes ys := by
  simp [bitsOfBytes]

theorem bitsOfBytes_cons (b : UInt8) (bs : Bytes) :
    bitsOfBytes (b :: bs) = bitsOfNat 8 b.toNat ++ bitsOfBytes bs := by
  simp [bitsOfBytes]

@[simp] theorem length_bitsOfBytes (bs : Bytes) : (bitsOfBytes bs).length = 8 * bs.length := by
  induction bs with
  | nil => rfl
  | cons b bs ih =>
    rw [bitsOfBytes_cons, List.length_append, length_bitsOfNat, ih, List.length_cons]
    omega

theorem natOfBits_lt (bits : List Bool) : natOfBits bits < 2 ^ bits.length := by
  induction bits with
  | nil => simp [natOfBits]
  | cons b bits ih =>
    have hb : b.toNat ≤ 1 := Bool.toNat_le b
    rw [natOfBits, List.length_cons, Nat.pow_succ]
    omega

theorem natOfBits_lt_256 {bits : List Bool} (h : bits.length ≤ 8) : natOfBits bits < 256 := by
  calc natOfBits bits < 2 ^ bits.length := natOfBits_lt bits
    _ ≤ 2 ^ 8 := Nat.pow_le_pow_right (by omega) h

/-- The bits of a number spelled by bits are these, filled up with zeros. -/
theorem bitsOfNat_natOfBits {width : Nat} {bits : List Bool} (h : bits.length ≤ width) :
    bitsOfNat width (natOfBits bits) = bits ++ List.replicate (width - bits.length) false := by
  induction width generalizing bits with
  | zero =>
    obtain rfl : bits = [] := List.length_eq_zero_iff.1 (by omega)
    rfl
  | succ width ih =>
    cases bits with
    | nil =>
      have hz := @ih [] (by simp)
      simp only [natOfBits, List.nil_append, List.length_nil, Nat.sub_zero] at hz
      simp [natOfBits, bitsOfNat, hz, List.replicate_succ]
    | cons b bits =>
      have hlow : (b.toNat + 2 * natOfBits bits) % 2 = b.toNat := by
        have hb : b.toNat ≤ 1 := Bool.toNat_le b
        omega
      have hhigh : (b.toNat + 2 * natOfBits bits) / 2 = natOfBits bits := by
        have hb : b.toNat ≤ 1 := Bool.toNat_le b
        omega
      have hbit : (b.toNat == 1) = b := by cases b <;> rfl
      have hlen : bits.length ≤ width := by simpa using h
      rw [natOfBits, bitsOfNat, hlow, hhigh, hbit, ih hlen]
      simp

theorem bitsOfNat_byte {bits : List Bool} (h : bits.length ≤ 8) :
    bitsOfNat 8 (UInt8.ofNat (natOfBits bits)).toNat
      = bits ++ List.replicate (8 - bits.length) false := by
  rw [UInt8.toNat_ofNat_of_lt' (natOfBits_lt_256 h), bitsOfNat_natOfBits h]

/-- The zeros that fill bits up to whole bytes. -/
def filling (bits : List Bool) : List Bool := List.replicate ((8 - bits.length % 8) % 8) false

theorem length_filling_lt (bits : List Bool) : (filling bits).length < 8 := by
  simp [filling, Nat.mod_lt]

theorem bitsOfBytes_packOnto (bits : List Bool) (done : Bytes) :
    bitsOfBytes (packOnto bits done) = bitsOfBytes done.reverse ++ (bits ++ filling bits) := by
  fun_induction packOnto bits done with
  | case1 b₀ b₁ b₂ b₃ b₄ b₅ b₆ b₇ rest done ih =>
    have hbyte : bitsOfNat 8 (UInt8.ofNat (natOfBits [b₀, b₁, b₂, b₃, b₄, b₅, b₆, b₇])).toNat
        = [b₀, b₁, b₂, b₃, b₄, b₅, b₆, b₇] := by
      simpa using @bitsOfNat_byte [b₀, b₁, b₂, b₃, b₄, b₅, b₆, b₇] (by simp)
    have hfill : filling (b₀ :: b₁ :: b₂ :: b₃ :: b₄ :: b₅ :: b₆ :: b₇ :: rest) = filling rest := by
      simp [filling, Nat.add_assoc]
    rw [ih, hfill, List.reverse_cons, bitsOfBytes_append, bitsOfBytes_cons, hbyte]
    simp
  | case2 done => simp [filling]
  | case3 bits done hlong hne =>
    have hlen : bits.length < 8 := by
      match bits with
      | [] | [_] | [_, _] | [_, _, _] | [_, _, _, _] | [_, _, _, _, _] | [_, _, _, _, _, _]
      | [_, _, _, _, _, _, _] => simp
      | a :: b :: c :: d :: e :: f :: g :: h :: rest => exact absurd rfl (hlong a b c d e f g h rest)
    have hpos : 0 < bits.length := List.length_pos_iff.2 hne
    have hfill : filling bits = List.replicate (8 - bits.length) false := by
      have : (8 - bits.length % 8) % 8 = 8 - bits.length := by omega
      rw [filling, this]
    rw [List.reverse_cons, bitsOfBytes_append, bitsOfBytes_cons,
      bitsOfNat_byte (Nat.le_of_lt hlen), hfill]
    simp

/-- Bits read back from packed bytes are followed by the filling. -/
theorem bitsOfBytes_pack (bits : List Bool) : bitsOfBytes (pack bits) = bits ++ filling bits := by
  simp [pack, bitsOfBytes_packOnto]

theorem packOnto_bitsOfBytes (bs done : Bytes) :
    packOnto (bitsOfBytes bs) done = done.reverse ++ bs := by
  induction bs generalizing done with
  | nil => simp [packOnto]
  | cons b bs ih =>
    have hbyte : UInt8.ofNat (natOfBits (bitsOfNat 8 b.toNat)) = b := by
      rw [natOfBits_bitsOfNat, Nat.mod_eq_of_lt b.toNat_lt, UInt8.ofNat_toNat]
    rw [bitsOfBytes_cons]
    simp only [bitsOfNat, List.cons_append, List.nil_append] at hbyte ⊢
    rw [packOnto, hbyte, ih]
    simp

/-- Packing the bits of bytes gives these bytes. -/
@[simp] theorem pack_bitsOfBytes (bs : Bytes) : pack (bitsOfBytes bs) = bs := by
  simp [pack, packOnto_bitsOfBytes]

theorem length_pack (bits : List Bool) : (pack bits).length = (bits.length + 7) / 8 := by
  have h := congrArg List.length (bitsOfBytes_pack bits)
  rw [length_bitsOfBytes, List.length_append] at h
  simp only [filling, List.length_replicate] at h
  omega

end Waystation.Gzip
