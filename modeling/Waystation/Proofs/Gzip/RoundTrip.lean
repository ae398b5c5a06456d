import Waystation.Gzip.Member
import Waystation.Proofs.Gzip.Follow
import Waystation.Proofs.Gzip.Runs
/-!
Members read back: what is compressed inflates to its input under every limit that allows the input,
and is refused as too large under every other one.
-/
namespace Waystation.Gzip

/-- The checksum and the length behind the deflated input. -/
def trailer (input : Bytes) : Bytes :=
  Bytes.ofWord32 (crc32 input) ++ Bytes.ofWord32 (UInt32.ofNat input.length)

theorem length_trailer (input : Bytes) : (trailer input).length = 8 := rfl

theorem compress_eq (input : Bytes) :
    compress input = writtenHeader ++ (deflate input ++ trailer input) := by
  simp [compress, trailer]

theorem skipHeader_written (rest : Bytes) : skipHeader (writtenHeader ++ rest) = .ok rest := by
  have htake : takeBytes 10 (writtenHeader ++ rest) = .ok (writtenHeader, rest) := by
    simp [takeBytes, writtenHeader, magic]
  rw [skipHeader, htake]
  rfl

theorem checkTrailer_trailer (input : Bytes) : checkTrailer input (trailer input) = .ok () := by
  have htake : takeBytes 8 (trailer input) = .ok (trailer input, []) := rfl
  rw [checkTrailer, htake]
  exact if_pos rfl

/-- Behind the bits that a stream leaves of its last byte stands the trailer. -/
theorem alignedBytes_append (left : List Bool) (hleft : left.length < 8) (bs : Bytes) :
    alignedBytes (left ++ bitsOfBytes bs) = bs := by
  have hmod : (left ++ bitsOfBytes bs).length % 8 = left.length := by
    rw [List.length_append, length_bitsOfBytes]
    omega
  rw [alignedBytes, hmod, List.drop_left, pack_bitsOfBytes]

theorem lt_capFor (limit : Nat) : limit < capFor limit := by
  have h := Nat.div_add_mod limit window
  have hmod : limit % window < window := Nat.mod_lt limit (by decide)
  rw [capFor, Nat.mul_add]
  omega

theorem decompress?_compress (limit : Nat) (input : Bytes) :
    decompress? limit (compress input)
      = .ok (if input.length ≤ limit then some input else none) := by
  obtain ⟨left, hleft, hinflate⟩ := inflate_deflate input
  have hmore : 8 ∣ (bitsOfBytes (trailer input)).length := ⟨8, by simp [length_trailer]⟩
  rw [compress_eq, decompress?, skipHeader_written]
  simp only [bind, Except.bind, bitsOfBytes_append]
  rcases inflate_append hinflate hmore (capFor limit) with h | ⟨hcap, h⟩
  · rw [h]
    by_cases hlimit : input.length ≤ limit
    · have hsize : ¬limit < (Inflating.before ⟨left, input.toArray⟩
          (bitsOfBytes (trailer input))).out.size := by
        simpa [Inflating.before] using hlimit
      simp only [if_neg hsize, if_pos hlimit]
      simp only [Inflating.before, alignedBytes_append left hleft, checkTrailer_trailer]
      rfl
    · have hsize : limit < (Inflating.before ⟨left, input.toArray⟩
          (bitsOfBytes (trailer input))).out.size := by
        simpa [Inflating.before] using hlimit
      simp only [if_pos hsize, if_neg hlimit]
      rfl
  · have hlimit : ¬input.length ≤ limit := by
      have := lt_capFor limit
      omega
    rw [h, if_neg hlimit]
    rfl

end Waystation.Gzip
