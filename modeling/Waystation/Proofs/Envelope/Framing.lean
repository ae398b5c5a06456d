import Waystation.Proofs.Envelope.Fit
/-!
Frames and plain forms. No flag says whether a blob is compressed: its first byte does. The low three
bits of the first byte of a message are the wire type of its first field, whatever form the key has,
and those of a frame name none; so what a reader takes for a frame is no plain form of anything, and
framing a plain form does not change what is read.
-/
namespace Waystation

open Wire

namespace Wire

/-- The low bits of a number are those of its first byte, in all of its forms. -/
theorem mod_of_readVarint {b : UInt8} {bs rest : Bytes} {n : Nat}
    (h : readVarint (b :: bs) = some (n, rest)) : n % 8 = b.toNat % 8 := by
  simp only [readVarint, readVarintWithin] at h
  split at h
  · split at h
    · cases h
    · obtain ⟨rfl, -⟩ := Prod.mk.inj (Option.some.inj h)
      rfl
  next hmore =>
    obtain ⟨⟨high, tail⟩, -, heq⟩ := Option.map_eq_some_iff.1 h
    obtain ⟨rfl, -⟩ := Prod.mk.inj heq
    have hbit : 128 ≤ b.toNat := by simpa [UInt8.lt_iff_toNat_lt] using hmore
    omega

theorem toNat_of_ofNat? {n : Nat} {t : WireType} (h : WireType.ofNat? n = some t) :
    t.toNat = n := by
  unfold WireType.ofNat? at h
  split at h <;> cases h <;> rfl

/-- The first byte of a field tells its wire type. -/
theorem toNat_of_readKey {b : UInt8} {bs rest : Bytes} {number : Nat} {t : WireType}
    (h : readKey (b :: bs) = .ok ((number, t), rest)) : t.toNat = b.toNat % 8 := by
  rw [readKey] at h
  split at h
  · cases h
  next key tail hread =>
    split at h
    · cases h
    · split at h
      · cases h
      next t' ht =>
        split at h
        · cases h
        · obtain ⟨hkey, -⟩ := Prod.mk.inj (Except.ok.inj h)
          obtain ⟨-, rfl⟩ := Prod.mk.inj hkey
          rw [toNat_of_ofNat? ht, mod_of_readVarint hread]

theorem not_beginsLikeFrame_of_readKey {bs rest : Bytes} {number : Nat} {t : WireType}
    (h : readKey bs = .ok ((number, t), rest)) : ¬beginsLikeFrame bs := by
  cases bs with
  | nil => exact not_beginsLikeFrame_nil
  | cons b bs =>
    intro hframe
    obtain rfl : b = 0x1f := Option.some.inj hframe
    have hseven : t.toNat = 7 := toNat_of_readKey h
    have ht : t.toNat < 6 := by cases t <;> decide
    omega

end Wire

namespace Envelope

/-- A plain form is empty or begins with the key of a field. -/
theorem readKey_of_decodePlain {bs : Bytes} {e : Envelope} (h : decodePlain bs = .ok e) :
    bs = [] ∨ ∃ key, readKey bs = .ok key := by
  cases bs with
  | nil => exact .inl rfl
  | cons b bs =>
    refine .inr ?_
    cases hkey : readKey (b :: bs) with
    | ok key => exact ⟨key, rfl⟩
    | error fault =>
      simp [decodePlain, readMessage, mergeFields, mergeField, hkey, bind, Except.bind] at h

theorem isCompressed_of_decodePlain {bs : Bytes} {e : Envelope} (h : decodePlain bs = .ok e) :
    isCompressed bs = false := by
  rw [Bool.eq_false_iff]
  intro hcompressed
  have hframe := beginsLikeFrame_of_isCompressed hcompressed
  rcases readKey_of_decodePlain h with rfl | ⟨⟨⟨number, t⟩, rest⟩, hkey⟩
  · exact not_beginsLikeFrame_nil hframe
  · exact not_beginsLikeFrame_of_readKey hkey hframe

/-- Framing is unambiguous. Whatever a reader of plain forms takes is not taken for a frame, all frames
are, and a plain form is read the same with a frame around it as without, as long as it is within the
limit for frames. -/
theorem decode_unambiguous (bs : Bytes) :
    isCompressed (Gzip.compress bs) = true
      ∧ ∀ e, decodePlain bs = .ok e →
        isCompressed bs = false
          ∧ decode bs = .ok e
          ∧ decode (Gzip.compress bs)
            = if bs.length ≤ maxInflatedSize then decode bs
              else .error (.inflatedTooLarge maxInflatedSize) := by
  refine ⟨isCompressed_compress bs, fun e hplain => ?_⟩
  have hcompressed := isCompressed_of_decodePlain hplain
  have hdecode : decode bs = .ok e := by
    rw [decode_of_plain hcompressed, hplain]
    rfl
  refine ⟨hcompressed, hdecode, ?_⟩
  rw [decode_compress, decode_of_plain hcompressed]

/-- No writer makes this: the last of two request ids, a type and its key in longer forms than needed,
and a group that nobody knows. -/
def irregular : Bytes :=
  [0x0a, 0x01, 0x61, 0x33, 0x08, 0x05, 0x34, 0xa8, 0x00, 0x82, 0x80, 0x00, 0x0a, 0x01, 0x62]

theorem decode_irregular :
    decodePlain irregular = .ok { requestId := "b", messageType := 2 }
      ∧ decode (Gzip.compress irregular) = .ok { requestId := "b", messageType := 2 } := by
  have hplain : decodePlain irregular = .ok { requestId := "b", messageType := 2 } := by
    rfl
  obtain ⟨-, hdecode, hframed⟩ := (decode_unambiguous irregular).2 _ hplain
  rw [if_pos (by decide), hdecode] at hframed
  exact ⟨hplain, hframed⟩

end Envelope
end Waystation
