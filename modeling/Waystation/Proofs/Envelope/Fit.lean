import Waystation.Envelope.Frame
import Waystation.Proofs.Envelope.RoundTrip
import Waystation.Proofs.Gzip.RoundTrip
/-!
Fitted blobs. A blob that a sender may publish is either a plain envelope or a compressed one, and
its first byte tells which. A receiver reads it back, unless it is compressed and would inflate past
the fixed limit: the sender looks at the compressed size alone, so such blobs are published, too.
-/
namespace Waystation

open Wire

attribute [local instance (10000)] instPowNat

/-! Plain envelopes and frames do not look alike. -/

/-- Does a byte string begin with the first byte of a frame? -/
def beginsLikeFrame (bs : Bytes) : Prop := bs.head? = some 0x1f

theorem not_beginsLikeFrame_nil : ¬beginsLikeFrame [] := by
  simp [beginsLikeFrame]

theorem not_beginsLikeFrame_append {xs ys : Bytes} (hxs : ¬beginsLikeFrame xs)
    (hys : ¬beginsLikeFrame ys) : ¬beginsLikeFrame (xs ++ ys) := by
  cases xs with
  | nil => exact hys
  | cons => exact hxs

theorem head?_writeVarint (n : Nat) :
    (writeVarint n).head? = some (UInt8.ofNat (if n < 128 then n else n % 128 + 128)) := by
  rw [writeVarint]
  split <;> rfl

/-- No key begins like a frame: the low bits would name a wire type that does not exist. -/
theorem not_beginsLikeFrame_key (number : Nat) (t : WireType) (rest : Bytes) :
    ¬beginsLikeFrame (writeKey number t ++ rest) := by
  have ht : t.toNat < 6 := by cases t <;> decide
  intro h
  rw [beginsLikeFrame, writeKey, List.head?_append, head?_writeVarint, Option.some_or,
    Option.some.injEq] at h
  have hbyte := congrArg UInt8.toNat h
  simp at hbyte
  split at hbyte <;> omega

theorem not_beginsLikeFrame_delimited (number : Nat) (value : Bytes) :
    ¬beginsLikeFrame (writeDelimited number value) := by
  rw [writeDelimited, List.append_assoc]
  exact not_beginsLikeFrame_key number .delimited _

theorem not_beginsLikeFrame_textField (number : Nat) (s : String) :
    ¬beginsLikeFrame (writeTextField number s) := by
  rw [writeTextField]
  split
  · exact not_beginsLikeFrame_nil
  · exact not_beginsLikeFrame_delimited number _

theorem not_beginsLikeFrame_natField (number n : Nat) :
    ¬beginsLikeFrame (writeNatField number n) := by
  rw [writeNatField]
  split
  · exact not_beginsLikeFrame_nil
  · exact not_beginsLikeFrame_key number .varint _

theorem not_beginsLikeFrame_encode (e : Envelope) : ¬beginsLikeFrame e.encode := by
  rw [Envelope.encode]
  refine not_beginsLikeFrame_append (not_beginsLikeFrame_textField 1 _) ?_
  refine not_beginsLikeFrame_append ?_ ?_
  · cases e.payload with
    | none => exact not_beginsLikeFrame_nil
    | some p => exact not_beginsLikeFrame_delimited 2 p.write
  refine not_beginsLikeFrame_append (not_beginsLikeFrame_textField 3 _) ?_
  refine not_beginsLikeFrame_append (not_beginsLikeFrame_textField 4 _) ?_
  exact not_beginsLikeFrame_natField 5 _

theorem beginsLikeFrame_of_isCompressed {bs : Bytes} (h : isCompressed bs) :
    beginsLikeFrame bs := by
  obtain ⟨rest, rfl⟩ := List.isPrefixOf_iff_prefix.1 h
  rfl

theorem isCompressed_encode (e : Envelope) : isCompressed e.encode = false := by
  rw [Bool.eq_false_iff]
  exact fun h => not_beginsLikeFrame_encode e (beginsLikeFrame_of_isCompressed h)

theorem isCompressed_compress (input : Bytes) : isCompressed (Gzip.compress input) = true := by
  rw [Gzip.compress_eq]
  rfl

/-! Reading both kinds of blobs. -/

namespace Envelope

theorem decode_of_plain {blob : Bytes} (h : isCompressed blob = false) :
    decode blob = (decodePlain blob).mapError .decode := by
  rw [decode, h]
  rfl

theorem decode_encode {e : Envelope} (h : e.encode.length < UInt64.size) :
    decode e.encode = .ok e := by
  rw [decode_of_plain (isCompressed_encode e), decodePlain_encode h]
  rfl

theorem decompress_compress (input : Bytes) :
    decompress (Gzip.compress input)
      = if input.length ≤ maxInflatedSize then .ok input
        else .error (.inflatedTooLarge maxInflatedSize) := by
  rw [decompress, decompressWithin, if_neg (by decide), Gzip.decompress?_compress]
  by_cases h : input.length ≤ maxInflatedSize
  · simp only [if_pos h]
  · simp only [if_neg h]

/-- What is compressed is read as it was before, if it is within the limit. -/
theorem decode_compress (input : Bytes) :
    decode (Gzip.compress input)
      = if input.length ≤ maxInflatedSize then (decodePlain input).mapError .decode
        else .error (.inflatedTooLarge maxInflatedSize) := by
  rw [decode, isCompressed_compress, if_pos rfl, decompress_compress]
  split
  · rfl
  · rfl

/-- A compressed envelope is read back exactly if its plain form is within the limit. -/
theorem decode_compress_encode (e : Envelope) :
    decode (Gzip.compress e.encode)
      = if e.encode.length ≤ maxInflatedSize then .ok e
        else .error (.inflatedTooLarge maxInflatedSize) := by
  rw [decode_compress]
  split
  next h =>
    rw [decodePlain_encode (Nat.lt_of_le_of_lt h (by decide))]
    rfl
  next => rfl

end Envelope

/-! Large envelopes that compress well. -/

/-- A payload of so many zeros. -/
def zeroPayload (n : Nat) : Payload := { value := List.replicate n 0 }

/-- An envelope around a payload of so many zeros. -/
def zeroEnvelope (n : Nat) : Envelope := { payload := some (zeroPayload n) }

theorem write_zeroPayload {n : Nat} (hpos : 0 < n) :
    (zeroPayload n).write = writeKey 2 .delimited ++ (writeVarint n ++ List.replicate n 0) := by
  have hne : List.replicate n (0 : UInt8) ≠ [] := by
    rw [Ne, List.replicate_eq_nil_iff]
    omega
  simp [zeroPayload, Payload.write, writeTextField, writeBytesField, hne, writeDelimited]

theorem encode_zeroEnvelope (n : Nat) :
    (zeroEnvelope n).encode
      = writeKey 2 .delimited
        ++ (writeVarint (zeroPayload n).write.length ++ (zeroPayload n).write) := by
  have htype : Envelope.typeWord 0 = 0 := rfl
  simp [zeroEnvelope, Envelope.encode, writeTextField, writeNatField, writeDelimited, htype]

/-- Keys and lengths take at most twelve bytes before the zeros. -/
theorem encode_zeroEnvelope_split {n : Nat} (hpos : 0 < n) (hlt : n < 128 ^ (4 : Nat)) :
    ∃ before : Bytes, before.length ≤ 12
      ∧ (zeroEnvelope n).encode = before ++ List.replicate n 0 := by
  have hkey : (writeKey 2 .delimited).length ≤ 1 := length_writeVarint_le (by decide)
  have hinner : (writeVarint n).length ≤ 4 := length_writeVarint_le hlt
  have hsize : (zeroPayload n).write.length < 128 ^ (5 : Nat) := by
    simp only [write_zeroPayload hpos, List.length_append, List.length_replicate]
    omega
  have houter : (writeVarint (zeroPayload n).write.length).length ≤ 5 :=
    length_writeVarint_le hsize
  refine ⟨writeKey 2 .delimited ++ (writeVarint (zeroPayload n).write.length
    ++ (writeKey 2 .delimited ++ writeVarint n)), ?_, ?_⟩
  · simp only [List.length_append]
    omega
  · rw [encode_zeroEnvelope]
    simp [write_zeroPayload hpos]

theorem lt_length_encode_zeroEnvelope {n : Nat} (hpos : 0 < n) :
    n < (zeroEnvelope n).encode.length := by
  have hne := List.length_pos_iff.2 (writeVarint_ne_nil (zeroPayload n).write.length)
  have hwrite := congrArg List.length (write_zeroPayload hpos)
  simp only [List.length_append, List.length_replicate] at hwrite
  rw [encode_zeroEnvelope, List.length_append, List.length_append]
  omega

/-- Zeros shrink to less than a hundredth, but for a constant. -/
theorem length_compress_zeroEnvelope {n : Nat} (hpos : 0 < n) (hlt : n < 128 ^ (4 : Nat)) :
    (Gzip.compress (zeroEnvelope n).encode).length ≤ 2 * (n / Gzip.maxMatch) + 1600 := by
  obtain ⟨before, hbefore, hencode⟩ := encode_zeroEnvelope_split hpos hlt
  have hdeflate := Gzip.length_deflate_le (zeroEnvelope n).encode
  have htokens := Gzip.length_runTokens_append_replicate none before 0 n
  rw [Gzip.deflateLimit, hencode] at hdeflate
  rw [Gzip.compress_eq, hencode]
  simp only [List.length_append, Gzip.length_trailer]
  have hheader : Gzip.writtenHeader.length = 10 := rfl
  have hmatch : Gzip.maxMatch = 258 := rfl
  omega

/-- Zeros beyond what receivers inflate are published where they fit, and nobody can read them. -/
theorem zeroEnvelope_unreadable {n maxSize : Nat} (hlarge : maxInflatedSize ≤ n)
    (hlt : n < 128 ^ (4 : Nat)) (hfit : 2 * (n / Gzip.maxMatch) + 1600 ≤ maxSize)
    (hplain : maxSize ≤ n) :
    ∃ blob, fitToSize (zeroEnvelope n).encode maxSize = .ok blob
      ∧ Envelope.decode blob = .error (.inflatedTooLarge maxInflatedSize) := by
  have hpos : 0 < n := Nat.lt_of_lt_of_le (by decide) hlarge
  have hencode := lt_length_encode_zeroEnvelope hpos
  have hcompress := Nat.le_trans (length_compress_zeroEnvelope hpos hlt) hfit
  refine ⟨Gzip.compress (zeroEnvelope n).encode, ?_, ?_⟩
  · rw [fitToSize, if_neg (by omega)]
    exact if_pos hcompress
  · rw [Envelope.decode_compress_encode, if_neg (by omega)]

/-! What senders publish. -/

/-- A sender publishes what a receiver can read, as long as a compressed envelope is not larger than
what the receiver inflates; the sender itself does not check that. -/
theorem fitToSize_encode (e : Envelope) (maxSize : USize) :
    match fitToSize e.encode maxSize.toNat with
    | .ok blob =>
      blob.length ≤ maxSize.toNat
        ∧ (isCompressed blob ↔ maxSize.toNat < e.encode.length)
        ∧ Envelope.decode blob
          = (if isCompressed blob ∧ maxInflatedSize < e.encode.length then
              .error (.inflatedTooLarge maxInflatedSize)
            else .ok e)
    | .error err =>
      ∃ compressed, err = .tooLarge compressed maxSize.toNat
        ∧ maxSize.toNat < compressed ∧ maxSize.toNat < e.encode.length := by
  rw [fitToSize]
  by_cases hplain : e.encode.length ≤ maxSize.toNat
  · have hsize : e.encode.length < UInt64.size :=
      Nat.lt_of_le_of_lt hplain (Nat.lt_of_lt_of_le maxSize.toNat_lt_size USize.size_le)
    rw [if_pos hplain]
    refine ⟨hplain, ?_, ?_⟩
    · rw [isCompressed_encode]
      simpa using hplain
    · rw [Envelope.decode_encode hsize, isCompressed_encode]
      simp
  · rw [if_neg hplain]
    by_cases hfit : (Gzip.compress e.encode).length ≤ maxSize.toNat
    · simp only [if_pos hfit]
      refine ⟨hfit, ?_, ?_⟩
      · rw [isCompressed_compress]
        simpa using hplain
      · rw [Envelope.decode_compress_encode, isCompressed_compress]
        by_cases hinflated : e.encode.length ≤ maxInflatedSize
        · rw [if_pos hinflated, if_neg (by omega)]
        · rw [if_neg hinflated, if_pos ⟨rfl, by omega⟩]
    · simp only [if_neg hfit]
      exact ⟨_, rfl, by omega, by omega⟩

/-- A payload of 64 MiB of zeros fits into 1 MiB, and no receiver reads it. -/
theorem fitted_unreadable :
    ∃ blob, fitToSize (zeroEnvelope (64 * 1024 * 1024)).encode (1048576 : USize).toNat = .ok blob
      ∧ Envelope.decode blob ≠ .ok (zeroEnvelope (64 * 1024 * 1024)) := by
  have hmax : (1048576 : USize).toNat = 1048576 := USize.toNat_ofNat_of_lt_32 (by decide)
  obtain ⟨blob, hblob, hdecode⟩ := @zeroEnvelope_unreadable (64 * 1024 * 1024) 1048576
    (by decide) (by decide) (by decide) (by decide)
  refine ⟨blob, by rw [hmax, hblob], ?_⟩
  rw [hdecode]
  exact nofun

end Waystation
