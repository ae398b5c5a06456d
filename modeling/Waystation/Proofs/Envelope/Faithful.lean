import Waystation.Proofs.Envelope.Fit
/-!
Faithful envelopes. The wire form of an envelope is never taken for a frame, gives the envelope back
and belongs to no other one. No payload and the empty payload differ on the wire, and a type below
zero keeps its sign in ten bytes.
-/
namespace Waystation

open Wire

attribute [local instance (10000)] instPowNat

namespace Envelope

/-- Below zero the word is the complement of the number to 64 bits. -/
theorem typeWord_of_neg {n : Int32} (h : n < 0) : (typeWord n : Int) = UInt64.size + n.toInt := by
  have hneg : n.toInt64.toInt < 0 := by
    rw [Int32.toInt_toInt64]
    exact Int32.lt_iff_toInt_lt.1 h
  have hword := BitVec.toInt_eq_toNat_cond n.toInt64.toBitVec
  have hint : n.toInt64.toBitVec.toInt = n.toInt := Int32.toInt_toInt64 n
  have hlt := n.toInt64.toBitVec.isLt
  change (n.toInt64.toBitVec.toNat : Int) = UInt64.size + n.toInt
  change n.toInt64.toBitVec.toInt < 0 at hneg
  rw [← hint, hword]
  rw [hword] at hneg
  simp only [UInt64.size]
  split at hneg <;> omega

theorem length_writeVarint_typeWord {n : Int32} (h : n < 0) :
    (writeVarint (typeWord n)).length = 10 := by
  have hword := typeWord_of_neg h
  have hleast : -2 ^ 31 ≤ n.toInt := n.le_toInt
  simp only [UInt64.size] at hword
  exact length_writeVarint_of_large (by simp only [UInt64.size]; omega) (typeWord_lt n)

/-- The type stands at the end of the wire form, unless it is the default. -/
theorem natField_suffix_encode (e : Envelope) :
    writeNatField 5 (typeWord e.messageType) <:+ e.encode := by
  rw [encode]
  exact ((List.suffix_append _ _).trans (List.suffix_append _ _)).trans
    ((List.suffix_append _ _).trans (List.suffix_append _ _))

/-- The sign of a type takes a key and ten bytes at the end. -/
theorem negative_suffix_encode {e : Envelope} (h : e.messageType < 0) :
    ∃ word : Bytes, word.length = 10 ∧ readVarint word = some (typeWord e.messageType, [])
      ∧ writeKey 5 .varint ++ word <:+ e.encode := by
  have hword := typeWord_of_neg h
  have hleast : -2 ^ 31 ≤ e.messageType.toInt := e.messageType.le_toInt
  have hfield := natField_suffix_encode e
  simp only [UInt64.size] at hword
  rw [writeNatField, if_neg (by omega)] at hfield
  have hread := readVarint_write (typeWord e.messageType) [] (typeWord_lt e.messageType)
  rw [List.append_nil] at hread
  exact ⟨_, length_writeVarint_typeWord h, hread, hfield⟩

theorem encode_injective {e e' : Envelope} (h : e.encode.length < UInt64.size)
    (heq : e'.encode = e.encode) : e' = e := by
  have hread : decode e'.encode = .ok e' := decode_encode (by rwa [heq])
  rw [heq, decode_encode h] at hread
  exact (Except.ok.inj hread).symm

/-- Any payload, the empty one too, adds to the wire form. -/
theorem length_encode_lt (e : Envelope) (p : Payload) :
    { e with payload := none }.encode.length < { e with payload := some p }.encode.length := by
  have hkey := List.length_pos_iff.2 (writeVarint_ne_nil (8 * 2 + WireType.delimited.toNat))
  simp only [encode, writeDelimited, writeKey, List.length_append, List.length_nil]
  omega

/-- An envelope survives the wire. The bound is on what a length on the wire can say; no byte string
that a machine holds comes near it. -/
theorem decode_encode_faithful (e : Envelope) (h : e.encode.length < UInt64.size) :
    isCompressed e.encode = false
      ∧ decode e.encode = .ok e
      ∧ (∀ e' : Envelope, e'.encode = e.encode → e' = e)
      ∧ (∀ p, { e with payload := none }.encode ≠ { e with payload := some p }.encode)
      ∧ (∀ d, decode e.encode = .ok d →
          d.payload = e.payload ∧ d.kind = e.kind ∧ d.isOk = e.isOk ∧ d.isError = e.isError
            ∧ d.isEarlyReply = e.isEarlyReply ∧ d.isEarlyExit = e.isEarlyExit
            ∧ d.isCorrelated = e.isCorrelated ∧ d.isConsistent = e.isConsistent)
      ∧ (e.messageType < 0 → ∃ word : Bytes, word.length = 10
          ∧ readVarint word = some (typeWord e.messageType, [])
          ∧ writeKey 5 .varint ++ word <:+ e.encode) := by
  refine ⟨isCompressed_encode e, decode_encode h, fun _ => encode_injective h, ?_, ?_,
    negative_suffix_encode⟩
  · intro p heq
    have hlt := length_encode_lt e p
    rw [heq] at hlt
    exact Nat.lt_irrefl _ hlt
  · intro d hd
    rw [decode_encode h] at hd
    obtain rfl := Except.ok.inj hd
    exact ⟨rfl, rfl, rfl, rfl, rfl, rfl, rfl, rfl⟩

/-- No request, the empty payload, letters beyond ASCII and a type below zero. -/
def unusual : Envelope :=
  { payload := some {}, error := "σφάλμα", fromNode := "κόμβος", messageType := -7 }

theorem decode_encode_unusual :
    unusual.encode.length < UInt64.size
      ∧ decode unusual.encode = .ok unusual
      ∧ { unusual with payload := none }.encode ≠ unusual.encode
      ∧ ∃ word : Bytes, word.length = 10 ∧ writeKey 5 .varint ++ word <:+ unusual.encode := by
  have hsize : unusual.encode.length < UInt64.size := by decide +kernel
  obtain ⟨-, hread, -, hpayload, -, hsign⟩ := decode_encode_faithful unusual hsize
  obtain ⟨word, hten, -, hsuffix⟩ := hsign (by decide)
  exact ⟨hsize, hread, hpayload {}, word, hten, hsuffix⟩

end Envelope
end Waystation
