import Waystation.Envelope.Wire
import Waystation.Proofs.Wire.Field
/-!
Envelopes read back: the wire form of an envelope gives that envelope. The reader is followed from
field to field; a field that was left out holds the default that the reader starts from.
-/
namespace Waystation

open Wire

/-! The parts of a wire form are no longer than the whole. -/

theorem length_le_writeTextField (number : Nat) (s : String) :
    (Bytes.ofText s).length ≤ (writeTextField number s).length := by
  rw [writeTextField]
  split
  next hs => simp [hs, Bytes.ofText_empty]
  next =>
    rw [writeDelimited, List.length_append]
    omega

theorem length_le_writeBytesField (number : Nat) (value : Bytes) :
    value.length ≤ (writeBytesField number value).length := by
  rw [writeBytesField]
  split
  next hv => simp [hv]
  next =>
    rw [writeDelimited, List.length_append]
    omega

namespace Payload

variable {depth : Nat}

theorem mergeField_typeUrl {s : String} (hs : (Bytes.ofText s).length < UInt64.size) (p : Payload)
    (rest : Bytes) :
    mergeField depth p
        (writeKey 1 .delimited ++ (writeVarint (Bytes.ofText s).length ++ (Bytes.ofText s ++ rest)))
      = .ok ({ p with typeUrl := s }, rest) := by
  rw [mergeField, readKey_write (by decide) (by decide)]
  simp only [bind, Except.bind, readText_write hs, inField_ok]
  rfl

theorem mergeField_value {value : Bytes} (hv : value.length < UInt64.size) (p : Payload)
    (rest : Bytes) :
    mergeField depth p
        (writeKey 2 .delimited ++ (writeVarint value.length ++ (value ++ rest)))
      = .ok ({ p with value }, rest) := by
  rw [mergeField, readKey_write (by decide) (by decide)]
  simp only [bind, Except.bind, readDelimited_write hv, inField_ok]
  rfl

/-- The fields of a payload, merged into the empty one. -/
theorem merged_write {p : Payload} (h : p.write.length < UInt64.size) :
    Merged (mergeField depth) {} p.write p := by
  have hurl := length_le_writeTextField 1 p.typeUrl
  have hvalue := length_le_writeBytesField 2 p.value
  rw [write, List.length_append] at h
  have typeUrl : Merged (mergeField depth) {} (writeTextField 1 p.typeUrl)
      { typeUrl := p.typeUrl } :=
    .text (fun hs => by rw [hs]) fun rest => mergeField_typeUrl (by omega) {} rest
  have value : Merged (mergeField depth) { typeUrl := p.typeUrl } (writeBytesField 2 p.value) p :=
    .bytes (fun hv => by rw [← hv]) fun rest => mergeField_value (by omega) _ rest
  exact typeUrl.append value

end Payload

namespace Envelope

theorem ofTypeWord_typeWord (n : Int32) : ofTypeWord (typeWord n) = n := by
  have hlow : (ofTypeWord (typeWord n)).toBitVec = n.toInt64.toBitVec.setWidth 32 :=
    BitVec.ofNat_toNat 32 n.toInt64.toBitVec
  have hnarrow : n.toInt64.toInt32.toBitVec = n.toInt64.toBitVec.setWidth 32 := by
    rw [← BitVec.signExtend_eq_setWidth_of_le _ (by decide)]
    rfl
  calc
    ofTypeWord (typeWord n) = n.toInt64.toInt32 := Int32.toBitVec.inj (hlow.trans hnarrow.symm)
    _ = n := n.toInt32_toInt64

theorem typeWord_lt (n : Int32) : typeWord n < UInt64.size := n.toInt64.toUInt64.toNat_lt

theorem eq_zero_of_typeWord {n : Int32} (h : typeWord n = 0) : n = 0 := by
  rw [← ofTypeWord_typeWord n, h]
  rfl

theorem mergeField_requestId {s : String} (hs : (Bytes.ofText s).length < UInt64.size)
    (e : Envelope) (rest : Bytes) :
    mergeField e
        (writeKey 1 .delimited ++ (writeVarint (Bytes.ofText s).length ++ (Bytes.ofText s ++ rest)))
      = .ok ({ e with requestId := s }, rest) := by
  rw [mergeField, readKey_write (by decide) (by decide)]
  simp only [bind, Except.bind, readText_write hs, inField_ok]
  rfl

theorem mergeField_payload {p : Payload} (hp : p.write.length < UInt64.size) {e : Envelope}
    (he : e.payload = none) (rest : Bytes) :
    mergeField e (writeKey 2 .delimited ++ (writeVarint p.write.length ++ (p.write ++ rest)))
      = .ok ({ e with payload := some p }, rest) := by
  rw [mergeField, readKey_write (by decide) (by decide)]
  simp only [bind, Except.bind, he, Option.getD_none, (Payload.merged_write hp).readNested_eq hp,
    inField_ok]
  rfl

theorem mergeField_error {s : String} (hs : (Bytes.ofText s).length < UInt64.size)
    (e : Envelope) (rest : Bytes) :
    mergeField e
        (writeKey 3 .delimited ++ (writeVarint (Bytes.ofText s).length ++ (Bytes.ofText s ++ rest)))
      = .ok ({ e with error := s }, rest) := by
  rw [mergeField, readKey_write (by decide) (by decide)]
  simp only [bind, Except.bind, readText_write hs, inField_ok]
  rfl

theorem mergeField_fromNode {s : String} (hs : (Bytes.ofText s).length < UInt64.size)
    (e : Envelope) (rest : Bytes) :
    mergeField e
        (writeKey 4 .delimited ++ (writeVarint (Bytes.ofText s).length ++ (Bytes.ofText s ++ rest)))
      = .ok ({ e with fromNode := s }, rest) := by
  rw [mergeField, readKey_write (by decide) (by decide)]
  simp only [bind, Except.bind, readText_write hs, inField_ok]
  rfl

theorem mergeField_messageType (n : Int32) (e : Envelope) (rest : Bytes) :
    mergeField e (writeKey 5 .varint ++ (writeVarint (typeWord n) ++ rest))
      = .ok ({ e with messageType := n }, rest) := by
  rw [mergeField, readKey_write (by decide) (by decide)]
  simp only [bind, Except.bind, expectType, if_pos, readNat_write (typeWord_lt n), inField_ok,
    ofTypeWord_typeWord]
  rfl

/-- The payload, if there is one, merged behind the request id. -/
theorem merged_payload {e : Envelope} (hnone : e.payload = none) (payload : Option Payload) :
    (∀ p, payload = some p → p.write.length < UInt64.size) →
    Merged mergeField e
      (match payload with
        | some p => writeDelimited 2 p.write
        | none => [])
      { e with payload } := by
  intro h
  cases payload with
  | none =>
    have hsame : { e with payload := none } = e := by rw [← hnone]
    rw [hsame]
    exact .nil e
  | some p => exact .delimited (mergeField_payload (h p rfl) hnone)

/-- The fields of an envelope, merged into the empty one. -/
theorem merged_encode {e : Envelope} (h : e.encode.length < UInt64.size) :
    Merged mergeField {} e.encode e := by
  obtain ⟨id, payload, error, node, n⟩ := e
  have hid := length_le_writeTextField 1 id
  have herror := length_le_writeTextField 3 error
  have hnode := length_le_writeTextField 4 node
  simp only [encode, List.length_append] at h
  have payloadSize : ∀ p, payload = some p → p.write.length < UInt64.size := by
    intro p hp
    simp only [hp, writeDelimited, List.length_append] at h
    omega
  have ids : Merged mergeField {} (writeTextField 1 id) { requestId := id } :=
    .text (fun hs => by rw [hs]) fun rest => mergeField_requestId (by omega) {} rest
  have payloads := merged_payload (e := { requestId := id }) rfl payload payloadSize
  have errors : Merged mergeField { requestId := id, payload } (writeTextField 3 error)
      { requestId := id, payload, error } :=
    .text (fun hs => by rw [hs]) fun rest => mergeField_error (by omega) _ rest
  have nodes : Merged mergeField { requestId := id, payload, error } (writeTextField 4 node)
      { requestId := id, payload, error, fromNode := node } :=
    .text (fun hs => by rw [hs]) fun rest => mergeField_fromNode (by omega) _ rest
  have types : Merged mergeField { requestId := id, payload, error, fromNode := node }
      (writeNatField 5 (typeWord n)) ⟨id, payload, error, node, n⟩ :=
    .nat (fun hn => by rw [eq_zero_of_typeWord hn]) fun rest => mergeField_messageType n _ rest
  exact ids.append (payloads.append (errors.append (nodes.append types)))

theorem decodePlain_encode {e : Envelope} (h : e.encode.length < UInt64.size) :
    decodePlain e.encode = .ok e :=
  (merged_encode h).readMessage_eq

end Envelope
end Waystation
