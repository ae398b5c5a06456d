/-!
Byte strings: the blobs that nodes exchange and the values that buckets hold. Texts travel in
UTF-8, and reading back a written text gives that text.
-/
namespace Waystation

/-- A byte string. -/
abbrev Bytes := List UInt8

namespace Bytes

/-- The UTF-8 form of a text. -/
def ofText (s : String) : Bytes := s.toUTF8.data.toList

/-- The text that a byte string spells in UTF-8, if it is well formed. -/
def toText? (b : Bytes) : Option String := String.fromUTF8? ⟨b.toArray⟩

theorem toText?_ofText (s : String) : (ofText s).toText? = some s := by
  have h : (⟨(ofText s).toArray⟩ : ByteArray) = s.toByteArray := by simp [ofText]
  unfold toText? String.fromUTF8?
  rw [h]
  simp [String.fromUTF8, s.isValidUTF8]

theorem ofText_inj {s t : String} (h : ofText s = ofText t) : s = t := by
  have := toText?_ofText s
  rw [h, toText?_ofText] at this
  exact (Option.some.inj this).symm

theorem ofText_empty : ofText "" = [] := by decide

theorem ofText_append (s t : String) : ofText (s ++ t) = ofText s ++ ofText t := by
  simp [ofText]

theorem ofText_eq_flatMap (s : String) : ofText s = s.toList.flatMap String.utf8EncodeChar := by
  rw [ofText, String.toUTF8_eq_toByteArray, ← String.utf8Encode_toList, List.utf8Encode]
  simp

/-- A byte below 128 spells a character by itself. -/
theorem toNat_eq_of_mem {c : Char} {b : UInt8} (h : b ∈ String.utf8EncodeChar c)
    (hb : b.toNat < 128) : c.val.toNat = b.toNat := by
  have hmem : b.toNat ∈ (String.utf8EncodeChar c).map UInt8.toNat := List.mem_map_of_mem h
  revert hmem
  fun_cases String.utf8EncodeChar c
  all_goals
    simp only [List.map_cons, List.map_nil, List.mem_cons, List.not_mem_nil, or_false,
      UInt8.toNat_ofNat']
    omega

theorem newline_not_mem {s : String} (h : '\n' ∉ s.toList) : 10 ∉ ofText s := by
  rw [ofText_eq_flatMap]
  intro hmem
  obtain ⟨c, hc, hbyte⟩ := List.mem_flatMap.1 hmem
  have hnewline : c = '\n' := Char.ext (UInt32.toNat_inj.1 (toNat_eq_of_mem hbyte (by decide)))
  exact h (hnewline ▸ hc)

theorem head?_ofText {s : String} {c : Char} {cs : List Char} (hs : s.toList = c :: cs)
    (hc : c.toNat < 128) : (ofText s).head? = some (UInt8.ofNat c.toNat) := by
  have hbyte : String.utf8EncodeChar c = [UInt8.ofNat c.toNat] := if_pos (Nat.le_of_lt_succ hc)
  rw [ofText_eq_flatMap, hs, List.flatMap_cons, hbyte]
  rfl

/-- A 32-bit word in four bytes, lowest first. -/
def ofWord32 (w : UInt32) : Bytes :=
  [w.toUInt8, (w >>> 8).toUInt8, (w >>> 16).toUInt8, (w >>> 24).toUInt8]

/-- The number that bytes spell, lowest first. -/
def toNat : Bytes → Nat
  | [] => 0
  | b :: rest => b.toNat + 256 * toNat rest

/-! Byte strings as people read them. -/

/-- The hexadecimal digit of a number below sixteen. -/
def hexDigit (n : Nat) : Char := if n < 10 then Char.ofNat (48 + n) else Char.ofNat (87 + n)

/-- The value of a hexadecimal digit. -/
def hexValue (c : Char) : Nat :=
  if c.isDigit then c.toNat - 48 else if c.isLower then c.toNat - 87 else c.toNat - 55

/-- Two hexadecimal digits for every byte. -/
def hex (b : Bytes) : String :=
  String.ofList (b.flatMap fun x => [hexDigit (x.toNat / 16), hexDigit (x.toNat % 16)])

/-- The bytes that pairs of hexadecimal digits spell. -/
def ofHexDigits : List Char → Bytes
  | hi :: lo :: rest => UInt8.ofNat (16 * hexValue hi + hexValue lo) :: ofHexDigits rest
  | _ => []

/-- A 64-bit word in eight bytes, highest first. -/
def ofWord64 (w : UInt64) : Bytes :=
  (List.range 8).map fun i => (w >>> UInt64.ofNat (56 - 8 * i)).toUInt8

/-- A short digest, to tell long byte strings apart: each byte is mixed into a word by an exclusive
or and a multiplication. -/
def fingerprint (b : Bytes) : Bytes :=
  ofWord64 (b.foldl (fun h x => (h ^^^ x.toUInt64) * 0x100000001b3) 0xcbf29ce484222325)

end Bytes
end Waystation
