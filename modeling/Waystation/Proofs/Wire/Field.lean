import Waystation.Wire.Field
/-!
Reading back written fields. Each reader takes exactly what its writer wrote, whatever follows, and
fields written one behind the other are merged one after the other.
-/
namespace Waystation.Wire

attribute [local instance (10000)] instPowNat

variable {α : Type}

@[simp] theorem inField_ok (message field : String) (a : α) :
    inField message field (.ok a) = .ok a := rfl

theorem writeVarint_ne_nil (n : Nat) : writeVarint n ≠ [] := by
  rw [writeVarint]
  split <;> simp

theorem length_writeVarint_le {n k : Nat} (h : n < 128 ^ (k + 1)) :
    (writeVarint n).length ≤ k + 1 := by
  induction k generalizing n with
  | zero =>
    rw [writeVarint, if_pos (by simpa using h)]
    exact Nat.le_refl 1
  | succ k ih =>
    rw [writeVarint]
    split
    · simp
    · have hdiv : n / 128 < 128 ^ (k + 1) := by
        rw [Nat.pow_succ] at h
        omega
      have hrest := ih hdiv
      rw [List.length_cons]
      omega

theorem lt_length_writeVarint {n k : Nat} (h : 128 ^ k ≤ n) : k < (writeVarint n).length := by
  induction k generalizing n with
  | zero => exact List.length_pos_iff.2 (writeVarint_ne_nil n)
  | succ k ih =>
    have hpos : 0 < 128 ^ k := Nat.pow_pos (by decide)
    rw [Nat.pow_succ] at h
    have hdiv : 128 ^ k ≤ n / 128 := by omega
    have hrest := ih hdiv
    rw [writeVarint, if_neg (by omega), List.length_cons]
    omega

/-- A number of 64 bits that uses the last one takes ten bytes. -/
theorem length_writeVarint_of_large {n : Nat} (hlarge : UInt64.size / 2 ≤ n)
    (hsize : n < UInt64.size) : (writeVarint n).length = 10 := by
  have hlower : 9 < (writeVarint n).length := lt_length_writeVarint (by omega)
  have hsize' : n < 128 ^ (9 + 1) := Nat.lt_trans hsize (by decide)
  have hupper := length_writeVarint_le hsize'
  omega

theorem readNat_write {n : Nat} (hn : n < UInt64.size) (rest : Bytes) :
    readNat (writeVarint n ++ rest) = .ok (n, rest) := by
  rw [readNat, readVarint_write n rest hn]

theorem readKey_write {number : Nat} (hpos : number ≠ 0) (hlt : number < 16) (t : WireType)
    (rest : Bytes) : readKey (writeKey number t ++ rest) = .ok ((number, t), rest) := by
  have ht : t.toNat < 8 := by cases t <;> decide
  have hsize : 8 * number + t.toNat < UInt64.size := by
    simp only [UInt64.size]
    omega
  have htype : (8 * number + t.toNat) % 8 = t.toNat := by omega
  have hnumber : (8 * number + t.toNat) / 8 = number := by omega
  have hkey : ¬UInt32.size ≤ 8 * number + t.toNat := by
    simp only [UInt32.size]
    omega
  rw [readKey, writeKey, readVarint_write _ rest hsize]
  simp only [if_neg hkey, htype, hnumber, WireType.ofNat?_toNat, if_neg hpos]

theorem readDelimited_write {value : Bytes} (h : value.length < UInt64.size) (rest : Bytes) :
    readDelimited .delimited (writeVarint value.length ++ (value ++ rest)) = .ok (value, rest) := by
  have hlen : ¬(value ++ rest).length < value.length := by simp
  rw [readDelimited, readNat_write h]
  simp only [expectType, if_pos, bind, Except.bind, if_neg hlen, List.take_left, List.drop_left]

theorem readText_write {s : String} (h : (Bytes.ofText s).length < UInt64.size) (rest : Bytes) :
    readText .delimited (writeVarint (Bytes.ofText s).length ++ (Bytes.ofText s ++ rest))
      = .ok (s, rest) := by
  rw [readText, readDelimited_write h]
  simp [bind, Except.bind, Bytes.toText?_ofText]

/-- A run of fields that `step` merges into a value, one after the other, whatever follows them. -/
inductive Merged (step : α → Bytes → Except DecodeError (α × Bytes)) : α → Bytes → α → Prop
  | nil (a : α) : Merged step a [] a
  | cons {a b c : α} {field fields : Bytes} (hne : field ≠ [])
      (hstep : ∀ rest, step a (field ++ rest) = .ok (b, rest)) (htail : Merged step b fields c) :
      Merged step a (field ++ fields) c

namespace Merged

variable {step : α → Bytes → Except DecodeError (α × Bytes)} {a b c : α}

theorem one {field : Bytes} (hne : field ≠ [])
    (hstep : ∀ rest, step a (field ++ rest) = .ok (b, rest)) : Merged step a field b := by
  simpa using cons hne hstep (nil b)

theorem append {xs ys : Bytes} (h : Merged step a xs b) (h' : Merged step b ys c) :
    Merged step a (xs ++ ys) c := by
  induction h with
  | nil => exact h'
  | cons hne hstep _ ih =>
    rw [List.append_assoc]
    exact cons hne hstep (ih h')

/-- Fields are merged up to the place where the rest of the input begins. -/
theorem mergeFields_eq {fields : Bytes} (h : Merged step a fields b) (rest : Bytes) {fuel : Nat}
    (hfuel : fields.length ≤ fuel) :
    mergeFields step rest.length fuel a (fields ++ rest) = .ok (b, rest) := by
  induction h generalizing fuel with
  | nil a => cases fuel <;> simp [mergeFields]
  | cons hne hstep _ ih =>
    have hpos := List.length_pos_iff.2 hne
    rw [List.length_append] at hfuel
    obtain ⟨fuel, rfl⟩ : ∃ n, fuel = n + 1 := ⟨fuel - 1, by omega⟩
    rw [mergeFields, if_neg (by simp only [List.length_append]; omega), List.append_assoc, hstep]
    exact ih (by omega)

theorem readMessage_eq {bs : Bytes} (h : Merged step a bs b) : readMessage step a bs = .ok b := by
  have hmerge := h.mergeFields_eq [] (Nat.le_refl _)
  rw [List.append_nil, List.length_nil] at hmerge
  rw [readMessage, hmerge]
  rfl

theorem readNested_eq {bs : Bytes} (h : Merged step a bs b) (hlen : bs.length < UInt64.size)
    (rest : Bytes) :
    readNested step a .delimited (writeVarint bs.length ++ (bs ++ rest)) = .ok (b, rest) := by
  have hmerge : mergeFields step rest.length (bs ++ rest).length a (bs ++ rest) = .ok (b, rest) :=
    h.mergeFields_eq rest (by simp)
  have hlimit : (bs ++ rest).length - bs.length = rest.length := by simp
  have hlt : ¬(bs ++ rest).length < bs.length := by simp
  rw [readNested, readNat_write hlen]
  simp only [expectType, if_pos, bind, Except.bind, if_neg hlt, hlimit, hmerge]

/-- A field of declared length, which is left out when its value is the default. -/
theorem delimited {number : Nat} {value : Bytes}
    (hstep : ∀ rest, step a (writeKey number .delimited
      ++ (writeVarint value.length ++ (value ++ rest))) = .ok (b, rest)) :
    Merged step a (writeDelimited number value) b := by
  refine one ?_ fun rest => ?_
  · simp [writeDelimited, writeVarint_ne_nil]
  · simpa [writeDelimited] using hstep rest

theorem text {number : Nat} {s : String} (hdefault : s = "" → b = a)
    (hstep : ∀ rest, step a (writeKey number .delimited
      ++ (writeVarint (Bytes.ofText s).length ++ (Bytes.ofText s ++ rest))) = .ok (b, rest)) :
    Merged step a (writeTextField number s) b := by
  rw [writeTextField]
  split
  next hs =>
    rw [hdefault hs]
    exact nil a
  next => exact delimited hstep

theorem bytes {number : Nat} {value : Bytes} (hdefault : value = [] → b = a)
    (hstep : ∀ rest, step a (writeKey number .delimited
      ++ (writeVarint value.length ++ (value ++ rest))) = .ok (b, rest)) :
    Merged step a (writeBytesField number value) b := by
  rw [writeBytesField]
  split
  next hs =>
    rw [hdefault hs]
    exact nil a
  next => exact delimited hstep

theorem nat {number n : Nat} (hdefault : n = 0 → b = a)
    (hstep : ∀ rest, step a (writeKey number .varint ++ (writeVarint n ++ rest)) = .ok (b, rest)) :
    Merged step a (writeNatField number n) b := by
  rw [writeNatField]
  split
  next hn =>
    rw [hdefault hn]
    exact nil a
  next =>
    refine one ?_ fun rest => ?_
    · simp [writeVarint_ne_nil]
    · simpa using hstep rest

end Merged

end Waystation.Wire
