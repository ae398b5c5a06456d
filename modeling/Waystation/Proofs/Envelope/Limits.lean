import Waystation.Envelope.Frame
import Waystation.Proofs.Gzip.Format
/-!
Inflating blobs under a limit. Below the largest number of 64 bits the limit decides nothing but how
large the output may be: what is accepted is accepted under every larger limit, with the same output,
and nothing but gzip members is accepted. Under the largest one anything at all is read as the empty
string, since one more than it is no number of 64 bits.
-/
namespace Waystation

variable {limit : Nat} {blob out : Bytes}

theorem decompressWithin_compress (h : limit + 1 < UInt64.size) (input : Bytes) :
    decompressWithin limit (Gzip.compress input)
      = if input.length ≤ limit then .ok input else .error (.inflatedTooLarge limit) := by
  rw [decompressWithin, if_neg (by rw [Nat.mod_eq_of_lt h]; omega), Gzip.decompress?_compress]
  by_cases hfits : input.length ≤ limit
  · simp only [if_pos hfits]
  · simp only [if_neg hfits]

theorem decompressWithin_eq_ok_iff (h : limit + 1 < UInt64.size) :
    decompressWithin limit blob = .ok out ↔ Gzip.Member blob out ∧ out.length ≤ limit := by
  rw [← Gzip.decompress?_eq_some_iff, decompressWithin,
    if_neg (by rw [Nat.mod_eq_of_lt h]; omega)]
  split
  next out' hout => simp [hout]
  next hlarge => simp [hlarge]
  next fault hfault => simp [hfault]

/-- Members look compressed. -/
theorem isCompressed_of_member (h : Gzip.Member blob out) : isCompressed blob = true := by
  obtain ⟨body, s, hheader, -⟩ := h
  exact List.isPrefixOf_iff_prefix.2 (Gzip.magic_of_skipHeader hheader)

/-- Under a limit of less than the largest number of 64 bits, what was compressed is read back if it is
within the limit and refused as too large otherwise; nothing is accepted but members within the limit;
and what is accepted is accepted under every larger such limit, too. -/
theorem decompressWithin_limits {limit limit' : Nat} (hle : limit ≤ limit')
    (hlt : limit' + 1 < UInt64.size) :
    (∀ x, decompressWithin limit (Gzip.compress x)
        = if x.length ≤ limit then .ok x else .error (.inflatedTooLarge limit))
      ∧ ∀ blob x, (decompressWithin limit blob = .ok x ↔ Gzip.Member blob x ∧ x.length ≤ limit)
        ∧ (decompressWithin limit blob = .ok x →
          decompressWithin limit' blob = .ok x ∧ isCompressed blob = true) := by
  have hlimit : limit + 1 < UInt64.size := by omega
  refine ⟨decompressWithin_compress hlimit,
    fun blob x => ⟨decompressWithin_eq_ok_iff hlimit, fun h => ?_⟩⟩
  obtain ⟨hmember, hfits⟩ := (decompressWithin_eq_ok_iff hlimit).1 h
  exact ⟨(decompressWithin_eq_ok_iff hlt).2 ⟨hmember, Nat.le_trans hfits hle⟩,
    isCompressed_of_member hmember⟩

theorem decompressWithin_limits_three :
    decompressWithin 2 (Gzip.compress [1, 2, 3]) = .error (.inflatedTooLarge 2)
      ∧ decompressWithin 3 (Gzip.compress [1, 2, 3]) = .ok [1, 2, 3]
      ∧ decompressWithin (UInt64.size - 2) (Gzip.compress [1, 2, 3]) = .ok [1, 2, 3] := by
  have hbelow := (@decompressWithin_limits 2 3 (by decide) (by decide)).1 [1, 2, 3]
  obtain ⟨hread, hlarger⟩ := @decompressWithin_limits 3 (UInt64.size - 2) (by decide) (by decide)
  have hexact := hread [1, 2, 3]
  rw [if_pos (by decide)] at hexact
  rw [if_neg (by decide)] at hbelow
  exact ⟨hbelow, hexact, ((hlarger _ _).2 hexact).1⟩

/-- Under the largest limit nothing is asked of the reader. -/
theorem decompressWithin_largest (blob : Bytes) :
    decompressWithin (UInt64.size - 1) blob = .ok [] :=
  if_pos rfl

/-- What was compressed is lost, and what is no member is accepted. -/
theorem lost_under_largest :
    decompressWithin (UInt64.size - 1) (Gzip.compress (Bytes.ofText "hello")) = .ok []
      ∧ decompressWithin 5 (Gzip.compress (Bytes.ofText "hello")) = .ok (Bytes.ofText "hello")
      ∧ decompressWithin (UInt64.size - 1) [] = .ok [] ∧ ¬∃ x, Gzip.Member [] x := by
  refine ⟨decompressWithin_largest _, ?_, decompressWithin_largest _, ?_⟩
  · rw [decompressWithin_compress (by decide), if_pos (by decide)]
  · rintro ⟨x, body, s, hheader, -⟩
    cases hheader

end Waystation
