import Waystation.Yaml.Value
import Mathlib.Data.List.Forall2
/-!
To be the same is an equivalence of values, so entries can be told apart by their keys: a key finds
the same value whichever way it is written, and two lists of entries that have the same keys in one
order and find the same values are equal.
-/
namespace Waystation

theorem Decimal.Binary64.same_iff {x y : Binary64} :
    x.same y ↔ x = y ∨ x.isZero = true ∧ y.isZero = true := by
  simp [same]

namespace Yaml

namespace Scalar

theorem same_refl (s : Scalar) : s.same s := by
  cases s <;> simp [same, Decimal.Binary64.same_iff]

theorem same_symm {s t : Scalar} (h : s.same t) : t.same s := by
  cases s <;> cases t <;> simp_all [same, Decimal.Binary64.same_iff]
  tauto

theorem same_trans {s t u : Scalar} (hst : s.same t) (htu : t.same u) : s.same u := by
  cases s <;> cases t <;> cases u <;> simp_all [same, Decimal.Binary64.same_iff]
  rcases hst with rfl | hst
  · exact htu
  · rcases htu with rfl | htu
    · exact .inr hst
    · exact .inr ⟨hst.1, htu.2⟩

end Scalar

namespace Value

abbrev Entry := Value × Value

variable {u v w j k : Value} {es fs bs : List Entry}

theorem sizeOf_of_mem {e : Entry} (he : e ∈ es) :
    sizeOf e.1 < sizeOf (map es) ∧ sizeOf e.2 < sizeOf (map es) := by
  have hmem := List.sizeOf_lt_of_mem he
  obtain ⟨k, v⟩ := e
  rw [Prod.mk.sizeOf_spec] at hmem
  rw [map.sizeOf_spec]
  constructor <;> dsimp only <;> omega

/-- Induction over a value and all that it holds. -/
@[elab_as_elim]
theorem induction {motive : Value → Prop} (scalar : ∀ s, motive (.scalar s))
    (list : ∀ items, (∀ v ∈ items, motive v) → motive (.list items))
    (map : ∀ entries, (∀ e ∈ entries, motive e.1 ∧ motive e.2) → motive (.map entries))
    (tagged : ∀ t v, motive v → motive (.tagged t v)) : ∀ v, motive v
  | .scalar s => scalar s
  | .list items => list items fun v _ => induction scalar list map tagged v
  | .map entries => map entries fun e _ =>
    ⟨induction scalar list map tagged e.1, induction scalar list map tagged e.2⟩
  | .tagged t v => tagged t v (induction scalar list map tagged v)
termination_by v => v
decreasing_by
  · have := List.sizeOf_lt_of_mem ‹_ ∈ _›
    rw [Value.list.sizeOf_spec]
    omega
  · exact (sizeOf_of_mem ‹_ ∈ _›).1
  · exact (sizeOf_of_mem ‹_ ∈ _›).2
  · rw [Value.tagged.sizeOf_spec]
    omega

theorem sameItems_iff {vs ws : List Value} :
    sameItems vs ws ↔ List.Forall₂ (fun v w => v.same w) vs ws := by
  induction vs generalizing ws with
  | nil => cases ws <;> simp [sameItems]
  | cons v vs ih => cases ws <;> simp [sameItems, ih]

theorem within_iff : within es fs ↔ ∀ e ∈ es, ∃ f ∈ fs, e.1.same f.1 ∧ e.2.same f.2 := by
  induction es with
  | nil => simp [within]
  | cons e es ih => simp [within, ih]

theorem among_iff {f : Entry} : among es f ↔ ∃ e ∈ es, e.1.same f.1 ∧ e.2.same f.2 := by
  induction es with
  | nil => simp [among]
  | cons e es ih => simp [among, ih]

theorem same_map : (map es).same (map fs)
    ↔ (∀ e ∈ es, ∃ f ∈ fs, e.1.same f.1 ∧ e.2.same f.2)
      ∧ ∀ f ∈ fs, ∃ e ∈ es, e.1.same f.1 ∧ e.2.same f.2 := by
  rw [same, Bool.and_eq_true, within_iff, List.all_eq_true]
  exact and_congr_right fun _ => forall₂_congr fun _ _ => among_iff

theorem same_list {vs ws : List Value} :
    (list vs).same (list ws) ↔ List.Forall₂ (fun v w => v.same w) vs ws := by
  rw [same, sameItems_iff]

theorem same_refl (v : Value) : v.same v := by
  induction v using induction with
  | scalar s => exact s.same_refl
  | list vs ih => exact same_list.2 (List.forall₂_same.2 ih)
  | map es ih => exact same_map.2 ⟨fun e he => ⟨e, he, ih e he⟩, fun e he => ⟨e, he, ih e he⟩⟩
  | tagged t v ih => simp [same, ih]

theorem same_symm (h : v.same w) : w.same v := by
  induction v using induction generalizing w with
  | scalar s =>
    cases w with
    | scalar t => exact Scalar.same_symm h
    | _ => cases h
  | list vs ih =>
    cases w with
    | list ws =>
      rw [same_list] at h ⊢
      have hpairs : List.Forall₂ (fun v w => (∀ w, v.same w → w.same v) ∧ v.same w) vs ws :=
        (List.forall₂_and_left vs ws).2 ⟨fun v hv _ => ih v hv, h⟩
      exact (hpairs.imp fun v w hvw => hvw.1 w hvw.2).flip
    | _ => cases h
  | map es ih =>
    cases w with
    | map fs =>
      rw [same_map] at h ⊢
      refine ⟨fun f hf => ?_, fun e he => ?_⟩
      · obtain ⟨e, he, hkey, hvalue⟩ := h.2 f hf
        exact ⟨e, he, (ih e he).1 hkey, (ih e he).2 hvalue⟩
      · obtain ⟨f, hf, hkey, hvalue⟩ := h.1 e he
        exact ⟨f, hf, (ih e he).1 hkey, (ih e he).2 hvalue⟩
    | _ => cases h
  | tagged t v ih =>
    cases w with
    | tagged t' w =>
      simp only [same, Bool.and_eq_true, decide_eq_true_eq] at h ⊢
      exact ⟨h.1.symm, ih h.2⟩
    | _ => cases h

theorem same_comm (v w : Value) : v.same w = w.same v := Bool.eq_iff_iff.2 ⟨same_symm, same_symm⟩

theorem same_trans (huv : u.same v) (hvw : v.same w) : u.same w := by
  induction u using induction generalizing v w with
  | scalar s =>
    cases v with
    | scalar t =>
      cases w with
      | scalar r => exact Scalar.same_trans huv hvw
      | _ => cases hvw
    | _ => cases huv
  | list us ih =>
    cases v with
    | list vs =>
      cases w with
      | list ws =>
        rw [same_list] at huv hvw ⊢
        induction huv generalizing ws with
        | nil => exact hvw
        | cons hfirst _ ihrest =>
          obtain ⟨hu, hus⟩ := List.forall_mem_cons.1 ih
          cases hvw with
          | cons hnext hrest => exact .cons (hu hfirst hnext) (ihrest hus _ hrest)
      | _ => cases hvw
    | _ => cases huv
  | map es ih =>
    cases v with
    | map fs =>
      cases w with
      | map gs =>
        rw [same_map] at huv hvw ⊢
        refine ⟨fun e he => ?_, fun g hg => ?_⟩
        · obtain ⟨f, hf, hkey, hvalue⟩ := huv.1 e he
          obtain ⟨g, hg, hkey', hvalue'⟩ := hvw.1 f hf
          exact ⟨g, hg, (ih e he).1 hkey hkey', (ih e he).2 hvalue hvalue'⟩
        · obtain ⟨f, hf, hkey', hvalue'⟩ := hvw.2 g hg
          obtain ⟨e, he, hkey, hvalue⟩ := huv.2 f hf
          exact ⟨e, he, (ih e he).1 hkey hkey', (ih e he).2 hvalue hvalue'⟩
      | _ => cases hvw
    | _ => cases huv
  | tagged t u ih =>
    cases v with
    | tagged t' v =>
      cases w with
      | tagged t'' w =>
        simp only [same, Bool.and_eq_true, decide_eq_true_eq] at huv hvw ⊢
        exact ⟨huv.1.trans hvw.1, ih huv.2 hvw.2⟩
      | _ => cases hvw
    | _ => cases huv

/-- What one way to write a key is the same as, every other is, too. -/
theorem same_congr (h : j.same k) (v : Value) : j.same v = k.same v :=
  Bool.eq_iff_iff.2 ⟨same_trans (same_symm h), same_trans h⟩

theorem lookup_congr (h : j.same k) (es : List Entry) : lookup j es = lookup k es := by
  induction es with
  | nil => rfl
  | cons e es ih => rw [lookup, lookup, same_congr h, ih]

@[simp]
theorem lookup_cons_self (k v : Value) (es : List Entry) : lookup k ((k, v) :: es) = some v :=
  if_pos (same_refl k)

theorem lookup_append (k : Value) (es fs : List Entry) :
    lookup k (es ++ fs) = (lookup k es).or (lookup k fs) := by
  induction es with
  | nil => rfl
  | cons e es ih =>
    rw [List.cons_append, lookup, lookup]
    split
    · rfl
    · exact ih

theorem lookup_eq_none_iff : lookup k es = none ↔ ∀ e ∈ es, k.same e.1 = false := by
  induction es with
  | nil => simp [lookup]
  | cons e es ih =>
    rw [lookup, List.forall_mem_cons]
    cases h : k.same e.1 <;> simp [ih]

theorem exists_of_lookup (h : lookup k es = some v) : ∃ e ∈ es, k.same e.1 ∧ e.2 = v := by
  induction es with
  | nil => cases h
  | cons e es ih =>
    rw [lookup] at h
    split at h
    next hkey => exact ⟨e, List.mem_cons_self, hkey, Option.some.inj h⟩
    next =>
      obtain ⟨e', he', hfound⟩ := ih h
      exact ⟨e', List.mem_cons_of_mem e he', hfound⟩

theorem isSome_lookup (k : Value) (es : List Entry) :
    (lookup k es).isSome = (es.map Prod.fst).any k.same := by
  induction es with
  | nil => rfl
  | cons e es ih =>
    rw [lookup, List.map_cons, List.any_cons]
    cases k.same e.1 with
    | true => rfl
    | false => exact ih

/-- Under each of some keys stands what depends on the key only, in whatever way it is written. -/
theorem lookup_map_keys {f : Value → Value} (hf : ∀ j, k.same j → f j = f k) (keys : List Value) :
    lookup k (keys.map fun j => (j, f j)) = if keys.any k.same then some (f k) else none := by
  induction keys with
  | nil => rfl
  | cons j keys ih =>
    rw [List.map_cons, lookup, List.any_cons]
    cases hj : k.same j with
    | true => simp [hf j hj]
    | false => simpa using ih

theorem lookup_replace (j k v : Value) (es : List Entry) :
    lookup j (replace k v es)
      = if j.same k then (lookup j es).map fun _ => v else lookup j es := by
  induction es with
  | nil => simp [replace, lookup]
  | cons e es ih =>
    rw [replace]
    by_cases hjk : j.same k
    · rw [if_pos hjk] at ih ⊢
      by_cases hk : k.same e.1
      · have hj := same_trans hjk hk
        simp [lookup, hk, hj]
      · have hj : ¬ j.same e.1 := fun hj => hk (same_trans (same_symm hjk) hj)
        simpa [lookup, hk, hj] using ih
    · rw [if_neg hjk] at ih ⊢
      by_cases hk : k.same e.1
      · have hj : ¬ j.same e.1 := fun hj => hjk (same_trans hj (same_symm hk))
        simp [lookup, hk, hj]
      · simp only [hk, Bool.false_eq_true, if_false, lookup, ih]

theorem keys_replace (k v : Value) (es : List Entry) :
    (replace k v es).map Prod.fst = es.map Prod.fst := by
  induction es with
  | nil => rfl
  | cons e es ih =>
    rw [replace]
    split
    · rfl
    · rw [List.map_cons, List.map_cons, ih]

/-- Are no two of the keys the same? -/
def Apart (keys : List Value) : Prop := keys.Pairwise fun j k => j.same k = false

/-- Entries with one list of keys that find the same values are equal. -/
theorem entries_ext (hkeys : es.map Prod.fst = fs.map Prod.fst) (hapart : Apart (es.map Prod.fst))
    (hlookup : ∀ k ∈ es.map Prod.fst, lookup k es = lookup k fs) : es = fs := by
  induction es generalizing fs with
  | nil => exact (List.map_eq_nil_iff.1 hkeys.symm).symm
  | cons e es ih =>
    obtain ⟨k, v⟩ := e
    cases fs with
    | nil => cases hkeys
    | cons f fs =>
      obtain ⟨j, w⟩ := f
      obtain ⟨rfl : k = j, hrest⟩ := List.cons.inj hkeys
      obtain ⟨hfirst, hapart'⟩ := List.pairwise_cons.1 hapart
      have hvalue : v = w := by
        have hself := hlookup k List.mem_cons_self
        rwa [lookup_cons_self, lookup_cons_self, Option.some_inj] at hself
      rw [hvalue, ih hrest hapart' fun j hj => ?_]
      have hother : ¬ j.same k := by simp [same_comm j, hfirst j hj]
      have hfound := hlookup j (List.mem_cons_of_mem k hj)
      rwa [lookup, lookup, if_neg hother, if_neg hother] at hfound

end Value
end Yaml
end Waystation
