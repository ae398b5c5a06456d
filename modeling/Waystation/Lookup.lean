/-!
Values by name, as lists of pairs. The first pair of a name counts.
-/
namespace Waystation

variable {α : Type} (key other : String)

theorem lookup_cons_if (e : String × α) (es : List (String × α)) :
    (e :: es).lookup key = if key = e.1 then some e.2 else es.lookup key := by
  obtain ⟨k, v⟩ := e
  by_cases h : key = k
  · subst h; simp
  · have : (key == k) = false := by simpa using h
    simp [List.lookup_cons, this, h]

theorem lookup_filter_ne (es : List (String × α)) :
    (es.filter fun e => e.1 ≠ key).lookup other
      = if other = key then none else es.lookup other := by
  induction es with
  | nil => simp
  | cons e es ih =>
    by_cases hk : e.1 = key
    · rw [List.filter_cons_of_neg (by simp [hk]), ih, lookup_cons_if, hk]
      by_cases ho : other = key <;> simp [ho]
    · rw [List.filter_cons_of_pos (by simp [hk]), lookup_cons_if, lookup_cons_if, ih]
      by_cases ho : other = e.1 <;> simp [ho, hk]

end Waystation
