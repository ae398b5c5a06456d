import Waystation.Text.Class
/-!
Texts without white space at their ends: what trimming leaves, and what it leaves alone.
-/
namespace Waystation.Text

/-- No white space stands at either end. -/
structure Trimmed (s : String) : Prop where
  first : ∀ c ∈ s.toList.head?, isBlank c = false
  last : ∀ c ∈ s.toList.getLast?, isBlank c = false

theorem head?_dropWhile_blank {cs : List Char} {c : Char} (h : c ∈ (cs.dropWhile isBlank).head?) :
    isBlank c = false := by
  have hnot := List.head?_dropWhile_not isBlank cs
  rw [Option.mem_def.1 h] at hnot
  exact hnot

theorem dropWhile_blank {cs : List Char} (h : ∀ c ∈ cs.head?, isBlank c = false) :
    cs.dropWhile isBlank = cs := by
  cases cs with
  | nil => rfl
  | cons c cs => exact List.dropWhile_cons_of_neg (by simp [h c rfl])

theorem toList_trim (s : String) :
    (trim s).toList = ((s.toList.dropWhile isBlank).reverse.dropWhile isBlank).reverse :=
  String.toList_ofList

/-- White space behind a text comes off. -/
theorem trim_append {s t : String} (hs : Trimmed s) (ht : ∀ c ∈ t.toList, isBlank c = true) :
    trim (s ++ t) = s := by
  have hlast : ∀ c ∈ s.toList.reverse.head?, isBlank c = false := by
    rw [List.head?_reverse]
    exact hs.last
  have htail : ∀ c ∈ t.toList.reverse, isBlank c = true := fun c hc => ht c (List.mem_reverse.1 hc)
  rw [← String.toList_inj, toList_trim, String.toList_append]
  cases hchars : s.toList with
  | nil =>
    have hnone : (t.toList ++ []).dropWhile isBlank = [].dropWhile isBlank :=
      List.dropWhile_append_of_pos ht
    rw [List.append_nil] at hnone
    rw [List.nil_append, hnone]
    rfl
  | cons c cs =>
    have hfirst : isBlank c = false := hs.first c (by rw [hchars]; rfl)
    rw [hchars] at hlast
    rw [List.cons_append, List.dropWhile_cons_of_neg (by rw [hfirst]; decide), ← List.cons_append,
      List.reverse_append, List.dropWhile_append_of_pos htail, dropWhile_blank hlast,
      List.reverse_reverse]

theorem trim_of_trimmed {s : String} (h : Trimmed s) : trim s = s := by
  have hnothing := trim_append h (t := "") (fun c hc => absurd hc List.not_mem_nil)
  rwa [String.append_empty] at hnothing

theorem trimmed_trim (s : String) : Trimmed (trim s) where
  first c hc := by
    -- the end is cut off what has its beginning cut off already
    have hprefix : (trim s).toList <+: s.toList.dropWhile isBlank := by
      rw [toList_trim, ← List.reverse_suffix, List.reverse_reverse]
      exact List.dropWhile_suffix isBlank
    obtain ⟨rest, hrest⟩ := hprefix
    have hhead : c ∈ (s.toList.dropWhile isBlank).head? := by
      rw [← hrest, List.head?_append, Option.mem_def.1 hc]
      rfl
    exact head?_dropWhile_blank hhead
  last c hc := by
    rw [toList_trim, List.getLast?_reverse] at hc
    exact head?_dropWhile_blank hc

theorem mem_of_mem_trim {s : String} {c : Char} (h : c ∈ (trim s).toList) : c ∈ s.toList := by
  rw [toList_trim, List.mem_reverse] at h
  have hfirst := (List.dropWhile_suffix isBlank).subset h
  exact (List.dropWhile_suffix isBlank).subset (List.mem_reverse.1 hfirst)

end Waystation.Text
