/-!
Facts about lists that invariants of several machines rest on.
-/
namespace Waystation

theorem mem_snoc {α : Type} {xs : List α} {x y : α} : y ∈ xs ++ [x] ↔ y ∈ xs ∨ y = x := by
  rw [List.mem_append, List.mem_singleton]

/-- A place in two lists, one behind the other, is in one of them. -/
theorem append_eq_append_cons {α : Type} {xs ys before rest : List α} {x : α}
    (h : xs ++ ys = before ++ x :: rest) :
    (∃ rest', xs = before ++ x :: rest')
      ∨ ∃ before', before = xs ++ before' ∧ ys = before' ++ x :: rest := by
  rcases List.append_eq_append_iff.1 h with ⟨before', hbefore, hys⟩ | ⟨rest', hxs, hrest⟩
  · exact .inr ⟨before', hbefore, hys⟩
  · cases rest' with
    | nil => exact .inr ⟨[], by simpa using hxs.symm, by simpa using hrest.symm⟩
    | cons y rest' =>
      obtain ⟨rfl, -⟩ := List.cons.inj hrest
      exact .inl ⟨rest', hxs⟩

/-- What stands in a part of a list stands in the list, behind what comes before that part. -/
theorem getElem?_of_part {α : Type} {xs before after : List α} {i : Nat} {x : α}
    (h : xs[i]? = some x) : (before ++ xs ++ after)[before.length + i]? = some x := by
  rw [List.append_assoc, List.getElem?_append_right (Nat.le_add_right _ _),
    Nat.add_sub_cancel_left, List.getElem?_append_left (List.getElem?_eq_some_iff.1 h).1, h]

/-- A beginning of two lists, one behind the other, ends in one of them. -/
theorem prefix_append_cases {α : Type} {xs ys zs : List α} (h : xs <+: ys ++ zs) :
    xs <+: ys ∨ ∃ later, xs = ys ++ later ∧ later <+: zs := by
  rcases List.prefix_or_prefix_of_prefix h (List.prefix_append ys zs) with hbefore | ⟨later, rfl⟩
  · exact .inl hbefore
  · exact .inr ⟨later, rfl, (List.prefix_append_right_inj ys).1 h⟩

/-- A beginning of a list holds what stands there once as soon as it gets that far. -/
theorem mem_iff_begun {α : Type} {xs before rest : List α} {x : α}
    (h : xs <+: before ++ x :: rest) (hx : x ∉ before) : x ∈ xs ↔ before ++ [x] <+: xs := by
  constructor
  · intro hmem
    rcases prefix_append_cases h with hbefore | ⟨later, rfl, hlater⟩
    · exact absurd (hbefore.subset hmem) hx
    · cases later with
      | nil => exact absurd (List.append_nil before ▸ hmem) hx
      | cons y later =>
        obtain ⟨rfl, -⟩ := List.cons_prefix_cons.1 hlater
        exact (List.prefix_append_right_inj before).2 ⟨later, rfl⟩
  · exact fun hbegun => hbegun.subset (mem_snoc.2 (.inr rfl))

/-- What is added to a beginning of a list is its first member, or one behind that. -/
theorem snoc_prefix_cons {α : Type} {xs ys : List α} {x y : α} (h : xs ++ [x] <+: y :: ys) :
    (xs = [] ∧ x = y) ∨ ∃ xs', xs = y :: xs' ∧ xs' ++ [x] <+: ys := by
  cases xs with
  | nil => exact .inl ⟨rfl, (List.cons_prefix_cons.1 h).1⟩
  | cons z xs =>
    obtain ⟨rfl, hrest⟩ := List.cons_prefix_cons.1 h
    exact .inr ⟨xs, rfl, hrest⟩

theorem eq_of_nodup_map {α β : Type} {f : α → β} {xs : List α} (h : (xs.map f).Nodup) {x y : α}
    (hx : x ∈ xs) (hy : y ∈ xs) (hf : f x = f y) : x = y := by
  induction xs with
  | nil => cases hx
  | cons z xs ih =>
    rw [List.map_cons, List.nodup_cons] at h
    rcases List.mem_cons.1 hx with rfl | hx'
    · rcases List.mem_cons.1 hy with rfl | hy'
      · rfl
      · exact absurd (hf ▸ List.mem_map_of_mem hy') h.1
    · rcases List.mem_cons.1 hy with rfl | hy'
      · exact absurd (hf ▸ List.mem_map_of_mem hx') h.1
      · exact ih h.2 hx' hy'

theorem take_of_grown {α : Type} {xs ys : List α} (h : xs <+: ys) {n : Nat} (hn : n ≤ xs.length) :
    ys.take n = xs.take n := by
  obtain ⟨zs, rfl⟩ := h
  exact List.take_append_of_le_length hn

/-- What a list has grown by, in two steps. -/
theorem drop_of_grown {α : Type} {xs ys zs : List α} (h : xs <+: ys) (h' : ys <+: zs) :
    zs.drop xs.length = ys.drop xs.length ++ zs.drop ys.length := by
  obtain ⟨more, rfl⟩ := h
  obtain ⟨later, rfl⟩ := h'
  rw [List.drop_left, List.drop_left, List.append_assoc, List.drop_left]

theorem take_succ_of_drop {α : Type} {xs rest : List α} {n : Nat} {x : α}
    (h : xs.drop n = x :: rest) : n < xs.length ∧ xs.take (n + 1) = xs.take n ++ [x] := by
  have hlt : n < xs.length := by
    have hlen := congrArg List.length h
    simp only [List.length_drop, List.length_cons] at hlen
    omega
  refine ⟨hlt, ?_⟩
  rw [List.drop_eq_getElem_cons hlt] at h
  rw [List.take_succ_eq_append_getElem hlt, (List.cons.inj h).1]

theorem countP_set_add {β : Type} {p : β → Bool} {xs : List β} {n : Nat} {x y : β}
    (h : xs[n]? = some x) :
    (xs.set n y).countP p + (if p x then 1 else 0) = xs.countP p + (if p y then 1 else 0) := by
  induction xs generalizing n with
  | nil => simp at h
  | cons z xs ih =>
    cases n with
    | zero =>
      obtain rfl : z = x := by simpa using h
      simp only [List.set_cons_zero, List.countP_cons]
      omega
    | succ n =>
      have hrest := ih (n := n) (by simpa using h)
      simp only [List.set_cons_succ, List.countP_cons]
      omega

/-- Two functions that differ at one place of a list. -/
theorem map_eq_set {α β : Type} {f g : α → β} {xs : List α} {i : Nat} {x : α}
    (hi : xs[i]? = some x) (hother : ∀ j y, xs[j]? = some y → j ≠ i → g y = f y) :
    xs.map g = (xs.map f).set i (g x) := by
  refine List.ext_getElem? fun j => ?_
  rw [List.getElem?_set, List.getElem?_map, List.getElem?_map, List.length_map]
  by_cases hj : i = j
  · subst hj
    rw [if_pos rfl, if_pos (List.getElem?_eq_some_iff.1 hi).1, hi]
    rfl
  · rw [if_neg hj]
    cases hy : xs[j]? with
    | none => rfl
    | some y => exact congrArg some (hother j y hy (Ne.symm hj))

/-- All that comes of a list comes of one member. -/
theorem flatMap_of_only {α β : Type} {f : α → List β} {xs : List α} {x : α} (h : xs.Nodup)
    (hx : x ∈ xs) (hothers : ∀ y ∈ xs, y ≠ x → f y = []) : xs.flatMap f = f x := by
  induction xs with
  | nil => cases hx
  | cons y xs ih =>
    obtain ⟨hy, hxs⟩ := List.nodup_cons.1 h
    obtain ⟨hfirst, hrest⟩ := List.forall_mem_cons.1 hothers
    rw [List.flatMap_cons]
    by_cases hyx : y = x
    · subst hyx
      have hnothing : xs.flatMap f = [] :=
        List.flatMap_eq_nil_iff.2 fun z hz => hrest z hz fun hzy => hy (hzy ▸ hz)
      rw [hnothing, List.append_nil]
    · rw [hfirst hyx, List.nil_append]
      exact ih hxs ((List.mem_cons.1 hx).resolve_left (Ne.symm hyx)) hrest

/-- A function that starts a new part wherever it meets `x` splits there. -/
theorem eq_splitOn {α : Type} [DecidableEq α] {x : α} {f : List α → List (List α)}
    (hnil : f [] = [[]])
    (hcons : ∀ y ys, f (y :: ys) = if y = x then [] :: f ys
      else match f ys with
        | part :: parts => (y :: part) :: parts
        | [] => [[y]]) (xs : List α) : f xs = xs.splitOn x := by
  induction xs with
  | nil => rw [hnil, List.splitOn_nil]
  | cons y ys ih =>
    obtain ⟨part, parts, hsplit⟩ := List.exists_cons_of_ne_nil (List.splitOn_ne_nil x ys)
    rw [hcons, List.splitOn_cons_eq_if_modifyHead, ih, hsplit]
    simp

/-- What is split off is free of what splits. -/
theorem not_mem_of_mem_splitOn {α : Type} [DecidableEq α] {x : α} {xs part : List α}
    (h : part ∈ xs.splitOn x) : x ∉ part := by
  induction xs generalizing part with
  | nil =>
    rw [List.splitOn_nil, List.mem_singleton] at h
    rw [h]
    exact List.not_mem_nil
  | cons y xs ih =>
    obtain ⟨first, rest, hsplit⟩ := List.exists_cons_of_ne_nil (List.splitOn_ne_nil x xs)
    rw [List.splitOn_cons_eq_if_modifyHead, hsplit] at h
    rw [hsplit] at ih
    split at h
    · rcases List.mem_cons.1 h with rfl | hrest
      · exact List.not_mem_nil
      · exact ih hrest
    next hy =>
      rw [List.modifyHead_cons] at h
      rcases List.mem_cons.1 h with rfl | hrest
      · exact List.not_mem_cons_of_ne_of_not_mem (fun hxy => hy (by simp [hxy])) (ih List.mem_cons_self)
      · exact ih (List.mem_cons_of_mem first hrest)

end Waystation
