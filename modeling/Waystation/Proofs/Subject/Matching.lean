import Mathlib.Data.List.Forall2
import Waystation.Proofs.Lists
import Waystation.Subject
/-!
What a filter accepts. A subject is accepted exactly if it can be made from the filter: one token is
put in the place of every `*`, one or more in the place of a `>` at the end, and all other tokens stay.
A filter that is made wider loses no subject.
-/
namespace Waystation.Subject

/-- The tokens of a text are what stands between its dots. -/
theorem tokens_eq_splitOn (cs : List Char) : tokens cs = cs.splitOn '.' := by
  refine eq_splitOn rfl (fun c cs => ?_) cs
  rw [tokens]
  cases tokens cs <;> rfl

theorem join_eq_intercalate (ts : List (List Char)) : join ts = ['.'].intercalate ts := by
  induction ts with
  | nil => rfl
  | cons t ts ih =>
    cases ts with
    | nil => simp [join]
    | cons u us =>
      rw [List.intercalate_cons_cons, ← ih]
      simp [join]

theorem not_mem_of_mem_tokens {cs t : List Char} (h : t ∈ tokens cs) : '.' ∉ t := by
  rw [tokens_eq_splitOn] at h
  exact not_mem_of_mem_splitOn h

/-- Tokens that are joined are found again. -/
theorem tokens_join {ts : List (List Char)} (hne : ts ≠ []) (h : ∀ t ∈ ts, '.' ∉ t) :
    tokens (join ts) = ts := by
  rw [tokens_eq_splitOn, join_eq_intercalate, List.splitOn_intercalate '.' h hne]

/-- What may stand in a subject in the place of a token of a filter. -/
inductive Fills : List Char → List (List Char) → Prop
  | one {t : List Char} (h : '.' ∉ t) : Fills ['*'] [t]
  | rest {ts : List (List Char)} (hne : ts ≠ []) (h : ∀ t ∈ ts, '.' ∉ t) : Fills ['>'] ts
  | same {t : List Char} (hone : t ≠ ['*']) (hrest : t ≠ ['>']) : Fills t [t]

section Tokens

variable {f : List Char} {fs gs ss : List (List Char)}

theorem Fills.ne_nil {piece : List (List Char)} (h : Fills f piece) : piece ≠ [] := by
  cases h with
  | one => exact List.cons_ne_nil _ _
  | rest hne => exact hne
  | same => exact List.cons_ne_nil _ _

theorem Fills.not_mem {piece : List (List Char)} (h : Fills f piece) (hf : '.' ∉ f) :
    ∀ s ∈ piece, '.' ∉ s := by
  cases h with
  | one hs => exact List.forall_mem_singleton.2 hs
  | rest _ hall => exact hall
  | same => exact List.forall_mem_singleton.2 hf

/-- Only the token for the rest is filled by more than one. -/
theorem Fills.eq_singleton {piece : List (List Char)} (h : Fills f piece) (hrest : f ≠ ['>']) :
    ∃ s, piece = [s] ∧ (f = ['*'] ∨ f = s) := by
  cases h with
  | one => exact ⟨_, rfl, .inl rfl⟩
  | rest => exact absurd rfl hrest
  | same => exact ⟨_, rfl, .inr rfl⟩

theorem fills_singleton {s : List Char} (hs : '.' ∉ s) (hrest : f ≠ ['>']) (h : f = ['*'] ∨ f = s) :
    Fills f [s] := by
  by_cases hone : f = ['*']
  · rw [hone]
    exact .one hs
  · obtain rfl := h.resolve_left hone
    exact .same hone hrest

/-- The token for the rest stands nowhere but at the end. -/
def RestLast (fs : List (List Char)) : Prop := ∀ f ∈ fs.dropLast, f ≠ ['>']

theorem RestLast.end_of_rest (h : RestLast (['>'] :: fs)) : fs = [] := by
  by_contra hne
  exact h ['>'] (by simp [List.dropLast_cons_of_ne_nil hne]) rfl

theorem RestLast.tail (h : RestLast (f :: fs)) : RestLast fs := by
  intro g hg
  have hne : fs ≠ [] := by
    rintro rfl
    exact absurd hg List.not_mem_nil
  exact h g (by simp [List.dropLast_cons_of_ne_nil hne, hg])

theorem acceptsTokens_rest (s : List Char) (fs ss : List (List Char)) :
    acceptsTokens (['>'] :: fs) (s :: ss) = true := by
  simp [acceptsTokens]

theorem acceptsTokens_cons {s : List Char} (hrest : f ≠ ['>']) :
    acceptsTokens (f :: fs) (s :: ss) = true
      ↔ (f = ['*'] ∨ f = s) ∧ acceptsTokens fs ss = true := by
  simp [acceptsTokens, hrest]

/-- A filter accepts what fills its tokens. -/
theorem acceptsTokens_iff (hfs : RestLast fs) (hss : ∀ s ∈ ss, '.' ∉ s) :
    acceptsTokens fs ss = true ↔ ∃ pieces, List.Forall₂ Fills fs pieces ∧ pieces.flatten = ss := by
  induction fs generalizing ss with
  | nil =>
    cases ss with
    | nil => exact ⟨fun _ => ⟨[], .nil, rfl⟩, fun _ => rfl⟩
    | cons s ss => simp [acceptsTokens]
  | cons f fs ih =>
    cases ss with
    | nil =>
      refine ⟨nofun, ?_⟩
      rintro ⟨pieces, hpieces, hflatten⟩
      obtain ⟨piece, rest, hpiece, -, rfl⟩ := List.forall₂_cons_left_iff.1 hpieces
      exact absurd (List.append_eq_nil_iff.1 hflatten).1 hpiece.ne_nil
    | cons s ss =>
      by_cases hrest : f = ['>']
      · -- all that is left of the subject is taken at once
        subst hrest
        obtain rfl := hfs.end_of_rest
        have hfills := Fills.rest (List.cons_ne_nil s ss) hss
        exact ⟨fun _ => ⟨[s :: ss], .cons hfills .nil, by simp⟩, fun _ => acceptsTokens_rest s [] ss⟩
      · obtain ⟨hs, hss⟩ := List.forall_mem_cons.1 hss
        rw [acceptsTokens_cons hrest, ih hfs.tail hss]
        constructor
        · rintro ⟨hfits, pieces, hpieces, rfl⟩
          exact ⟨[s] :: pieces, .cons (fills_singleton hs hrest hfits) hpieces, rfl⟩
        · rintro ⟨pieces, hpieces, hflatten⟩
          obtain ⟨piece, pieces, hpiece, hothers, rfl⟩ := List.forall₂_cons_left_iff.1 hpieces
          obtain ⟨s', rfl, hfits⟩ := hpiece.eq_singleton hrest
          obtain ⟨rfl, rfl⟩ := List.cons.inj hflatten
          exact ⟨hfits, pieces, hothers, rfl⟩

/-- Without wildcards a filter accepts itself. -/
theorem acceptsTokens_self (h : ∀ f ∈ fs, f ≠ ['>']) : acceptsTokens fs fs = true := by
  induction fs with
  | nil => rfl
  | cons f fs ih =>
    obtain ⟨hf, hfs⟩ := List.forall_mem_cons.1 h
    exact (acceptsTokens_cons hf).2 ⟨.inr rfl, ih hfs⟩

/-- A wider end makes a wider filter. -/
theorem acceptsTokens_wider {hs : List (List Char)}
    (h : ∀ ss, acceptsTokens fs ss = true → acceptsTokens hs ss = true)
    (haccepts : acceptsTokens (gs ++ fs) ss = true) : acceptsTokens (gs ++ hs) ss = true := by
  induction gs generalizing ss with
  | nil => exact h ss haccepts
  | cons g gs ih =>
    cases ss with
    | nil => cases haccepts
    | cons s ss =>
      by_cases hrest : g = ['>']
      · rw [hrest]
        exact acceptsTokens_rest s _ ss
      · exact (acceptsTokens_cons hrest).2 (((acceptsTokens_cons hrest).1 haccepts).imp_right ih)

theorem acceptsTokens_one (hf : f ≠ ['>']) (h : acceptsTokens (f :: fs) ss = true) :
    acceptsTokens (['*'] :: fs) ss = true := by
  cases ss with
  | nil => cases h
  | cons s ss => exact (acceptsTokens_cons (by decide)).2 ⟨.inl rfl, ((acceptsTokens_cons hf).1 h).2⟩

theorem acceptsTokens_end (hfs : fs ≠ []) (h : acceptsTokens fs ss = true) :
    acceptsTokens [['>']] ss = true := by
  cases ss with
  | nil =>
    obtain ⟨f, fs, rfl⟩ := List.exists_cons_of_ne_nil hfs
    cases h
  | cons s ss => exact acceptsTokens_rest s [] ss

theorem not_mem_flatten {pieces : List (List (List Char))} (h : List.Forall₂ Fills fs pieces)
    (hfs : ∀ f ∈ fs, '.' ∉ f) : ∀ s ∈ pieces.flatten, '.' ∉ s := by
  induction h with
  | nil => exact fun s hs => absurd hs List.not_mem_nil
  | cons hfills _ ih =>
    obtain ⟨hf, hfs⟩ := List.forall_mem_cons.1 hfs
    rw [List.flatten_cons]
    exact List.forall_mem_append.2 ⟨hfills.not_mem hf, ih hfs⟩

/-- What fills a filter is the tokens of what it is joined to. -/
theorem tokens_join_flatten {pieces : List (List (List Char))} (h : List.Forall₂ Fills fs pieces)
    (hne : fs ≠ []) (hfs : ∀ f ∈ fs, '.' ∉ f) : tokens (join pieces.flatten) = pieces.flatten := by
  obtain ⟨f, fs, rfl⟩ := List.exists_cons_of_ne_nil hne
  obtain ⟨piece, rest, hpiece, -, rfl⟩ := List.forall₂_cons_left_iff.1 h
  refine tokens_join (fun hflatten => ?_) (not_mem_flatten h hfs)
  exact hpiece.ne_nil (List.append_eq_nil_iff.1 hflatten).1

end Tokens

theorem tokens_ofList_join {ts : List (List Char)} (hne : ts ≠ []) (h : ∀ t ∈ ts, '.' ∉ t) :
    tokens (String.ofList (join ts)).toList = ts := by
  rw [String.toList_ofList, tokens_join hne h]

/-- A filter with no `>` but at its end accepts a subject exactly if the subject is what comes of putting
a token without dots in the place of each `*` and one or more in the place of the `>`, all other tokens
unchanged. A subject without wildcards accepts itself, and `>` accepts every subject. To put `*` in the
place of any token but `>`, or `>` in the place of any tokens at the end, loses no subject. -/
theorem accepts_wildcards (filter subject : String) :
    (RestLast (tokens filter.toList) → (accepts filter subject = true ↔ ∃ pieces,
      List.Forall₂ Fills (tokens filter.toList) pieces ∧ subject.toList = join pieces.flatten))
    ∧ ((∀ t ∈ tokens subject.toList, t ≠ ['*'] ∧ t ≠ ['>']) → accepts subject subject = true)
    ∧ accepts ">" subject = true
    ∧ (∀ before t after, tokens filter.toList = before ++ t :: after → t ≠ ['>'] →
      accepts filter subject = true →
      accepts (String.ofList (join (before ++ ['*'] :: after))) subject = true)
    ∧ ∀ before after, tokens filter.toList = before ++ after → after ≠ [] →
      accepts filter subject = true →
      accepts (String.ofList (join (before ++ [['>']]))) subject = true := by
  have hundotted : ∀ t ∈ tokens filter.toList, '.' ∉ t := fun t => not_mem_of_mem_tokens
  refine ⟨fun hrest => ?_, fun hplain => ?_, ?_, fun before t after hfilter ht haccepts => ?_,
    fun before after hfilter hafter haccepts => ?_⟩
  · rw [accepts, acceptsTokens_iff hrest fun s => not_mem_of_mem_tokens]
    refine exists_congr fun pieces => and_congr_right fun hpieces =>
      ⟨fun hsubject => ?_, fun hsubject => ?_⟩
    · rw [hsubject, join_tokens]
    · rw [hsubject, tokens_join_flatten hpieces (tokens_ne_nil _) hundotted]
  · exact acceptsTokens_self fun t ht => (hplain t ht).2
  · obtain ⟨s, ss, hsubject⟩ := List.exists_cons_of_ne_nil (tokens_ne_nil subject.toList)
    rw [accepts, hsubject]
    exact acceptsTokens_rest s [] ss
  · rw [hfilter] at hundotted
    obtain ⟨hbefore, hend⟩ := List.forall_mem_append.1 hundotted
    obtain ⟨-, hafter⟩ := List.forall_mem_cons.1 hend
    have hjoined : ∀ t ∈ before ++ ['*'] :: after, '.' ∉ t :=
      List.forall_mem_append.2 ⟨hbefore, List.forall_mem_cons.2 ⟨by decide, hafter⟩⟩
    rw [accepts, hfilter] at haccepts
    rw [accepts, tokens_ofList_join (by simp) hjoined]
    exact acceptsTokens_wider (fun ss => acceptsTokens_one ht) haccepts
  · rw [hfilter] at hundotted
    obtain ⟨hbefore, -⟩ := List.forall_mem_append.1 hundotted
    have hjoined : ∀ t ∈ before ++ [['>']], '.' ∉ t :=
      List.forall_mem_append.2 ⟨hbefore, List.forall_mem_singleton.2 (by decide)⟩
    rw [accepts, hfilter] at haccepts
    rw [accepts, tokens_ofList_join (by simp) hjoined]
    exact acceptsTokens_wider (fun ss => acceptsTokens_end hafter) haccepts

end Waystation.Subject
