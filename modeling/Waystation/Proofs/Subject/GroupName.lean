import Waystation.Subject
/-!
What the name of a consumer group tells. It keeps the words of the subject and then those of the
process, and forgets both where the subject ends and which of dots, blanks and dashes stood between
the words.
-/
namespace Waystation.Subject

/-- Does a character stand between words? -/
def isBreak (c : Char) : Bool := c = '.' || c = ' ' || c = '-'

/-- The words of a text; between two breaks there may be an empty one. -/
def words (s : String) : List (List Char) := s.toList.splitOnP isBreak

/-- All breaks become dashes and no other character does. -/
theorem toList_dashed (s : String) :
    (dashed s).toList = s.toList.map fun c => if isBreak c then '-' else c := by
  rw [dashed, String.toList_map]
  refine List.map_congr_left fun c _ => ?_
  by_cases hdash : c = '-'
  · simp [isBreak, hdash]
  · simp [isBreak, hdash]

theorem splitOn_map_dash (cs : List Char) :
    (cs.map fun c => if isBreak c then '-' else c).splitOn '-' = cs.splitOnP isBreak := by
  rw [List.splitOn_eq_splitOnP]
  induction cs with
  | nil => rfl
  | cons c cs ih =>
    rw [List.map_cons, List.splitOnP_cons_eq_if_modifyHead, List.splitOnP_cons_eq_if_modifyHead, ih]
    by_cases hbreak : isBreak c
    · simp [hbreak]
    · have hdash : c ≠ '-' := by
        rintro rfl
        exact hbreak rfl
      simp [hbreak, hdash]

theorem eq_of_splitOn {c : Char} {cs ds : List Char} (h : cs.splitOn c = ds.splitOn c) : cs = ds := by
  have hjoined := congrArg [c].intercalate h
  rwa [List.intercalate_splitOn, List.intercalate_splitOn] at hjoined

theorem splitOn_groupName (subject process : String) :
    (groupName subject process).toList.splitOn '-' = words subject ++ words process := by
  have hname : (groupName subject process).toList
      = (dashed subject).toList ++ '-' :: (dashed process).toList := by
    simp [groupName]
  rw [hname, List.splitOn_eq_splitOnP, List.splitOnP_append_cons _ _ (by simp),
    ← List.splitOn_eq_splitOnP, ← List.splitOn_eq_splitOnP, toList_dashed, toList_dashed,
    splitOn_map_dash, splitOn_map_dash, words, words]

section Pairs

variable {subject subject' process process' : String}

/-- Two pairs have one name exactly if they have the same words, wherever the subject ends. -/
theorem groupName_eq_iff :
    groupName subject process = groupName subject' process'
      ↔ words subject ++ words process = words subject' ++ words process' := by
  rw [← splitOn_groupName, ← splitOn_groupName]
  exact ⟨fun h => by rw [h], fun h => String.toList_inj.1 (eq_of_splitOn h)⟩

/-- A text without breaks is one word. -/
theorem words_of_unbroken {s : String} (h : ∀ c ∈ s.toList, isBreak c = false) :
    words s = [s.toList] :=
  List.splitOnP_eq_singleton h

theorem splitOnP_isBreak {cs : List Char} (h : ∀ c ∈ cs, c ≠ ' ' ∧ c ≠ '-') :
    cs.splitOnP isBreak = cs.splitOn '.' := by
  rw [List.splitOn_eq_splitOnP]
  induction cs with
  | nil => rfl
  | cons c cs ih =>
    have hc := h c (List.mem_cons_self ..)
    have hrest := ih fun d hd => h d (List.mem_cons_of_mem _ hd)
    have hdot : isBreak c = (c == '.') := by
      rw [Bool.eq_iff_iff]
      simp [isBreak, hc.1, hc.2]
    rw [List.splitOnP_cons_eq_if_modifyHead, List.splitOnP_cons_eq_if_modifyHead, hrest, hdot]

/-- A subject that only dots break is known by its words. -/
theorem eq_of_words (hs : ∀ c ∈ subject.toList, c ≠ ' ' ∧ c ≠ '-')
    (hs' : ∀ c ∈ subject'.toList, c ≠ ' ' ∧ c ≠ '-') (h : words subject = words subject') :
    subject = subject' := by
  rw [words, words, splitOnP_isBreak hs, splitOnP_isBreak hs'] at h
  exact String.toList_inj.1 (eq_of_splitOn h)

/-- Names tell pairs apart if only dots break their subjects and nothing breaks their processes. -/
theorem eq_of_groupName (hs : ∀ c ∈ subject.toList, c ≠ ' ' ∧ c ≠ '-')
    (hs' : ∀ c ∈ subject'.toList, c ≠ ' ' ∧ c ≠ '-')
    (hp : ∀ c ∈ process.toList, isBreak c = false) (hp' : ∀ c ∈ process'.toList, isBreak c = false)
    (h : groupName subject process = groupName subject' process') :
    subject = subject' ∧ process = process' := by
  rw [groupName_eq_iff, words_of_unbroken hp, words_of_unbroken hp'] at h
  have hlast := List.append_inj' h rfl
  exact ⟨eq_of_words hs hs' hlast.1, String.toList_inj.1 (List.singleton_inj.1 hlast.2)⟩

end Pairs

end Waystation.Subject
