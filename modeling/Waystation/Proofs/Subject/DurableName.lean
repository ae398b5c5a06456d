import Waystation.Proofs.Subject.GroupName
import Waystation.Text.Class
import Waystation.Transport.Consumer
/-!
Names of durable consumers. Servers take no name with a dot, a wildcard or white space in it. The name
for a process on a subject is rid of dots and of blanks, but keeps every other character that servers
bar, so it is one that they take only if neither subject nor process holds such a character; a filter
with a wildcard never has one.
-/
namespace Waystation

namespace Subject

variable {c : Char}

/-- What becomes of a character in a dashed text. -/
theorem mem_dashed_iff {s : String} :
    c ∈ (dashed s).toList
      ↔ (c ∈ s.toList ∧ c ≠ '.' ∧ c ≠ ' ') ∨ c = '-' ∧ ('.' ∈ s.toList ∨ ' ' ∈ s.toList) := by
  rw [dashed, String.toList_map, List.mem_map]
  constructor
  · rintro ⟨d, hd, rfl⟩
    by_cases hbreak : d = '.' ∨ d = ' '
    · rw [if_pos hbreak]
      rcases hbreak with rfl | rfl
      · exact .inr ⟨rfl, .inl hd⟩
      · exact .inr ⟨rfl, .inr hd⟩
    · rw [if_neg hbreak]
      exact .inl ⟨hd, not_or.1 hbreak⟩
  · rintro (⟨hc, hdot, hblank⟩ | ⟨rfl, hdot | hblank⟩)
    · exact ⟨c, hc, if_neg (not_or.2 ⟨hdot, hblank⟩)⟩
    · exact ⟨'.', hdot, rfl⟩
    · exact ⟨' ', hblank, rfl⟩

/-- The name of a group holds the dash, and of its subject and process all but dots and blanks. -/
theorem mem_groupName_iff {subject process : String} (hdash : c ≠ '-') :
    c ∈ (groupName subject process).toList
      ↔ (c ∈ subject.toList ∨ c ∈ process.toList) ∧ c ≠ '.' ∧ c ≠ ' ' := by
  have hname : (groupName subject process).toList
      = (dashed subject).toList ++ '-' :: (dashed process).toList := by
    simp [groupName]
  rw [hname, List.mem_append, List.mem_cons, mem_dashed_iff, mem_dashed_iff]
  simp only [hdash, false_and, or_false, false_or]
  exact or_and_right.symm

/-- What stands in a token stands in the text. -/
theorem mem_of_mem_token {cs t : List Char} (ht : t ∈ tokens cs) (hc : c ∈ t) : c ∈ cs := by
  have hjoin : ∀ ts : List (List Char), t ∈ ts → c ∈ join ts := by
    intro ts
    induction ts with
    | nil => exact nofun
    | cons u ts ih =>
      intro hmem
      cases ts with
      | nil =>
        obtain rfl := List.mem_singleton.1 hmem
        exact hc
      | cons v vs =>
        rcases List.mem_cons.1 hmem with rfl | hrest
        · exact List.mem_append_left _ hc
        · exact List.mem_append_right _ (List.mem_cons_of_mem _ (ih hrest))
  rw [← join_tokens cs]
  exact hjoin _ ht

end Subject

namespace DurableConsumer

open Subject (groupName mem_groupName_iff mem_of_mem_token tokens)

/-- What servers bar from the names of durable consumers. -/
def isBarred (c : Char) : Bool := c = '.' || c = '*' || c = '>' || Text.isBlank c

/-- Do servers take a name for a durable consumer? -/
def IsName (name : String) : Prop := name ≠ "" ∧ ∀ c ∈ name.toList, isBarred c = false

instance (name : String) : Decidable (IsName name) :=
  -- One goes through the characters of the name, and not through all there are.
  have : Decidable (∀ c ∈ name.toList, isBarred c = false) := List.decidableBAll _ _
  inferInstanceAs (Decidable (_ ∧ _))

variable {subject process : String}

/-- The dash that takes the place of others is not barred itself. -/
theorem ne_dash_of_isBarred {c : Char} (h : isBarred c = true) : c ≠ '-' := by
  rintro rfl
  exact absurd h (by decide)

theorem groupName_ne_empty (subject process : String) : groupName subject process ≠ "" := by
  intro hempty
  have hnone := congrArg String.toList hempty
  simp [groupName] at hnone

/-- A name is one that servers take if all that they bar is dots and blanks. -/
theorem isName_groupName_iff :
    IsName (groupName subject process)
      ↔ ∀ c ∈ subject.toList ++ process.toList, isBarred c = true → c = '.' ∨ c = ' ' := by
  constructor
  · intro hname c hc hbarred
    by_cases hbreak : c = '.' ∨ c = ' '
    · exact hbreak
    · have hkept := (mem_groupName_iff (ne_dash_of_isBarred hbarred)).2
        ⟨List.mem_append.1 hc, not_or.1 hbreak⟩
      rw [hname.2 c hkept] at hbarred
      cases hbarred
  · intro hall
    refine ⟨groupName_ne_empty subject process, fun c hc => ?_⟩
    cases hbarred : isBarred c with
    | false => rfl
    | true =>
      obtain ⟨hmem, hdot, hblank⟩ := (mem_groupName_iff (ne_dash_of_isBarred hbarred)).1 hc
      exact absurd (hall c (List.mem_append.2 hmem) hbarred) (not_or.2 ⟨hdot, hblank⟩)

/-- The consumer of a process on a subject reads that subject from now on, and acknowledges every
message in its time. Its name is not empty and holds neither dots nor blanks, but all that servers bar
besides these it keeps from the subject and the process. So servers take the name exactly if there is
nothing of the kind in either, and never that of a filter with a wildcard. In every consumer the
settings are those that were asked for. -/
theorem forProcess_durable (subject process : String) :
    let name := (ConsumerOptions.forProcess subject process).durable.durableName
    (name ≠ "" ∧ '.' ∉ name.toList ∧ ' ' ∉ name.toList)
    ∧ (∀ c, isBarred c = true → (c ∈ name.toList
        ↔ (c ∈ subject.toList ∨ c ∈ process.toList) ∧ c ≠ '.' ∧ c ≠ ' '))
    ∧ (IsName name
        ↔ ∀ c ∈ subject.toList ++ process.toList, isBarred c = true → c = '.' ∨ c = ' ')
    ∧ (['*'] ∈ tokens subject.toList ∨ ['>'] ∈ tokens subject.toList → ¬IsName name)
    ∧ (ConsumerOptions.forProcess subject process).durable
        = { durableName := name, name := none, filterSubject := subject, deliver := .new
            ackPolicy := .explicit, ackWait := 22 * 60 * 60 }
    ∧ ∀ o : ConsumerOptions, o.durable.durableName = o.group ∧ o.durable.filterSubject = o.subject
        ∧ o.durable.deliver = o.deliver ∧ (o.durable.ackPolicy = .explicit ↔ o.manualAck = true)
        ∧ o.durable.ackWait = o.ackWait := by
  intro name
  have hbarred : ∀ c, isBarred c = true → (c ∈ name.toList
      ↔ (c ∈ subject.toList ∨ c ∈ process.toList) ∧ c ≠ '.' ∧ c ≠ ' ') :=
    fun c hc => mem_groupName_iff (ne_dash_of_isBarred hc)
  refine ⟨⟨groupName_ne_empty subject process, fun hdot => ?_, fun hblank => ?_⟩, hbarred,
    isName_groupName_iff, fun hwild hname => ?wildcard, rfl, fun o => ⟨rfl, rfl, rfl, ?acks, rfl⟩⟩
  · exact ((hbarred '.' (by decide)).1 hdot).2.1 rfl
  · exact ((hbarred ' ' (by decide)).1 hblank).2.2 rfl
  case wildcard =>
    have hall := isName_groupName_iff.1 hname
    rcases hwild with hone | hrest
    · have hstar : '*' ∈ subject.toList := mem_of_mem_token hone (List.mem_singleton.2 rfl)
      have hbreak := hall '*' (List.mem_append_left _ hstar) (by decide)
      exact absurd hbreak (by decide)
    · have hangle : '>' ∈ subject.toList := mem_of_mem_token hrest (List.mem_singleton.2 rfl)
      have hbreak := hall '>' (List.mem_append_left _ hangle) (by decide)
      exact absurd hbreak (by decide)
  case acks =>
    rw [ConsumerOptions.durable]
    cases o.manualAck <;> simp

/-- A process that reads all orders asks for a consumer that no server makes. -/
theorem refused_of_wildcard :
    (ConsumerOptions.forProcess "orders.*" "scorer").durable.durableName = "orders-*-scorer"
      ∧ ¬IsName (ConsumerOptions.forProcess "orders.*" "scorer").durable.durableName := by
  -- The name is worked out on characters: the kernel is slow at mapping over strings.
  have hname : (ConsumerOptions.forProcess "orders.*" "scorer").durable.durableName
      = "orders-*-scorer" := by
    simp [ConsumerOptions.durable, ConsumerOptions.forProcess, groupName, Subject.dashed,
      ← String.toList_inj]
  rw [hname]
  exact ⟨rfl, by decide +kernel⟩

end DurableConsumer
end Waystation
