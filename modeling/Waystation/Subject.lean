/-!
Subjects and filters. Both are tokens joined by dots. In a filter `*` stands for one token, and `>`
for one or more tokens up to the end.
-/
namespace Waystation.Subject

/-- The tokens of a subject; an empty subject is one empty token. -/
def tokens : List Char → List (List Char)
  | [] => [[]]
  | c :: cs =>
    if c = '.' then [] :: tokens cs
    else match tokens cs with
      | t :: ts => (c :: t) :: ts
      | [] => [[c]]

/-- Tokens joined by dots. -/
def join : List (List Char) → List Char
  | [] => []
  | [t] => t
  | t :: ts => t ++ '.' :: join ts

/-- Does a filter accept a subject, token by token? -/
def acceptsTokens : List (List Char) → List (List Char) → Bool
  | f :: fs, s :: ss => f = ['>'] || ((f = ['*'] || f = s) && acceptsTokens fs ss)
  | [], [] => true
  | _, _ => false

/-- Does a filter accept a subject? -/
def accepts (filter subject : String) : Bool :=
  acceptsTokens (tokens filter.toList) (tokens subject.toList)

theorem tokens_ne_nil (cs : List Char) : tokens cs ≠ [] := by
  cases cs with
  | nil => simp [tokens]
  | cons c cs => unfold tokens; split <;> (try split) <;> simp

theorem join_tokens (cs : List Char) : join (tokens cs) = cs := by
  induction cs with
  | nil => rfl
  | cons c cs ih =>
    unfold tokens
    split
    · next h =>
      subst h
      match ht : tokens cs with
      | [] => exact absurd ht (tokens_ne_nil cs)
      | t :: ts => rw [ht] at ih; simp [join, ih]
    · match ht : tokens cs with
      | [] => exact absurd ht (tokens_ne_nil cs)
      | [t] => rw [ht] at ih; simpa [join] using ih
      | t :: u :: ts => rw [ht] at ih; simpa [join] using ih

/-- Durable names must not hold dots or blanks: both become dashes. -/
def dashed (s : String) : String := s.map fun c => if c = '.' ∨ c = ' ' then '-' else c

/-- The name of the consumer group of a process on a subject. -/
def groupName (subject process : String) : String := dashed subject ++ "-" ++ dashed process

end Waystation.Subject
