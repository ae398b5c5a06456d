import Waystation.Text.CaseTable
import Waystation.Text.Class
/-!
Lower and upper case. Some characters become several. A capital sigma becomes its final form at the
end of a word: behind a letter that has case and not before one, passing over what is ignored.
-/
namespace Waystation.Text

/-- The one character that a table of runs gives. -/
def CaseRun.find (runs : List CaseRun) (n : Nat) : Nat :=
  match runs.find? fun r => r.first ≤ n ∧ n ≤ r.last ∧ (n - r.first) % r.step = 0 with
  | some r => (n + r.shift).toNat
  | none => n

/-- Maps a character by a table of longer forms, and else by a table of runs. -/
def mapCase (texts : List (Nat × List Nat)) (runs : List CaseRun) (c : Char) : List Char :=
  match texts.lookup c.toNat with
  | some ns => ns.map Char.ofNat
  | none => [Char.ofNat (CaseRun.find runs c.toNat)]

/-- A character in lower case; one may become two. -/
def lowerChar (c : Char) : List Char :=
  if c.toNat < 128 then [c.toLower] else mapCase lowerTexts lowerRuns c

/-- A character in upper case; one may become up to three. -/
def upperChar (c : Char) : List Char :=
  if c.toNat < 128 then [c.toUpper] else mapCase upperTexts upperRuns c

/-- Is the first character that is not ignored a letter that has case? -/
def casedNext (cs : List Char) : Bool :=
  match cs.dropWhile fun c => within caseIgnorableBounds c.toNat with
  | [] => false
  | c :: _ => within casedBounds c.toNat

/-- Lower case, given what stands before, last character first. -/
def lowerOnto : (before : List Char) → List Char → List Char
  | _, [] => []
  | before, c :: rest =>
    let mapped :=
      if c = 'Σ' then [if casedNext before && !casedNext rest then 'ς' else 'σ'] else lowerChar c
    mapped ++ lowerOnto (c :: before) rest

def lower (s : String) : String := String.ofList (lowerOnto [] s.toList)

/-- A text in upper case. -/
def upper (s : String) : String := String.ofList (s.toList.flatMap upperChar)

end Waystation.Text
