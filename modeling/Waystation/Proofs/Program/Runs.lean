import Waystation.Program
/-!
Runs of programs. A run is what a program asked, each request with the reply it got, and how the
program ended. A program that goes on with another one has run as both, one behind the other.
-/
namespace Waystation

/-- A request and the reply it got. -/
abbrev Exchange (S : Signature) := (r : S.Request) × S.Reply r

namespace Program

variable {S T : Signature} {α β : Type}

/-- What a program asked and was replied, and how it ended. -/
inductive Runs : Program S α → List (Exchange S) → α → Prop
  | done (a : α) : Runs (done a) [] a
  | ask {r : S.Request} {next : S.Reply r → Program S α} {reply : S.Reply r}
      {t : List (Exchange S)} {a : α} (h : Runs (next reply) t a) :
      Runs (ask r next) (⟨r, reply⟩ :: t) a

theorem runs_done_iff {a b : α} {t : List (Exchange S)} :
    (done a).Runs t b ↔ t = [] ∧ b = a := by
  constructor
  · intro h
    cases h
    exact ⟨rfl, rfl⟩
  · rintro ⟨rfl, rfl⟩
    exact .done b

theorem runs_ask_iff {r : S.Request} {next : S.Reply r → Program S α} {t : List (Exchange S)}
    {a : α} :
    (ask r next).Runs t a ↔ ∃ reply rest, t = ⟨r, reply⟩ :: rest ∧ (next reply).Runs rest a := by
  constructor
  · intro h
    cases h with
    | ask h => exact ⟨_, _, rfl, h⟩
  · rintro ⟨reply, rest, rfl, h⟩
    exact .ask h

theorem runs_bind_iff {p : Program S α} {f : α → Program S β} {t : List (Exchange S)} {b : β} :
    (p >>= f).Runs t b
      ↔ ∃ first a second, t = first ++ second ∧ p.Runs first a ∧ (f a).Runs second b := by
  induction p generalizing t with
  | done a =>
    constructor
    · intro h
      exact ⟨[], a, t, rfl, .done a, h⟩
    · rintro ⟨first, a', second, rfl, hp, hf⟩
      obtain ⟨rfl, rfl⟩ := runs_done_iff.1 hp
      exact hf
  | ask r next ih =>
    constructor
    · intro h
      obtain ⟨reply, rest, rfl, hrest⟩ := runs_ask_iff.1 h
      obtain ⟨first, a, second, rfl, hp, hf⟩ := (ih reply).1 hrest
      exact ⟨⟨r, reply⟩ :: first, a, second, rfl, .ask hp, hf⟩
    · rintro ⟨first, a, second, rfl, hp, hf⟩
      obtain ⟨reply, rest, rfl, hrest⟩ := runs_ask_iff.1 hp
      exact .ask ((ih reply).2 ⟨rest, a, second, rfl, hrest, hf⟩)

theorem Runs.bind {p : Program S α} {f : α → Program S β} {t t' : List (Exchange S)} {a : α} {b : β}
    (h : p.Runs t a) (h' : (f a).Runs t' b) : (p >>= f).Runs (t ++ t') b :=
  runs_bind_iff.2 ⟨t, a, t', rfl, h, h'⟩

/-- The run in which each request gets the reply that is chosen for it, knowing what came before. -/
def play (choose : List (Exchange S) → (r : S.Request) → S.Reply r) :
    (past : List (Exchange S)) → Program S α → List (Exchange S) × α
  | _, done a => ([], a)
  | past, ask r next =>
    let x : Exchange S := ⟨r, choose past r⟩
    let (t, a) := play choose (past ++ [x]) (next x.2)
    (x :: t, a)

/-- Whatever is replied, a program comes to its end. -/
theorem runs_play (choose : List (Exchange S) → (r : S.Request) → S.Reply r)
    (past : List (Exchange S)) (p : Program S α) :
    p.Runs (play choose past p).1 (play choose past p).2 := by
  induction p generalizing past with
  | done a => exact .done a
  | ask r next ih => exact .ask (ih (choose past r) (past ++ [⟨r, choose past r⟩]))

end Program
end Waystation
