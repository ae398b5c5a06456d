/-!
Steps taken one after another, and what comes of them on the way. A step depends on the state that
the steps before it have left behind.
-/
namespace Waystation

variable {σ ο α : Type}

/-- What comes of steps, in their order. -/
def logged (step : σ → ο → σ) (f : σ → ο → List α) : σ → List ο → List α
  | _, [] => []
  | s, op :: ops => f s op ++ logged step f (step s op) ops

variable {step : σ → ο → σ} {f : σ → ο → List α}

theorem logged_append (s : σ) (ops ops' : List ο) :
    logged step f s (ops ++ ops') = logged step f s ops ++ logged step f (ops.foldl step s) ops' := by
  induction ops generalizing s with
  | nil => rfl
  | cons op ops ih => simp only [List.cons_append, logged, List.foldl_cons, ih, List.append_assoc]

/-- What came of steps came of one of them. -/
theorem exists_of_mem_logged {s : σ} {ops : List ο} {x : α} (h : x ∈ logged step f s ops) :
    ∃ before op rest, ops = before ++ op :: rest ∧ x ∈ f (before.foldl step s) op := by
  induction ops generalizing s with
  | nil => cases h
  | cons op ops ih =>
    rcases List.mem_append.1 h with hfirst | hrest
    · exact ⟨[], op, ops, rfl, hfirst⟩
    · obtain ⟨before, op', rest, rfl, hx⟩ := ih hrest
      exact ⟨op :: before, op', rest, rfl, hx⟩

/-- A relation between the state and what has come so far holds at all times if every step keeps
it. -/
theorem invariant_logged {I : σ → List α → Prop}
    (hstep : ∀ s xs op, I s xs → I (step s op) (xs ++ f s op)) {s : σ} {xs : List α} (h : I s xs)
    (ops : List ο) : I (ops.foldl step s) (xs ++ logged step f s ops) := by
  induction ops generalizing s xs with
  | nil => simpa [logged] using h
  | cons op ops ih => simpa [logged, List.append_assoc] using ih (hstep s xs op h)

end Waystation
