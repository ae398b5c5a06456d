import Waystation.Proofs.Node.Invariant
/-!
Runner functions. A runner function does its work, tells once what it has returned, and then does
nothing any more.
-/
namespace Waystation

open NodeRequest Program

/-- A runner function returns something, after exchanges of its own; one that panics before it begins to
run has none. -/
inductive Duties.Returns (d : Duties) (c : Context) : List (Exchange NodeSignature) → Returned → Prop
  | early {f : RunnerFunction} {p : Panic} (hf : d.launched = some f) (hp : f c = .error p) :
      Returns d c [] (.error p)
  | late {f : RunnerFunction} {program : Program HookSignature HookOutcome}
      {t : List (Exchange NodeSignature)} {outcome : HookOutcome} (hf : d.launched = some f)
      (hprogram : f c = .ok program) (hruns : program.ofHook.Runs t outcome) :
      Returns d c t (.ok outcome.guarded)

namespace Duties

variable {d : Duties} {c : Context} {t : List (Exchange NodeSignature)}
variable {q : Program NodeSignature Turn} {r r' : Returned} {u : Unit}

/-- Telling what was returned is the last thing to do. -/
theorem told_of_leads
    (h : ((returned r').ask >>= fun _ => done Turn.finished : Program NodeSignature Turn).Leads t q)
    (hr : ⟨.returned r, u⟩ ∈ t) : q = .done .finished ∧ t = [⟨.returned r, ()⟩] ∧ r = r' := by
  cases t with
  | nil => cases hr
  | cons x t =>
    obtain ⟨reply, rfl, hrest⟩ := leads_ask_cons_iff.1 h
    obtain ⟨rfl, rfl⟩ := leads_done_iff.1 hrest
    cases List.mem_singleton.1 hr
    exact ⟨rfl, rfl, rfl⟩

/-- What a runner function tells is what it returns, and it tells it once, at its end. -/
theorem returned_of_leads (h : (d.body (.launch c)).Leads t q) (hr : ⟨.returned r, u⟩ ∈ t) :
    q = .done .finished ∧ ∃ t', t = t' ++ [⟨.returned r, ()⟩] ∧ d.Returns c t' r := by
  rw [body] at h
  split at h
  next hnone =>
    obtain ⟨rfl, -⟩ := leads_done_iff.1 h
    cases hr
  next f hf =>
    split at h
    next p hp =>
      obtain ⟨hq, rfl, rfl⟩ := told_of_leads h hr
      exact ⟨hq, [], rfl, .early hf hp⟩
    next program hprogram =>
      rcases leads_bind_cases h with ⟨q', hleads, -⟩ | ⟨working, outcome, telling, rfl, hruns, htelling⟩
      · exact absurd (((within_ofHook program).leads hleads).1 _ hr) fun h => h
      · rcases List.mem_append.1 hr with hworking | htold
        · exact absurd (((within_ofHook program).runs hruns).1 _ hworking) fun h => h
        · obtain ⟨hq, rfl, rfl⟩ := told_of_leads htelling htold
          exact ⟨hq, working, rfl, .late hf hprogram hruns⟩

end Duties

namespace Machine

variable {start : Conduct} {body : Program NodeSignature Turn} {m : Machine} {log : List Move}

/-- What the runner function has told is what it has returned, after all that it has exchanged. -/
theorem Sound.returns (h : Sound start body m log) {r : Returned} {u : Unit}
    (hr : ⟨.returned r, u⟩ ∈ exchanged .launched log) :
    ∃ c k t, ⟨.launch c, k⟩ ∈ exchanged .main log ∧ m.duties.Returns c t r
      ∧ exchanged .launched log = t ++ [⟨.returned r, ()⟩]
      ∧ ∀ task ∈ m.tasks, task.id = .launched → task.current = .done .finished := by
  rcases h.launched with ⟨hnone, -⟩ | ⟨c, k, q, hlaunch, hleads, hq⟩
  · rw [hnone] at hr
    cases hr
  · obtain ⟨rfl, t, ht, hreturns⟩ := Duties.returned_of_leads hleads hr
    exact ⟨c, k, t, hlaunch, hreturns, ht, hq⟩

/-- A runner function tells one thing. -/
theorem Sound.returned_eq (h : Sound start body m log) {r r' : Returned} {u u' : Unit}
    (hr : ⟨.returned r, u⟩ ∈ exchanged .launched log)
    (hr' : ⟨.returned r', u'⟩ ∈ exchanged .launched log) : r = r' := by
  obtain ⟨-, -, t, -, -, ht, -⟩ := h.returns hr
  obtain ⟨-, -, t', -, -, ht', -⟩ := h.returns hr'
  have hlast := (List.append_inj_right' (ht.symm.trans ht') rfl)
  cases hlast
  rfl

end Machine
end Waystation
