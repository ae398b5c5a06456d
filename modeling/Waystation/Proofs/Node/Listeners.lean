import Waystation.Node.Machine
import Waystation.Proofs.Node.Frame
import Waystation.Proofs.Program.Leads
/-!
How far listeners are. A listener serves messages until it leaves its group or its subscription ends;
then it tells so; and after that it only sees through what it was working on.
-/
namespace Waystation

/-- Work among the requests of tasks. -/
def NodeRequest.IsWork : NodeRequest → Prop
  | work _ => True
  | _ => False

theorem NodeRequest.within_ask {P : NodeRequest → Prop} {r : NodeRequest} (h : P r) :
    r.ask.Within P fun _ => True :=
  ⟨h, fun _ => trivial⟩

theorem within_ofHook {α : Type} (p : Program HookSignature α) :
    p.ofHook.Within NodeRequest.IsWork fun _ => True :=
  Program.within_embed (fun _ => NodeRequest.within_ask trivial) p

theorem within_ofWork {α : Type} (p : Program WorkSignature α) :
    p.ofWork.Within NodeRequest.IsWork fun _ => True :=
  Program.within_embed (fun _ => NodeRequest.within_ask trivial) p

namespace Listener

open NodeRequest Program

/-- How far a listener is: it serves messages, or has left its group or lost it, or has told so. -/
inductive Stage
  | serving | out | told
  deriving DecidableEq

/-- Work to be seen through, and nothing after it. -/
def LastWork (p : Program NodeSignature Turn) : Prop := p.Within IsWork (· = .finished)

/-- A listener of a subscription is at a stage with a program left to do. -/
inductive At (subscription : Nat) (toWork : Delivery → Work) :
    Stage → Program NodeSignature Turn → Prop
  | round : At subscription toWork .serving (round subscription toWork)
  | serve (w : Work) : At subscription toWork .serving (serve subscription w)
  | broken : At subscription toWork .serving (done .finished)
  | departing {rest : Program NodeSignature Turn} (h : LastWork rest) :
    At subscription toWork .serving (depart subscription >>= fun _ => rest)
  | out {rest : Program NodeSignature Turn} (h : LastWork rest) :
    At subscription toWork .out (ask (tellLeft subscription) fun _ => rest)
  | told {rest : Program NodeSignature Turn} (h : LastWork rest) :
    At subscription toWork .told rest

/-- What an exchange of a listener comes to. -/
inductive Advance (subscription : Nat) : Stage → Exchange NodeSignature → Stage → Prop
  | worked {stage : Stage} {r : WorkRequest} {reply : r.Reply} :
    Advance subscription stage ⟨.work r, reply⟩ stage
  | watched {r : WorkRequest} {reply : Option r.Reply} :
    Advance subscription .serving ⟨.watched r, reply⟩ .serving
  | took {taken : Taken} (h : taken ≠ .closed) :
    Advance subscription .serving ⟨.take subscription, taken⟩ .serving
  | lost : Advance subscription .serving ⟨.take subscription, .closed⟩ .out
  | left : Advance subscription .serving ⟨.leave subscription, ()⟩ .out
  | tells : Advance subscription .out ⟨.tellLeft subscription, ()⟩ .told

variable {subscription : Nat} {toWork : Delivery → Work} {stage : Stage}

theorem lastWork_seeing (p : Work) :
    LastWork (do let _ ← Program.ofWork p; return .finished) :=
  (within_ofWork p).bind fun _ _ => rfl

/-- Whatever a listener is replied, it goes on as a listener. -/
theorem At.advance {r : NodeRequest} {next : r.Reply → Program NodeSignature Turn}
    (h : At subscription toWork stage (ask (S := NodeSignature) r next)) (reply : r.Reply) :
    ∃ stage', Advance subscription stage ⟨r, reply⟩ stage'
      ∧ At subscription toWork stage' (next reply) := by
  generalize hp : ask (S := NodeSignature) r next = p at h
  cases h with
  | round =>
    obtain ⟨rfl, hnext⟩ := ask.inj hp
    obtain rfl := eq_of_heq hnext
    cases reply with
    | stopped =>
      have hfinished : LastWork (done .finished) := rfl
      exact ⟨.serving, .took (fun h => nomatch h), .departing hfinished⟩
    | closed =>
      have hfinished : LastWork (done .finished) := rfl
      exact ⟨.out, .lost, .out hfinished⟩
    | broken => exact ⟨.serving, .took (fun h => nomatch h), .broken⟩
    | delivery d => exact ⟨.serving, .took (fun h => nomatch h), .serve (toWork d)⟩
  | serve w =>
    cases w with
    | done result => cases result <;> cases hp
    | ask request after =>
      simp only [Listener.serve] at hp
      obtain ⟨rfl, hnext⟩ := ask.inj hp
      obtain rfl := eq_of_heq hnext
      refine ⟨.serving, .watched, ?_⟩
      cases reply with
      | some answer => exact .serve (after answer)
      | none => exact .departing (lastWork_seeing (ask request after))
  | broken => cases hp
  | departing hrest =>
    obtain ⟨rfl, hnext⟩ := ask.inj hp
    obtain rfl := eq_of_heq hnext
    exact ⟨.out, .left, .out hrest⟩
  | out hrest =>
    obtain ⟨rfl, hnext⟩ := ask.inj hp
    obtain rfl := eq_of_heq hnext
    exact ⟨.told, .tells, .told hrest⟩
  | told hrest =>
    subst hp
    obtain ⟨hwork, hnext⟩ := hrest
    cases r with
    | work request => exact ⟨.told, .worked, .told (hnext reply)⟩
    | _ => exact hwork.elim

end Listener
end Waystation
