import Waystation.Node.Work
import Waystation.Proofs.Messaging.Correlated
import Waystation.Proofs.Program.Leads
/-!
What is published while a message is worked on. Hooks that send by the context they are called with
send for the request of the message, whichever of them fails; and what failed is reported for it too.
-/
namespace Waystation

/-! Hooks that send by their context. -/

/-- User code may ask for anything, but what it publishes it sends by its context. -/
def Context.Permits (c : Context) : HookRequest → Prop
  | .publish p what => p = c.publisher ∧ ∃ type, c.Sends type what
  | _ => True

def Handler.Correlates (h : Handler) : Prop :=
  ∀ c payload program, h c payload = .ok program → program.Within c.Permits fun _ => True

def Hook.Correlates (h : Hook) : Prop :=
  ∀ c program, h c = .ok program → program.Within c.Permits fun _ => True

def RunnerFunction.Correlates (f : RunnerFunction) : Prop :=
  ∀ c program, f c = .ok program → program.Within c.Permits fun _ => True

/-- All hooks that a message can go through send by their context. -/
structure Pipeline.Correlates (p : Pipeline Handler) : Prop where
  handler : ∀ fromNode, ∀ h ∈ p.registry.resolve fromNode, Handler.Correlates h
  preprocessor : ∀ h ∈ p.preprocessor, Handler.Correlates h
  postprocessor : ∀ h ∈ p.postprocessor, Handler.Correlates h

theorem HookRequest.within_ask {P : HookRequest → Prop} {r : HookRequest} (h : P r) :
    r.ask.Within P fun _ => True :=
  ⟨h, fun _ => trivial⟩

/-- The handler of a trigger publishes nothing. -/
theorem responseHandler_correlates : Handler.Correlates responseHandler := by
  rintro c payload program ⟨⟩
  split
  · exact (HookRequest.within_ask trivial).bind fun _ _ => trivial
  · exact trivial

/-! The work on a message. -/

/-- The request that a message brings; none if it cannot be read. -/
def Delivery.request? (d : Delivery) : Option Envelope :=
  match Envelope.decode d.message.payload with
  | .ok request => some request
  | .error _ => none

/-- Work may ask for anything, but what it publishes is for the request of its context. -/
def Context.Speaks (c : Context) : WorkRequest → Prop
  | .user (.publish p what) => p = c.publisher ∧ ∃ type, c.Publishes type what
  | _ => True

theorem Context.Permits.speaks {c : Context} {r : HookRequest} (h : c.Permits r) :
    c.Speaks (.user r) := by
  cases r with
  | publish p what =>
    obtain ⟨hp, type, hsends⟩ := h
    exact ⟨hp, type, .sent hsends⟩
  | _ => exact trivial

namespace Pipeline

variable {p : Pipeline Handler} {c : Context} {d : Delivery} {request : Envelope}

theorem Correlates.stages (hp : p.Correlates) {handler : Handler} (hhandler : handler.Correlates) :
    ∀ place ∈ p.stages handler, Handler.Correlates place.2 := by
  intro place hplace
  rcases List.mem_append.1 hplace with hearly | hpost
  · rcases List.mem_append.1 hearly with hpre | hown
    · simp only [Option.mem_toList, Option.map_eq_some_iff] at hpre
      obtain ⟨h, hh, rfl⟩ := hpre
      exact hp.preprocessor h hh
    · obtain rfl := List.mem_singleton.1 hown
      exact hhandler
  · simp only [Option.mem_toList, Option.map_eq_some_iff] at hpost
    obtain ⟨h, hh, rfl⟩ := hpost
    exact hp.postprocessor h hh

theorem within_call {h : Handler} (hh : h.Correlates) (payload : Payload) :
    ((d.services c).call h request payload).Within (c.forRequest request).Speaks
      fun _ => True := by
  rw [Delivery.services]
  cases hcall : h (c.forRequest request) payload with
  | error panic =>
    simp only [hcall]
    exact trivial
  | ok program =>
    have hprogram : (program.embed (T := WorkSignature) fun r => .ask (.user r) .done).Within
        (c.forRequest request).Speaks fun _ => True :=
      (hh _ _ program hcall).embed fun r hr => ⟨hr.speaks, fun _ => trivial⟩
    simp only [hcall]
    exact hprogram.bind fun _ _ => trivial

/-- Hooks are called with the context for their request, up to the first that fails. -/
theorem within_runStages {stages : List (Stage × Handler)}
    (h : ∀ place ∈ stages, Handler.Correlates place.2) :
    (runStages (d.services c) request stages).Within (c.forRequest request).Speaks fun _ => True := by
  induction stages with
  | nil => exact trivial
  | cons place rest ih =>
    obtain ⟨hown, hrest⟩ := List.forall_mem_cons.1 h
    rw [runStages]
    refine (within_call hown _).bind fun called _ => ?_
    cases called with
    | error panic => exact trivial
    | ok outcome =>
      dsimp only
      split
      · exact ih hrest
      · exact trivial

/-- What failed is reported for the request. -/
theorem within_fail {about : Context} (hpublisher : about.publisher = c.publisher)
    {requestId : String} (hid : requestId = about.requestId) (e : PipelineError) :
    (fail (d.services c) requestId e >>= fun _ => pure (.ok () : Except Panic Unit)).Within
      about.Speaks fun _ => True := by
  subst hid
  exact ⟨trivial, fun _ => ⟨⟨hpublisher.symm, .error, .reported _⟩, fun _ => trivial⟩⟩

/-- What is published while a message is worked on is published for its request. -/
theorem within_work (hp : p.Correlates) (c : Context) (d : Delivery) :
    (p.work c d).Within { c with request := d.request? }.Speaks fun _ => True := by
  rw [work, process, Delivery.request?]
  cases hdecode : Envelope.decode d.message.payload with
  | error e => exact within_fail rfl rfl _
  | ok request =>
    have hexecute : (p.execute (d.services c) request).Within (c.forRequest request).Speaks
        fun _ => True := by
      rw [execute]
      split
      next handler hroute => exact within_runStages (hp.stages (hp.handler _ handler hroute))
      next => exact trivial
    refine hexecute.bind fun result _ => ?_
    rcases result with panic | e | u
    · exact trivial
    · exact within_fail rfl rfl _
    · exact ⟨trivial, fun _ => trivial⟩

end Pipeline
end Waystation
