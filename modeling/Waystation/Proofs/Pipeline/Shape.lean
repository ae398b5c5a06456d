import Waystation.Node.Work
import Waystation.Proofs.Messaging.Reporting
import Waystation.Proofs.Program.Runs
/-!
The shape of the work on a delivery. First come the calls of hooks, in order and up to the first one
that fails, then one acknowledgement, and last the report of what failed, if something did. Work that
a hook breaks off by a panic before it has begun to run has the calls before it and nothing else.
-/
namespace Waystation

/-- An exchange of user code, among those of the work around it. -/
def ofUser (x : Exchange HookSignature) : Exchange WorkSignature := ⟨.user x.1, x.2⟩

theorem runs_embed_user_iff {α : Type} {p : Program HookSignature α}
    {t : List (Exchange WorkSignature)} {a : α} :
    (p.embed (T := WorkSignature) fun r => .ask (.user r) .done).Runs t a
      ↔ ∃ asked, t = asked.map ofUser ∧ p.Runs asked a := by
  induction p generalizing t with
  | done b =>
    constructor
    · intro h
      obtain ⟨rfl, rfl⟩ := Program.runs_done_iff.1 h
      exact ⟨[], rfl, .done a⟩
    · rintro ⟨asked, rfl, h⟩
      obtain ⟨rfl, rfl⟩ := Program.runs_done_iff.1 h
      exact .done a
  | ask r next ih =>
    constructor
    · intro h
      obtain ⟨reply, rest, rfl, hrest⟩ := Program.runs_ask_iff.1 h
      obtain ⟨asked, rfl, hnext⟩ := (ih reply).1 hrest
      exact ⟨⟨r, reply⟩ :: asked, rfl, .ask hnext⟩
    · rintro ⟨asked, rfl, h⟩
      obtain ⟨reply, rest, rfl, hrest⟩ := Program.runs_ask_iff.1 h
      exact .ask ((ih reply).2 ⟨rest, rfl, hrest⟩)

/-- A call of a hook: at which stage, what was exchanged, and how it ended. -/
structure Call where
  stage : Stage
  hook : Handler
  exchanges : List (Exchange HookSignature)
  outcome : HookOutcome

namespace Call

def place (k : Call) : Stage × Handler := (k.stage, k.hook)

def exchanged (k : Call) : List (Exchange WorkSignature) := k.exchanges.map ofUser

/-- The hook was called for a request, with its payload. -/
def IsFor (k : Call) (c : Context) (request : Envelope) : Prop :=
  ∃ program, k.hook (c.forRequest request) (request.payload.getD {}) = .ok program
    ∧ program.Runs k.exchanges k.outcome

end Call

namespace Pipeline

variable {p : Pipeline Handler} {c : Context} {d : Delivery} {request : Envelope}
  {t : List (Exchange WorkSignature)}

/-- A hook panics before it has begun to run, or it runs. -/
theorem runs_call_cases {hook : Handler} {payload : Payload} {r : Except Panic HookOutcome}
    (h : ((d.services c).call hook request payload).Runs t r) :
    (∃ panic, hook (c.forRequest request) payload = .error panic ∧ t = [] ∧ r = .error panic)
      ∨ ∃ program exchanges outcome, hook (c.forRequest request) payload = .ok program
        ∧ program.Runs exchanges outcome ∧ t = exchanges.map ofUser ∧ r = .ok outcome := by
  rw [Delivery.services] at h
  cases hhook : hook (c.forRequest request) payload with
  | error panic =>
    simp only [hhook] at h
    obtain ⟨rfl, rfl⟩ := Program.runs_done_iff.1 h
    exact .inl ⟨panic, rfl, rfl, rfl⟩
  | ok program =>
    simp only [hhook] at h
    obtain ⟨first, outcome, second, rfl, hfirst, hsecond⟩ := Program.runs_bind_iff.1 h
    obtain ⟨exchanges, rfl, hruns⟩ := runs_embed_user_iff.1 hfirst
    obtain ⟨rfl, rfl⟩ := Program.runs_done_iff.1 hsecond
    exact .inr ⟨program, exchanges, outcome, rfl, hruns, List.append_nil _, rfl⟩

/-- Hooks are called in order, up to the first that fails or that panics before it has begun to
run. -/
theorem calls_of_runStages {stages : List (Stage × Handler)}
    {r : Except Panic (Except PipelineError Unit)}
    (h : (runStages (d.services c) request stages).Runs t r) :
    ∃ calls : List Call, t = calls.flatMap Call.exchanged ∧ (∀ k ∈ calls, k.IsFor c request)
      ∧ ((r = .ok (.ok ()) ∧ stages = calls.map Call.place ∧ ∀ k ∈ calls, k.outcome = .succeeded)
        ∨ (∃ before k rest e, calls = before ++ [k] ∧ stages = calls.map Call.place ++ rest
          ∧ (∀ k' ∈ before, k'.outcome = .succeeded) ∧ k.outcome.guarded = .error e
          ∧ r = .ok (.error (.stageFailed k.stage request.fromNode c.identity.process e)))
        ∨ ∃ stage hook rest panic, stages = calls.map Call.place ++ (stage, hook) :: rest
          ∧ (∀ k ∈ calls, k.outcome = .succeeded)
          ∧ hook (c.forRequest request) (request.payload.getD {}) = .error panic
          ∧ r = .error panic) := by
  induction stages generalizing t with
  | nil =>
    obtain ⟨rfl, rfl⟩ := Program.runs_done_iff.1 h
    exact ⟨[], rfl, by simp, .inl ⟨rfl, rfl, by simp⟩⟩
  | cons place rest ih =>
    obtain ⟨stage, hook⟩ := place
    rw [runStages] at h
    obtain ⟨first, called, second, rfl, hcall, hrest⟩ := Program.runs_bind_iff.1 h
    rcases runs_call_cases hcall with
      ⟨panic, hpanic, rfl, rfl⟩ | ⟨program, exchanges, outcome, hprogram, hruns, rfl, rfl⟩
    · obtain ⟨rfl, rfl⟩ := Program.runs_done_iff.1 hrest
      exact ⟨[], rfl, by simp,
        .inr (.inr ⟨stage, hook, rest, panic, rfl, by simp, hpanic, rfl⟩)⟩
    let call : Call := ⟨stage, hook, exchanges, outcome⟩
    have hcalled : call.IsFor c request := ⟨program, hprogram, hruns⟩
    dsimp only at hrest
    split at hrest
    next hok =>
      have hsucceeded := outcome.guarded_eq_ok_iff.1 hok
      obtain ⟨calls, rfl, hfor, hend⟩ := ih hrest
      refine ⟨call :: calls, rfl, List.forall_mem_cons.2 ⟨hcalled, hfor⟩, ?_⟩
      rcases hend with ⟨hr, rfl, hall⟩ | ⟨before, k, others, e, rfl, rfl, hbefore, hk, hr⟩
        | ⟨stage', hook', others, panic, rfl, hall, hpanic, hr⟩
      · exact .inl ⟨hr, rfl, List.forall_mem_cons.2 ⟨hsucceeded, hall⟩⟩
      · exact .inr (.inl ⟨call :: before, k, others, e, rfl, rfl,
          List.forall_mem_cons.2 ⟨hsucceeded, hbefore⟩, hk, hr⟩)
      · exact .inr (.inr ⟨stage', hook', others, panic, rfl,
          List.forall_mem_cons.2 ⟨hsucceeded, hall⟩, hpanic, hr⟩)
    next e he =>
      obtain ⟨rfl, rfl⟩ := Program.runs_done_iff.1 hrest
      exact ⟨[call], by simp [call, Call.exchanged], List.forall_mem_singleton.2 hcalled,
        .inr (.inl ⟨[], call, rest, e, rfl, rfl, by simp, he, rfl⟩)⟩

/-- How the failure of a stage is told: with the stage and the nodes on both sides. -/
def stageText (stage : Stage) (fromNode toNode : String) (e : HookError) : String :=
  s!"error in node {fromNode} executing {stage.label} for node {toNode}: {e.message}"

theorem message_stageFailed (stage : Stage) (fromNode toNode : String) (e : HookError) :
    (PipelineError.stageFailed stage fromNode toNode e).message
      = stageText stage fromNode toNode e :=
  rfl

theorem stageText_ne_empty (stage : Stage) (fromNode toNode : String) (e : HookError) :
    stageText stage fromNode toNode e ≠ "" := by
  intro h
  have hcolon := (String.append_eq_empty_iff.1 h).1
  exact absurd (String.append_eq_empty_iff.1 hcolon).2 (by decide)

/-- What the processing of a blob comes to: the calls that are made and, if something fails, the text
to report and the request to report it for. -/
inductive ComesTo (p : Pipeline Handler) (c : Context) (blob : Bytes) :
    List Call → Option (String × String) → Prop
  | undecodable {e : EnvelopeError} (hdecode : Envelope.decode blob = .error e) :
      ComesTo p c blob [] (some (s!"error creating new request message: {e.message}", ""))
  | unrouted {request : Envelope} (hdecode : Envelope.decode blob = .ok request)
      (hroute : p.registry.resolve request.fromNode = none) :
      ComesTo p c blob []
        (some (s!"no handler defined for {request.fromNode}", request.requestId))
  | failed {request : Envelope} {handler : Handler} {before : List Call} {k : Call}
      {rest : List (Stage × Handler)} {e : HookError}
      (hdecode : Envelope.decode blob = .ok request)
      (hroute : p.registry.resolve request.fromNode = some handler)
      (hstages : p.stages handler = (before ++ [k]).map Call.place ++ rest)
      (hfor : ∀ k' ∈ before ++ [k], k'.IsFor c request)
      (hbefore : ∀ k' ∈ before, k'.outcome = .succeeded) (hlast : k.outcome.guarded = .error e) :
      ComesTo p c blob (before ++ [k])
        (some (stageText k.stage request.fromNode c.identity.process e, request.requestId))
  | succeeded {request : Envelope} {handler : Handler} {calls : List Call}
      (hdecode : Envelope.decode blob = .ok request)
      (hroute : p.registry.resolve request.fromNode = some handler)
      (hstages : p.stages handler = calls.map Call.place)
      (hfor : ∀ k ∈ calls, k.IsFor c request) (hall : ∀ k ∈ calls, k.outcome = .succeeded) :
      ComesTo p c blob calls none

/-- The processing of a blob breaks off: behind calls that succeed, the next hook panics before it
has begun to run. -/
inductive BreaksOff (p : Pipeline Handler) (c : Context) (blob : Bytes) :
    List Call → Panic → Prop
  | panicked {request : Envelope} {handler : Handler} {calls : List Call} {stage : Stage}
      {hook : Handler} {rest : List (Stage × Handler)} {panic : Panic}
      (hdecode : Envelope.decode blob = .ok request)
      (hroute : p.registry.resolve request.fromNode = some handler)
      (hstages : p.stages handler = calls.map Call.place ++ (stage, hook) :: rest)
      (hfor : ∀ k ∈ calls, k.IsFor c request) (hall : ∀ k ∈ calls, k.outcome = .succeeded)
      (hpanic : hook (c.forRequest request) (request.payload.getD {}) = .error panic) :
      BreaksOff p c blob calls panic

theorem text_ne_empty {blob : Bytes} {calls : List Call} {text requestId : String}
    (h : p.ComesTo c blob calls (some (text, requestId))) : text ≠ "" := by
  cases h with
  | undecodable => simp [toString]
  | unrouted => simp [toString]
  | failed => exact stageText_ne_empty _ _ _ _

/-- The requests that report a failure. -/
def reportRequests (c : Context) (failure : Option (String × String)) : List WorkRequest :=
  failure.toList.map fun (text, requestId) =>
    .user (.publish c.publisher (.error text (some requestId)))

/-- An acknowledgement and then the report of a failure. -/
def Concludes (c : Context) (d : Delivery) (failure : Option (String × String))
    (t : List (Exchange WorkSignature)) : Prop :=
  ∃ acked reports, t = ⟨.acknowledge d.number, acked⟩ :: reports
    ∧ reports.map (·.1) = reportRequests c failure

theorem concludes_of_acknowledge {r : Except Panic Unit}
    (h : ((d.services c).acknowledge >>= fun _ => pure (Except.ok ())).Runs t r) :
    r = .ok () ∧ Concludes c d none t := by
  obtain ⟨acked, rest, rfl, hrest⟩ := Program.runs_ask_iff.1 h
  obtain ⟨rfl, rfl⟩ := Program.runs_done_iff.1 hrest
  exact ⟨rfl, acked, [], rfl, rfl⟩

theorem concludes_of_fail {requestId : String} {e : PipelineError} {r : Except Panic Unit}
    (h : (fail (d.services c) requestId e >>= fun _ => pure (Except.ok ())).Runs t r) :
    r = .ok () ∧ Concludes c d (some (e.message, requestId)) t := by
  obtain ⟨acked, afterwards, rfl, hreport⟩ := Program.runs_ask_iff.1 h
  obtain ⟨reply, rest, rfl, hrest⟩ := Program.runs_ask_iff.1 hreport
  obtain ⟨rfl, rfl⟩ := Program.runs_done_iff.1 hrest
  exact ⟨rfl, acked, [⟨_, reply⟩], rfl, rfl⟩

/-- Calls, then an acknowledgement and, if something failed, a report; or nothing behind the calls
if a panic breaks the work off. -/
theorem shape_of_work {r : Except Panic Unit} (h : (p.work c d).Runs t r) :
    ∃ calls rest, t = calls.flatMap Call.exchanged ++ rest
      ∧ ((r = .ok () ∧ ∃ failure, p.ComesTo c d.message.payload calls failure
          ∧ Concludes c d failure rest)
        ∨ ∃ panic, r = .error panic ∧ p.BreaksOff c d.message.payload calls panic
          ∧ rest = []) := by
  rw [work, process] at h
  split at h
  next e hdecode =>
    obtain ⟨hr, hconcludes⟩ := concludes_of_fail h
    exact ⟨[], t, rfl, .inl ⟨hr, _, .undecodable hdecode, hconcludes⟩⟩
  next request hdecode =>
    obtain ⟨first, executed, second, rfl, hexecute, hrest⟩ := Program.runs_bind_iff.1 h
    rw [execute] at hexecute
    split at hexecute
    next handler hroute =>
      obtain ⟨calls, rfl, hfor, hend⟩ := calls_of_runStages hexecute
      rcases hend with ⟨rfl, hstages, hall⟩ | ⟨before, k, rest, e, rfl, hstages, hbefore, hk, rfl⟩
        | ⟨stage, hook, rest, panic, hstages, hall, hpanic, rfl⟩
      · obtain ⟨hr, hconcludes⟩ := concludes_of_acknowledge hrest
        exact ⟨calls, second, rfl,
          .inl ⟨hr, none, .succeeded hdecode hroute hstages hfor hall, hconcludes⟩⟩
      · obtain ⟨hr, hconcludes⟩ := concludes_of_fail hrest
        rw [message_stageFailed] at hconcludes
        exact ⟨before ++ [k], second, rfl,
          .inl ⟨hr, _, .failed hdecode hroute hstages hfor hbefore hk, hconcludes⟩⟩
      · obtain ⟨rfl, rfl⟩ := Program.runs_done_iff.1 hrest
        exact ⟨calls, [], rfl,
          .inr ⟨panic, rfl, .panicked hdecode hroute hstages hfor hall hpanic, rfl⟩⟩
    next hroute =>
      obtain ⟨rfl, rfl⟩ := Program.runs_done_iff.1 hexecute
      obtain ⟨hr, hconcludes⟩ := concludes_of_fail hrest
      exact ⟨[], second, rfl, .inl ⟨hr, _, .unrouted hdecode hroute, hconcludes⟩⟩

/-- Is an exchange the acknowledgement of a delivery? -/
def isAcknowledgement (x : Exchange WorkSignature) : Bool :=
  match x.1 with
  | .acknowledge _ => true
  | .user _ => false

/-- User code cannot acknowledge anything. -/
theorem filter_exchanged (calls : List Call) :
    (calls.flatMap Call.exchanged).filter isAcknowledgement = [] := by
  rw [List.filter_eq_nil_iff]
  intro x hx
  obtain ⟨k, -, hk⟩ := List.mem_flatMap.1 hx
  obtain ⟨y, -, rfl⟩ := List.mem_map.1 hk
  simp [isAcknowledgement, ofUser]

theorem filter_reports {failure : Option (String × String)}
    {reports : List (Exchange WorkSignature)}
    (h : reports.map (·.1) = reportRequests c failure) :
    reports.filter isAcknowledgement = [] := by
  rw [List.filter_eq_nil_iff]
  intro x hx
  have hrequest : x.1 ∈ reportRequests c failure := h ▸ List.mem_map_of_mem hx
  obtain ⟨f, -, hf⟩ := List.mem_map.1 hrequest
  simp [isAcknowledgement, ← hf]

/-- Whatever is replied, the work on a delivery comes to its end, and it has one shape: the hooks up
to the first that fails, one acknowledgement, and a report exactly if something failed. The report is
an error envelope for the request on the output itself, and leaves the network alone if it cannot be
published. Only a hook that panics before it has begun to run breaks the work off, and then the calls
before it are all there is. -/
theorem work_shape (p : Pipeline Handler) (c : Context) (d : Delivery) :
    (∀ choose, (p.work c d).Runs (Program.play choose [] (p.work c d)).1
        (Program.play choose [] (p.work c d)).2)
      ∧ (∀ t, (p.work c d).Runs t (.ok ()) → ∃ calls failure acked reports,
        t = calls.flatMap Call.exchanged ++ ⟨.acknowledge d.number, acked⟩ :: reports
          ∧ t.filter isAcknowledgement = [⟨.acknowledge d.number, acked⟩]
          ∧ p.ComesTo c d.message.payload calls failure
          ∧ reports.map (·.1) = reportRequests c failure
          ∧ ∀ text requestId, failure = some (text, requestId) → ∀ n : Network,
            (∃ err, c.publisher.send (.error text (some requestId)) n = (.error err, n))
              ∨ ∃ after, c.publisher.send (.error text (some requestId)) n = (.ok none, after)
                ∧ c.publisher.Published n
                  { requestId, error := text, fromNode := c.publisher.fromNode
                    messageType := MessageType.error.number }
                  c.publisher.output after)
      ∧ ∀ t panic, (p.work c d).Runs t (.error panic) → ∃ calls,
        t = calls.flatMap Call.exchanged ∧ t.filter isAcknowledgement = []
          ∧ p.BreaksOff c d.message.payload calls panic := by
  refine ⟨fun choose => Program.runs_play choose [] (p.work c d), fun t h => ?_,
    fun t panic h => ?_⟩
  · obtain ⟨calls, rest, rfl, ⟨-, failure, hcomes, acked, reports, rfl, hreports⟩ | ⟨_, hr, -⟩⟩ :=
      shape_of_work h
    · refine ⟨calls, failure, acked, reports, rfl, ?_, hcomes, hreports, ?_⟩
      · rw [List.filter_append, filter_exchanged, List.filter_cons, filter_reports hreports]
        simp [isAcknowledgement]
      · rintro text requestId rfl n
        exact c.publisher.send_error (text_ne_empty hcomes) requestId n
    · cases hr
  · obtain ⟨calls, rest, rfl, ⟨hr, -⟩ | ⟨_, hr, hbreaks, rfl⟩⟩ := shape_of_work h
    · cases hr
    · cases hr
      rw [List.append_nil]
      exact ⟨calls, rfl, filter_exchanged calls, hbreaks⟩

end Pipeline
end Waystation
