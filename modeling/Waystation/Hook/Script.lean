import Waystation.Envelope.Packed
import Waystation.Hook.Request
import Waystation.Text.Case
/-!
Scripts: hooks written as lists of actions. The actions are done in order, and the first error ends
the script and is its outcome, unless the step tolerates errors and writes them down instead.
-/
namespace Waystation

/-- A publication as a script states it. -/
inductive Sending
  | payload (payload : Payload) (type : MessageType) (requestId channel : Option String)
  | errorFor (text : String) (requestId : Option String)
  | envelope (e : Envelope) (channel : Option String)
  | output (text : String) (channel : Option String)
  | outputFor (text requestId : String) (channel : Option String)
  | earlyReply (text : String) (channel : Option String)
  | earlyExit (text : String) (channel : Option String)
  | forward (payload : Payload) (channel : Option String)
  | forwardFor (payload : Payload) (requestId : String) (channel : Option String)
  | error (text : String)

/-- What a sending publishes in a context. -/
def Sending.publication (c : Context) : Sending → Publication
  | payload p type requestId channel => .payload p type requestId channel
  | errorFor text requestId => .error text requestId
  | envelope e channel => .envelope e channel
  | output text channel => c.output (greeting.pack text) channel
  | outputFor text requestId channel => .outputFor (greeting.pack text) requestId channel
  | earlyReply text channel => c.earlyReply (greeting.pack text) channel
  | earlyExit text channel => c.earlyExit (greeting.pack text) channel
  | forward p channel => c.output p channel
  | forwardFor p requestId channel => .outputFor p requestId channel
  | error text => c.errorReply text

/-- One thing that a script does. -/
inductive Action
  | note (text : String)
  | fail (text : String)
  | panic (p : Panic)
  | send (s : Sending)
  /-- Sends the greeting in the payload on, in capitals. -/
  | shout (channel : Option String)
  /-- Sends the payload on as it is. -/
  | echo (channel : Option String)
  | showRequest
  | showPayload
  | showIdentity
  | get (key : String) (scope : Option Scope)
  | set (key : String) (value : Bytes) (scope : Option Scope)
  | delete (key : String) (scope : Option Scope)
  | showScopes
  | pass (gate : String)
  | unlock (gate : String)
  | settle
  | showState
  | close
  /-- Registers a request; the wait for it is kept under a name. -/
  | register (id name : String)
  /-- Waits for a registered request. -/
  | response (name : String)
  /-- Waits for a request by its identity. -/
  | await (id : String)
  | forget (name : String)
  | showTrigger
  | awaitShutdown

/-- An action of a script. -/
structure Step where
  action : Action
  /-- Whether an error is written down instead of ending the script. -/
  tolerant : Bool := false

/-- Waits by name. -/
abbrev Held := List (String × Waiter)

/-- How a step ends: with what the script holds after it, or with the end of the script. -/
inductive StepOutcome
  | next (held : Held)
  | failed (e : HookError)
  | panicked (p : Panic)

namespace Action

open HookRequest

/-- Writes something down. -/
def jot (n : Note) (held : Held) : Program HookSignature StepOutcome := do
  (HookRequest.note n).ask
  return .next held

/-- Publishes something and writes down its identity. -/
def publishing (c : Context) (what : Publication) (held : Held) :
    Program HookSignature StepOutcome := do
  match ← (publish c.publisher what).ask with
  | .ok (some id) => jot (.published id) held
  | .ok none => return .next held
  | .error e => return .failed (.messaging e)

/-- Gives up the wait kept under a name. -/
def releaseNamed (name : String) (held : Held) : Program HookSignature Held :=
  match held.lookup name with
  | some w => do
    (release w).ask
    return held.filter (·.1 ≠ name)
  | none => return held

/-- The program of an action. -/
def run (c : Context) (p : Payload) (held : Held) : Action → Program HookSignature StepOutcome
  | .note text => jot (.text text) held
  | fail text => return .failed (.failed text)
  | panic p => return .panicked p
  | send s => publishing c (s.publication c) held
  | shout channel => match greeting.unpack p with
    | .error e => return .failed (.payload e)
    | .ok text => publishing c (c.output (greeting.pack (Text.upper text)) channel) held
  | echo channel => publishing c (c.output p channel) held
  | showRequest => jot (.request c) held
  | showPayload => jot (.payload p) held
  | showIdentity => jot (.identity c.identity) held
  | .get key scope => do
    match ← (HookRequest.get c.settings key scope).ask with
    | .ok value => jot (.value value) held
    | .error e => return .failed (.config e)
  | .set key value scope => do
    match ← (HookRequest.set c.settings key value scope).ask with
    | .ok () => return .next held
    | .error e => return .failed (.config e)
  | .delete key scope => do
    match ← (HookRequest.delete c.settings key scope).ask with
    | .ok found => jot (.deleted found) held
    | .error e => return .failed (.config e)
  | showScopes => jot (.scopes c.settings.scopes) held
  | .pass gate => do
    (HookRequest.pass gate).ask
    return .next held
  | .unlock gate => do
    (HookRequest.unlock gate).ask
    return .next held
  | .settle => do
    HookRequest.settle.ask
    return .next held
  | showState => do jot (.state (← HookRequest.state.ask)) held
  | .close => do
    match ← (HookRequest.close c.publisher.connection).ask with
    | .ok () => return .next held
    | .error e => return .failed (.failed e.message)
  | .register id name => do
    let w ← (HookRequest.register id).ask
    return .next ((name, w) :: (← releaseNamed name held))
  | .response name => match held.lookup name with
    | some w => do jot (.reply (← (HookRequest.response w).ask)) (held.filter (·.1 ≠ name))
    | none => jot (.reply none) held
  | .await id => do
    let w ← (HookRequest.await id).ask
    jot (.reply (← (HookRequest.response w).ask)) held
  | forget name => do return .next (← releaseNamed name held)
  | showTrigger => do jot (.trigger (← status.ask)) held
  | awaitShutdown => do
    HookRequest.cancelled.ask
    jot .cancelled held

end Action

/-- Gives up every wait. -/
def Held.releaseAll : Held → Program HookSignature Unit
  | [] => return ()
  | (_, w) :: rest => do
    (HookRequest.release w).ask
    releaseAll rest

/-- Runs a script. What it still waits for at its end is given up. -/
def Script.run (c : Context) (p : Payload) : List Step → Held → Program HookSignature HookOutcome
  | [], held => do
    held.releaseAll
    return .succeeded
  | step :: rest, held => do
    match ← step.action.run c p held with
    | .next held => run c p rest held
    | .failed e =>
      if step.tolerant then
        (HookRequest.note (.error e)).ask
        run c p rest held
      else
        held.releaseAll
        return .failed e
    | .panicked panic =>
      held.releaseAll
      return .panicked panic

/-- A script as the handler of messages. -/
def Script.handler (steps : List Step) : Handler := fun c p => .ok (Script.run c p steps [])

/-- A script as a hook outside of messages, where the payload is empty. -/
def Script.hook (steps : List Step) : Hook := fun c => .ok (Script.run c {} steps [])

end Waystation
