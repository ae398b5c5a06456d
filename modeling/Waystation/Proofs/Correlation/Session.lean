import Waystation.Correlation
import Waystation.Proofs.Steps
/-!
Sessions: a table of open requests together with the waiters that were given out, in the hands of
whoever polls or drops them. The invariant ties the waiters to the registrations they hold and to the
responses that were accepted for these.
-/
namespace Waystation.Correlation

variable {α : Type}

/-- What has become of a waiter. -/
inductive Fate (α : Type)
  | waiting
  | resolved (response : Option α)
  | dropped

/-- A waiter that was given out. -/
structure Wait (α : Type) where
  waiter : Waiter
  fate : Fate α := .waiting

namespace Wait

def isWaiting (x : Wait α) : Bool :=
  match x.fate with
  | .waiting => true
  | .resolved _ | .dropped => false

def isResolved (x : Wait α) : Bool :=
  match x.fate with
  | .resolved _ => true
  | .waiting | .dropped => false

/-- The response that a waiter has yielded, if it has yielded one. -/
def received (x : Wait α) : Option α :=
  match x.fate with
  | .resolved response => response
  | .waiting | .dropped => none

theorem isResolved_of_received {x : Wait α} {v : α} (h : x.received = some v) :
    x.isResolved = true := by
  obtain ⟨w, fate⟩ := x
  cases fate with
  | resolved response => rfl
  | waiting => cases h
  | dropped => cases h

end Wait

/-- How many waiters of a generation still wait. -/
def waitingFor (waits : List (Wait α)) (generation : Nat) : Nat :=
  waits.countP fun x => x.isWaiting && x.waiter.generation = generation

/-- How many waiters of a generation have yielded a response. -/
def receivers (waits : List (Wait α)) (generation : Nat) : Nat :=
  waits.countP fun x => x.received.isSome && x.waiter.generation = generation

/-- A table and the waiters that were given out, oldest first. -/
structure Session (α : Type) where
  table : Correlation α := {}
  waits : List (Wait α) := []

namespace Session

/-- What can be done with a table and its waiters; waiters are named by their place. -/
inductive Operation (α : Type)
  | register (id : String)
  | await (id : String)
  | poll (place : Nat)
  | drop (place : Nat)
  | deliver (id : String) (response : α)
  | closeAll

/-- The session after an operation. A waiter that has yielded or was dropped is left alone. -/
def after (s : Session α) : Operation α → Session α
  | .register id =>
    let (waiter, table) := s.table.register id
    { table, waits := s.waits ++ [{ waiter }] }
  | .await id =>
    let (waiter, table) := s.table.await id
    { table, waits := s.waits ++ [{ waiter }] }
  | .poll place => match s.waits[place]? with
    | some ⟨waiter, .waiting⟩ => match s.table.poll waiter with
      | (.resolved response, table) =>
        { table, waits := s.waits.set place ⟨waiter, .resolved response⟩ }
      | (.pending, _) => s
    | _ => s
  | .drop place => match s.waits[place]? with
    | some ⟨waiter, .waiting⟩ =>
      { table := s.table.release waiter, waits := s.waits.set place ⟨waiter, .dropped⟩ }
    | _ => s
  | .deliver id response => { s with table := (s.table.deliver id response).2 }
  | .closeAll => { s with table := s.table.closeAll }

/-- The response that an operation delivers to a registration, with the hold that its waiters have
on it. -/
def accepted (s : Session α) : Operation α → List (Waiter × α)
  | .deliver id response => match s.table.find? id with
    | some r => [({ id, generation := r.generation }, response)]
    | none => []
  | _ => []

def run (s : Session α) (ops : List (Operation α)) : Session α := ops.foldl after s

/-- The responses delivered to registrations, in order. -/
def log (s : Session α) (ops : List (Operation α)) : List (Waiter × α) :=
  logged after accepted s ops

/-! The invariant. -/

/-- The holds on registrations that occur anywhere. -/
def holds (s : Session α) (log : List (Waiter × α)) : List Waiter :=
  s.table.registrations.map (fun r => { id := r.id, generation := r.generation })
    ++ s.waits.map (·.waiter) ++ log.map (·.1)

/-- The invariant of sessions, given the responses accepted so far. A generation belongs to one
registration. While that stands, its waiters are counted and none has yielded; once a response was
accepted for it, the response is either there to be received or was received by one waiter. -/
structure Sound (s : Session α) (log : List (Waiter × α)) : Prop where
  ids : (s.table.registrations.map (·.id)).Nodup
  below : ∀ w ∈ s.holds log, w.generation < s.table.nextGeneration
  own : ∀ w ∈ s.holds log, ∀ w' ∈ s.holds log, w.generation = w'.generation → w = w'
  counted : ∀ r ∈ s.table.registrations,
    r.waiters = waitingFor s.waits r.generation ∧ 0 < r.waiters
  untouched : ∀ r ∈ s.table.registrations, ∀ x ∈ s.waits,
    x.waiter.generation = r.generation → x.isResolved = false
  once : (log.map fun p => p.1.generation).Nodup
  served : ∀ p ∈ log, ∀ r ∈ s.table.registrations, r.generation ≠ p.1.generation
  kept : s.table.responses.Sublist (log.map fun p => (p.1.generation, p.2))
  unread : ∀ p ∈ s.table.responses, ∀ x ∈ s.waits,
    x.waiter.generation = p.1 → x.isResolved = false
  read : ∀ p ∈ log, (p.1.generation, p.2) ∉ s.table.responses →
    receivers s.waits p.1.generation = 1
  values : ∀ x ∈ s.waits, ∀ v, x.received = some v → (x.waiter, v) ∈ log

theorem sound_empty : Sound ({} : Session α) [] where
  ids := List.nodup_nil
  below w hw := by cases hw
  own w hw := by cases hw
  counted r hr := by cases hr
  untouched r hr := by cases hr
  once := List.nodup_nil
  served p hp := by cases hp
  kept := List.Sublist.refl []
  unread p hp := by cases hp
  read p hp := by cases hp
  values x hx := by cases hx

end Session
end Waystation.Correlation
