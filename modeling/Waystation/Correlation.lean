/-!
Requests and the waits for their responses. A request is registered under its identity; whoever
waits for the response holds a waiter of that registration. A response goes to the registration that
stands when it arrives, and to one of its waiters; registering an identity again turns away the
waiters of the earlier registration.
-/
namespace Waystation

/-- A registered request, and how many wait for its response. -/
structure Registration where
  id : String
  /-- Tells it from every other registration, earlier ones of its identity included. Like the counter
  it is drawn from it has 64 bits, taken to be unbounded. -/
  generation : Nat
  waiters : Nat
  deriving DecidableEq, Repr

/-- A hold on a registration. -/
structure Waiter where
  id : String
  generation : Nat
  deriving DecidableEq, Repr

/-- What a waiter finds when it looks. -/
inductive Outcome (α : Type)
  | pending
  | resolved (response : Option α)
  deriving DecidableEq, Repr

/-- The open requests and the responses that have come for them. -/
structure Correlation (α : Type) where
  registrations : List Registration := []
  /-- Responses that no waiter has received yet, by the generation of their registration. -/
  responses : List (Nat × α) := []
  /-- The generation of the next registration. A counter of 64 bits, taken to be unbounded: no node
  lives to use it up. -/
  nextGeneration : Nat := 0
  deriving DecidableEq, Repr

namespace Correlation

variable {α : Type}

/-- The registration of an id. -/
def find? (c : Correlation α) (id : String) : Option Registration :=
  c.registrations.find? (·.id = id)

/-- Is a response to an id awaited? -/
def isPending (c : Correlation α) (id : String) : Bool := (c.find? id).isSome

/-- How many requests await their response. -/
def pending (c : Correlation α) : Nat := c.registrations.length

/-- The registrations of all other requests. -/
def others (c : Correlation α) (id : String) : List Registration :=
  c.registrations.filter (·.id ≠ id)

/-- Registers a request; an earlier registration of its identity no longer counts. -/
def register (c : Correlation α) (id : String) : Waiter × Correlation α :=
  let generation := c.nextGeneration
  ({ id, generation },
    { c with
      registrations := c.others id ++ [{ id, generation, waiters := 1 }]
      nextGeneration := generation + 1 })

/-- Waits for a request, together with those who already do. -/
def await (c : Correlation α) (id : String) : Waiter × Correlation α :=
  match c.find? id with
  | some r =>
    ({ id, generation := r.generation },
      { c with registrations := c.others id ++ [{ r with waiters := r.waiters + 1 }] })
  | none => c.register id

/-- Joins those who already wait for a request, if anybody does. -/
def join? (c : Correlation α) (id : String) : Option (Waiter × Correlation α) :=
  (c.find? id).map fun r =>
    ({ id, generation := r.generation },
      { c with registrations := c.others id ++ [{ r with waiters := r.waiters + 1 }] })

/-- To wait for a request is to look for a registration to join, and to make one if there is none. -/
theorem await_eq (c : Correlation α) (id : String) :
    c.await id = (c.join? id).getD (c.register id) := by
  rw [await, join?]
  cases c.find? id with
  | some r => rfl
  | none => rfl

/-- Does the registration of a waiter still stand? -/
def stands (c : Correlation α) (w : Waiter) : Bool :=
  match c.find? w.id with
  | some r => r.generation = w.generation
  | none => false

/-- Looks for the response. One waiter receives it, and then it is gone. -/
def poll (c : Correlation α) (w : Waiter) : Outcome α × Correlation α :=
  match c.responses.lookup w.generation with
  | some response =>
    (.resolved (some response),
      { c with responses := c.responses.filter (·.1 ≠ w.generation) })
  | none => (if c.stands w then .pending else .resolved none, c)

/-- Gives up a waiter that has not been resolved. The last one takes the registration with it. -/
def release (c : Correlation α) (w : Waiter) : Correlation α :=
  match c.find? w.id with
  | some r =>
    if r.generation ≠ w.generation then c
    else if r.waiters ≤ 1 then { c with registrations := c.others w.id }
    else { c with registrations := c.others w.id ++ [{ r with waiters := r.waiters - 1 }] }
  | none => c

/-- Hands over a response; it answers whether the request was registered. -/
def deliver (c : Correlation α) (id : String) (response : α) : Bool × Correlation α :=
  match c.find? id with
  | some r =>
    (true, { c with
      registrations := c.others id
      responses := c.responses ++ [(r.generation, response)] })
  | none => (false, c)

/-- Turns every waiter away. -/
def closeAll (c : Correlation α) : Correlation α := { c with registrations := [] }

theorem deliver_of_not_pending {c : Correlation α} {id : String} (h : c.isPending id = false)
    (response : α) : c.deliver id response = (false, c) := by
  have : c.find? id = none := by simpa [isPending] using h
  simp [deliver, this]

@[simp] theorem pending_closeAll (c : Correlation α) : c.closeAll.pending = 0 := rfl

end Correlation
end Waystation
