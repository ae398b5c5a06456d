import Waystation.Hook.Error
/-!
How user code ends. A panic of user code that runs does not get past the guard around it: it becomes
an error like any other. The guard is around what runs only: a hook that panics before it has begun
to run panics through whoever called it.
-/
namespace Waystation

/-- What a panic carries. -/
inductive Panic
  | text (message : String)
  | other
  deriving DecidableEq, Repr

def Panic.message : Panic → String
  | text message => message
  | other => "unknown panic payload"

/-- How user code ends. -/
inductive HookOutcome
  | succeeded
  | failed (e : HookError)
  | panicked (p : Panic)
  deriving DecidableEq, Repr

namespace HookOutcome

/-- The outcome with panics contained. -/
def guarded : HookOutcome → Except HookError Unit
  | succeeded => .ok ()
  | failed e => .error e
  | panicked p => .error (.panicked p.message)

theorem guarded_eq_ok_iff (o : HookOutcome) : o.guarded = .ok () ↔ o = .succeeded := by
  cases o <;> simp [guarded]

end HookOutcome
end Waystation
