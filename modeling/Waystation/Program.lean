/-!
Programs that ask for things. A program is done, or it makes a request and goes on with the reply;
who replies, and when, is not its concern.
-/
namespace Waystation

/-- The requests that programs make, and the replies they get. -/
structure Signature where
  Request : Type
  Reply : Request → Type

/-- A program: it is done, or makes a request and goes on with the reply. -/
inductive Program (S : Signature) (α : Type)
  | done (answer : α)
  | ask (r : S.Request) (next : S.Reply r → Program S α)

namespace Program

variable {S T : Signature} {α β γ : Type}

def bind : Program S α → (α → Program S β) → Program S β
  | done a, f => f a
  | ask r next, f => ask r fun reply => (next reply).bind f

instance : Monad (Program S) where
  pure := done
  bind := bind

/-- A program on a condition. -/
def when (condition : Bool) (p : Program S Unit) : Program S Unit :=
  if condition then p else return ()

/-- The same program over other requests. -/
def embed (f : (r : S.Request) → Program T (S.Reply r)) : Program S α → Program T α
  | done a => done a
  | ask r next => (f r).bind fun reply => (next reply).embed f

@[simp] theorem pure_eq (a : α) : (pure a : Program S α) = done a := rfl

@[simp] theorem done_bind (a : α) (f : α → Program S β) : (done a >>= f) = f a := rfl

@[simp] theorem ask_bind (r : S.Request) (next : S.Reply r → Program S α) (f : α → Program S β) :
    (ask r next >>= f) = ask r fun reply => next reply >>= f := rfl

theorem bind_done (p : Program S α) : (p >>= done) = p := by
  induction p with
  | done a => rfl
  | ask r next ih => simp only [ask_bind, ih]

theorem bind_assoc (p : Program S α) (f : α → Program S β) (g : β → Program S γ) :
    (p >>= f) >>= g = p >>= fun a => f a >>= g := by
  induction p with
  | done a => rfl
  | ask r next ih => simp only [ask_bind, ih]

instance : LawfulMonad (Program S) :=
  LawfulMonad.mk' (Program S) bind_done (fun _ _ => rfl) bind_assoc

end Program
end Waystation
