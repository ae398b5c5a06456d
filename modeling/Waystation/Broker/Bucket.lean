import Waystation.Bytes
import Waystation.Lookup
/-!
Key-value buckets.
-/
namespace Waystation

/-- Values by key; a key has one. -/
structure Bucket where
  entries : List (String × Bytes) := []
  deriving DecidableEq, Repr

namespace Bucket

def get? (b : Bucket) (key : String) : Option Bytes := b.entries.lookup key

/-- Sets the value under a key. -/
def put (b : Bucket) (key : String) (value : Bytes) : Bucket :=
  { entries := (key, value) :: b.entries.filter fun e => e.1 ≠ key }

/-- Removes a key, if it is there. -/
def erase (b : Bucket) (key : String) : Bucket :=
  { entries := b.entries.filter fun e => e.1 ≠ key }

@[simp] theorem get?_erase (b : Bucket) (key other : String) :
    (b.erase key).get? other = if other = key then none else b.get? other :=
  lookup_filter_ne ..

@[simp] theorem get?_put (b : Bucket) (key other : String) (value : Bytes) :
    (b.put key value).get? other = if other = key then some value else b.get? other := by
  unfold put get?
  rw [lookup_cons_if, lookup_filter_ne]
  by_cases h : other = key <;> simp [h]

end Bucket
end Waystation
