/-!
What an error tells its reader: its text, a stable code, advice, and the texts of the errors that
caused it, outermost first.
-/
namespace Waystation

/-- What there is to say about an error. -/
structure Report where
  message : String
  code : Option String := none
  help : Option String := none
  causes : List String := []
  deriving DecidableEq, Repr

namespace Report

/-- The causes of an error caused by this one. -/
def chain (r : Report) : List String := r.message :: r.causes

end Report

/-- Errors that can be told apart by a short label and reported. -/
class Reportable (ε : Type) where
  label : ε → String
  report : ε → Report
end Waystation
