import Waystation.Yaml.Scalar
/-!
YAML values, and how a later one is laid over an earlier one: mappings are merged key by key,
nothing leaves what was there, and all else replaces it.
-/
namespace Waystation.Yaml

/-- A value: a scalar, or a list or mapping of values; any of them may have a local tag. -/
inductive Value
  | scalar (s : Scalar)
  | list (items : List Value)
  | map (entries : List (Value × Value))
  | tagged (tag : String) (value : Value)
  deriving Repr, Inhabited

namespace Value

mutual

/-- Are two values the same? Mappings are the same if they have the same entries, in any order. -/
def same : Value → Value → Bool
  | scalar a, scalar b => a.same b
  | list a, list b => sameItems a b
  | map a, map b => within a b && b.all (among a)
  | tagged s a, tagged t b => s = t && same a b
  | _, _ => false
termination_by structural v => v

def sameItems : List Value → List Value → Bool
  | [], [] => true
  | a :: as, b :: bs => same a b && sameItems as bs
  | _, _ => false
termination_by structural items => items

/-- Are all of the entries among others? -/
def within : List (Value × Value) → List (Value × Value) → Bool
  | [], _ => true
  | (k, v) :: es, others => (others.any fun e => same k e.1 && same v e.2) && within es others
termination_by structural entries => entries

/-- Is another entry among the entries? -/
def among : List (Value × Value) → Value × Value → Bool
  | [], _ => false
  | (k, v) :: es, e => same k e.1 && same v e.2 || among es e
termination_by structural entries => entries

end

abbrev null : Value := scalar .null
abbrev text (s : String) : Value := scalar (.text s)

/-- A value without its tags. -/
def untagged : Value → Value
  | tagged _ v => untagged v
  | v => v

/-- Is a value nothing, perhaps with a tag? -/
def isNull (v : Value) : Bool :=
  match v.untagged with
  | scalar .null => true
  | _ => false

/-- The value under a key. -/
def lookup (key : Value) : List (Value × Value) → Option Value
  | [] => none
  | (k, v) :: rest => if key.same k then some v else lookup key rest

/-- Replaces the value under a key. -/
def replace (key value : Value) : List (Value × Value) → List (Value × Value)
  | [] => []
  | (k, v) :: rest => if key.same k then (k, value) :: rest else (k, v) :: replace key value rest

mutual

/-- A value laid over another. A null without a tag replaces only a null, which may have one. -/
def laidOver : (top base : Value) → Value
  | map es, base =>
    match base with
    | map bs => map (entriesOver es bs)
    | _ => map es
  | scalar s, base => if s = .null ∧ !base.isNull then base else scalar s
  | list xs, _ => list xs
  | tagged t v, _ => tagged t v

/-- Entries laid over others; new keys come last. -/
def entriesOver : List (Value × Value) → List (Value × Value) → List (Value × Value)
  | [], bs => bs
  | (k, v) :: es, bs =>
    match lookup k bs with
    | some old => entriesOver es (replace k (laidOver v old) bs)
    | none => entriesOver es (bs ++ [(k, v)])

end

/-- Layers laid over each other, the first at the bottom. -/
def merge (layers : List Value) : Value := layers.foldl (fun base top => laidOver top base) (map [])

end Value
end Waystation.Yaml
