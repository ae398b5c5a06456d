import Waystation.Decimal.Binary64
import Waystation.Yaml.ScalarText
/-!
What a plain scalar stands for: nothing, a truth value, a number, or else its text. Digits behind a
leading zero are text.
-/
namespace Waystation.Yaml

attribute [local instance (10000)] instPowNat

open Decimal (Binary64)

/-- A value without parts. -/
inductive Scalar
  | null
  | bool (b : Bool)
  | int (n : Int)
  | float (x : Binary64)
  | text (s : String)
  deriving DecidableEq, Repr

namespace Scalar

/-- Are two scalars the same? -/
def same : Scalar → Scalar → Bool
  | float x, float y => x.same y
  | a, b => a = b

def isNull (s : String) : Bool := s = "null" ∨ s = "Null" ∨ s = "NULL" ∨ s = "~"

def bool? (s : String) : Option Bool :=
  if s = "true" ∨ s = "True" ∨ s = "TRUE" then some true
  else if s = "false" ∨ s = "False" ∨ s = "FALSE" then some false
  else none

/-- A zero and more digits, perhaps behind a sign. -/
def isPaddedNumber (cs : List Char) : Bool :=
  match cs with
  | '-' :: '0' :: rest | '+' :: '0' :: rest | '0' :: rest => !rest.isEmpty && rest.all Char.isDigit
  | _ => false

/-- The number that digits spell in a base up to 16. -/
def digits? (base : Nat) (cs : List Char) : Option Nat :=
  if cs = [] then none
  else cs.foldlM (fun n c =>
    match hexDigit? c with
    | some d => if d < base then some (base * n + d) else none
    | none => none) 0

/-- An integer without its sign: decimal, or in another base behind its mark. -/
def magnitude? (cs : List Char) : Option Nat :=
  match cs with
  | '0' :: 'x' :: rest => digits? 16 rest
  | '0' :: 'o' :: rest => digits? 8 rest
  | '0' :: 'b' :: rest => digits? 2 rest
  | _ => digits? 10 cs

/-- Does a number fit so many bits, with or without sign? -/
def fits (bits : Nat) (n : Int) : Bool := -(2 ^ (bits - 1) : Int) ≤ n ∧ n < 2 ^ bits

/-- Integers that can be told from text: those of 128 bits. -/
def int? (s : String) : Option Int :=
  let cs := s.toList
  if isPaddedNumber cs then none
  else
    let read := match cs with
      | '+' :: rest => (magnitude? rest).map Int.ofNat
      | '-' :: rest => (magnitude? rest).map fun n => -(n : Int)
      | _ => (magnitude? cs).map Int.ofNat
    read.filter (fits 128)

/-- Integers that a value can hold: those of 64 bits, with or without sign. -/
def fitsWord (n : Int) : Bool := fits 64 n

/-- A decimal: digits with at most one point among them or at an end, and perhaps an exponent. -/
def decimal? (negative : Bool) (cs : List Char) : Option Binary64 := do
  let whole := cs.takeWhile Char.isDigit
  let rest := cs.drop whole.length
  let (fraction, rest) := match rest with
    | '.' :: rest => (rest.takeWhile Char.isDigit, rest.dropWhile Char.isDigit)
    | _ => ([], rest)
  if whole = [] ∧ fraction = [] then none
  let digits := Nat.ofDigitChars 10 (whole ++ fraction) 0
  let shift : Int := fraction.length
  match rest with
  | [] => Binary64.ofDecimal? negative digits (-shift)
  | c :: rest =>
    if c ≠ 'e' ∧ c ≠ 'E' then none
    let (sign, ds) : Int × List Char := match rest with
      | '+' :: ds => (1, ds)
      | '-' :: ds => (-1, ds)
      | ds => (1, ds)
    if ds = [] ∨ !ds.all Char.isDigit then none
    Binary64.ofDecimal? negative digits (sign * Nat.ofDigitChars 10 ds 0 - shift)

/-- Decimals that are not too large, and the three that are no numbers. -/
def float? (s : String) : Option Binary64 :=
  let unsigned := if s.startsWith "+" then (s.drop 1).toString else s
  if unsigned = ".inf" ∨ unsigned = ".Inf" ∨ unsigned = ".INF" then some (.infinite false)
  else if s = "-.inf" ∨ s = "-.Inf" ∨ s = "-.INF" then some (.infinite true)
  else if s = ".nan" ∨ s = ".NaN" ∨ s = ".NAN" then some .notANumber
  else match s.toList with
    | '+' :: cs => decimal? false cs
    | '-' :: cs => decimal? true cs
    | cs => decimal? false cs

/-- What a plain text stands for; `none` for integers too large to be held. -/
def ofPlain? (s : String) : Option Scalar :=
  if s = "" ∨ isNull s then some null
  else match bool? s with
    | some b => some (bool b)
    | none => match int? s with
      | some n => if fitsWord n then some (int n) else none
      | none =>
        if isPaddedNumber s.toList then some (text s)
        else match float? s with
          | some x => some (float x)
          | none => some (text s)

/-- How a scalar is written into a text. -/
def render : Scalar → String
  | null => ""
  | bool true => "true"
  | bool false => "false"
  | int n => toString n
  | float x => x.text
  | text s => s

end Scalar
end Waystation.Yaml
