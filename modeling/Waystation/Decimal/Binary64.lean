import Waystation.Decimal.Rounding
/-!
Binary floating-point numbers of 64 bits: a mantissa of at most 53 binary digits and an exponent. A
decimal is taken to the nearest one, and one is written as the shortest decimal that is nearest to
it.
-/
namespace Waystation.Decimal

attribute [local instance (10000)] instPowNat

/-- A number of the form `± mantissa * 2 ^ exponent`, or one of the three that are not finite. -/
inductive Binary64
  | finite (negative : Bool) (mantissa : Nat) (exponent : Int)
  | infinite (negative : Bool)
  | notANumber
  deriving DecidableEq, Repr

namespace Binary64

def isZero : Binary64 → Bool
  | finite _ 0 _ => true
  | _ => false

/-- Are two numbers the same? The signs of zero are not told apart. -/
def same (x y : Binary64) : Bool := x = y || x.isZero && y.isZero

/-- The most binary digits of a mantissa. -/
def precision : Nat := 53

/-- The least and the greatest exponent. -/
def leastExponent : Int := -1074
def greatestExponent : Int := 971

/-- The quotient `n / d` over `2 ^ e`, as numerator and denominator. -/
def scaled (n d : Nat) (e : Int) : Nat × Nat :=
  if 0 ≤ e then (n, d * 2 ^ e.toNat) else (n * 2 ^ (-e).toNat, d)

/-- The nearest mantissa and exponent of a positive quotient; `none` if it is too large. -/
def nearest? (n d : Nat) : Option (Nat × Int) :=
  let guess : Int := (n.log2 : Int) - d.log2 - precision
  let (a, b) := scaled n d guess
  let e := max leastExponent (if 2 ^ precision ≤ a / b then guess + 1 else guess)
  let (a, b) := scaled n d e
  let m := roundDiv a b
  let (m, e) := if m = 2 ^ precision then (2 ^ (precision - 1), e + 1) else (m, e)
  if greatestExponent < e then none else some (m, e)

/-- The number nearest to `digits * 10 ^ power`; `none` if it is too large. -/
def ofDecimal? (negative : Bool) (digits : Nat) (power : Int) : Option Binary64 :=
  let size : Int := (toString digits).length + power
  if digits = 0 ∨ size < -400 then some (.finite negative 0 leastExponent)
  else if 400 < size then none
  else
    let r := if 0 ≤ power then nearest? (digits * 10 ^ power.toNat) 1
      else nearest? digits (10 ^ (-power).toNat)
    r.map fun (m, e) => .finite negative m e

/-- Twice or four times the mantissa and the ends of the interval of numbers that round to it, all
as multiples of one power of two; the first component is the middle. -/
def interval (m : Nat) (e : Int) : Nat × Nat × Nat × Int :=
  if m = 2 ^ (precision - 1) ∧ leastExponent < e then (4 * m, 4 * m - 1, 4 * m + 2, e - 2)
  else (2 * m, 2 * m - 1, 2 * m + 1, e - 1)

/-- Of the two multiples of `10 ^ power` around the number, the nearer one that still reads back as
it. -/
def onGrid? (m : Nat) (e : Int) (power : Int) : Option Nat :=
  let (mid, low, high, e') := interval m e
  -- everything over one denominator: the numbers times 2 ^ e', the grid times 10 ^ power
  let (unit, den) := scaled 1 1 (-e')
  let up := if 0 ≤ power then 1 else 10 ^ (-power).toNat
  let down := if 0 ≤ power then 10 ^ power.toNat else 1
  let num := unit * up
  let grid := den * down
  let below := mid * num / grid
  let fits := fun (k : Nat) =>
    if m % 2 = 0 then decide (low * num ≤ k * grid) && decide (k * grid ≤ high * num)
    else decide (low * num < k * grid) && decide (k * grid < high * num)
  let farBelow := mid * num - below * grid
  let farAbove := (below + 1) * grid - mid * num
  let first := if farAbove < farBelow then below + 1
    else if farBelow < farAbove then below else below + below % 2
  let second := if first = below then below + 1 else below
  if fits first then some first else if fits second then some second else none

/-- A power of ten that the number does not exceed. -/
def magnitude (m : Nat) (e : Int) : Int :=
  let (a, b) := scaled m 1 (-e)
  if b ≤ a then (toString (a / b)).length else 1 - ((toString (b / a)).length : Int)

/-- The shortest digits and power of ten that read back as a positive number. -/
def shortestFrom (m : Nat) (e : Int) (size : Int) : (count : Nat) → (left : Nat) → Nat × Int
  | _, 0 => (m, e)
  | count, left + 1 =>
    let power := size - count
    match onGrid? m e power with
    | some k => (k, power)
    | none => shortestFrom m e size (count + 1) left

/-- Takes zeros off the end of digits. -/
def dropZeros : (fuel : Nat) → Nat × Int → Nat × Int
  | 0, r => r
  | fuel + 1, (n, p) => if n % 10 = 0 ∧ n ≠ 0 then dropZeros fuel (n / 10, p + 1) else (n, p)

/-- The shortest digits that read back as a positive number, and their power of ten. -/
def shortest (m : Nat) (e : Int) : Nat × Int := dropZeros 20 (shortestFrom m e (magnitude m e) 1 18)

/-- Written with a point if the number is at least 10^-5 and below 10^16, else with an exponent. -/
def text : Binary64 → String
  | .notANumber => ".nan"
  | .infinite false => ".inf"
  | .infinite true => "-.inf"
  | .finite negative m e =>
    let sign := if negative then "-" else ""
    if m = 0 then sign ++ "0.0"
    else
      let (n, p) := shortest m e
      let digits := toString n
      let point : Int := digits.length + p
      sign ++
        if 0 ≤ p ∧ point ≤ 16 then digits ++ "".pushn '0' p.toNat ++ ".0"
        else if 0 < point ∧ point ≤ 16 then
          (digits.take point.toNat).toString ++ "." ++ (digits.drop point.toNat).toString
        else if -5 < point ∧ point ≤ 0 then "0." ++ "".pushn '0' (-point).toNat ++ digits
        else if digits.length = 1 then digits ++ "e" ++ toString (point - 1)
        else
          (digits.take 1).toString ++ "." ++ (digits.drop 1).toString ++ "e"
            ++ toString (point - 1)

end Binary64
end Waystation.Decimal
