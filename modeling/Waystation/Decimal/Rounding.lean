/-!
Rounding to the nearest neighbour, a half to the even one: of quotients, of numbers to a binary
precision, and of quotients written with fixed decimal places.
-/
namespace Waystation.Decimal

attribute [local instance (10000)] instPowNat

/-- The integer nearest to `n / d`, a half to the even one. -/
def roundDiv (n d : Nat) : Nat :=
  let q := n / d
  let r := n % d
  if 2 * r < d then q
  else if d < 2 * r then q + 1
  else q + q % 2

/-- The nearest number of at most `bits` binary digits, a half to the even one. -/
def roundBits (bits n : Nat) : Nat :=
  let excess := n.log2 + 1 - bits
  if n < 2 ^ bits then n else roundDiv n (2 ^ excess) * 2 ^ excess

/-- A text of at least `width` digits. -/
def padLeft (width : Nat) (digits : String) : String :=
  String.ofList (List.replicate (width - digits.length) '0') ++ digits

/-- The quotient `n / d` with `places` decimal places. -/
def toFixed (places n d : Nat) : String :=
  let scaled := roundDiv (n * 10 ^ places) d
  s!"{scaled / 10 ^ places}.{padLeft places (toString (scaled % 10 ^ places))}"

/-- The rounded quotient is within half a unit of the quotient. -/
theorem roundDiv_near (n d : Nat) (hd : 0 < d) :
    2 * n ≤ d * (2 * roundDiv n d + 1) ∧ d * (2 * roundDiv n d) ≤ 2 * n + d := by
  have hdiv := Nat.div_add_mod n d
  have hlt := Nat.mod_lt n hd
  unfold roundDiv
  simp only
  generalize n / d = q at *
  generalize n % d = r at *
  subst hdiv
  have e1 : d * (2 * q + 1) = 2 * (d * q) + d := by rw [Nat.mul_add, Nat.mul_left_comm]; omega
  have e2 : d * (2 * q) = 2 * (d * q) := Nat.mul_left_comm d 2 q
  have e3 : d * (2 * (q + 1) + 1) = 2 * (d * q) + 3 * d := by
    rw [Nat.mul_add, Nat.mul_left_comm, Nat.mul_add]; omega
  have e4 : d * (2 * (q + 1)) = 2 * (d * q) + 2 * d := by
    rw [Nat.mul_left_comm, Nat.mul_add]; omega
  split
  · omega
  · split
    · omega
    · rcases Nat.mod_two_eq_zero_or_one q with h | h
      · simp only [h, Nat.add_zero]; omega
      · simp only [h]; omega

end Waystation.Decimal
