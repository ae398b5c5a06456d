import Waystation.Text.ClassTable
/-!
Classes of characters: white space, letters and numbers, and what a terminal can show.
-/
namespace Waystation.Text

/-- Membership in a set given by its bounds: as many have been passed as make an odd number. -/
def within (bounds : List Nat) (n : Nat) : Bool :=
  (bounds.takeWhile fun b => decide (b ≤ n)).length % 2 == 1

/-- White space. -/
def isBlank (c : Char) : Bool :=
  let n := c.toNat
  (9 ≤ n && n ≤ 13) || n == 0x20 || n == 0x85 || n == 0xA0 || n == 0x1680
    || (0x2000 ≤ n && n ≤ 0x200A) || n == 0x2028 || n == 0x2029 || n == 0x202F || n == 0x205F
    || n == 0x3000

/-- A text without the white space at its ends. -/
def trim (s : String) : String :=
  String.ofList ((s.toList.dropWhile isBlank).reverse.dropWhile isBlank).reverse

/-- A text without the white space at its end. -/
def trimEnd (s : String) : String :=
  String.ofList (s.toList.reverse.dropWhile isBlank).reverse

/-- A letter or a number. -/
def isAlphanumeric (c : Char) : Bool :=
  if c.toNat < 128 then c.isAlphanum else within alphanumericBounds c.toNat

/-- Does the character extend the one before it? -/
def isGraphemeExtend (c : Char) : Bool :=
  0x300 ≤ c.toNat && within graphemeExtendBounds c.toNat

/-- Can the character be shown? -/
def isPrintable (c : Char) : Bool :=
  if c.toNat < 127 then 32 ≤ c.toNat else !within unprintableBounds c.toNat

end Waystation.Text
