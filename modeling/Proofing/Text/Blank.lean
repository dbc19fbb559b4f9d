/-
  Proofing — blank characters and trimming.

  * `isBlank` is Unicode's `White_Space`: more than the four ASCII blanks, and
    without the zero-width space or the byte order mark.
  * `trim` drops the blanks at both ends of a text; `allBlank` says that
    nothing is left.
-/
namespace Proofing.Text

/-- The characters with Unicode's `White_Space` property. -/
def isBlank (c : Char) : Bool :=
  let n := c.toNat
  (0x09 ≤ n && n ≤ 0x0D) || n == 0x20 || n == 0x85 || n == 0xA0 || n == 0x1680 ||
    (0x2000 ≤ n && n ≤ 0x200A) || n == 0x2028 || n == 0x2029 || n == 0x202F ||
    n == 0x205F || n == 0x3000

/-- The characters without the blanks before the first and after the last other one. -/
def trim (cs : List Char) : List Char :=
  ((cs.dropWhile isBlank).reverse.dropWhile isBlank).reverse

/-- Nothing but blanks. -/
def allBlank (s : String) : Bool :=
  s.toList.all isBlank

/-- The letters `a` to `z` raised to `A` to `Z`; every other character stays. -/
def raise (cs : List Char) : List Char :=
  cs.map Char.toUpper

/-- The letters `A` to `Z` lowered to `a` to `z`; every other character stays. -/
def lower (cs : List Char) : List Char :=
  cs.map Char.toLower

end Proofing.Text
