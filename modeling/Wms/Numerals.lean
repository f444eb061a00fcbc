import Wms.Barcode.Digits

/-!
# Numbers in text

`int` and `float` skip white space around a number, read the decimal digits of every script, and
allow single low lines between digits.
-/

namespace Wms

open Barcode

/-- The white space that `int` and `float` skip. -/
def numberSpace (c : Char) : Bool := isSpace c && !(0x1c ≤ c.toNat && c.toNat ≤ 0x1f)

/-- A text without white space around it. -/
def numberChars (s : String) : List Char :=
  (s.toList.dropWhile numberSpace).rdropWhile numberSpace

/-- A sign, which may be missing, and the rest. -/
def readSign : List Char → ℤ × List Char
  | '-' :: cs => (-1, cs)
  | '+' :: cs => (1, cs)
  | cs => (1, cs)

/-- The digits of a text that has single low lines between them at most. -/
def readDigits (cs : List Char) : Option (List ℕ) :=
  if (cs.splitOn '_').all (· ≠ []) then (cs.filter (· ≠ '_')).mapM decimal else none

/-- The number that digits denote. -/
def ofDigits (ds : List ℕ) : ℕ := ds.foldl (fun n d => 10 * n + d) 0

/-- `sys.get_int_max_str_digits()`. -/
def maxStrDigits : ℕ := 4300

/-- `int(s)`, where it is not an error. -/
def intText (s : String) : Option ℤ :=
  let signed := readSign (numberChars s)
  (readDigits signed.2).bind fun ds =>
    if ds.length ≤ maxStrDigits then some (signed.1 * ofDigits ds) else none

example : intText " -1_000 " = some (-1000) ∧ intText "1__0" = none ∧ intText "" = none ∧
    intText "+ 5" = none := by
  decide +kernel

end Wms
