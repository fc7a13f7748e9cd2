/-!
# Hexadecimal numerals

Digits are the ASCII digits and the letters `a` to `f` in either case.  A numeral is a
non-empty row of digits; it is written with lower-case letters and without leading zeros.

## Main definitions

* `Hex.digit?`, `Hex.isDigit` : the value of a digit.
* `Hex.value`, `Hex.value?` : the value of a row of digits.
* `Hex.numeral` : the digits of a number.
-/

namespace NameRecovery.Hex

/-- The value of a hexadecimal digit of either case. -/
def digit? (c : Char) : Option Nat :=
  if '0' ≤ c ∧ c ≤ '9' then some (c.toNat - '0'.toNat)
  else if 'a' ≤ c ∧ c ≤ 'f' then some (c.toNat - 'a'.toNat + 10)
  else if 'A' ≤ c ∧ c ≤ 'F' then some (c.toNat - 'A'.toNat + 10)
  else none

/-- Whether a character is a hexadecimal digit. -/
def isDigit (c : Char) : Bool :=
  (digit? c).isSome

/-- The value of a row of digits, the most significant digit first. -/
def value (cs : List Char) : Nat :=
  cs.foldl (fun n c => n * 16 + (digit? c).getD 0) 0

/-- The value of a numeral, or `none` when there is no digit or some character is none. -/
def value? (cs : List Char) : Option Nat :=
  if !cs.isEmpty && cs.all isDigit then some (value cs) else none

/-- The digits of a number, lower case and without leading zeros. -/
def numeral (n : Nat) : List Char :=
  Nat.toDigits 16 n

/-- A number with the mark `0x` in front. -/
def text (n : Nat) : String :=
  "0x" ++ String.ofList (numeral n)

/-- The text without one leading `0x` or `0X`. -/
def dropMark : List Char → List Char
  | '0' :: 'x' :: cs => cs
  | '0' :: 'X' :: cs => cs
  | cs => cs

end NameRecovery.Hex
