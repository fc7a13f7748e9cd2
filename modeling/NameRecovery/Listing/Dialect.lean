import NameRecovery.Address
import NameRecovery.Text.Utf8

/-!
# Address columns

A listing spells the address of a line in one of two ways: with a fixed width, where only the
first eight digits count, or with any number of digits and colons between them.

## Main definitions

* `Dialect`, `Dialect.parseAddress?` : the two spellings and how each is read.
-/

namespace NameRecovery

/-- How a listing spells addresses. -/
inductive Dialect where
  /-- Only the first eight digits are significant. -/
  | fixedWidth
  /-- Colons may stand anywhere and are dropped. -/
  | colonStripped
deriving DecidableEq

namespace Dialect

/-- The number of significant digits of a fixed-width address. -/
def fixedDigits : Nat := 8

/-- The part of an address column that is read: a cut after eight bytes, or the whole column
where that cut is not possible; or the column without its colons. -/
def significant : Dialect → List Char → List Char
  | fixedWidth, field => (Utf8.take? fixedDigits field).getD field
  | colonStripped, field => field.filter (· ≠ ':')

/-- Reads an address column, without the colon that ends it. -/
def parseAddress? (d : Dialect) (field : List Char) : Option Address :=
  Address.ofDigits? (d.significant field)

end Dialect

end NameRecovery
