import NameRecovery.Hex.Digit
import NameRecovery.Text.Blank

/-!
# Addresses

An address is a number below `2 ^ 64`.  Sums that leave that range are not addresses.

## Main definitions

* `Address`, `Address.ofNat?`, `Address.add?` : addresses and arithmetic on them.
* `Address.text` : the written form, `0x` and lower-case digits.
* `Address.ofDigits?`, `Address.parse?` : reading a row of digits, and reading what a user
  typed.
-/

namespace NameRecovery

/-- A 64-bit address. -/
structure Address where
  toNat : Nat
  toNat_lt : toNat < 0x10000000000000000
deriving DecidableEq

namespace Address

instance : LE Address := ⟨fun a b => a.toNat ≤ b.toNat⟩
instance : LT Address := ⟨fun a b => a.toNat < b.toNat⟩
instance (a b : Address) : Decidable (a ≤ b) := inferInstanceAs (Decidable (a.toNat ≤ b.toNat))
instance (a b : Address) : Decidable (a < b) := inferInstanceAs (Decidable (a.toNat < b.toNat))

@[ext] theorem ext {a b : Address} (h : a.toNat = b.toNat) : a = b := by
  cases a; cases b; simp_all

theorem le_def {a b : Address} : a ≤ b ↔ a.toNat ≤ b.toNat := Iff.rfl

theorem lt_def {a b : Address} : a < b ↔ a.toNat < b.toNat := Iff.rfl

/-- The lowest address. -/
def zero : Address := ⟨0, by decide⟩

instance : Inhabited Address := ⟨zero⟩

/-- The address with a given number, if it is below `2 ^ 64`. -/
def ofNat? (n : Nat) : Option Address :=
  if h : n < 0x10000000000000000 then some ⟨n, h⟩ else none

/-- The address `n` bytes further up, if there is one. -/
def add? (a : Address) (n : Nat) : Option Address :=
  ofNat? (a.toNat + n)

/-- The written form of an address. -/
def text (a : Address) : String :=
  Hex.text a.toNat

/-- The address that a row of hexadecimal digits names. -/
def ofDigits? (cs : List Char) : Option Address :=
  (Hex.value? cs).bind ofNat?

/-- The text without one leading plus sign. -/
def dropPlus : List Char → List Char
  | '+' :: cs => cs
  | cs => cs

/-- Reads an address as a user types it: blanks around it and one mark `0x` or `0X` are
dropped, then one plus sign may precede the digits. -/
def parse? (s : String) : Option Address :=
  ofDigits? (dropPlus (Hex.dropMark (Text.trim s.toList)))

end Address

end NameRecovery
