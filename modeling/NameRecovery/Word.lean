import NameRecovery.Hex.Bytes
import NameRecovery.Text.Blank
import NameRecovery.Text.Utf8

/-!
# Instruction words

An instruction word is four bytes, in the order in which they stand in memory.

## Main definitions

* `Word`, `Word.bytes` : a word and its bytes.
* `Word.alignUp` : the next word boundary.
* `Word.parse?` : a word as a user types it.
-/

namespace NameRecovery

/-- An instruction word, first byte first. -/
structure Word where
  b0 : UInt8
  b1 : UInt8
  b2 : UInt8
  b3 : UInt8
deriving DecidableEq

namespace Word

/-- The number of bytes of a word. -/
def size : Nat := 4

/-- The word without a set bit. -/
def zero : Word := ⟨0, 0, 0, 0⟩

/-- The bytes of a word in memory order. -/
def bytes (w : Word) : List UInt8 :=
  [w.b0, w.b1, w.b2, w.b3]

/-- The word made of four bytes. -/
def ofBytes? : List UInt8 → Option Word
  | [b0, b1, b2, b3] => some ⟨b0, b1, b2, b3⟩
  | _ => none

/-- The least multiple of the word size that is at least `n`. -/
def alignUp (n : Nat) : Nat :=
  (n + (size - 1)) / size * size

theorem le_alignUp (n : Nat) : n ≤ alignUp n := by
  simp only [alignUp, size]; omega

theorem alignUp_lt (n : Nat) : alignUp n < n + size := by
  simp only [alignUp, size]; omega

theorem size_dvd_alignUp (n : Nat) : size ∣ alignUp n :=
  Nat.dvd_mul_left _ _

/-- The digits of a word. -/
def text (w : Word) : String :=
  String.ofList (Hex.encode w.bytes)

/-- Reads a word as a user types it: blanks around it and one mark `0x` or `0X` are dropped,
and the rest must spell exactly four bytes. -/
def parse? (s : String) : Option Word :=
  match Hex.decode (Utf8.encode (Hex.dropMark (Text.trim s.toList))) with
  | .ok bytes => ofBytes? bytes
  | .error _ => none

end Word

end NameRecovery
