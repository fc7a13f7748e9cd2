import NameRecovery.Word

/-!
# How an image is scanned

## Main definitions

* `Policy` : which address a name is filed under.
* `ScanOptions` : the accepted lengths, the terminator and the policy.
-/

namespace NameRecovery

/-- Which address a name is filed under. -/
inductive Policy where
  /-- The code after the block before; the first name falls back to its own block. -/
  | followsPrevious
  /-- The block of the name itself. -/
  | blockAddress
  /-- The nearest such word at or before the block; without one the name is dropped. -/
  | marker (word : Word)
deriving DecidableEq

namespace Policy

/-- The word that is looked for when the user names none. -/
def defaultMarker : Word := ⟨0x4f, 0xff, 0xfb, 0x82⟩

end Policy

/-- How an image is scanned.  A length is accepted from `minLen` up to, but not including,
`maxLen`. -/
structure ScanOptions where
  minLen : Nat := 4
  maxLen : Nat := 40
  requireTerminator : Bool := true
  policy : Policy := .followsPrevious
deriving DecidableEq

end NameRecovery
