import NameRecovery.Address
import NameRecovery.Hex.Bytes
import NameRecovery.Text.Quoted

/-!
# Why a listing cannot be read

Lines that do not look like instructions are never errors.  An error means that a line looks
like one and cannot be honoured, that no line does, or that the listing could not be read.

## Main definitions

* `ListingError`, `ListingError.message` : the errors and their wording.
* `ListingError.cause?` : the wording of what lies behind an error.
-/

namespace NameRecovery

/-- Why a listing gives no image. -/
inductive ListingError where
  /-- No line has an address. -/
  | empty
  /-- The byte groups of a line, joined by blanks in `text`, spell no bytes. -/
  | decode (line : Nat) (text : String) (cause : Hex.DecodeError)
  /-- The line at `address` would need a zero fill of `gap` bytes. -/
  | gapTooLarge (line : Nat) (address : Address) (gap limit : Nat)
  /-- The `size` bytes of a line leave the address space. -/
  | addressOverflow (line : Nat) (address : Address) (size : Nat)
  /-- All bytes together leave the address space. -/
  | imageOverflow (base : Address) (size : Nat)
  /-- The source of the lines failed. -/
  | unreadable (reason : String)
deriving DecidableEq

namespace ListingError

/-- The wording of an error. -/
def message : ListingError → String
  | empty => "listing contains no addressable lines"
  | decode line text cause =>
    s!"line {line}: invalid instruction bytes {Text.quoted text}: {cause.message}"
  | gapTooLarge line address gap limit =>
    s!"line {line}: gap of {Hex.text gap} bytes before {address.text} exceeds limit of {Hex.text limit}"
  | addressOverflow line address size =>
    s!"line {line}: {size} bytes at {address.text} run past the end of the address space"
  | imageOverflow base size =>
    s!"image at {base.text} with {size} bytes overflows the address space"
  | unreadable reason => s!"failed to read listing: {reason}"

/-- The wording of what lies behind an error. -/
def cause? : ListingError → Option String
  | decode _ _ cause => some cause.message
  | unreadable reason => some reason
  | _ => none

end ListingError

end NameRecovery
