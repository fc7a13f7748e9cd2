import NameRecovery.Hex.Bytes
import NameRecovery.Listing.Dialect
import NameRecovery.Listing.Error

/-!
# Lines of a listing

A line counts only if it has an address column, a colon, blanks, and a code column.  The code
column ends at its first tab.  In it stand byte groups, all as wide as the first one, and then
perhaps a mnemonic, which is the first word of another width or with a character that is no
digit.  Where memory could not be read, the line says so instead of giving bytes.

## Main definitions

* `Line` : what a line means.
* `Line.split?` : the address column and the rest of a line.
* `Line.groups` : the byte groups of a code column.
* `Line.classify` : the meaning of a line, or why its byte groups spell no bytes.
-/

namespace NameRecovery

/-- What a line of a listing means. -/
inductive Line where
  /-- Headers, labels, blank lines: no address, or nothing after it. -/
  | ignored
  /-- Memory at an address that could not be read. -/
  | outOfBounds (address : Address)
  /-- Bytes at an address. -/
  | data (address : Address) (bytes : List UInt8)
deriving DecidableEq

namespace Line

/-- Marks memory that could not be read. -/
def outOfBoundsMark : String := "out of bounds"

/-- The address column, without the colon that ends it, and the code column of a line without
blanks around it.  The address column is the first word; the code column is on one line. -/
def split? (line : List Char) : Option (List Char × List Char) :=
  let word := line.takeWhile (!Text.isBlank ·)
  let rest := line.dropWhile (!Text.isBlank ·)
  let code := rest.dropWhile Text.isBlank
  match word.reverse with
  | ':' :: field =>
    if field.isEmpty || code.isEmpty || code.contains '\n' then none
    else some (field.reverse, code)
  | _ => none

/-- The byte groups of a code column.  The first word is always taken, so that a malformed one
is reported when it is decoded. -/
def groups (code : List Char) : List (List Char) :=
  match Text.words (code.takeWhile (· ≠ '\t')) with
  | [] => []
  | first :: rest =>
    first :: rest.takeWhile fun w => Utf8.size w == Utf8.size first && w.all Hex.isDigit

/-- The bytes that the groups of a code column spell. -/
def decodeGroups (lineNo : Nat) (groups : List (List Char)) :
    Except ListingError (List UInt8) :=
  match Hex.decode (Utf8.encode groups.flatten) with
  | .ok bytes => .ok bytes
  | .error cause =>
    .error (.decode lineNo (String.ofList (List.intercalate [' '] groups)) cause)

/-- The meaning of a line whose columns are known. -/
def ofColumns (d : Dialect) (lineNo : Nat) (field code : List Char) :
    Except ListingError Line :=
  match d.parseAddress? field with
  | none => .ok ignored
  | some address =>
    if Text.holds outOfBoundsMark.toList code then .ok (outOfBounds address)
    else match groups code with
      | [] => .ok ignored
      | groups => (decodeGroups lineNo groups).map (data address)

/-- The meaning of a line; `lineNo` is the number shown in an error. -/
def classify (d : Dialect) (lineNo : Nat) (line : String) : Except ListingError Line :=
  match split? (Text.trim line.toList) with
  | none => .ok ignored
  | some (field, code) => ofColumns d lineNo field code

end Line

end NameRecovery
