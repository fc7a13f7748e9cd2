import NameRecovery.Image
import NameRecovery.NameMap

/-!
# Reports

Recovered names are written as text, one entry on a line, or as a document that also says
which memory the names were found in.

## Main definitions

* `Report.text` : one line per entry.
* `Report.document` : entries and image as a document.
-/

namespace NameRecovery.Report

/-- One entry as a line: the address, a blank, the name. -/
def entryLine (entry : Address × String) : String :=
  entry.1.text ++ " " ++ entry.2 ++ "\n"

/-- One line per entry, in order. -/
def text (names : NameMap) : String :=
  names.entries.foldl (fun s entry => s ++ entryLine entry) ""

/-- One entry as an object. -/
def entryObject (entry : Address × String) : Document :=
  .object [("address", .text entry.1.text), ("name", .text entry.2)]

/-- The address at which an image begins; a missing image begins at zero. -/
def imageBase (image? : Option ByteImage) : Address :=
  image?.elim .zero ByteImage.base

/-- The address at which an image ends; a missing image ends at zero. -/
def imageStop (image? : Option ByteImage) : Address :=
  image?.elim .zero ByteImage.stop

/-- The number of bytes of an image; a missing image has none. -/
def imageSize (image? : Option ByteImage) : Nat :=
  image?.elim 0 ByteImage.size

/-- Entries and image as a document, with the fields in alphabetical order. -/
def document (names : NameMap) (image? : Option ByteImage) : Document :=
  .object [
    ("base", .text (imageBase image?).text),
    ("count", .number names.size),
    ("end", .text (imageStop image?).text),
    ("names", .list (names.toList.map entryObject)),
    ("size", .number (imageSize image?)),
    ("t", .text "names")]

end NameRecovery.Report
