import NameRecovery.Listing.Reconstruction
import NameRecovery.Text.Utf8

/-!
# Listings as bytes

A source delivers the bytes of a listing and then ends, or fails.  Lines end at a newline byte;
the carriage returns before it are dropped, and each line is read as text on its own.  A last
line without a newline counts when the source ends, and is lost when the source fails.

## Main definitions

* `ByteSource` : bytes and how they end.
* `ByteSource.lines` : the lines delivered.
* `ByteSource.reconstruct` : the image of the lines.
-/

namespace NameRecovery

/-- The bytes of a listing.  A source with a `failure` fails for that reason after its bytes
are delivered. -/
structure ByteSource where
  bytes : List UInt8
  failure : Option String := none
deriving DecidableEq

namespace ByteSource

/-- The byte that ends a line. -/
def newline : UInt8 := 10

/-- The byte that is dropped at the end of a line. -/
def carriageReturn : UInt8 := 13

/-- The text of the bytes of one line. -/
def lineText (bytes : List UInt8) : String :=
  String.ofList
    (Utf8.decodeLossy (bytes.reverse.dropWhile (· == carriageReturn)).reverse)

/-- The bytes before each newline, and the bytes after the last one. -/
def cut (bytes : List UInt8) : List (List UInt8) × List UInt8 :=
  let parts := Text.pieces (· == newline) bytes
  (parts.dropLast, parts.getLastD [])

/-- The lines delivered. -/
def lines (source : ByteSource) : List String :=
  let (ended, tail) := cut source.bytes
  let last := if source.failure.isSome || tail.isEmpty then [] else [tail]
  (ended ++ last).map lineText

/-- The image of the lines delivered.  An error in a line comes before the failure of the
source. -/
def reconstruct (options : ListingOptions) (source : ByteSource) :
    Except ListingError ByteImage :=
  match Reconstruction.feed options {} source.lines with
  | .error e => .error e
  | .ok r =>
    match source.failure with
    | some reason => .error (.unreadable reason)
    | none => r.finish

/-- The image of the lines delivered, and what is reported meanwhile. -/
def reconstructReporting (options : ListingOptions) (source : ByteSource) :
    List Notice × Except ListingError ByteImage :=
  match Reconstruction.feedReporting options {} #[] source.lines with
  | (reported, .error e) => (reported.toList, .error e)
  | (reported, .ok r) =>
    match source.failure with
    | some reason => (reported.toList, .error (.unreadable reason))
    | none => (reported.toList ++ r.finishNotice?.toList, r.finish)

/-- Reporting does not influence the image. -/
theorem reconstructReporting_snd (options : ListingOptions) (source : ByteSource) :
    (source.reconstructReporting options).2 = source.reconstruct options := by
  rw [reconstructReporting, reconstruct, ← Reconstruction.feedReporting_snd options {} #[]]
  split
  · next heq => rw [heq]
  · next heq =>
    rw [heq]
    cases source.failure with
    | none => rfl
    | some reason => rfl

end ByteSource

end NameRecovery
