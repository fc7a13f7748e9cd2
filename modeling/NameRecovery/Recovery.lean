import NameRecovery.Listing.Source
import NameRecovery.Options
import NameRecovery.Scan.Findings

/-!
# Recovering names from a listing

A listing is turned into an image, and the image is scanned.  A listing without any address is
no error here: it gives no image and no names.

## Main definitions

* `Recovery` : the image, the names and the statistics of one run.
* `recover`, `ByteSource.recover` : the recovery of a list of lines, and of a source.
* `findNames`, `ByteSource.findNames` : only the names.
-/

namespace NameRecovery

/-- What one run produced. -/
structure Recovery where
  /-- The image, unless no line has an address. -/
  image? : Option ByteImage := none
  names : NameMap := {}
  stats : ScanStats := {}
deriving DecidableEq

namespace Recovery

/-- Scans an image. -/
def ofImage (options : ScanOptions) (image : ByteImage) : Recovery :=
  let found := findings options image
  ⟨some image, fileNames image found, .ofFindings found⟩

/-- Scans the image of a listing, if it has one. -/
def ofListing (options : ScanOptions) :
    Except ListingError ByteImage → Except ListingError Recovery
  | .ok image => .ok (ofImage options image)
  | .error .empty => .ok {}
  | .error e => .error e

/-- Every error stays, but for the one that no line has an address. -/
theorem ofListing_error {e : ListingError} (options : ScanOptions) (h : e ≠ .empty) :
    ofListing options (.error e) = .error e := by
  cases e with
  | empty => exact absurd rfl h
  | _ => rfl

/-- What is reported about the scan of a listing. -/
def listingNotices (options : ScanOptions) : Except ListingError ByteImage → List Notice
  | .ok image =>
    let found := findings options image
    findingNotices options.policy image found ++
      [⟨.info, .program, s!"Recovered {(fileNames image found).size} names"⟩]
  | .error .empty =>
    [⟨.info, .program, "Listing has no addressable lines, nothing to scan"⟩]
  | .error _ => []

end Recovery

/-- The recovery of a list of lines. -/
def recover (options : Options) (lines : List String) : Except ListingError Recovery :=
  Recovery.ofListing options.scan (reconstruct options.listing lines)

/-- The names in a list of lines. -/
def findNames (options : Options) (lines : List String) : Except ListingError NameMap :=
  (recover options lines).map Recovery.names

/-- What is reported during the recovery of a list of lines. -/
def recoverNotices (options : Options) (lines : List String) : List Notice :=
  let (reported, image) := reconstructReporting options.listing lines
  reported ++ Recovery.listingNotices options.scan image

namespace ByteSource

/-- The recovery of a source. -/
def recover (options : Options) (source : ByteSource) : Except ListingError Recovery :=
  Recovery.ofListing options.scan (source.reconstruct options.listing)

/-- The names in a source. -/
def findNames (options : Options) (source : ByteSource) : Except ListingError NameMap :=
  (source.recover options).map Recovery.names

/-- What is reported during the recovery of a source. -/
def recoverNotices (options : Options) (source : ByteSource) : List Notice :=
  let (reported, image) := source.reconstructReporting options.listing
  reported ++ Recovery.listingNotices options.scan image

end ByteSource

end NameRecovery
