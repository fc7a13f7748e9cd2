import NameRecovery.Listing.Reconstruction
import NameRecovery.Scan.Options

/-!
# Options of a recovery

## Main definitions

* `Options` : how a listing is read and how its image is scanned.
* `Options.describe` : the options written out for a notice.
-/

namespace NameRecovery

/-- How a listing is read and how its image is scanned. -/
structure Options where
  listing : ListingOptions := {}
  scan : ScanOptions := {}
deriving DecidableEq

/-- The name of a dialect in a notice. -/
def Dialect.describe : Dialect → String
  | fixedWidth => "FixedWidth"
  | colonStripped => "ColonStripped"

/-- The name of a policy in a notice; the bytes of a marker are decimal. -/
def Policy.describe : Policy → String
  | followsPrevious => "FollowsPrevious"
  | blockAddress => "BlockAddress"
  | marker word => s!"Marker([{word.b0}, {word.b1}, {word.b2}, {word.b3}])"

/-- A record in a notice: its type and its fields. -/
def describeRecord (name : String) (fields : List (String × String)) : String :=
  name ++ " \x7b " ++ ", ".intercalate (fields.map fun f => f.1 ++ ": " ++ f.2) ++ " \x7d"

/-- The options of a reconstruction in a notice. -/
def ListingOptions.describe (options : ListingOptions) : String :=
  describeRecord "ReconstructConfig" [
    ("dialect", options.dialect.describe),
    ("max_gap", options.maxGap.elim "None" fun gap => s!"Some({gap})")]

/-- The options of a scan in a notice. -/
def ScanOptions.describe (options : ScanOptions) : String :=
  describeRecord "ScanConfig" [
    ("min_len", toString options.minLen),
    ("max_len", toString options.maxLen),
    ("require_terminator", toString options.requireTerminator),
    ("policy", options.policy.describe)]

/-- All options in a notice. -/
def Options.describe (options : Options) : String :=
  describeRecord "Options" [
    ("listing", options.listing.describe),
    ("scan", options.scan.describe)]

end NameRecovery
