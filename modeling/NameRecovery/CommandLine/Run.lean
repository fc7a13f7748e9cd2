import NameRecovery.CommandLine.Arguments
import NameRecovery.CommandLine.LogFilter
import NameRecovery.Recovery
import NameRecovery.Report

/-!
# A run of the program

A run reads one listing and answers with all names as text or as a document, with the name
that covers an address, or with the address of a name.  What fails is reported with its
causes.  Options are checked before the listing is opened, the listing is read before the
answer is looked up.

## Main definitions

* `Arguments.options` : the options that the arguments amount to.
* `Arguments.answer` : what is printed about a recovery.
* `Arguments.run` : what is printed, or why nothing is.
* `Arguments.outcome` : exit code, output and log of a run.
-/

namespace NameRecovery.CommandLine

/-- Why a run fails: what it could not do, and what lies behind that. -/
structure Failure where
  headline : String
  causes : List String := []
deriving DecidableEq

namespace Failure

/-- The causes as lines, numbered if there are several. -/
def causeLines : List String → List String
  | [cause] => [s!"    {cause}\n"]
  | causes => causes.zipIdx.map fun c => s!"    {c.2}: {c.1}\n"

/-- The report of a failure. -/
def report (f : Failure) : String :=
  s!"Error: {f.headline}\n" ++
    if f.causes.isEmpty then "" else "\nCaused by:\n" ++ String.join (causeLines f.causes)

end Failure

/-- What a run leaves behind. -/
structure Outcome where
  exitCode : Nat
  stdout : String := ""
  stderr : String := ""
deriving DecidableEq

/-- The answer of a look-up: the name at the address itself, the nearest name before it with
the distance, or nothing known. -/
def lookupLine (names : NameMap) (a : Address) : String :=
  match names.lookup? a with
  | none => s!"{a.text} <unknown>\n"
  | some (start, name) =>
    if start = a then s!"{a.text} {name}\n"
    else s!"{a.text} {name}+{Hex.text (a.toNat - start.toNat)}\n"

namespace Arguments

/-- The policy that the arguments name. -/
def scanPolicy (args : Arguments) : Except Failure Policy :=
  match args.policy with
  | .followsPrevious => .ok .followsPrevious
  | .blockAddress => .ok .blockAddress
  | .marker =>
    match Word.parse? args.marker with
    | some word => .ok (.marker word)
    | none => .error ⟨s!"invalid marker word {Text.quoted args.marker}", []⟩

/-- The options that the arguments amount to.  A malformed marker is reported before an empty
range of lengths. -/
def options (args : Arguments) : Except Failure Options :=
  match args.scanPolicy with
  | .error e => .error e
  | .ok policy =>
    if args.minLen = 0 ∨ args.maxLen ≤ args.minLen then
      .error ⟨s!"length range {args.minLen}..{args.maxLen} is empty", []⟩
    else .ok {
      listing := ⟨args.dialect, if args.maxGap = 0 then none else some args.maxGap⟩
      scan := ⟨args.minLen, args.maxLen, !args.lenient, policy⟩ }

/-- The recovery of the listing.  Instead of a listing there may be the reason why it cannot
be opened. -/
def recovery (args : Arguments) (options : Options) (listing : Except String ByteSource) :
    Except Failure Recovery :=
  match listing with
  | .error reason => .error ⟨s!"failed to open {args.listing}", [reason]⟩
  | .ok source =>
    match source.recover options with
    | .ok r => .ok r
    | .error e => .error ⟨s!"failed to scan {args.listing}", e.message :: e.cause?.toList⟩

/-- What is printed about recovered names.  A look-up wins over a search, and both win over
the choice between text and document. -/
def answer (args : Arguments) (r : Recovery) : Except Failure String :=
  match args.lookup, args.find with
  | some address, _ =>
    match Address.parse? address with
    | some a => .ok (lookupLine r.names a)
    | none => .error ⟨s!"invalid address {Text.quoted address}", []⟩
  | none, some name =>
    match r.names.addressOf? name with
    | some a => .ok (Report.entryLine (a, name))
    | none => .error ⟨s!"name {Text.quoted name} not found in {args.listing}", []⟩
  | none, none =>
    .ok (if args.json then (Report.document r.names r.image?).pretty ++ "\n"
      else Report.text r.names)

/-- What is printed, or why nothing is. -/
def run (args : Arguments) (listing : Except String ByteSource) : Except Failure String :=
  match args.options with
  | .error e => .error e
  | .ok options =>
    match args.recovery options listing with
    | .error e => .error e
    | .ok r => args.answer r

/-- What is reported during a run. -/
def notices (args : Arguments) (listing : Except String ByteSource) : List Notice :=
  match args.options with
  | .error _ => []
  | .ok options =>
    let begun : Notice := ⟨.debug, .program, s!"options: {options.describe}"⟩
    match listing with
    | .error _ => [begun]
    | .ok source => begun :: source.recoverNotices options

/-- Exit code, output and log of a run; `logWord` is the log filter of the environment. -/
def outcome (args : Arguments) (logWord : Option String)
    (listing : Except String ByteSource) : Outcome :=
  let log := (LogFilter.choose logWord args.debug).log (args.notices listing)
  match args.run listing with
  | .ok output => ⟨0, output, log⟩
  | .error e => ⟨1, "", log ++ e.report⟩

end Arguments

/-! ### Runs that end with the argument list -/

/-- What is printed when help is asked for. -/
def helpText : String :=
  "Recover length-prefixed function names from a disassembly listing

Usage: asm-names [OPTIONS] <LISTING>

Arguments:
  <LISTING>  Listing file to scan, `-` reads stdin

Options:
      --dialect <DIALECT>  fixed-width (the default) or colon-stripped
  -p, --policy <POLICY>    follows-previous (the default), block-address or marker
      --marker <MARKER>    Marker instruction word for `--policy marker` [default: 4ffffb82]
      --lenient            Accept names without a terminating null
      --min-len <MIN_LEN>  Shortest accepted name [default: 4]
      --max-len <MAX_LEN>  Names must be shorter than this [default: 40]
      --max-gap <MAX_GAP>  Largest address gap to zero fill, 0 = unlimited [default: 16777216]
      --json               Print a JSON document instead of text
  -l, --lookup <LOOKUP>    Only print the name covering this address
  -f, --find <FIND>        Only print the address a name was recovered at
  -d, --debug              Enable debug output
  -h, --help               Print help
"

/-- The outcome when the argument list is not followed by a run. -/
def Stop.outcome : Stop → Outcome
  | help => ⟨0, helpText, ""⟩
  | usage e => ⟨2, "", s!"error: {e.message}\n\nFor more information, try '--help'.\n"⟩

end NameRecovery.CommandLine
