import NameRecovery.Listing.Dialect

/-!
# Command line arguments

Arguments are read from left to right into tokens: options with or without a value, and the
listing.  A value follows its option, or is attached to it, with or without an equals sign
after a one-letter option.  One-letter options can be joined.  After `--` nothing is an option.
Every option and the listing may be given once.  The first fault ends the reading, unless help
is asked for before it.

## Main definitions

* `Key`, `Token`, `tokens` : option names, tokens, and the tokens of an argument list.
* `Settings`, `Arguments` : what the options and the listing amount to.
* `UsageError`, `UsageError.message` : faults in an argument list.
* `Arguments.parse` : reading an argument list.
-/

namespace NameRecovery.CommandLine

/-- The options. -/
inductive Key where
  | dialect
  | policy
  | marker
  | lenient
  | minLen
  | maxLen
  | maxGap
  | json
  | lookup
  | find
  | debug
  | help
deriving DecidableEq

namespace Key

/-- The long name of an option. -/
def long : Key → String
  | dialect => "dialect"
  | policy => "policy"
  | marker => "marker"
  | lenient => "lenient"
  | minLen => "min-len"
  | maxLen => "max-len"
  | maxGap => "max-gap"
  | json => "json"
  | lookup => "lookup"
  | find => "find"
  | debug => "debug"
  | help => "help"

/-- All options. -/
def all : List Key :=
  [dialect, policy, marker, lenient, minLen, maxLen, maxGap, json, lookup, find, debug, help]

/-- The option with a long name. -/
def ofLong? (name : String) : Option Key :=
  all.find? fun key => key.long = name

/-- The option with a one-letter name. -/
def ofShort? : Char → Option Key
  | 'p' => some policy
  | 'l' => some lookup
  | 'f' => some find
  | 'd' => some debug
  | 'h' => some help
  | _ => none

/-- Whether an option has a value; the others are flags. -/
def takesValue : Key → Bool
  | lenient | json | debug | help => false
  | _ => true

end Key

/-! ### Faults -/

/-- Why an argument list is refused. -/
inductive UsageError where
  | unknownOption (text : String)
  | missingValue (key : Key)
  | unexpectedValue (key : Key)
  | invalidValue (key : Key) (value : String)
  | repeated (key : Key)
  | emptyListing
  | secondListing (path : String)
  | missingListing
  | conflict (first second : Key)
deriving DecidableEq

/-- The wording of a fault. -/
def UsageError.message : UsageError → String
  | unknownOption text => s!"unexpected argument '{text}'"
  | missingValue key => s!"option '--{key.long}' needs a value"
  | unexpectedValue key => s!"option '--{key.long}' takes no value"
  | invalidValue key value => s!"invalid value '{value}' for '--{key.long}'"
  | repeated key => s!"option '--{key.long}' is given more than once"
  | emptyListing => "the listing has no name"
  | secondListing path => s!"unexpected argument '{path}'"
  | missingListing => "no listing is given"
  | conflict first second => s!"option '--{first.long}' excludes '--{second.long}'"

/-! ### Tokens -/

/-- A piece of an argument list. -/
inductive Token where
  | option (key : Key) (value? : Option String)
  | listing (path : String)
  | faulty (e : UsageError)
deriving DecidableEq

/-- The form of a single argument. -/
inductive Form where
  /-- A listing or the value of the option before it. -/
  | plain
  /-- The two dashes that end the options. -/
  | endOfOptions
  /-- A long option, perhaps with a value after an equals sign. -/
  | long (name : String) (value? : Option String)
  /-- One-letter options, and perhaps the value of the last one. -/
  | cluster (letters : List Char)
deriving DecidableEq

/-- The text before the first equals sign, and the text after it if there is one. -/
def cutAtEquals (cs : List Char) : String × Option String :=
  let name := cs.takeWhile (· ≠ '=')
  match cs.dropWhile (· ≠ '=') with
  | [] => (String.ofList name, none)
  | _ :: value => (String.ofList name, some (String.ofList value))

/-- The form of an argument; a single dash is plain. -/
def Form.of (arg : String) : Form :=
  match arg.toList with
  | ['-', '-'] => .endOfOptions
  | '-' :: '-' :: cs =>
    let (name, value?) := cutAtEquals cs
    .long name value?
  | '-' :: c :: cs => .cluster (c :: cs)
  | _ => .plain

/-- The token of a long option, or the option that still waits for its value. -/
def longToken (name : String) (value? : Option String) : Token ⊕ Key :=
  match Key.ofLong? name, value? with
  | none, _ => .inl (.faulty (.unknownOption s!"--{name}"))
  | some key, some value =>
    if key.takesValue then .inl (.option key (some value))
    else .inl (.faulty (.unexpectedValue key))
  | some key, none => if key.takesValue then .inr key else .inl (.option key none)

/-- The tokens of joined one-letter options, and the option that still waits for its value. -/
def clusterTokens : List Char → List Token × Option Key
  | [] => ([], none)
  | c :: rest =>
    match Key.ofShort? c with
    | none => ([.faulty (.unknownOption s!"-{c}")], none)
    | some key =>
      if key.takesValue then
        match rest with
        | [] => ([], some key)
        | '=' :: value => ([.option key (some (String.ofList value))], none)
        | value => ([.option key (some (String.ofList value))], none)
      else
        let (more, waiting) := clusterTokens rest
        (.option key none :: more, waiting)

/-- The tokens of an argument list; `waiting` is the option whose value comes next.  A value
that is an argument of its own does not begin with a dash, unless it is the dash alone. -/
def tokens (waiting : Option Key) : List String → List Token
  | [] => (waiting.map fun key => .faulty (.missingValue key)).toList
  | arg :: rest =>
    match Form.of arg, waiting with
    | .plain, some key => .option key (some arg) :: tokens none rest
    | .plain, none => .listing arg :: tokens none rest
    | _, some key => [.faulty (.missingValue key)]
    | .endOfOptions, none => rest.map .listing
    | .long name value?, none =>
      match longToken name value? with
      | .inl token => token :: tokens none rest
      | .inr key => tokens (some key) rest
    | .cluster letters, none =>
      let (front, waiting) := clusterTokens letters
      front ++ tokens waiting rest

/-! ### Values -/

/-- The names of the policies on the command line. -/
inductive PolicyName where
  | followsPrevious
  | blockAddress
  | marker
deriving DecidableEq

/-- The dialect with a given name. -/
def dialectOfName? : String → Option Dialect
  | "fixed-width" => some .fixedWidth
  | "colon-stripped" => some .colonStripped
  | _ => none

/-- The policy with a given name. -/
def PolicyName.ofName? : String → Option PolicyName
  | "follows-previous" => some followsPrevious
  | "block-address" => some blockAddress
  | "marker" => some marker
  | _ => none

/-- The value of a row of decimal digits; an empty row has none. -/
def decimal? (cs : List Char) : Option Nat :=
  if !cs.isEmpty && cs.all Char.isDigit then
    some (cs.foldl (fun n c => n * 10 + (c.toNat - '0'.toNat)) 0)
  else none

/-- Reads a length, a number from 0 to 255 with an optional sign. -/
def parseLength? (s : String) : Option Nat :=
  match s.toList with
  | '+' :: cs => (decimal? cs).filter (· < 256)
  | '-' :: cs => (decimal? cs).filter (· = 0)
  | cs => (decimal? cs).filter (· < 256)

/-- Reads a gap, a number below `2 ^ 64` with an optional plus sign. -/
def parseGap? (s : String) : Option Nat :=
  match s.toList with
  | '+' :: cs => (decimal? cs).filter (· < 0x10000000000000000)
  | cs => (decimal? cs).filter (· < 0x10000000000000000)

/-! ### Arguments -/

/-- What the options amount to. -/
structure Settings where
  dialect : Dialect := .fixedWidth
  policy : PolicyName := .followsPrevious
  marker : String := "4ffffb82"
  lenient : Bool := false
  minLen : Nat := 4
  maxLen : Nat := 40
  /-- The longest zero fill; 0 is no limit. -/
  maxGap : Nat := 0x1000000
  json : Bool := false
  lookup : Option String := none
  find : Option String := none
  debug : Bool := false
deriving DecidableEq

/-- What an argument list amounts to. -/
structure Arguments extends Settings where
  /-- The file to read; a single dash is the standard input. -/
  listing : String
deriving DecidableEq

/-- Why reading an argument list ends early. -/
inductive Stop where
  /-- Help is asked for. -/
  | help
  | usage (e : UsageError)
deriving DecidableEq

/-- Sets one option; the value of a flag is not looked at. -/
def Settings.set (s : Settings) (key : Key) (value : String) : Except Stop Settings :=
  let orInvalid {α : Type} (parsed : Option α) (update : α → Settings) : Except Stop Settings :=
    match parsed with
    | some x => .ok (update x)
    | none => .error (.usage (.invalidValue key value))
  match key with
  | .dialect => orInvalid (dialectOfName? value) fun d => { s with dialect := d }
  | .policy => orInvalid (PolicyName.ofName? value) fun p => { s with policy := p }
  | .marker => .ok { s with marker := value }
  | .lenient => .ok { s with lenient := true }
  | .minLen => orInvalid (parseLength? value) fun n => { s with minLen := n }
  | .maxLen => orInvalid (parseLength? value) fun n => { s with maxLen := n }
  | .maxGap => orInvalid (parseGap? value) fun n => { s with maxGap := n }
  | .json => .ok { s with json := true }
  | .lookup => .ok { s with lookup := some value }
  | .find => .ok { s with find := some value }
  | .debug => .ok { s with debug := true }
  | .help => .error .help

/-- What the tokens read so far amount to. -/
structure Draft where
  settings : Settings := {}
  given : List Key := []
  listing : Option String := none
deriving DecidableEq

/-- Takes one token. -/
def Draft.take (d : Draft) : Token → Except Stop Draft
  | .faulty e => .error (.usage e)
  | .option key value? =>
    if key ∈ d.given then .error (.usage (.repeated key))
    else (d.settings.set key (value?.getD "")).map fun settings =>
      { d with settings, given := key :: d.given }
  | .listing path =>
    if d.listing.isSome then .error (.usage (.secondListing path))
    else if path.isEmpty then .error (.usage .emptyListing)
    else .ok { d with listing := some path }

/-- Takes tokens up to the first fault. -/
def Draft.takeAll (d : Draft) : List Token → Except Stop Draft
  | [] => .ok d
  | token :: rest =>
    match d.take token with
    | .ok d => d.takeAll rest
    | .error stop => .error stop

/-- Checks what only the whole argument list shows. -/
def Draft.complete (d : Draft) : Except Stop Arguments :=
  if d.settings.lookup.isSome && d.settings.find.isSome then
    .error (.usage (.conflict .lookup .find))
  else match d.listing with
    | none => .error (.usage .missingListing)
    | some path => .ok { d.settings with listing := path }

/-- Reads an argument list. -/
def Arguments.parse (args : List String) : Except Stop Arguments :=
  match Draft.takeAll {} (tokens none args) with
  | .ok d => d.complete
  | .error stop => .error stop

end NameRecovery.CommandLine
