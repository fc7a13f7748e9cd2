import NameRecovery.Notice
import NameRecovery.Text.Blank
import NameRecovery.Text.Pattern.Reader

/-!
# Which notices are shown

A filter is written as directives with commas between them, and perhaps a slash and a pattern
that must occur in a shown notice.  A directive is a level, an origin, or an origin, an equals sign
and a level.  It speaks for all origins that begin with the one it names; a level alone speaks
for every origin, and an origin alone lets everything through.  Of the directives that speak
for an origin the one with the longest name decides, and of equally long ones the first.

A filter of the environment wins over the one that the command line implies, unless it is
malformed.

## Main definitions

* `Directive`, `LogFilter` : directives and filters.
* `LogFilter.parse?` : reading a filter.
* `LogFilter.shows`, `LogFilter.log` : whether a notice is shown, and the lines of those that
  are.
* `LogFilter.choose` : the filter of a run.
-/

namespace NameRecovery.CommandLine

/-- Lets notices up to a rank through if their origin begins with `origin`. -/
structure Directive where
  origin : List Char
  rank : Nat
deriving DecidableEq

/-- Directives, and a pattern that must occur in a shown notice. -/
structure LogFilter where
  directives : List Directive
  pattern : Text.Pattern := .empty
deriving DecidableEq

/-- The rank up to which a level, named in either case, lets notices through. -/
def rankOfName? (name : List Char) : Option Nat :=
  match String.ofList (name.map Char.toLower) with
  | "off" => some 0
  | "error" => some Notice.Level.error.rank
  | "warn" => some Notice.Level.warn.rank
  | "info" => some Notice.Level.info.rank
  | "debug" => some Notice.Level.debug.rank
  | "trace" => some Notice.Level.trace.rank
  | _ => none

namespace Directive

/-- Reads a directive without blanks around it.  No name may contain a blank. -/
def parse? (cs : List Char) : Option Directive :=
  match (Text.pieces (· == '=') cs).map Text.trim with
  | [name] =>
    if name.any Text.isBlank then none
    else match rankOfName? name with
      | some rank => some ⟨[], rank⟩
      | none => some ⟨name, Notice.Level.trace.rank⟩
  | [name, level] =>
    if name.any Text.isBlank then none
    else if level.isEmpty then some ⟨name, Notice.Level.trace.rank⟩
    else (rankOfName? level).map (⟨name, ·⟩)
  | _ => none

/-- Whether a directive speaks for an origin. -/
def speaksFor (d : Directive) (origin : List Char) : Bool :=
  d.origin.isPrefixOf origin

/-- The directive with the longer name; of equally long ones the first. -/
def longer (d e : Directive) : Directive :=
  if d.origin.length < e.origin.length then e else d

end Directive

namespace LogFilter

/-- Reads directives with commas between them; empty ones are dropped. -/
def parseDirectives? (cs : List Char) : Option (List Directive) :=
  (((Text.pieces (· == ',') cs).map Text.trim).filter (!·.isEmpty)).mapM Directive.parse?

/-- Reads a filter. -/
def parse? (s : String) : Option LogFilter :=
  match Text.pieces (· == '/') s.toList with
  | [directives] => (parseDirectives? directives).map (⟨·, .empty⟩)
  | [directives, pattern] => do
    return ⟨← parseDirectives? directives, ← Text.Pattern.parse? pattern⟩
  | _ => none

/-- The directive that decides for an origin. -/
def decisive? (f : LogFilter) (origin : List Char) : Option Directive :=
  match f.directives.filter (·.speaksFor origin) with
  | [] => none
  | d :: rest => some (rest.foldl Directive.longer d)

/-- Whether a notice is shown. -/
def shows (f : LogFilter) (n : Notice) : Bool :=
  match f.decisive? n.origin.text.toList with
  | none => false
  | some d => n.level.rank ≤ d.rank && f.pattern.occursIn n.message

/-- The notices that are shown, as lines. -/
def log (f : LogFilter) (notices : List Notice) : String :=
  String.join ((notices.filter f.shows).map Notice.line)

/-- The filter that the command line implies, as it is written. -/
def impliedWord (debug : Bool) : String :=
  if debug then "debug" else "warn"

/-- The filter that the command line implies. -/
def implied (debug : Bool) : LogFilter :=
  (parse? (impliedWord debug)).getD ⟨[], .empty⟩

/-- The filter of a run, where `word?` is the one of the environment. -/
def choose (word? : Option String) (debug : Bool) : LogFilter :=
  (word?.bind parse?).getD (implied debug)

end LogFilter

end NameRecovery.CommandLine
