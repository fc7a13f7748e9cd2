/-!
# Notices

What a run reports about its own progress.  A notice has a level of importance and names the
part of the program that speaks.  Notices never influence a result.

## Main definitions

* `Notice.Level`, `Notice.Origin`, `Notice` : notices.
* `Notice.record`, `Notice.line` : the two written forms.
-/

namespace NameRecovery

namespace Notice

/-- How important a notice is, the most important first. -/
inductive Level where
  | error
  | warn
  | info
  | debug
  | trace
deriving DecidableEq

/-- The rank of a level; rarer and more important levels rank lower. -/
def Level.rank : Level → Nat
  | error => 1
  | warn => 2
  | info => 3
  | debug => 4
  | trace => 5

/-- The written form of a level. -/
def Level.text : Level → String
  | error => "ERROR"
  | warn => "WARN"
  | info => "INFO"
  | debug => "DEBUG"
  | trace => "TRACE"

/-- The part of the program that speaks. -/
inductive Origin where
  | program
  | listing
  | scanner
deriving DecidableEq

/-- The written form of an origin. -/
def Origin.text : Origin → String
  | program => "asm_names"
  | listing => "asm_names::listing"
  | scanner => "asm_names::scanner"

end Notice

/-- A report about the progress of a run. -/
structure Notice where
  level : Notice.Level
  origin : Notice.Origin
  message : String
deriving DecidableEq

namespace Notice

/-- A notice as a record, the level and origin in front of a colon. -/
def record (n : Notice) : String :=
  s!"{n.level.text} {n.origin.text}: {n.message}"

/-- A notice as a line of a log, the origin in brackets. -/
def line (n : Notice) : String :=
  s!"{n.level.text} [{n.origin.text}] {n.message}\n"

end Notice

end NameRecovery
