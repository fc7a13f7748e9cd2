import NameRecovery.Hex.Digit
import NameRecovery.Text.Alphabetic
import NameRecovery.Text.Blank
import NameRecovery.Text.Pattern.Property
import NameRecovery.Text.Pattern.Room

/-!
# Reading patterns

A pattern is written with the usual signs: `|` for choice, `( )` for groups, `* + ?` and counts
in braces for repetition, `[ ]` for classes, `. ^ $`, and a backslash for classes named by a
letter, anchors, characters by number, and signs that stand for themselves.  A group may begin
with flags or a name; flags without a group hold up to the end of the group around them.
Classes may be nested and combined by `&&`, `--` and `~~`.

Patterns are looked for in messages, and a message is one line.  So the flag about lines and
those that choose between several matches are read, but change nothing.

A pattern may not nest too deeply: a group, a repetition, a class in brackets, an operation on
classes, and several items or alternatives together count one level each.

## Main definitions

* `Mode` : the flags that matter.
* `readEscape`, `readClass`, `readCount`, `readGroup` : the parts of a pattern.
* `Pattern.parse?` : reading a pattern; `none` if it is malformed, too deep or too large.
-/

namespace NameRecovery.Text.Pattern

/-- How the next part of a pattern is read. -/
structure Mode where
  caseless : Bool := false
  /-- Whether classes and the dot may stand for characters outside ASCII. -/
  unicode : Bool := true
  /-- Whether blanks and comments between the parts are skipped. -/
  spaced : Bool := false
  /-- Whether the dot stands for the ends of lines, too. -/
  dotAll : Bool := false
  /-- Whether a carriage return ends lines. -/
  returns : Bool := false
deriving DecidableEq

/-! ### Blanks and comments -/

/-- Drops blanks and comments, which run from a number sign to the end of the line. -/
def skipBlanks (inComment : Bool) : List Char → List Char
  | [] => []
  | c :: cs =>
    if inComment then skipBlanks (c != '\n') cs
    else if isBlank c then skipBlanks false cs
    else if c == '#' then skipBlanks true cs
    else c :: cs

/-- Drops blanks and comments where the mode allows them. -/
def skip (m : Mode) (cs : List Char) : List Char :=
  if m.spaced then skipBlanks false cs else cs

/-- The character after blanks, where the mode allows them.  A comment is not skipped, only the
sign that begins it. -/
def glance (m : Mode) (cs : List Char) : Option Char :=
  if m.spaced then
    match cs.dropWhile isBlank with
    | '#' :: rest => (rest.dropWhile isBlank).head?
    | rest => rest.head?
  else cs.head?

/-- The characters up to a closing brace, and what follows it. -/
def readBraced (m : Mode) (inComment : Bool) : List Char → Option (List Char × List Char)
  | [] => none
  | c :: cs =>
    if inComment then readBraced m (c != '\n') cs
    else if c == '\x7d' then some ([], cs)
    else if m.spaced && isBlank c then readBraced m false cs
    else if m.spaced && c == '#' then readBraced m true cs
    else (readBraced m false cs).map fun r => (c :: r.1, r.2)

/-! ### Escapes -/

/-- The smallest part of a pattern. -/
inductive Atom where
  /-- A character, and whether it is written as a byte of two digits. -/
  | char (c : Char) (asByte : Bool)
  | set (s : CharSet)
  | anchor (a : Anchor)

/-- A set, or without regard to case all that differs from a member only in case. -/
def Mode.fold (m : Mode) (s : CharSet) : CharSet :=
  if !m.caseless then s
  else if m.unicode then .caseless s
  else .inter (.ranges [(0x00, 0x7f)]) (.caseless s)

/-- A set or its complement.  Outside Unicode no complement may stand, since it would reach
beyond ASCII. -/
def Mode.turn? (m : Mode) (turned : Bool) (s : CharSet) : Option CharSet :=
  if !turned then some s else if m.unicode then some (.complement s) else none

/-- The set that the dot stands for. -/
def Mode.dot? (m : Mode) : Option CharSet :=
  let ends := if m.dotAll then [] else if m.returns then ['\n', '\r'] else ['\n']
  m.turn? true (.ranges (ends.map fun c => (c.toNat, c.toNat)))

/-- Whether a character may stand at this place as a byte. -/
def Mode.allowsByte (m : Mode) (c : Char) (asByte : Bool) : Bool :=
  m.unicode || !asByte || c.toNat < 0x80

/-- The character with a given number. -/
def charOfNumber? (n : Nat) : Option Char :=
  if n.isValidChar then some (Char.ofNat n) else none

/-- Reads `n` hexadecimal digits. -/
def readHexDigits (m : Mode) (value : Nat) : Nat → List Char → Option (Nat × List Char)
  | 0, cs => some (value, cs)
  | _ + 1, [] => none
  | n + 1, c :: cs =>
    (Hex.digit? c).bind fun d => readHexDigits m (value * 16 + d) n (skip m cs)

/-- Reads the number of a character, `n` digits or any number of them in braces. -/
def readNumber (m : Mode) (n : Nat) (cs : List Char) : Option (Atom × List Char) :=
  match skip m cs with
  | '\x7b' :: cs => do
    let (digits, rest) ← readBraced m false cs
    let c ← charOfNumber? (← Hex.value? digits)
    return (.char c false, rest)
  | cs => do
    let (value, rest) ← readHexDigits m 0 n cs
    let c ← charOfNumber? value
    return (.char c (n == 2), rest)

/-- The text before and after the first place where `sign` stands. -/
def cutAt? (sign : List Char) : List Char → Option (List Char × List Char)
  | [] => none
  | c :: cs =>
    if sign.isPrefixOf (c :: cs) then some ([], (c :: cs).drop sign.length)
    else (cutAt? sign cs).map fun r => (c :: r.1, r.2)

/-- The class that the inside of `\p\{…}` names, and whether it is turned around. -/
def propertyOf? (name : List Char) : Option (CharSet × Bool) :=
  match cutAt? ['!', '='] name with
  | some (property, value) => (CharSet.ofPropertyValue? property value).map (·, true)
  | none =>
    match cutAt? [':'] name <|> cutAt? ['='] name with
    | some (property, value) => (CharSet.ofPropertyValue? property value).map (·, false)
    | none => (CharSet.ofProperty? name).map (·, false)

/-- Reads the name of a property: one letter, or a name in braces. -/
def readPropertyName (m : Mode) (cs : List Char) : Option (List Char × List Char) :=
  match skip m cs with
  | '\x7b' :: cs => readBraced m false cs
  | '\\' :: _ | [] => none
  | c :: rest => some ([c], rest)

/-- Reads a class named by a property. -/
def readProperty (m : Mode) (negated : Bool) (cs : List Char) : Option (Atom × List Char) := do
  let (name, rest) ← readPropertyName m cs
  let (set, turned) ← propertyOf? name
  if m.unicode then
    let set := m.fold set
    return (.set (if negated != turned then .complement set else set), rest)
  else none

/-- Reads what follows `\b`: a special edge of a word in braces, or nothing. -/
def readEdge (m : Mode) (cs : List Char) : Option (Atom × List Char) :=
  let isNameChar := fun (c : Char) => c.isAlpha || c == '-'
  match cs with
  | '\x7b' :: inside =>
    match skip m inside with
    | [] => none
    | c :: _ =>
      if isNameChar c then do
        let (name, rest) ← readBraced m false inside
        let a ← match String.ofList name with
          | "start" => some Anchor.wordStart
          | "end" => some Anchor.wordStop
          | "start-half" => some Anchor.noWordBefore
          | "end-half" => some Anchor.noWordAfter
          | _ => none
        return (.anchor a, rest)
      else some (.anchor .wordEdge, cs)
  | cs => some (.anchor .wordEdge, cs)

/-- A class named by a letter; the capital letter turns it around. -/
def letterClass (m : Mode) (c : Char) (set : Bool → CharSet) : Option Atom :=
  (m.turn? c.isUpper (set m.unicode)).map .set

/-- Whether a character stands for itself after a backslash: ASCII signs do, but letters,
digits and angle brackets do not. -/
def standsForItself (c : Char) : Bool :=
  c.toNat < 0x80 && !c.isAlphanum && c != '<' && c != '>'

/-- Reads what follows a backslash. -/
def readEscape (m : Mode) : List Char → Option (Atom × List Char)
  | [] => none
  | c :: cs =>
    match c with
    | 'x' => readNumber m 2 cs
    | 'u' => readNumber m 4 cs
    | 'U' => readNumber m 8 cs
    | 'p' => readProperty m false cs
    | 'P' => readProperty m true cs
    | 'd' | 'D' => (letterClass m c .digit).map (·, cs)
    | 's' | 'S' => (letterClass m c .space).map (·, cs)
    | 'w' | 'W' => (letterClass m c .word).map (·, cs)
    | 'a' => some (.char '\x07' false, cs)
    | 'f' => some (.char '\x0c' false, cs)
    | 't' => some (.char '\t' false, cs)
    | 'n' => some (.char '\n' false, cs)
    | 'r' => some (.char '\r' false, cs)
    | 'v' => some (.char '\x0b' false, cs)
    | 'A' => some (.anchor .start, cs)
    | 'z' => some (.anchor .stop, cs)
    | 'b' => readEdge m cs
    | 'B' => some (.anchor .notWordEdge, cs)
    | '<' => some (.anchor .wordStart, cs)
    | '>' => some (.anchor .wordStop, cs)
    | c => if standsForItself c then some (.char c false, cs) else none

/-! ### Depth -/

/-- The depth of items that stand together. -/
def depthTogether : List Nat → Nat
  | [] => 0
  | [d] => d
  | ds => ds.foldl max 0 + 1

/-- The greatest depth of a pattern. -/
def maxDepth : Nat := 250

/-! ### Classes in brackets -/

/-- A class and its depth. -/
structure ClassItem where
  set : CharSet
  depth : Nat := 0

/-- An open bracket: whether it is turned around, the operation that waits for its right side,
and the items read since with their depths. -/
structure Bracket where
  negated : Bool
  waiting : Option ((CharSet → CharSet → CharSet) × ClassItem) := none
  items : CharSet := .empty
  depths : List Nat := []

namespace Bracket

/-- Adds an item. -/
def add (b : Bracket) (i : ClassItem) : Bracket :=
  { b with items := b.items.joined i.set, depths := i.depth :: b.depths }

/-- The class up to here. -/
def value (b : Bracket) (m : Mode) : ClassItem :=
  let depth := depthTogether b.depths
  match b.waiting with
  | none => ⟨b.items, depth⟩
  | some (op, left) => ⟨op (m.fold left.set) (m.fold b.items), max left.depth depth + 1⟩

/-- Puts an operation after what is read. -/
def operate (b : Bracket) (m : Mode) (op : CharSet → CharSet → CharSet) : Bracket :=
  { b with waiting := some (op, b.value m), items := .empty, depths := [] }

/-- The class of a bracket that is closed. -/
def close (b : Bracket) (m : Mode) : Option ClassItem :=
  let i := b.value m
  (m.turn? b.negated (m.fold i.set)).map (⟨·, i.depth + 1⟩)

end Bracket

/-- Takes leading hyphens, which stand for themselves; `fuel` is at least their number. -/
def takeHyphens (m : Mode) (b : Bracket) : Nat → List Char → Bracket × List Char
  | fuel + 1, '-' :: cs => takeHyphens m (b.add ⟨.single '-', 0⟩) fuel (skip m cs)
  | _, cs => (b, cs)

/-- Reads what follows an opening bracket: a sign that turns it around, hyphens that stand for
themselves, or else a closing bracket that does. -/
def openBracket (m : Mode) (cs : List Char) : Option (Bracket × List Char) :=
  let (negated, cs) := match skip m cs with
    | '^' :: cs => (true, skip m cs)
    | cs => (false, cs)
  let b : Bracket := { negated }
  match cs with
  | [] => none
  | '-' :: _ => some (takeHyphens m b cs.length cs)
  | ']' :: cs => some (b.add ⟨.single ']', 0⟩, skip m cs)
  | cs => some (b, cs)

/-- Reads an ASCII class such as `[:alpha:]` after its opening bracket, and whether it is turned
around. -/
def readAsciiClass? : List Char → Option (CharSet × Bool × List Char)
  | ':' :: cs =>
    let (negated, cs) := match cs with
      | '^' :: cs => (true, cs)
      | cs => (false, cs)
    match cs.dropWhile (· != ':') with
    | ':' :: ']' :: rest =>
      (CharSet.ofAsciiName? (String.ofList (cs.takeWhile (· != ':')))).map (·, negated, rest)
    | _ => none
  | _ => none

/-- Reads a character or an escape. -/
def readAtom (m : Mode) : List Char → Option (Atom × List Char)
  | [] => none
  | '\\' :: cs => readEscape m cs
  | c :: cs => some (.char c false, cs)

/-- A character as an item of a class; outside Unicode it must be ASCII. -/
def classChar? (m : Mode) (c : Char) : Option Char :=
  if m.unicode || c.toNat < 0x80 then some c else none

/-- Reads an item of a class: a character, a range of characters, or a class named by an
escape.  A hyphen before a closing bracket or before another hyphen makes no range. -/
def readItem (m : Mode) (cs : List Char) : Option (CharSet × List Char) := do
  let (first, rest) ← readAtom m cs
  let rest := skip m rest
  let alone : Option (CharSet × List Char) := match first with
    | .char c _ => (classChar? m c).map fun c => (.single c, rest)
    | .set s => some (s, rest)
    | .anchor _ => none
  match rest with
  | [] => none
  | '-' :: after =>
    if glance m after == some ']' || glance m after == some '-' then alone
    else do
      let (last, rest) ← readAtom m (skip m after)
      match first, last with
      | .char a _, .char b _ =>
        let a ← classChar? m a
        let b ← classChar? m b
        if a ≤ b then return (.ranges [(a.toNat, b.toNat)], rest) else none
      | _, _ => none
  | _ => alone

/-- Reads the inside of a bracket up to the one that closes it; `outer` are the brackets
around it, and `fuel` is at least the number of characters. -/
def readClass (m : Mode) (outer : List Bracket) (b : Bracket) :
    Nat → List Char → Option (ClassItem × List Char)
  | 0, _ => none
  | fuel + 1, cs =>
    match skip m cs with
    | [] => none
    | '[' :: rest =>
      match readAsciiClass? rest with
      | some (set, negated, rest) =>
        match m.turn? negated (m.fold set) with
        | some set => readClass m outer (b.add ⟨set, 0⟩) fuel rest
        | none => none
      | none =>
        match openBracket m rest with
        | some (inner, rest) => readClass m (b :: outer) inner fuel rest
        | none => none
    | ']' :: rest =>
      match b.close m, outer with
      | none, _ => none
      | some i, [] => some (i, rest)
      | some i, around :: outer => readClass m outer (around.add i) fuel rest
    | '&' :: '&' :: rest => readClass m outer (b.operate m .inter) fuel rest
    | '-' :: '-' :: rest => readClass m outer (b.operate m .minus) fuel rest
    | '~' :: '~' :: rest => readClass m outer (b.operate m .exclusive) fuel rest
    | cs =>
      match readItem m cs with
      | some (set, rest) => readClass m outer (b.add ⟨set, 0⟩) fuel rest
      | none => none

/-! ### Counts -/

/-- The digits at the beginning, and what follows them. -/
def takeDigits (m : Mode) (inComment : Bool) : List Char → List Char × List Char
  | [] => ([], [])
  | c :: cs =>
    if inComment then takeDigits m (c != '\n') cs
    else if c.isDigit then
      let (digits, rest) := takeDigits m false cs
      (c :: digits, rest)
    else if m.spaced && isBlank c then takeDigits m false cs
    else if m.spaced && c == '#' then takeDigits m true cs
    else ([], c :: cs)

/-- Reads a number of rounds, with blanks around it, below `2 ^ 32`. -/
def readRounds (m : Mode) (cs : List Char) : Option (Nat × List Char) :=
  let (digits, rest) := takeDigits m false (cs.dropWhile isBlank)
  let n := digits.foldl (fun n c => n * 10 + (c.toNat - '0'.toNat)) 0
  if digits.isEmpty || 0x100000000 ≤ n then none else some (n, skip m (rest.dropWhile isBlank))

/-- Reads what follows an opening brace: a number of rounds, or bounds for it. -/
def readCount (m : Mode) (cs : List Char) : Option (Nat × Option Nat × List Char) := do
  let (least, rest) ← readRounds m (skip m cs)
  match rest with
  | '\x7d' :: rest => return (least, some least, rest)
  | ',' :: rest =>
    match skip m rest with
    | '\x7d' :: rest => return (least, none, rest)
    | rest => do
      let (most, rest) ← readRounds m rest
      match rest with
      | '\x7d' :: rest => if least ≤ most then return (least, some most, rest) else none
      | _ => none
  | _ => none

/-! ### Groups -/

/-- What follows an opening parenthesis. -/
inductive Group where
  /-- A group that is read with a mode of its own, whether a match remembers it, and perhaps its
  name. -/
  | opened (mode : Mode) (remembered : Bool) (name? : Option (List Char))
  /-- Flags for the rest of the group around them. -/
  | flags (mode : Mode)

/-- Sets a flag. -/
def Mode.set (m : Mode) (on : Bool) : Char → Option Mode
  | 'i' => some { m with caseless := on }
  | 'u' => some { m with unicode := on }
  | 'x' => some { m with spaced := on }
  | 's' => some { m with dotAll := on }
  | 'R' => some { m with returns := on }
  | 'm' | 'U' => some m
  | _ => none

/-- Reads flags up to a colon or a closing parenthesis.  No flag is given twice, a hyphen turns
the flags after it off, and there must be some. -/
def readFlags (m : Mode) (seen : List Char) : List Char → Option (Group × List Char)
  | [] => none
  | ':' :: rest => if seen.head? = some '-' then none else some (.opened m false none, rest)
  | ')' :: rest =>
    if seen.isEmpty || seen.head? = some '-' then none else some (.flags m, rest)
  | c :: rest =>
    if seen.contains c then none
    else if c = '-' then readFlags m ('-' :: seen) rest
    else match m.set (!seen.contains '-') c with
      | some m => readFlags m (c :: seen) rest
      | none => none

/-- Whether a group may have this name: letters, numerals and a few signs after a letter or an
underscore. -/
def isGroupName : List Char → Bool
  | [] => false
  | c :: cs =>
    let isLetter := fun (c : Char) => c == '_' || isAlphabetic c
    isLetter c && cs.all fun c => isLetter c || isNumeral c || ['.', '[', ']'].contains c

/-- Reads the name of a group up to the closing angle bracket. -/
def readGroupName (m : Mode) (cs : List Char) : Option (Group × List Char) :=
  match cs.dropWhile (· != '>') with
  | _ :: rest =>
    let name := cs.takeWhile (· != '>')
    if isGroupName name then some (.opened m true (some name), rest) else none
  | [] => none

/-- Reads what follows an opening parenthesis.  Conditions on the text around are refused. -/
def readGroup (m : Mode) (cs : List Char) : Option (Group × List Char) :=
  match skip m cs with
  | '?' :: 'P' :: '<' :: cs => readGroupName m cs
  | '?' :: '<' :: '=' :: _ | '?' :: '<' :: '!' :: _ => none
  | '?' :: '<' :: cs => readGroupName m cs
  | '?' :: cs => readFlags m [] cs
  | cs => some (.opened m true none, cs)

/-! ### Patterns -/

/-- A pattern that is an item of a group, its depth, and whether a sign of repetition may
follow. -/
structure Item where
  pattern : Pattern
  depth : Nat := 0
  repeatable : Bool := true

/-- The part of a group that is read: the alternatives before and the items of the current one,
the last first. -/
structure Branch where
  before : List Item := []
  items : List Item := []

namespace Branch

/-- Adds an item. -/
def add (b : Branch) (i : Item) : Branch :=
  { b with items := i :: b.items }

/-- The current alternative. -/
def current (b : Branch) : Item where
  pattern := b.items.foldl (fun rest i => i.pattern.followedBy rest) empty
  depth := depthTogether (b.items.map (·.depth))

/-- Begins another alternative. -/
def another (b : Branch) : Branch :=
  { before := b.current :: b.before }

/-- All that is read. -/
def value (b : Branch) : Item where
  pattern := b.before.foldl (fun rest i => alt i.pattern rest) b.current.pattern
  depth := depthTogether (b.another.before.map (·.depth))

/-- Repeats the last item. -/
def repeatLast (b : Branch) (least : Nat) (most : Option Nat) : Option Branch :=
  match b.items with
  | last :: items =>
    if last.repeatable then
      some { b with items := ⟨last.pattern.times least most, last.depth + 1, true⟩ :: items }
    else none
  | [] => none

end Branch

/-- Where reading stands: the mode, the current group and whether a match remembers it, the
groups around it with their modes, and the names given so far. -/
structure Position where
  mode : Mode := {}
  remembered : Bool := false
  branch : Branch := {}
  outer : List (Mode × Bool × Branch) := []
  names : List (List Char) := []

/-- Drops a question mark, which chooses between several matches. -/
def dropLazy : List Char → List Char
  | '?' :: cs => cs
  | cs => cs

namespace Position

/-- Adds an item to the current group. -/
def add (p : Position) (i : Item) : Position :=
  { p with branch := p.branch.add i }

/-- The position after a part that is read as an atom. -/
def addAtom (p : Position) : Atom → Option Position
  | .char c asByte =>
    if !p.mode.allowsByte c asByte then none
    else if p.mode.allowsByte c true then some (p.add { pattern := char (p.mode.fold (.single c)) })
    else some (p.add { pattern := char (.single c) })
  | .set s => some (p.add { pattern := char s })
  | .anchor a => some (p.add { pattern := anchor a })

/-- The position after an opening parenthesis or flags. -/
def enter (p : Position) : Group → Option Position
  | .flags mode => some { p.add { pattern := empty, repeatable := false } with mode }
  | .opened mode remembered name? =>
    let names := name?.toList ++ p.names
    if name?.any p.names.contains then none
    else some { mode, remembered, outer := (p.mode, p.remembered, p.branch) :: p.outer, names }

/-- The position after a closing parenthesis. -/
def leave (p : Position) : Option Position :=
  match p.outer with
  | [] => none
  | (mode, remembered, branch) :: outer =>
    let inner := p.branch.value
    let pattern := if p.remembered then group inner.pattern else inner.pattern
    let branch := branch.add { pattern, depth := inner.depth + 1 }
    some { p with mode, remembered, branch, outer }

/-- The position after repeating the last item. -/
def repeatLast (p : Position) (least : Nat) (most : Option Nat) : Option Position :=
  (p.branch.repeatLast least most).map fun branch => { p with branch }

/-- Reads one part of a pattern. -/
def read (p : Position) (cs : List Char) : Option (Position × List Char) :=
  let m := p.mode
  match cs with
  | [] => some (p, [])
  | '(' :: rest => do
    let (opened, rest) ← readGroup m rest
    return (← p.enter opened, rest)
  | ')' :: rest => return (← p.leave, rest)
  | '|' :: rest => some ({ p with branch := p.branch.another }, rest)
  | '[' :: rest => do
    let (b, rest) ← openBracket m rest
    let (i, rest) ← readClass m [] b (rest.length + 1) rest
    return (p.add { pattern := char i.set, depth := i.depth }, rest)
  | '?' :: rest => return (← p.repeatLast 0 (some 1), dropLazy rest)
  | '*' :: rest => return (← p.repeatLast 0 none, dropLazy rest)
  | '+' :: rest => return (← p.repeatLast 1 none, dropLazy rest)
  | '\x7b' :: rest => do
    let (least, most, rest) ← readCount m rest
    return (← p.repeatLast least most, dropLazy (skip m rest))
  | '.' :: rest => m.dot?.map fun set => (p.add { pattern := char set }, rest)
  | '^' :: rest => some (p.add { pattern := anchor .start }, rest)
  | '$' :: rest => some (p.add { pattern := anchor .stop }, rest)
  | cs => do
    let (atom, rest) ← readAtom m cs
    return (← p.addAtom atom, rest)

/-- Reads to the end of a pattern; `fuel` is more than the number of characters. -/
def readAll (p : Position) : Nat → List Char → Option Item
  | 0, _ => none
  | fuel + 1, cs =>
    match skip p.mode cs with
    | [] => if p.outer.isEmpty then some p.branch.value else none
    | cs =>
      match p.read cs with
      | some (p, rest) => p.readAll fuel rest
      | none => none

end Position

/-- Reads a pattern.  One that is too deep or too large is refused. -/
def parse? (cs : List Char) : Option Pattern := do
  let i ← Position.readAll {} (cs.length + 1) cs
  if i.depth ≤ maxDepth && i.pattern.fits then some i.pattern else none

end NameRecovery.Text.Pattern
