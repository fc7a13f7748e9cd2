/-!
# Patterns

A pattern describes texts by characters, anchors, sequence, choice and repetition.  It is
looked for anywhere in a text.  Looking is done for all starting places at once: a set of places
in a text is a number whose bits are the places, and a pattern leads from the places where it
may begin to the places where it may end.

A repetition needs no more rounds than the text has places: every round either moves on or
stands still, and a round that stands still can be left out or repeated.

## Main definitions

* `CharSet`, `CharSet.contains` : sets of characters.
* `Anchor`, `Pattern` : conditions on a place, and patterns.
* `Ground` : a text with the places of its characters.
* `Pattern.followedBy`, `Pattern.times` : sequence and repetition without needless parts.
* `Pattern.reach` : the places to which a pattern leads.
* `Pattern.occursIn` : whether a pattern occurs in a text.
-/

namespace NameRecovery.Text

/-- A set of characters.  The bounds of a range belong to it. -/
inductive CharSet where
  | ranges (bounds : List (Nat × Nat))
  /-- A class with the room that an automaton takes for it and for its complement.  If it is not
  full, only the members within ASCII are listed. -/
  | listed (bounds : List (Nat × Nat)) (isFull : Bool) (room coRoom : Nat)
  | union (a b : CharSet)
  | inter (a b : CharSet)
  | minus (a b : CharSet)
  | complement (a : CharSet)
  /-- All characters that differ at most in case from a member. -/
  | caseless (a : CharSet)
deriving DecidableEq

namespace CharSet

/-- The set without members. -/
def empty : CharSet := ranges []

/-- The set of all characters. -/
def all : CharSet := complement empty

/-- The set of one character. -/
def single (c : Char) : CharSet := ranges [(c.toNat, c.toNat)]

/-- The members of both sets together; the empty set adds nothing. -/
def joined : CharSet → CharSet → CharSet
  | ranges [], b => b
  | a, b => union a b

/-- The members of either set that are not members of both. -/
def exclusive (a b : CharSet) : CharSet := union (minus a b) (minus b a)

/-- The characters that differ at most in case, as far as they matter for ASCII characters: two
letters outside ASCII have a lower-case form within it. -/
def caseVariants (c : Char) : List Char :=
  if c == 'k' || c == 'K' || c == '\u212a' then ['k', 'K', '\u212a']
  else if c == 's' || c == 'S' || c == '\u017f' then ['s', 'S', '\u017f']
  else [c.toLower, c.toUpper]

/-- Whether a character is a member. -/
def contains : CharSet → Char → Bool
  | ranges bounds, c | listed bounds _ _ _, c =>
    bounds.any fun r => r.1 ≤ c.toNat && c.toNat ≤ r.2
  | union a b, c => a.contains c || b.contains c
  | inter a b, c => a.contains c && b.contains c
  | minus a b, c => a.contains c && !b.contains c
  | complement a, c => !a.contains c
  | caseless a, c => (caseVariants c).any a.contains

end CharSet

/-- The letters, digits and the underscore of ASCII. -/
def isWordChar (c : Char) : Bool :=
  c.isAlphanum || c == '_'

/-- A condition on a place of a text, which lies between two characters. -/
inductive Anchor where
  | start
  | stop
  | wordEdge
  | notWordEdge
  | wordStart
  | wordStop
  /-- No word ends or goes on here. -/
  | noWordBefore
  /-- No word begins or goes on here. -/
  | noWordAfter
deriving DecidableEq

/-- Whether a condition holds at a place. -/
def Anchor.holds (a : Anchor) (text : Array Char) (place : Nat) : Bool :=
  let before := 0 < place && (text[place - 1]?.elim false isWordChar)
  let after := text[place]?.elim false isWordChar
  match a with
  | start => place == 0
  | stop => place == text.size
  | wordEdge => before != after
  | notWordEdge => before == after
  | wordStart => !before && after
  | wordStop => before && !after
  | noWordBefore => !before
  | noWordAfter => !after

/-! ### Texts with their places -/

/-- The set of the places below `n` that have a property. -/
def placesWhere (n : Nat) (p : Nat → Bool) : Nat :=
  (List.range n).foldl (fun places i => if p i then places ||| (1 <<< i) else places) 0

/-- A text and, for each of its characters, the places before which it stands. -/
structure Ground where
  chars : Array Char
  places : List (Char × Nat)

namespace Ground

/-- The characters of a text with their places. -/
def of (text : String) : Ground :=
  let chars := text.toList.toArray
  ⟨chars, text.toList.eraseDups.map fun c => (c, placesWhere chars.size (chars[·]? == some c))⟩

/-- The places before which a member of a set stands. -/
def before (g : Ground) (set : CharSet) : Nat :=
  g.places.foldl (fun found (c, places) => if set.contains c then found ||| places else found) 0

/-- The places at which a condition holds. -/
def holding (g : Ground) (a : Anchor) : Nat :=
  placesWhere (g.chars.size + 1) (a.holds g.chars)

end Ground

/-! ### Patterns -/

/-- A pattern. -/
inductive Pattern where
  | empty
  | char (set : CharSet)
  | anchor (a : Anchor)
  /-- The pattern as a part that a match remembers. -/
  | group (a : Pattern)
  | seq (a b : Pattern)
  | alt (a b : Pattern)
  /-- The pattern at least `least` times, and at most `most` times if that is a number. -/
  | repeated (a : Pattern) (least : Nat) (most : Option Nat)
deriving DecidableEq

namespace Pattern

/-- One pattern after another; the empty pattern adds nothing. -/
def followedBy : Pattern → Pattern → Pattern
  | empty, b => b
  | a, empty => a
  | a, b => seq a b

/-- Whether a pattern can only match the empty text. -/
def isAlwaysEmpty : Pattern → Bool
  | empty | anchor _ => true
  | char _ => false
  | group a => a.isAlwaysEmpty
  | seq a b | alt a b => a.isAlwaysEmpty && b.isAlwaysEmpty
  | repeated a _ most => a.isAlwaysEmpty || most == some 0

/-- A pattern repeated.  What only matches the empty text need not be matched twice. -/
def times (a : Pattern) (least : Nat) (most : Option Nat) : Pattern :=
  let (least, most) :=
    if a.isAlwaysEmpty then (min least 1, some (most.elim 1 (min · 1))) else (least, most)
  if most == some 0 then empty
  else if least == 1 && most == some 1 then a
  else repeated a least most

/-- Applies a function `n` times; it stops early where the function changes nothing. -/
def settle (f : Nat → Nat) : Nat → Nat → Nat
  | 0, places => places
  | n + 1, places =>
    let next := f places
    if next = places then places else settle f n next

/-- The places at which a pattern may end if it begins at one of `places`. -/
def reach (text : Ground) : Pattern → Nat → Nat
  | empty, places => places
  | char set, places => if places = 0 then 0 else (places &&& text.before set) <<< 1
  | anchor a, places => if places = 0 then 0 else places &&& text.holding a
  | group a, places => reach text a places
  | seq a b, places => reach text b (reach text a places)
  | alt a b, places => reach text a places ||| reach text b places
  | repeated a least most, places =>
    let rounds := text.chars.size + 1
    let begun := settle (reach text a) (min least rounds) places
    settle (fun reached => reached ||| reach text a reached)
      (min (most.elim rounds (· - least)) rounds) begun

/-- Whether a pattern occurs in a text. -/
def occursIn (p : Pattern) (text : String) : Bool :=
  let ground := Ground.of text
  p.reach ground ((1 <<< (ground.chars.size + 1)) - 1) != 0

end Pattern

end NameRecovery.Text
