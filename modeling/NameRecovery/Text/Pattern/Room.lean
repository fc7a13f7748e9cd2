import NameRecovery.Text.Pattern

/-!
# The room a pattern takes

A pattern stands for an automaton that reads bytes of UTF-8, once forward and once backward.
Patterns whose automata take too much room are refused, so the room is part of what a pattern
means.

A state takes 32 bytes.  A state that branches takes 4 more for each way out, or 8 where each
way is for a range of bytes.  Repetitions are written out.  A class outside ASCII is a tree of
byte ranges; reading forward, equal branches of the tree are shared.

## Main definitions

* `Room` : bytes for the two automata.
* `byteSequences` : the byte ranges that make up ranges of characters.
* `CharSet.room`, `Pattern.room` : the room of a class and of a pattern.
* `Pattern.fits` : whether a pattern is small enough.
-/

namespace NameRecovery.Text

/-- The bytes that the automata take which read forward and backward. -/
structure Room where
  forward : Nat
  backward : Nat

namespace Room

/-- The same room for both automata. -/
def both (n : Nat) : Room := ⟨n, n⟩

/-- The room of one state. -/
def state : Nat := 32

/-- The room of a state with `n` ways out. -/
def branching (n : Nat) : Nat := state + 4 * n

/-- The room of a state with ways out for `n` ranges of bytes. -/
def sparse (n : Nat) : Nat := state + 8 * n

/-- Adds room. -/
def add (r s : Room) : Room := ⟨r.forward + s.forward, r.backward + s.backward⟩

/-- The room of `n` copies and as many more bytes for each. -/
def copies (n : Nat) (r : Room) (more : Nat) : Room :=
  ⟨n * (r.forward + more), n * (r.backward + more)⟩

end Room

/-! ### Ranges of characters as ranges of bytes -/

/-- The greatest code point. -/
def lastCodePoint : Nat := 0x10ffff

/-- Joins ranges that touch; their lower bounds ascend, and `(lo, hi)` comes first. -/
def joinRanges (lo hi : Nat) : List (Nat × Nat) → List (Nat × Nat)
  | [] => [(lo, hi)]
  | (a, b) :: rest =>
    if a ≤ hi + 1 then joinRanges lo (max hi b) rest else (lo, hi) :: joinRanges a b rest

/-- The same characters as separate ranges in ascending order. -/
def separateRanges (bounds : List (Nat × Nat)) : List (Nat × Nat) :=
  match bounds.mergeSort fun r s => r.1 ≤ s.1 with
  | [] => []
  | (a, b) :: rest => joinRanges a b rest

/-- The code points from `first` on that lie between separate ascending ranges. -/
def gapsFrom (first : Nat) : List (Nat × Nat) → List (Nat × Nat)
  | [] => if first ≤ lastCodePoint then [(first, lastCodePoint)] else []
  | (a, b) :: rest =>
    if first < a then (first, a - 1) :: gapsFrom (b + 1) rest else gapsFrom (b + 1) rest

/-- The last code point of the first part of a range that has to be cut because the bytes of
its characters do not make up one sequence of byte ranges. -/
def cutOf? (lo hi : Nat) : Option Nat :=
  match [0x7f, 0x7ff, 0xffff].find? fun m => lo ≤ m && m < hi with
  | some m => some m
  | none =>
    if hi ≤ 0x7f then none
    else [0x40, 0x1000, 0x40000].findSome? fun m =>
      if lo / m = hi / m then none
      else if lo % m ≠ 0 then some ((lo / m + 1) * m - 1)
      else if hi % m ≠ m - 1 then some (hi / m * m - 1)
      else none

/-- Cuts a range into parts that are sequences of byte ranges; `fuel` bounds how often. -/
def cutRange : Nat → Nat → Nat → List (Nat × Nat)
  | 0, _, _ => []
  | fuel + 1, lo, hi =>
    if hi < lo then []
    else match cutOf? lo hi with
      | some m => cutRange fuel lo m ++ cutRange fuel (m + 1) hi
      | none => [(lo, hi)]

/-- The bytes of a code point. -/
def bytesOf (n : Nat) : List Nat :=
  (String.utf8EncodeChar (Char.ofNat n)).map UInt8.toNat

/-- The sequences of byte ranges that make up separate ranges of code points.  Surrogates are
left out. -/
def byteSequences (bounds : List (Nat × Nat)) : List (List (Nat × Nat)) :=
  bounds.flatMap fun (lo, hi) =>
    (cutRange 64 lo (min hi 0xd7ff) ++ cutRange 64 (max lo 0xe000) hi).map fun (a, b) =>
      (bytesOf a).zip (bytesOf b)

/-- The first byte ranges of sequences. -/
def headsOf (sequences : List (List (Nat × Nat))) : List (Nat × Nat) :=
  (sequences.filterMap List.head?).eraseDups

/-- What follows a byte range in sequences. -/
def tailsOf (sequences : List (List (Nat × Nat))) (head : Nat × Nat) : List (List (Nat × Nat)) :=
  sequences.filterMap fun
    | r :: rest => if r = head then some rest else none
    | [] => none

/-- The number of edges in the tree of sequences up to a depth. -/
def edgesOf : Nat → List (List (Nat × Nat)) → Nat
  | 0, _ => 0
  | depth + 1, sequences =>
    (headsOf sequences).foldl (fun n r => n + 1 + edgesOf depth (tailsOf sequences r)) 0

/-- The inner branches of the tree of sequences up to a depth. -/
def branchesOf : Nat → List (List (Nat × Nat)) → List (List (List (Nat × Nat)))
  | 0, _ => []
  | depth + 1, sequences =>
    match headsOf sequences with
    | [] => []
    | heads => sequences :: heads.flatMap fun r => branchesOf depth (tailsOf sequences r)

/-- The room of separate ranges of code points. -/
def roomOfRanges (bounds : List (Nat × Nat)) : Room :=
  match bounds with
  | [(a, b)] =>
    if a = b then .both ((bytesOf a).length * Room.state) else many [(a, b)]
  | bounds => many bounds
where
  many (bounds : List (Nat × Nat)) : Room :=
    if bounds.all fun r => r.2 < 0x80 then .both (Room.state + Room.sparse bounds.length)
    else
      let sequences := byteSequences bounds
      let branches := (branchesOf 4 sequences).eraseDups
      ⟨branches.foldl (fun n b => n + Room.sparse (headsOf b).length) Room.state,
        Room.state + Room.branching sequences.length + edgesOf 4 sequences * Room.state⟩

namespace CharSet

/-- The letters that differ from another character only in case, as far as that matters for
ASCII characters. -/
def casedLetters : List Char :=
  "ABCDEFGHIJKLMNOPQRSTUVWXYZabcdefghijklmnopqrstuvwxyz\u017f\u212a".toList

/-- The members as separate ranges, if they are all known.  A class and its complement together
hold every character. -/
def ranges? : CharSet → Option (List (Nat × Nat))
  | ranges bounds => some (separateRanges bounds)
  | listed bounds isFull _ _ => if isFull then some bounds else none
  | union a b =>
    if b = .complement a || a = .complement b then some [(0, lastCodePoint)]
    else both a.ranges? b.ranges? fun a b => separateRanges (a ++ b)
  | inter a b => both a.ranges? b.ranges? fun a b =>
      gapsFrom 0 (separateRanges (gapsFrom 0 a ++ gapsFrom 0 b))
  | minus a b => both a.ranges? b.ranges? fun a b =>
      gapsFrom 0 (separateRanges (gapsFrom 0 a ++ b))
  | complement a => a.ranges?.map (gapsFrom 0)
  | caseless a => a.ranges?.map fun bounds =>
      separateRanges (bounds ++
        (casedLetters.filter (caseless a).contains).map fun c => (c.toNat, c.toNat))
where
  both (a b : Option (List (Nat × Nat)))
      (f : List (Nat × Nat) → List (Nat × Nat) → List (Nat × Nat)) :
      Option (List (Nat × Nat)) :=
    a.bind fun a => b.map (f a)

/-- About the room of a class of which not all members are known, or of its complement. -/
def estimate (turned : Bool) : CharSet → Nat
  | listed _ _ room coRoom => if turned then coRoom else room
  | ranges bounds => (roomOfRanges (separateRanges bounds)).backward
  | union a b | inter a b | minus a b => a.estimate turned + b.estimate turned
  | complement a => a.estimate !turned
  | caseless a => a.estimate turned

/-- The room of a class. -/
def room (s : CharSet) : Room :=
  match s, s.ranges? with
  | listed _ _ room _, _ | complement (listed _ _ _ room), _ => ⟨room / 2, room⟩
  | _, some bounds => roomOfRanges bounds
  | _, none => ⟨s.estimate false / 2, s.estimate false⟩

/-- The bytes of the only member. -/
def onlyMember? (s : CharSet) : Option (List Nat) :=
  match s.ranges? with
  | some [(a, b)] => if a = b then some (bytesOf a) else none
  | _ => none

end CharSet

/-! ### Patterns -/

/-- The room of the tree of some words below its end; `fuel` is at least their length. -/
def roomOfWords : Nat → List (List Nat) → Nat
  | 0, _ => 0
  | fuel + 1, words =>
    match (words.filterMap List.head?).eraseDups with
    | [] => 0
    | heads =>
      let here := if heads.length = 1 then Room.state else Room.sparse heads.length
      let ends := if words.contains [] then 2 else 1
      heads.foldl (fun n b => n + roomOfWords fuel (words.filterMap fun
        | c :: rest => if c = b then some rest else none
        | [] => none)) (here + Room.branching ends)

namespace Pattern

/-- Whether a pattern can match the empty text. -/
def isMaybeEmpty : Pattern → Bool
  | empty | anchor _ => true
  | char _ => false
  | group a => a.isMaybeEmpty
  | seq a b => a.isMaybeEmpty && b.isMaybeEmpty
  | alt a b => a.isMaybeEmpty || b.isMaybeEmpty
  | repeated a least _ => least == 0 || a.isMaybeEmpty

/-- Whether a pattern can only match at the start of a text. -/
def isAtStart : Pattern → Bool
  | anchor a => a == .start
  | empty | char _ => false
  | group a => a.isAtStart
  | seq a b => a.isAtStart || (a.isAlwaysEmpty && b.isAtStart)
  | alt a b => a.isAtStart && b.isAtStart
  | repeated a least _ => 0 < least && a.isAtStart

/-- Whether a pattern can only match at the end of a text. -/
def isAtStop : Pattern → Bool
  | anchor a => a == .stop
  | empty | char _ => false
  | group a => a.isAtStop
  | seq a b => b.isAtStop || (b.isAlwaysEmpty && a.isAtStop)
  | alt a b => a.isAtStop && b.isAtStop
  | repeated a least _ => 0 < least && a.isAtStop

/-- The class that a choice of characters amounts to. -/
def set? : Pattern → Option CharSet
  | char s => some s
  | alt a b => a.set?.bind fun s => b.set?.map (.union s)
  | _ => none

/-- The bytes of the only text that a pattern without signs matches. -/
def word? : Pattern → Option (List Nat)
  | char s => s.onlyMember?
  | seq a b => a.word?.bind fun s => b.word?.map (s ++ ·)
  | _ => none

/-- The words between which a pattern chooses. -/
def words? : Pattern → Option (List (List Nat))
  | alt a b => a.words?.bind fun s => b.words?.map (s ++ ·)
  | p => p.word?.map ([·])

/-- The number of patterns between which a pattern chooses. -/
def choices : Pattern → Nat
  | alt a b => a.choices + b.choices
  | _ => 1

/-- The room of a pattern, where `inner` is that of all its choices together. -/
def roomOfChoices (p : Pattern) (inner : Room) : Room :=
  if p.choices = 1 then inner
  else match p.set?, p.words? with
    | some s, _ => s.room
    | none, some words =>
      let deepest := words.foldl (fun n w => max n w.length) 0
      let backward := words.map List.reverse
      ⟨Room.state + roomOfWords (deepest + 1) words,
        Room.state + roomOfWords (deepest + 1) backward⟩
    | none, none => inner.add (.both (Room.branching p.choices + Room.state))

/-- The room of a repetition, where `r` is that of the pattern which is repeated. -/
def roomOfRounds (r : Room) (isMaybeEmpty : Bool) (least : Nat) (most : Option Nat) : Room :=
  let loop := Room.branching 2
  match least, most with
  | 0, some 1 => r.add (.both (loop + Room.state))
  | 0, none =>
    if isMaybeEmpty then r.add (.both (2 * loop + Room.state)) else r.add (.both loop)
  | n, none => (r.copies n 0).add (.both loop)
  | n, some m =>
    let begun := if n = 0 then .both Room.state else r.copies n 0
    if n = m then begun else (begun.add (.both Room.state)).add (r.copies (m - n) loop)

/-- The room of the choices of a pattern together. -/
def roomWithin : Pattern → Room
  | empty | anchor _ => .both Room.state
  | char s => s.room
  | group a => (a.roomOfChoices a.roomWithin).add ⟨2 * Room.state, 0⟩
  | seq a b => (a.roomOfChoices a.roomWithin).add (b.roomOfChoices b.roomWithin)
  | alt a b => a.roomWithin.add b.roomWithin
  | repeated a least most =>
    roomOfRounds (a.roomOfChoices a.roomWithin) a.isMaybeEmpty least most

/-- The room of a pattern. -/
def room (p : Pattern) : Room :=
  p.roomOfChoices p.roomWithin

/-- The most room that the automata of a pattern may take. -/
def maxRoom : Nat := 10 * 0x100000

/-- The room of the part of an automaton that looks for the place where a match begins. -/
def roomToSearch (isFixed : Bool) : Nat :=
  if isFixed then Room.state else Room.branching 2 + Room.state + Room.sparse 1

/-- Whether both automata of a pattern are small enough.  The one that reads forward notes where
a match begins and ends. -/
def fits (p : Pattern) : Bool :=
  roomToSearch p.isAtStart + p.room.forward + 3 * Room.state ≤ maxRoom &&
    roomToSearch p.isAtStop + p.room.backward + Room.state ≤ maxRoom

end Pattern

end NameRecovery.Text
