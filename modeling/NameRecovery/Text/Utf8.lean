/-!
# Text as bytes

Lengths and cuts are measured in the bytes of the UTF-8 form of a text, and bytes are read
back as text with a replacement character wherever they are no such form.

Reading is a state machine that takes one byte at a time.  A lead byte fixes how many
continuation bytes follow and which values the first of them may have; a byte that does not
continue the sequence at hand ends it with one replacement character and is then read afresh.
So every maximal beginning of a sequence that is cut short becomes one replacement character.

## Main definitions

* `Utf8.encode`, `Utf8.size` : the bytes of a text and their number.
* `Utf8.take?` : the characters that make up the first `n` bytes, if `n` ends a character.
* `Utf8.Reader` : the state of reading, with `Reader.push` and `Reader.finish`.
* `Utf8.decodeLossy` : bytes read as text.
-/

namespace NameRecovery.Utf8

/-- The bytes of a text. -/
def encode (cs : List Char) : List UInt8 :=
  cs.flatMap String.utf8EncodeChar

/-- The number of bytes of a text. -/
def size : List Char → Nat
  | [] => 0
  | c :: cs => c.utf8Size + size cs

/-- The characters that make up the first `n` bytes, or `none` when the text is shorter or a
character straddles that place. -/
def take? : Nat → List Char → Option (List Char)
  | 0, _ => some []
  | _ + 1, [] => none
  | n + 1, c :: cs =>
    if c.utf8Size ≤ n + 1 then (take? (n + 1 - c.utf8Size) cs).map (c :: ·) else none

/-! ### Reading -/

/-- Stands for bytes that are no text. -/
def replacement : Char := '\uFFFD'

/-- A sequence that still waits for continuation bytes: its value so far, the range of the
next byte, and the number of bytes that follow that one. -/
structure Pending where
  value : Nat
  low : UInt8
  high : UInt8
  more : Nat
deriving DecidableEq

/-- What a byte means where no sequence is open. -/
inductive Lead where
  | char (c : Char)
  | opens (p : Pending)
  | invalid

/-- Reads a byte where no sequence is open.  The ranges exclude overlong forms, surrogates
and values past U+10FFFF. -/
def Lead.ofByte (b : UInt8) : Lead :=
  let n := b.toNat
  if n < 0x80 then .char (Char.ofNat n)
  else if n < 0xc2 then .invalid
  else if n < 0xe0 then .opens ⟨n - 0xc0, 0x80, 0xbf, 0⟩
  else if n == 0xe0 then .opens ⟨0, 0xa0, 0xbf, 1⟩
  else if n == 0xed then .opens ⟨0xd, 0x80, 0x9f, 1⟩
  else if n < 0xf0 then .opens ⟨n - 0xe0, 0x80, 0xbf, 1⟩
  else if n == 0xf0 then .opens ⟨0, 0x90, 0xbf, 2⟩
  else if n < 0xf4 then .opens ⟨n - 0xf0, 0x80, 0xbf, 2⟩
  else if n == 0xf4 then .opens ⟨4, 0x80, 0x8f, 2⟩
  else .invalid

/-- The characters read so far, last one first, and the sequence that is open. -/
structure Reader where
  output : List Char := []
  pending : Option Pending := none

namespace Reader

/-- Takes a byte where no sequence is open. -/
def start (output : List Char) (b : UInt8) : Reader :=
  match Lead.ofByte b with
  | .char c => ⟨c :: output, none⟩
  | .opens p => ⟨output, some p⟩
  | .invalid => ⟨replacement :: output, none⟩

/-- Takes one byte. -/
def push (r : Reader) (b : UInt8) : Reader :=
  match r.pending with
  | none => start r.output b
  | some p =>
    if p.low ≤ b ∧ b ≤ p.high then
      let value := p.value * 64 + (b.toNat - 0x80)
      match p.more with
      | 0 => ⟨Char.ofNat value :: r.output, none⟩
      | more + 1 => ⟨r.output, some ⟨value, 0x80, 0xbf, more⟩⟩
    else start (replacement :: r.output) b

/-- The text read, once no byte follows. -/
def finish (r : Reader) : List Char :=
  match r.pending with
  | none => r.output.reverse
  | some _ => (replacement :: r.output).reverse

end Reader

/-- Bytes read as text, with a replacement character for each maximal part that is none. -/
def decodeLossy (bytes : List UInt8) : List Char :=
  (bytes.foldl Reader.push {}).finish

end NameRecovery.Utf8
