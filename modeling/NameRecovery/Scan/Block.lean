import NameRecovery.Image
import NameRecovery.Scan.Options

/-!
# Name blocks

Some compilers leave a label next to each function: a null byte, a length byte, that many
visible characters, and a null byte that ends them, filled up to a word boundary with zeros.

## Main definitions

* `isCandidate` : whether the word at an index looks like the head of a block.
* `NameBlock`, `blockAt?` : a block, and the one whose head stands at an index.
* `skipPadding` : the index after the zero words that follow a block.
* `markerBefore?` : the nearest index with a given word.

## Main results

* `start_blockAt?`, `stop_blockAt?` : a block starts at its head and ends after it.
* `le_skipPadding` : skipping never goes back.
-/

namespace NameRecovery

/-- Whether the word at `i` has a null byte and then an accepted length. -/
def isCandidate (options : ScanOptions) (image : ByteImage) (i : Nat) : Bool :=
  match image.wordAt? i with
  | some w => w.b0 == 0 && options.minLen ≤ w.b1.toNat && w.b1.toNat < options.maxLen
  | none => false

/-- A visible ASCII character other than the blank. -/
def isNameByte (b : UInt8) : Bool :=
  0x21 ≤ b && b ≤ 0x7e

/-- A name block: its head stands at `start`, its characters end before `stop`. -/
structure NameBlock where
  start : Nat
  stop : Nat
  name : String
deriving DecidableEq

/-- Whether characters may end before `stop`: a null byte must stand there if a terminator is
required, and otherwise the image must reach that far. -/
def endsAt (options : ScanOptions) (image : ByteImage) (stop : Nat) : Bool :=
  if options.requireTerminator then image.bytes[stop]? == some 0
  else stop ≤ image.size

/-- The bytes from `start` up to `stop`, as far as the image reaches. -/
def bytesBetween (image : ByteImage) (start stop : Nat) : List UInt8 :=
  (image.bytes.extract start stop).toList

/-- The text of visible ASCII characters. -/
def nameText (bytes : List UInt8) : String :=
  String.ofList (bytes.map fun b => Char.ofNat b.toNat)

/-- The block whose head stands at `i`, if its characters are visible and end properly. -/
def blockAt? (options : ScanOptions) (image : ByteImage) (i : Nat) : Option NameBlock :=
  match image.bytes[i + 1]? with
  | none => none
  | some length =>
    let stop := i + 2 + length.toNat
    let bytes := bytesBetween image (i + 2) stop
    if endsAt options image stop && !bytes.isEmpty && bytes.all isNameByte then
      some ⟨i, stop, nameText bytes⟩
    else none

/-- A block starts at its head. -/
theorem start_blockAt? {options : ScanOptions} {image : ByteImage} {i : Nat} {b : NameBlock}
    (h : blockAt? options image i = some b) : b.start = i := by
  simp only [blockAt?] at h
  split at h
  · cases h
  · split at h
    · cases h; rfl
    · cases h

/-- A block ends after its head. -/
theorem stop_blockAt? {options : ScanOptions} {image : ByteImage} {i : Nat} {b : NameBlock}
    (h : blockAt? options image i = some b) : i + 2 ≤ b.stop := by
  simp only [blockAt?] at h
  split at h
  · cases h
  · split at h
    · cases h
      exact Nat.le_add_right _ _
    · cases h

/-- The first index from `pos` on, in steps of a word, at which no zero word stands. -/
def skipZeros (image : ByteImage) (pos : Nat) : Nat :=
  if pos < image.size ∧ image.wordAt? pos = some Word.zero then
    skipZeros image (pos + Word.size)
  else pos
termination_by image.size - pos
decreasing_by simp only [Word.size]; omega

theorem le_skipZeros (image : ByteImage) (pos : Nat) : pos ≤ skipZeros image pos := by
  fun_induction skipZeros image pos with
  | case1 pos _ ih => exact Nat.le_trans (Nat.le_add_right _ _) ih
  | case2 => exact Nat.le_refl _

/-- The index after a block that ends at `stop` and after the zero words that follow it. -/
def skipPadding (image : ByteImage) (stop : Nat) : Nat :=
  skipZeros image (Word.alignUp stop)

/-- Skipping never goes back. -/
theorem le_skipPadding (image : ByteImage) (stop : Nat) : stop ≤ skipPadding image stop :=
  Nat.le_trans (Word.le_alignUp stop) (le_skipZeros image _)

/-- The nearest index at or before `i`, in steps of a word, at which `word` stands. -/
def markerBefore? (image : ByteImage) (word : Word) (i : Nat) : Option Nat :=
  if image.wordAt? i = some word then some i
  else if Word.size ≤ i then markerBefore? image word (i - Word.size)
  else none
termination_by i
decreasing_by simp only [Word.size] at *; omega

end NameRecovery
