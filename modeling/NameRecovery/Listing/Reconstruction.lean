import NameRecovery.Image
import NameRecovery.Listing.Line
import NameRecovery.Notice

/-!
# From lines to an image

Lines are placed one after another.  The first line with an address fixes the base.  A data
line at or above the end of what is placed is appended, after a zero fill up to its address; a
data line below that end is skipped whole, with a warning.  A fill beyond the limit and bytes
beyond the address space are errors.  The base is fixed before the place of a line is checked, so
that an error may come after it.

## Main definitions

* `ListingOptions` : the dialect and the limit on a zero fill.
* `Reconstruction` : what is placed so far, with counters.
* `Placement` : what a line does; `Reconstruction.placement` decides it and
  `Reconstruction.apply` carries it out.
* `Reconstruction.fixBase` : what a line does to the base before its place is checked.
* `Reconstruction.push`, `Reconstruction.feed`, `Reconstruction.finish` : one line, all lines
  up to the first error, and the image in the end.
* `reconstruct` : the image of a list of lines.
-/

namespace NameRecovery

/-- How a listing is read. -/
structure ListingOptions where
  dialect : Dialect := .fixedWidth
  /-- The longest zero fill between two lines; `none` is no limit. -/
  maxGap : Option Nat := some 0x1000000
deriving DecidableEq

/-- Whether a zero fill of `gap` bytes stays within the limit, and the limit if it does not. -/
def ListingOptions.exceeded? (options : ListingOptions) (gap : Nat) : Option Nat :=
  options.maxGap.filter fun limit => limit < gap

/-- What a line does to a reconstruction. -/
inductive Placement where
  /-- Nothing. -/
  | ignored
  /-- It names memory that could not be read. -/
  | outOfBounds (address : Address)
  /-- It lies below `expected`, where the next byte belongs, and is skipped. -/
  | overlap (address expected : Address)
  /-- Its bytes are appended after `gap` zeros. -/
  | placed (address : Address) (gap : Nat) (bytes : List UInt8)
deriving DecidableEq

/-- What is placed so far. -/
structure Reconstruction where
  base : Option Address := none
  bytes : Array UInt8 := #[]
  /-- The number of lines pushed, whatever they were. -/
  lineNo : Nat := 0
  /-- The number of data lines placed. -/
  dataLines : Nat := 0
  outOfBoundsLines : Nat := 0
  paddedBytes : Nat := 0
deriving DecidableEq

namespace Reconstruction

/-- The address of the next byte, if the base were `a` unless it is fixed already. -/
def nextAddress? (r : Reconstruction) (a : Address) : Option Address :=
  (r.base.getD a).add? r.bytes.size

/-- What the line `lineNo` with a given meaning does. -/
def placement (options : ListingOptions) (r : Reconstruction) (lineNo : Nat) :
    Line → Except ListingError Placement
  | .ignored => .ok .ignored
  | .outOfBounds a => .ok (.outOfBounds a)
  | .data a bytes =>
    match a.add? bytes.length, r.nextAddress? a with
    | some _, some expected =>
      if a < expected then .ok (.overlap a expected)
      else
        let gap := a.toNat - expected.toNat
        match options.exceeded? gap with
        | some limit => .error (.gapTooLarge lineNo a gap limit)
        | none => .ok (.placed a gap bytes)
    | _, _ => .error (.addressOverflow lineNo a bytes.length)

/-- Bytes with `n` zeros after them. -/
def zeroFill (bytes : Array UInt8) : Nat → Array UInt8
  | 0 => bytes
  | n + 1 => zeroFill (bytes.push 0) n

/-- A zero fill appends zeros and nothing else. -/
theorem zeroFill_eq (bytes : Array UInt8) (n : Nat) :
    zeroFill bytes n = bytes ++ Array.replicate n 0 := by
  induction n generalizing bytes with
  | zero => simp [zeroFill]
  | succ n ih =>
      rw [zeroFill, ih, ← Array.append_singleton, Array.append_assoc, Array.replicate_succ']

/-- Carries out a placement. -/
def apply (r : Reconstruction) : Placement → Reconstruction
  | .ignored => r
  | .outOfBounds a =>
    { r with base := some (r.base.getD a), outOfBoundsLines := r.outOfBoundsLines + 1 }
  | .overlap a _ => { r with base := some (r.base.getD a) }
  | .placed a gap bytes =>
    { r with
      base := some (r.base.getD a)
      bytes := zeroFill r.bytes gap ++ bytes
      dataLines := r.dataLines + 1
      paddedBytes := r.paddedBytes + gap }

/-- What the next line does. -/
def nextPlacement (options : ListingOptions) (r : Reconstruction) (line : String) :
    Except ListingError Placement :=
  match Line.classify options.dialect (r.lineNo + 1) line with
  | .ok meaning => r.placement options (r.lineNo + 1) meaning
  | .error e => .error e

/-- The address of a line is the base if there is none yet.  This is settled before the place of
the line is checked, but not for bytes that leave the address space. -/
def fixBase (r : Reconstruction) : Line → Reconstruction
  | .ignored => r
  | .outOfBounds a => { r with base := some (r.base.getD a) }
  | .data a bytes =>
    match a.add? bytes.length with
    | some _ => { r with base := some (r.base.getD a) }
    | none => r

/-- Pushes one line.  A line that fails is counted, and it keeps what it did to the base. -/
def push (options : ListingOptions) (r : Reconstruction) (line : String) :
    Reconstruction × Except ListingError Placement :=
  let counted := { r with lineNo := r.lineNo + 1 }
  match Line.classify options.dialect counted.lineNo line with
  | .error e => (counted, .error e)
  | .ok meaning =>
    let based := counted.fixBase meaning
    match based.placement options counted.lineNo meaning with
    | .ok p => (based.apply p, .ok p)
    | .error e => (based, .error e)

/-- Pushes lines up to the first error. -/
def feed (options : ListingOptions) (r : Reconstruction) :
    List String → Except ListingError Reconstruction
  | [] => .ok r
  | line :: rest =>
    match r.push options line with
    | (r', .ok _) => r'.feed options rest
    | (_, .error e) => .error e

/-- The image of what is placed. -/
def finish (r : Reconstruction) : Except ListingError ByteImage :=
  match r.base with
  | none => .error .empty
  | some base =>
    match ByteImage.ofBytes? base r.bytes with
    | some image => .ok image
    | none => .error (.imageOverflow base r.bytes.size)

end Reconstruction

/-- The image that a list of lines describes. -/
def reconstruct (options : ListingOptions) (lines : List String) :
    Except ListingError ByteImage :=
  match Reconstruction.feed options {} lines with
  | .ok r => r.finish
  | .error e => .error e

/-! ### Notices -/

namespace Reconstruction

/-- What is reported when the line `lineNo` is placed. -/
def placementNotice? (lineNo : Nat) : Placement → Option Notice
  | .ignored => none
  | .outOfBounds a => some ⟨.debug, .listing, s!"line {lineNo}: {a.text} is out of bounds"⟩
  | .overlap a expected =>
    some ⟨.warn, .listing,
      s!"line {lineNo}: {a.text} overlaps data already placed up to {expected.text}, skipping"⟩
  | .placed a gap _ =>
    if gap = 0 then none
    else some ⟨.debug, .listing,
      s!"line {lineNo}: filling {Hex.text gap} bytes before {a.text}"⟩

/-- What is reported when a line is pushed. -/
def pushNotice? (options : ListingOptions) (r : Reconstruction) (line : String) :
    Option Notice :=
  match r.nextPlacement options line with
  | .ok p => placementNotice? (r.lineNo + 1) p
  | .error _ => none

/-- Pushes lines up to the first error, and lists what is reported meanwhile, after what was
reported before. -/
def feedReporting (options : ListingOptions) (r : Reconstruction) (reported : Array Notice) :
    List String → Array Notice × Except ListingError Reconstruction
  | [] => (reported, .ok r)
  | line :: rest =>
    let reported := reported ++ (r.pushNotice? options line).toList
    match r.push options line with
    | (r', .ok _) => r'.feedReporting options reported rest
    | (_, .error e) => (reported, .error e)

/-- Reporting does not influence what is placed. -/
theorem feedReporting_snd (options : ListingOptions) (r : Reconstruction)
    (reported : Array Notice) (lines : List String) :
    (r.feedReporting options reported lines).2 = r.feed options lines := by
  induction lines generalizing r reported with
  | nil => rfl
  | cons line rest ih =>
      simp only [feedReporting, feed]
      split
      · exact ih _ _
      · rfl

/-- What is reported when the image is asked for. -/
def finishNotice? (r : Reconstruction) : Option Notice :=
  r.base.map fun base => ⟨.info, .listing,
    s!"Listing reconstructed: {r.lineNo} lines read, {r.dataLines} data, {r.outOfBoundsLines} out of bounds, {r.bytes.size} bytes at {base.text} ({r.paddedBytes} padding)"⟩

end Reconstruction

/-- The image that a list of lines describes, and what is reported meanwhile. -/
def reconstructReporting (options : ListingOptions) (lines : List String) :
    List Notice × Except ListingError ByteImage :=
  match Reconstruction.feedReporting options {} #[] lines with
  | (reported, .ok r) => (reported.toList ++ r.finishNotice?.toList, r.finish)
  | (reported, .error e) => (reported.toList, .error e)

/-- Reporting does not influence the image. -/
theorem reconstructReporting_snd (options : ListingOptions) (lines : List String) :
    (reconstructReporting options lines).2 = reconstruct options lines := by
  rw [reconstructReporting, reconstruct, ← Reconstruction.feedReporting_snd options {} #[]]
  split
  · next heq => rw [heq]
  · next heq => rw [heq]

end NameRecovery
