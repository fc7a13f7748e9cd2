import NameRecovery.NameMap
import NameRecovery.Notice
import NameRecovery.Scan.Block
import NameRecovery.Text.Quoted

/-!
# Scanning an image

The scan walks over the words of an image.  Each head of a block it meets is a finding: the
block is rejected, or it is accepted and its name filed under the address that the policy
chooses.  After an accepted block the scan goes on behind the block and its padding, except
when names are filed under markers; then it goes on with the next word.

## Main definitions

* `Finding`, `Cursor`, `Cursor.advance` : what the scan meets, where it stands, and one step.
* `findings` : all that the scan meets, in order.
* `fileNames`, `scan` : the names that the findings give.
* `ScanStats` : how many heads were met, accepted and rejected.
* `findingNotices` : what the scan reports.

## Main results

* `Cursor.lt_advance` : the scan always goes forward, so it ends.
-/

namespace NameRecovery

/-- What the scan meets. -/
inductive Finding where
  /-- A head at `index` that begins no block. -/
  | rejected (index : Nat)
  /-- A block whose name is filed under the address at `key?`, or dropped. -/
  | accepted (block : NameBlock) (key? : Option Nat)
deriving DecidableEq

namespace Policy

/-- Where the scan goes on after an accepted block. -/
def resume (policy : Policy) (image : ByteImage) (block : NameBlock) : Nat :=
  match policy with
  | followsPrevious | blockAddress => skipPadding image block.stop
  | marker _ => block.start + Word.size

/-- The index whose address a name is filed under; `previous` is where the scan went on after
the last accepted block. -/
def key? (policy : Policy) (image : ByteImage) (previous : Option Nat) (block : NameBlock) :
    Option Nat :=
  match policy with
  | followsPrevious => some (previous.getD block.start)
  | blockAddress => some block.start
  | marker word => markerBefore? image word block.start

/-- The scan never goes on at or before the head of the block. -/
theorem lt_resume {options : ScanOptions} {image : ByteImage} {i : Nat} {block : NameBlock}
    (policy : Policy) (h : blockAt? options image i = some block) :
    i < policy.resume image block := by
  have hstart := start_blockAt? h
  have hstop := stop_blockAt? h
  have hskip := le_skipPadding image block.stop
  cases policy <;> simp only [resume, Word.size] <;> omega

end Policy

/-- Where the scan stands: the index of the next word, and where the scan went on after the
last accepted block. -/
structure Cursor where
  index : Nat := 0
  previous : Option Nat := none
deriving DecidableEq

namespace Cursor

/-- The cursor at the next word. -/
def skipWord (c : Cursor) : Cursor :=
  { c with index := c.index + Word.size }

/-- What the scan meets at the cursor, and where it goes on. -/
def advance (options : ScanOptions) (image : ByteImage) (c : Cursor) :
    Option Finding × Cursor :=
  if isCandidate options image c.index then
    match blockAt? options image c.index with
    | none => (some (.rejected c.index), c.skipWord)
    | some block =>
      let next := options.policy.resume image block
      (some (.accepted block (options.policy.key? image c.previous block)), ⟨next, some next⟩)
  else (none, c.skipWord)

/-- The scan always goes forward. -/
theorem lt_advance (options : ScanOptions) (image : ByteImage) (c : Cursor) :
    c.index < (c.advance options image).2.index := by
  simp only [advance]
  split
  · split
    · exact Nat.lt_add_of_pos_right (by decide)
    · next block h => exact options.policy.lt_resume h
  · exact Nat.lt_add_of_pos_right (by decide)

end Cursor

/-- What the scan meets from a cursor on, after what is found already. -/
def findingsFrom (options : ScanOptions) (image : ByteImage) (c : Cursor)
    (found : Array Finding) : Array Finding :=
  if c.index < image.size then
    let step := c.advance options image
    findingsFrom options image step.2 (found ++ step.1.toList)
  else found
termination_by image.size - c.index
decreasing_by
  have := c.lt_advance options image
  omega

/-- What the scan meets, in order. -/
def findings (options : ScanOptions) (image : ByteImage) : List Finding :=
  (findingsFrom options image {} #[]).toList

/-! ### Names -/

/-- Files the name of a finding. -/
def fileName (image : ByteImage) (names : NameMap) : Finding → NameMap
  | .accepted block (some key) => names.insert (image.addressOf key) block.name
  | _ => names

/-- The names that findings give. -/
def fileNames (image : ByteImage) (found : List Finding) : NameMap :=
  found.foldl (fileName image) {}

/-- The names found in an image. -/
def scan (options : ScanOptions) (image : ByteImage) : NameMap :=
  fileNames image (findings options image)

/-! ### Statistics -/

/-- How many heads a scan met. -/
structure ScanStats where
  candidates : Nat := 0
  accepted : Nat := 0
  rejected : Nat := 0
deriving DecidableEq

namespace Finding

/-- The block, if it is accepted. -/
def block? : Finding → Option NameBlock
  | accepted block _ => some block
  | rejected _ => none

/-- Whether the block is accepted. -/
def isAccepted (f : Finding) : Bool :=
  f.block?.isSome

end Finding

/-- Counts findings. -/
def ScanStats.ofFindings (found : List Finding) : ScanStats where
  candidates := found.length
  accepted := found.countP Finding.isAccepted
  rejected := found.countP (!·.isAccepted)

/-! ### Notices -/

/-- What is reported about one finding. -/
def findingNotice (policy : Policy) (image : ByteImage) : Finding → Notice
  | .rejected i =>
    ⟨.trace, .scanner, s!"rejected candidate at {(image.addressOf i).text}"⟩
  | .accepted block key? =>
    let subject := s!"name {Text.quoted block.name} at {(image.addressOf block.start).text}"
    let outcome := match key?, policy with
      | none, _ => " has no marker before it"
      | some key, .marker _ => s!" -> marker {(image.addressOf key).text}"
      | some key, _ => s!" -> {(image.addressOf key).text}"
    ⟨.debug, .scanner, subject ++ outcome⟩

/-- What is reported about a whole scan. -/
def findingNotices (policy : Policy) (image : ByteImage) (found : List Finding) :
    List Notice :=
  let stats := ScanStats.ofFindings found
  let names := fileNames image found
  found.map (findingNotice policy image) ++
    [⟨.debug, .scanner,
      s!"scan done: {stats.candidates} candidates, {stats.accepted} accepted, {stats.rejected} rejected, {names.size} names"⟩]

end NameRecovery
