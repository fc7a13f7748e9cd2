import NameRecovery.Proofs.Scan.Accepted

/-!
# The scan stays inside the image

The definitions of the scan are total: a byte outside the image is no byte, an index past the end
stands for the end, and numbers have no limit. This file writes the scan once more with a guard at
every step that could go wrong on a machine. A read or an address outside the image, a number that
does not fit into 64 bits, and a loop that goes on for too long are faults. No fault ever occurs,
and the guarded scan files the same names: the cursor moves from word boundary to word boundary,
and behind the image it is no further than the next one.

## Main definitions

* `Fault` : what would stop a scan.
* `Guarded.step`, `Guarded.run` : one step and all steps of the guarded scan.
* `backward` : the indices of a backward search.
* `Reached`, `Cursor.InPlace` : the cursors of a scan, and what holds of them.

## Main results

* `Cursor.InPlace.advance`, `Reached.inPlace` : one step, and all steps.
* `Cursor.InPlace.of_accepted` : accepted blocks and their keys lie inside the image.
* `markerBefore?_eq_find?` : the backward search takes its indices in order.
* `Guarded.step_eq`, `Guarded.run_eq` : no guard fails in one step, and in all.
* `scan_guarded` : the scan ends and stays inside the image.
-/

namespace NameRecovery

/-- What would stop a scan. -/
inductive Fault where
  /-- A byte is read, or an address is asked for, outside the image. -/
  | outside (index : Nat)
  /-- A number does not fit into 64 bits. -/
  | overflow (n : Nat)
  /-- A loop goes on for too long. -/
  | endless
deriving DecidableEq

variable {options : ScanOptions} {image : ByteImage}

/-- The indices of a search from `i` back, in steps of a word. -/
def backward (i : Nat) : List Nat :=
  (List.range (i / Word.size + 1)).map fun k => i - Word.size * k

/-! ### Guards -/

namespace Guarded

/-- A number that must fit into 64 bits. -/
def fit (n : Nat) : Except Fault Nat :=
  if n < 0x10000000000000000 then pure n else throw (.overflow n)

/-- The byte at an index, which must lie inside the image. -/
def byteAt (image : ByteImage) (i : Nat) : Except Fault UInt8 :=
  match image.bytes[i]? with
  | some b => pure b
  | none => throw (.outside i)

/-- The bytes from `start` up to `stop`, all of which must lie inside the image. -/
def slice (image : ByteImage) (start stop : Nat) : Except Fault (List UInt8) :=
  if start ≤ stop ∧ stop ≤ image.size then pure (bytesBetween image start stop)
  else throw (.outside stop)

/-- The address of an index, at which a byte must stand. -/
def addressOf (image : ByteImage) (i : Nat) : Except Fault Address :=
  if i < image.size then
    match image.base.add? i with
    | some a => pure a
    | none => throw (.overflow (image.base.toNat + i))
  else throw (.outside i)

/-- The word at an index, unless the image ends before the word does. -/
def wordAt? (image : ByteImage) (i : Nat) : Except Fault (Option Word) := do
  let _ ← fit (i + Word.size)
  pure (image.wordAt? i)

/-! ### The guarded scan -/

/-- Whether the word at `i` has a null byte and then an accepted length. -/
def isCandidate (options : ScanOptions) (image : ByteImage) (i : Nat) : Except Fault Bool := do
  match ← wordAt? image i with
  | some w => pure (w.b0 == 0 && options.minLen ≤ w.b1.toNat && w.b1.toNat < options.maxLen)
  | none => pure false

/-- Whether characters may end before `stop`. The byte there is read only inside the image. -/
def endsAt (options : ScanOptions) (image : ByteImage) (stop : Nat) : Except Fault Bool := do
  if options.requireTerminator then
    if image.size ≤ stop then pure false
    else
      let b ← byteAt image stop
      pure (b == 0)
  else pure (stop ≤ image.size)

/-- The block whose head stands at `i`. -/
def blockAt? (options : ScanOptions) (image : ByteImage) (i : Nat) :
    Except Fault (Option NameBlock) := do
  let length ← byteAt image (← fit (i + 1))
  let stop ← fit (i + 2 + length.toNat)
  if ← endsAt options image stop then
    let bytes ← slice image (i + 2) stop
    if bytes.isEmpty || !bytes.all isNameByte then pure none
    else pure (some ⟨i, stop, nameText bytes⟩)
  else pure none

/-- The first index from `pos` on, in steps of a word, at which no zero word stands. -/
def skipZeros (image : ByteImage) : Nat → Nat → Except Fault Nat
  | 0, _ => throw .endless
  | fuel + 1, pos => do
    if (← wordAt? image pos) = some Word.zero then
      skipZeros image fuel (← fit (pos + Word.size))
    else pure pos

/-- The first of some indices at which `word` stands. -/
def firstAt (image : ByteImage) (word : Word) : List Nat → Except Fault (Option Nat)
  | [] => pure none
  | j :: js => do
    if (← wordAt? image j) = some word then pure (some j) else firstAt image word js

/-- The index whose address a name is filed under. -/
def key? (policy : Policy) (image : ByteImage) (previous : Option Nat) (block : NameBlock) :
    Except Fault (Option Nat) :=
  match policy with
  | .followsPrevious => pure (some (previous.getD block.start))
  | .blockAddress => pure (some block.start)
  | .marker word => firstAt image word (backward block.start)

/-- Where the scan goes on after an accepted block. The image has no more zero words than words. -/
def resume (policy : Policy) (image : ByteImage) (block : NameBlock) : Except Fault Nat :=
  match policy with
  | .followsPrevious | .blockAddress => do
    skipZeros image (image.size / Word.size + 1) (← fit (Word.alignUp block.stop))
  | .marker _ => fit (block.start + Word.size)

/-- Files the name of a block. -/
def file (image : ByteImage) (names : NameMap) (block : NameBlock) :
    Option Nat → Except Fault NameMap
  | some key => do
    let a ← addressOf image key
    pure (names.insert a block.name)
  | none => pure names

/-- One step of the scan. The address of a head is asked for when the head is reported. -/
def step (options : ScanOptions) (image : ByteImage) (c : Cursor) (names : NameMap) :
    Except Fault (Cursor × NameMap) := do
  if ← isCandidate options image c.index then
    match ← blockAt? options image c.index with
    | none =>
      let _ ← addressOf image c.index
      pure (⟨← fit (c.index + Word.size), c.previous⟩, names)
    | some block =>
      let names ← file image names block (← key? options.policy image c.previous block)
      let _ ← addressOf image c.index
      let next ← resume options.policy image block
      pure (⟨next, some next⟩, names)
  else pure (⟨← fit (c.index + Word.size), c.previous⟩, names)

/-- The steps of the scan, of which there must be fewer than `fuel`: where the cursor ends, and the
names. -/
def run (options : ScanOptions) (image : ByteImage) :
    Nat → Cursor → NameMap → Except Fault (Cursor × NameMap)
  | 0, _, _ => throw .endless
  | fuel + 1, c, names => do
    if c.index < image.size then
      let (next, names) ← step options image c names
      run options image fuel next names
    else pure (c, names)

end Guarded

/-! ### Cursors -/

/-- The cursors of a scan. -/
inductive Reached (options : ScanOptions) (image : ByteImage) : Cursor → Prop
  | start : Reached options image {}
  | next {c : Cursor} (h : Reached options image c) (hlt : c.index < image.size) :
      Reached options image (c.advance options image).2

/-- A cursor stands on a word boundary, not past the first one behind the image, and not before the
place where the scan went on last. -/
structure Cursor.InPlace (image : ByteImage) (c : Cursor) : Prop where
  size_dvd : Word.size ∣ c.index
  le_alignUp : c.index ≤ Word.alignUp image.size
  previous_le : ∀ p, c.previous = some p → p ≤ c.index

/-- Behind a block the scan goes on at or before the word boundary behind the image. -/
theorem skipPadding_le_alignUp {stop : Nat} (hstop : stop ≤ image.size) :
    skipPadding image stop ≤ Word.alignUp image.size := by
  have hle := Word.le_alignUp image.size
  refine (isLeast_skipPadding image stop).2
    ⟨Word.size_dvd_alignUp _, Nat.le_trans hstop hle, fun hzero => ?_⟩
  have := ByteImage.le_size_of_wordAt? hzero
  simp only [Word.size] at this
  omega

namespace Cursor.InPlace

variable {c : Cursor}

theorem start (image : ByteImage) : InPlace image {} :=
  ⟨Nat.dvd_zero _, Nat.zero_le _, fun p h => by cases h⟩

theorem skipWord (h : c.InPlace image) (hlt : c.index < image.size) : c.skipWord.InPlace image where
  size_dvd := Nat.dvd_add h.size_dvd (Nat.dvd_refl _)
  le_alignUp := by
    have hdvd := h.size_dvd
    have hle := Word.le_alignUp image.size
    have hdvd' := Word.size_dvd_alignUp image.size
    simp only [Cursor.skipWord, Word.size] at hdvd hdvd' ⊢
    omega
  previous_le p hp := Nat.le_trans (h.previous_le p hp) (Nat.le_add_right _ _)

/-- **What one step keeps true**: the next cursor is at least a word further. -/
theorem advance (h : c.InPlace image) (hlt : c.index < image.size) (options : ScanOptions) :
    (c.advance options image).2.InPlace image ∧
      c.index + Word.size ≤ (c.advance options image).2.index := by
  rcases advance_cases options image h.size_dvd with
    ⟨-, hadvance⟩ | ⟨-, -, hadvance⟩ | ⟨b, -, hb, -, hblock, hadvance⟩
  · rw [hadvance]
    exact ⟨h.skipWord hlt, Nat.le_refl _⟩
  · rw [hadvance]
    exact ⟨h.skipWord hlt, Nat.le_refl _⟩
  · have hdvd := options.policy.size_dvd_resume image hblock.aligned
    have hle := options.policy.resume_le_skipPadding hblock
    have hlt' := options.policy.lt_resume hb
    rw [hadvance]
    refine ⟨⟨hdvd, Nat.le_trans hle (skipPadding_le_alignUp hblock.stop_le_size), ?_⟩, ?_⟩
    · rintro p hp
      exact Nat.le_of_eq (Option.some.inj hp).symm
    · -- both are word boundaries, and the second one lies behind the first one
      have hdvd' := h.size_dvd
      simp only [Word.size] at hdvd hdvd' ⊢
      omega

end Cursor.InPlace

/-- **What a whole scan keeps true.** -/
theorem Reached.inPlace {c : Cursor} (h : Reached options image c) : c.InPlace image := by
  induction h with
  | start => exact .start image
  | next _ hlt ih => exact (ih.advance hlt options).1

/-! ### The backward search -/

theorem backward_of_le {i : Nat} (h : Word.size ≤ i) :
    backward i = i :: backward (i - Word.size) := by
  have hdiv : i / Word.size = (i - Word.size) / Word.size + 1 := by
    simp only [Word.size] at h ⊢
    omega
  rw [backward, hdiv, List.range_succ_eq_map, List.map_cons, List.map_map, backward]
  refine congrArg₂ List.cons rfl (List.map_congr_left fun k _ => ?_)
  simp only [Function.comp_apply, Nat.succ_eq_add_one, Word.size]
  omega

theorem backward_of_lt {i : Nat} (h : i < Word.size) : backward i = [i] := by
  rw [backward, Nat.div_eq_of_lt h]
  rfl

/-- From a word boundary the search goes back to the first word. -/
theorem backward_size_mul (k : Nat) :
    backward (Word.size * k) = (List.range (k + 1)).map fun j => Word.size * (k - j) := by
  rw [backward, Nat.mul_div_cancel_left k (by decide)]
  exact List.map_congr_left fun j _ => (Nat.mul_sub ..).symm

/-- **The backward search takes its indices in order.** -/
theorem markerBefore?_eq_find? (image : ByteImage) (word : Word) (i : Nat) :
    markerBefore? image word i = (backward i).find? fun j => image.wordAt? j = some word := by
  fun_induction markerBefore? image word i with
  | case1 i hword =>
    have hhead : (backward i).head? = some i := by
      by_cases h : Word.size ≤ i
      · rw [backward_of_le h, List.head?_cons]
      · rw [backward_of_lt (Nat.lt_of_not_le h), List.head?_cons]
    obtain ⟨rest, hrest⟩ := List.head?_eq_some_iff.mp hhead
    rw [hrest, List.find?_cons_of_pos (by simpa using hword)]
  | case2 i hword hle ih =>
    rw [backward_of_le hle, List.find?_cons_of_neg (by simpa using hword), ih]
  | case3 i hword hlt =>
    rw [backward_of_lt (Nat.lt_of_not_le hlt), List.find?_cons_of_neg (by simpa using hword)]
    rfl

/-- A name is filed under an index inside the image. The place where the scan went on last is used
only while the cursor has not left the image. -/
theorem Policy.lt_size_of_key? (policy : Policy) {previous : Option Nat} {b : NameBlock} {key : Nat}
    (hprevious : ∀ p, previous = some p → p ≤ b.start) (hb : b.start < image.size)
    (hkey : policy.key? image previous b = some key) : key < image.size := by
  refine Nat.lt_of_le_of_lt ?_ hb
  cases policy with
  | followsPrevious =>
    obtain rfl := Option.some.inj hkey
    cases previous with
    | none => exact Nat.le_refl _
    | some p => exact hprevious p rfl
  | blockAddress => exact Nat.le_of_eq (Option.some.inj hkey).symm
  | marker word =>
    rw [Policy.key?, markerBefore?_eq_find?] at hkey
    obtain ⟨k, -, rfl⟩ := List.mem_map.mp (List.mem_of_find?_eq_some hkey)
    exact Nat.sub_le _ _

/-- An accepted block ends inside the image, and its name is filed under an index there. -/
theorem Cursor.InPlace.of_accepted {c : Cursor} (h : c.InPlace image) (hlt : c.index < image.size)
    {b : NameBlock} {key? : Option Nat}
    (haccepted : (c.advance options image).1 = some (.accepted b key?)) :
    b.stop ≤ image.size ∧ ∀ key, key? = some key → key < image.size := by
  rcases advance_cases options image h.size_dvd with
    ⟨-, hadvance⟩ | ⟨-, -, hadvance⟩ | ⟨b', -, -, hstart, hblock, hadvance⟩
  · rw [hadvance] at haccepted
    cases haccepted
  · rw [hadvance] at haccepted
    cases haccepted
  · rw [hadvance] at haccepted
    obtain ⟨rfl, rfl⟩ := Finding.accepted.inj (Option.some.inj haccepted)
    exact ⟨hblock.stop_le_size, fun key =>
      options.policy.lt_size_of_key? (hstart ▸ h.previous_le) (hstart ▸ hlt)⟩

namespace Guarded

/-! ### No guard fails -/

theorem fit_of_lt {n : Nat} (h : n < 0x10000000000000000) : fit n = pure n :=
  if_pos h

theorem byteAt_of_getElem? {i : Nat} {b : UInt8} (h : image.bytes[i]? = some b) :
    byteAt image i = pure b := by
  rw [byteAt, h]

theorem slice_of_le {start stop : Nat} (hle : start ≤ stop) (hstop : stop ≤ image.size) :
    slice image start stop = pure (bytesBetween image start stop) :=
  if_pos ⟨hle, hstop⟩

/-- An index inside the image has an address, since the address after the last byte exists. -/
theorem addressOf_of_lt {i : Nat} (h : i < image.size) :
    addressOf image i = pure (image.addressOf i) := by
  have hfits : image.base.toNat + i < 0x10000000000000000 :=
    Nat.lt_trans (Nat.add_lt_add_left h _) image.fits
  have hadd : image.base.add? i = some (image.addressOf i) := by
    rw [Address.add?, Address.ofNat?, dif_pos hfits]
    exact congrArg some (Address.ext (ByteImage.toNat_addressOf (Nat.le_of_lt h)).symm)
  rw [addressOf, if_pos h, hadd]

theorem wordAt?_of_lt {i : Nat} (h : i + Word.size < 0x10000000000000000) :
    wordAt? image i = pure (image.wordAt? i) := by
  rw [wordAt?, fit_of_lt h, pure_bind]

theorem isCandidate_of_lt {i : Nat} (h : i + Word.size < 0x10000000000000000) :
    isCandidate options image i = pure (NameRecovery.isCandidate options image i) := by
  rw [isCandidate, wordAt?_of_lt h, pure_bind, NameRecovery.isCandidate]
  cases image.wordAt? i <;> rfl

theorem endsAt_eq (stop : Nat) :
    endsAt options image stop = pure (NameRecovery.endsAt options image stop) := by
  rw [endsAt, NameRecovery.endsAt]
  split
  · split
    · next hle =>
      have hnone : image.bytes[stop]? = none := Array.getElem?_eq_none hle
      rw [hnone]
      rfl
    · next hnot =>
      have hlt : stop < image.bytes.size := Nat.lt_of_not_le hnot
      have hbyte := Array.getElem?_eq_getElem hlt
      rw [byteAt_of_getElem? hbyte, pure_bind, hbyte]
      rfl
  · rfl

/-- The second test stays inside the image: a full word stands at its head, and the characters are
read only after their end is known to lie inside the image. -/
theorem blockAt?_of_isCandidate {i : Nat}
    (hcand : NameRecovery.isCandidate options image i = true)
    (hfits : i + 0x101 < 0x10000000000000000) :
    blockAt? options image i = pure (NameRecovery.blockAt? options image i) := by
  obtain ⟨-, -, length, hbyte, -⟩ := isCandidate_iff.mp hcand
  have hlength := length.toNat_lt
  have hstop : i + 2 + length.toNat < 0x10000000000000000 := by omega
  rw [blockAt?, fit_of_lt (by omega), pure_bind, byteAt_of_getElem? hbyte, pure_bind,
    fit_of_lt hstop, pure_bind, endsAt_eq, pure_bind, NameRecovery.blockAt?, hbyte]
  simp only
  cases hends : NameRecovery.endsAt options image (i + 2 + length.toNat) with
  | false => rfl
  | true =>
    rw [if_pos rfl, slice_of_le (Nat.le_add_right _ _) (le_size_of_endsAt hends), pure_bind]
    cases (bytesBetween image (i + 2) (i + 2 + length.toNat)).isEmpty with
    | true => rfl
    | false =>
      cases (bytesBetween image (i + 2) (i + 2 + length.toNat)).all isNameByte <;> rfl

theorem file_eq {names : NameMap} {b : NameBlock} {key? : Option Nat}
    (hkey : ∀ key, key? = some key → key < image.size) :
    file image names b key? = pure (fileName image names (.accepted b key?)) := by
  cases key? with
  | none => rfl
  | some key =>
    rw [file, addressOf_of_lt (hkey key rfl), pure_bind]
    rfl

section

variable (hsize : image.size < 0x8000000000000000)

include hsize

/-- The skip ends after at most as many words as the image has from `pos` on. -/
theorem skipZeros_eq (fuel : Nat) {pos : Nat} (hpos : pos ≤ Word.alignUp image.size)
    (hfuel : image.size < pos + Word.size * (fuel + 1)) :
    skipZeros image (fuel + 1) pos = pure (NameRecovery.skipZeros image pos) := by
  have hlast := Word.alignUp_lt image.size
  simp only [Word.size] at hlast
  have hword : wordAt? image pos = pure (image.wordAt? pos) :=
    wordAt?_of_lt (by simp only [Word.size]; omega)
  rw [skipZeros, hword, pure_bind, NameRecovery.skipZeros]
  by_cases hzero : image.wordAt? pos = some Word.zero
  · have hle := ByteImage.le_size_of_wordAt? hzero
    simp only [Word.size] at hle hfuel
    rw [if_pos hzero, if_pos ⟨by omega, hzero⟩, fit_of_lt (by simp only [Word.size]; omega),
      pure_bind]
    cases fuel with
    | zero => omega
    | succ fuel =>
      refine skipZeros_eq fuel ?_ ?_
      · exact Nat.le_trans hle (Word.le_alignUp _)
      · simp only [Word.size]
        omega
  · rw [if_neg hzero, if_neg fun h => hzero h.2]

/-- The backward search finds what it finds without guards. -/
theorem firstAt_eq (word : Word) {js : List Nat} (hjs : ∀ j ∈ js, j < image.size) :
    firstAt image word js = pure (js.find? fun j => image.wordAt? j = some word) := by
  induction js with
  | nil => rfl
  | cons j js ih =>
    obtain ⟨hj, hrest⟩ := List.forall_mem_cons.mp hjs
    have hword : wordAt? image j = pure (image.wordAt? j) :=
      wordAt?_of_lt (by simp only [Word.size]; omega)
    rw [firstAt, hword, pure_bind]
    by_cases h : image.wordAt? j = some word
    · rw [if_pos h, List.find?_cons_of_pos (by simpa using h)]
    · rw [if_neg h, List.find?_cons_of_neg (by simpa using h), ih hrest]

theorem key?_eq (policy : Policy) (previous : Option Nat) {b : NameBlock}
    (hb : b.start < image.size) :
    key? policy image previous b = pure (policy.key? image previous b) := by
  cases policy with
  | followsPrevious => rfl
  | blockAddress => rfl
  | marker word =>
    have hback : ∀ j ∈ backward b.start, j < image.size := by
      intro j hj
      obtain ⟨k, -, rfl⟩ := List.mem_map.mp hj
      exact Nat.lt_of_le_of_lt (Nat.sub_le _ _) hb
    rw [Policy.key?, markerBefore?_eq_find?]
    exact firstAt_eq hsize word hback

theorem resume_eq (policy : Policy) {b : NameBlock} (hb : IsBlock options image b) :
    resume policy image b = pure (policy.resume image b) := by
  have hlast := Word.alignUp_lt image.size
  have hstop : Word.alignUp b.stop ≤ Word.alignUp image.size :=
    Nat.le_trans (le_skipZeros image _) (skipPadding_le_alignUp hb.stop_le_size)
  have hword := hb.word_le
  simp only [Word.size] at hlast hword
  have hskip : skipZeros image (image.size / Word.size + 1) (Word.alignUp b.stop) =
      pure (skipPadding image b.stop) :=
    skipZeros_eq hsize _ hstop (by simp only [Word.size]; omega)
  cases policy with
  | followsPrevious => rw [resume, fit_of_lt (by omega), pure_bind, hskip, Policy.resume]
  | blockAddress => rw [resume, fit_of_lt (by omega), pure_bind, hskip, Policy.resume]
  | marker word => exact fit_of_lt (by simp only [Word.size]; omega)

/-- **No guard fails in one step**, and the step does what it does without guards. -/
theorem step_eq {c : Cursor} (h : c.InPlace image) (hlt : c.index < image.size)
    (names : NameMap) :
    step options image c names = pure ((c.advance options image).2,
      (c.advance options image).1.toList.foldl (fileName image) names) := by
  have hword : fit (c.index + Word.size) = pure (c.index + Word.size) :=
    fit_of_lt (by simp only [Word.size]; omega)
  rw [step, isCandidate_of_lt (by simp only [Word.size]; omega), pure_bind]
  rcases advance_cases options image h.size_dvd with
    ⟨hcand, hadvance⟩ | ⟨hcand, hb, hadvance⟩ | ⟨b, hcand, hb, hstart, hblock, hadvance⟩
  · rw [hadvance, hcand, if_neg Bool.false_ne_true, hword, pure_bind]
    rfl
  · rw [hadvance, hcand, if_pos rfl, blockAt?_of_isCandidate hcand (by omega), pure_bind, hb]
    simp only
    rw [addressOf_of_lt hlt, pure_bind, hword, pure_bind]
    rfl
  · have hblt : b.start < image.size := hstart ▸ hlt
    have hkey := (h.of_accepted hlt (congrArg Prod.fst hadvance)).2
    rw [hadvance, hcand, if_pos rfl, blockAt?_of_isCandidate hcand (by omega), pure_bind, hb]
    simp only
    rw [key?_eq hsize _ _ hblt, pure_bind, file_eq hkey, pure_bind, addressOf_of_lt hlt,
      pure_bind, resume_eq hsize _ hblock, pure_bind]
    rfl

/-- **No guard fails in the whole scan**, and the scan takes at most one step for each word. -/
theorem run_eq (options : ScanOptions) (fuel : Nat) {c : Cursor} (h : c.InPlace image)
    (hfuel : image.size ≤ c.index + Word.size * fuel) (names : NameMap) :
    ∃ last : Cursor, last.InPlace image ∧ image.size ≤ last.index ∧
      run options image (fuel + 1) c names =
        pure (last, (met options image c).foldl (fileName image) names) := by
  rw [run, met]
  by_cases hlt : c.index < image.size
  · obtain ⟨hnext, hle⟩ := h.advance hlt options
    simp only [Word.size] at hle hfuel
    rw [if_pos hlt, if_pos hlt, step_eq hsize h hlt, pure_bind, List.foldl_append]
    cases fuel with
    | zero => omega
    | succ fuel => exact run_eq options fuel hnext (by simp only [Word.size]; omega) _
  · rw [if_neg hlt, if_neg hlt]
    exact ⟨c, h, Nat.le_of_not_lt hlt, rfl⟩

end

end Guarded

/-- **The scan ends and stays inside the image.** For all options and every image of fewer than
`2 ^ 63` bytes, whether it ends at a word boundary or not: the guarded scan, which stops at a read
or an address outside the image, at a number of more than 64 bits, and at a loop that goes on for
too long, never stops so. It takes at most one step for each word, files the same names, and leaves
the cursor at most three bytes behind the image. Each cursor stands on a word boundary, and each
step moves it on by a word at least; a candidate there is a full word, an accepted block ends inside
the image, and so does the index its name is filed under. A search back from the cursor takes each
word boundary down to the first one. -/
theorem scan_guarded (options : ScanOptions) (image : ByteImage)
    (hsize : image.size < 0x8000000000000000) :
    (∃ last : Cursor, image.size ≤ last.index ∧ last.index < image.size + 4 ∧
      Guarded.run options image ((image.size + 3) / 4 + 1) {} {} =
        .ok (last, scan options image)) ∧
    ∀ c, Reached options image c → c.index < image.size →
      4 ∣ c.index ∧ c.index + 4 ≤ (c.advance options image).2.index ∧
        (isCandidate options image c.index = true → c.index + 4 ≤ image.size) ∧
        (∀ b key?, (c.advance options image).1 = some (.accepted b key?) →
          b.stop ≤ image.size ∧ ∀ key, key? = some key → key < image.size) ∧
        ∀ word, markerBefore? image word c.index =
          ((List.range (c.index / 4 + 1)).map fun k => 4 * (c.index / 4 - k)).find?
            fun j => image.wordAt? j = some word := by
  constructor
  · obtain ⟨last, hlast, hend, hrun⟩ := Guarded.run_eq hsize options
      ((image.size + 3) / 4) (.start image) (by simp only [Word.size]; omega) {}
    refine ⟨last, hend, Nat.lt_of_le_of_lt hlast.le_alignUp (Word.alignUp_lt _), ?_⟩
    rw [hrun, scan, fileNames, findings_eq_met]
    rfl
  · intro c hc hlt
    refine ⟨hc.inPlace.size_dvd, (hc.inPlace.advance hlt options).2,
      fun hcand => (isCandidate_iff.mp hcand).1, fun b key? => hc.inPlace.of_accepted hlt,
      fun word => ?_⟩
    obtain ⟨k, hk⟩ := hc.inPlace.size_dvd
    have hdiv : c.index / 4 = k := by
      simp only [Word.size] at hk
      omega
    rw [markerBefore?_eq_find?, hdiv, hk, backward_size_mul]
    rfl

/-- A name and its null byte at the top of the address space, a byte short of a word boundary. -/
def shortImage : ByteImage where
  base := ⟨0xfffffffffffffff4, by decide⟩
  bytes := #[0x00, 0x08, 0x4d, 0x59, 0x46, 0x55, 0x4e, 0x43, 0x30, 0x31, 0x00]
  fits := by decide

/-- Every length byte is accepted, even zero. The cursor ends behind the image, where there is no
address any more. The guards are real: at the last byte, which is no candidate, the second test
would leave the image. -/
theorem scan_guarded_shortImage :
    let options : ScanOptions := { minLen := 0, maxLen := 255 }
    shortImage.size < 0x8000000000000000 ∧
      (scan options shortImage).toList = [(shortImage.base, "MYFUNC01")] ∧
      Guarded.blockAt? options shortImage 10 = .error (.outside 11) ∧
      Guarded.run options shortImage 4 {} {} = .ok (⟨12, some 12⟩, scan options shortImage) ∧
      ∀ c, Reached options shortImage c → c.index < shortImage.size →
        4 ∣ c.index ∧ c.index + 4 ≤ (c.advance options shortImage).2.index := by
  intro options
  have hsize : shortImage.size < 0x8000000000000000 := by decide
  have hnames : (scan options shortImage).toList = [(shortImage.base, "MYFUNC01")] := by
    decide +kernel
  obtain ⟨⟨last, -, -, hrun⟩, hcursors⟩ := scan_guarded options shortImage hsize
  obtain ⟨names, hvalue⟩ : ∃ names, Guarded.run options shortImage 4 {} {} =
      .ok (⟨12, some 12⟩, names) := ⟨_, rfl⟩
  have hlast : last = ⟨12, some 12⟩ := congrArg Prod.fst (Except.ok.inj (hrun.symm.trans hvalue))
  refine ⟨hsize, hnames, rfl, hlast ▸ hrun, fun c hc hlt => ?_⟩
  obtain ⟨hdvd, hstep, -⟩ := hcursors c hc hlt
  exact ⟨hdvd, hstep⟩

end NameRecovery
