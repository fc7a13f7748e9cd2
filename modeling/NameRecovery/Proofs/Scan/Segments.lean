import NameRecovery.Proofs.Scan.Coverage

/-!
# Images laid out in segments

A compiler lays out an image in segments: instruction words, a name block that is filled up to a word
boundary, and perhaps further zero words. This file writes down such an image byte by byte and proves
that a scan finds exactly its names. No instruction word looks like the head of a block, the words of a
block begin with a character or are zero, and the scan goes on behind a block exactly where the next
segment begins. It does not matter whether the null byte that ends a name stands in the last word of
its characters or alone in the next one.

## Main definitions

* `StandsAt` : bytes that stand at an index of an image.
* `Word.IsHead` : the words that look like the head of a block.
* `Segment`, `Segment.bytes` : a segment and its bytes.
* `Segment.Proper` : the segments that a scan can read back.
* `located`, `layoutBytes`, `IsLayout` : segments one after another, and the images they make up.

## Main results

* `Segment.Proper.isBlock` : a block stands in every segment.
* `filterMap_wordStarts_located` : the only candidates are the heads of these blocks.
* `skipPadding_block` : where the scan goes on behind a block.
* `scan_segments` : the names of a layout, for every layout and all options.
-/

namespace NameRecovery

variable {options : ScanOptions} {image : ByteImage}

/-! ### Bytes at an index -/

/-- Some bytes stand at an index of an image. -/
def StandsAt (image : ByteImage) (i : Nat) (bytes : List UInt8) : Prop :=
  ∀ k b, bytes[k]? = some b → image.bytes[i + k]? = some b

namespace StandsAt

variable {i j n : Nat} {xs ys : List UInt8} {w : Word}

theorem left (h : StandsAt image i (xs ++ ys)) : StandsAt image i xs := by
  intro k b hb
  refine h k b ?_
  rw [List.getElem?_append_left (List.getElem?_eq_some_iff.mp hb).1, hb]

theorem right (h : StandsAt image i (xs ++ ys)) : StandsAt image (i + xs.length) ys := by
  intro k b hb
  rw [Nat.add_assoc]
  refine h _ b ?_
  rw [List.getElem?_append_right (Nat.le_add_right _ _), Nat.add_sub_cancel_left, hb]

/-- The bytes of an image stand at its beginning. -/
theorem of_toList_eq (h : image.bytes.toList = xs) : StandsAt image 0 xs := by
  intro k b hb
  rw [Nat.zero_add, ← Array.getElem?_toList, h, hb]

theorem wordAt? (h : StandsAt image i w.bytes) : image.wordAt? i = some w :=
  ByteImage.wordAt?_eq_some_iff.mpr ⟨h 0 _ rfl, h 1 _ rfl, h 2 _ rfl, h 3 _ rfl⟩

/-- Where zeros stand, every word is zero. -/
theorem wordAt?_of_replicate (h : StandsAt image i (List.replicate n 0)) (hij : i ≤ j)
    (hj : j + Word.size ≤ i + n) : image.wordAt? j = some Word.zero := by
  have hzero (k : Nat) (hk : k < Word.size) : image.bytes[j + k]? = some 0 := by
    have hindex : j + k = i + (j - i + k) := by omega
    rw [hindex]
    refine h _ 0 ?_
    rw [List.getElem?_replicate, if_pos (by omega)]
  exact ByteImage.wordAt?_eq_some_iff.mpr
    ⟨hzero 0 (by decide), hzero 1 (by decide), hzero 2 (by decide), hzero 3 (by decide)⟩

end StandsAt

/-! ### Instruction words -/

/-- A word with a null byte and then an accepted length. -/
def Word.IsHead (options : ScanOptions) (w : Word) : Prop :=
  w.b0 = 0 ∧ options.minLen ≤ w.b1.toNat ∧ w.b1.toNat < options.maxLen

instance (options : ScanOptions) (w : Word) : Decidable (w.IsHead options) :=
  inferInstanceAs (Decidable (_ ∧ _ ∧ _))

/-- A word is a candidate exactly when it looks like the head of a block. -/
theorem isCandidate_of_wordAt? {i : Nat} {w : Word} (h : image.wordAt? i = some w) :
    isCandidate options image i = true ↔ w.IsHead options := by
  simp only [isCandidate, h, Bool.and_eq_true, beq_iff_eq, decide_eq_true_iff, Word.IsHead,
    and_assoc]

section Code

variable {i j k : Nat} {code : List Word} {w : Word}

theorem length_flatMap_bytes (code : List Word) :
    (code.flatMap Word.bytes).length = Word.size * code.length := by
  induction code with
  | nil => rfl
  | cons w rest ih =>
    rw [List.flatMap_cons, List.length_append, ih, List.length_cons, Nat.mul_succ, Nat.add_comm]
    rfl

/-- Each instruction word stands at its place. -/
theorem wordAt?_of_standsAt (h : StandsAt image i (code.flatMap Word.bytes))
    (hw : code[k]? = some w) : image.wordAt? (i + Word.size * k) = some w := by
  induction code generalizing i k with
  | nil => cases hw
  | cons v rest ih =>
    rw [List.flatMap_cons] at h
    cases k with
    | zero =>
      obtain rfl := Option.some.inj hw
      exact h.left.wordAt?
    | succ k =>
      have hindex : i + Word.size * (k + 1) = i + Word.size + Word.size * k := by
        rw [Nat.mul_succ]
        omega
      rw [hindex]
      exact ih h.right hw

/-- No candidate stands among instruction words that do not look like heads. -/
theorem not_isCandidate_of_standsAt (h : StandsAt image i (code.flatMap Word.bytes))
    (hcode : ∀ w ∈ code, ¬ w.IsHead options) (hi : Word.size ∣ i) (hj : Word.size ∣ j) (hij : i ≤ j)
    (hlt : j < i + Word.size * code.length) : ¬ isCandidate options image j = true := by
  obtain ⟨k, hk⟩ := Nat.dvd_sub hj hi
  obtain rfl : j = i + Word.size * k := by omega
  have hlength : k < code.length := by
    simp only [Word.size] at hlt
    omega
  rw [isCandidate_of_wordAt? (wordAt?_of_standsAt h (List.getElem?_eq_getElem hlength))]
  exact hcode _ (List.getElem_mem hlength)

end Code

/-! ### Segments -/

/-- Options with a positive least length, lengths that a byte can hold, and a required terminator. -/
structure ScanOptions.Strict (options : ScanOptions) : Prop where
  minLen_pos : 1 ≤ options.minLen
  maxLen_le : options.maxLen ≤ 255
  terminator : options.requireTerminator = true

/-- Instruction words, a name, and a number of zero words. -/
structure Segment where
  code : List Word
  name : String
  zeros : Nat
deriving DecidableEq

namespace Segment

/-- The characters of the name, one byte each. -/
def nameBytes (s : Segment) : List UInt8 :=
  s.name.toList.map fun c => UInt8.ofNat c.toNat

/-- The block of the name: a null byte, the length, the characters, and a null byte. -/
def blockBytes (s : Segment) : List UInt8 :=
  [0, UInt8.ofNat s.name.length] ++ s.nameBytes ++ [0]

/-- The zeros that fill the block up to a word boundary. -/
def fill (s : Segment) : List UInt8 :=
  List.replicate (Word.alignUp s.blockBytes.length - s.blockBytes.length) 0

/-- The bytes of a segment. -/
def bytes (s : Segment) : List UInt8 :=
  s.code.flatMap Word.bytes ++ (s.blockBytes ++ s.fill ++ List.replicate (Word.size * s.zeros) 0)

/-- The index of the block of a segment that begins at `i`. -/
def head (s : Segment) (i : Nat) : Nat :=
  i + Word.size * s.code.length

/-- The block of a segment that begins at `i`. -/
def block (s : Segment) (i : Nat) : NameBlock :=
  ⟨s.head i, s.head i + 2 + s.name.length, s.name⟩

/-- The segments that a scan can read back: no instruction word looks like the head of a block, and
the name has an accepted length and visible characters. -/
structure Proper (options : ScanOptions) (s : Segment) : Prop where
  code : ∀ w ∈ s.code, ¬ w.IsHead options
  minLen_le : options.minLen ≤ s.name.length
  lt_maxLen : s.name.length < options.maxLen
  visible : ∀ c ∈ s.name.toList, 0x21 ≤ c.toNat ∧ c.toNat ≤ 0x7e

instance (options : ScanOptions) (s : Segment) : Decidable (s.Proper options) :=
  decidable_of_iff
    ((∀ w ∈ s.code, ¬ w.IsHead options) ∧ options.minLen ≤ s.name.length ∧
      s.name.length < options.maxLen ∧
      s.name.toList.all (fun c => 0x21 ≤ c.toNat && c.toNat ≤ 0x7e) = true)
    ⟨fun ⟨hcode, hmin, hmax, hvisible⟩ => ⟨hcode, hmin, hmax, by simpa using hvisible⟩,
      fun h => ⟨h.code, h.minLen_le, h.lt_maxLen, by simpa using h.visible⟩⟩

variable {s : Segment} {i j : Nat}

theorem length_nameBytes (s : Segment) : s.nameBytes.length = s.name.length := by
  rw [nameBytes, List.length_map, String.length_toList]

theorem length_blockBytes (s : Segment) : s.blockBytes.length = s.name.length + 3 := by
  rw [blockBytes, List.length_append, List.length_append, length_nameBytes]
  simp only [List.length_cons, List.length_nil]
  omega

theorem length_bytes (s : Segment) :
    s.bytes.length =
      Word.size * s.code.length + Word.alignUp (s.name.length + 3) + Word.size * s.zeros := by
  have hle := Word.le_alignUp (s.name.length + 3)
  rw [bytes, List.length_append, List.length_append, List.length_append, length_flatMap_bytes,
    fill, List.length_replicate, List.length_replicate, length_blockBytes]
  omega

/-- A segment ends at a word boundary if it begins at one. -/
theorem size_dvd_length_bytes (s : Segment) : Word.size ∣ s.bytes.length := by
  rw [length_bytes]
  exact Nat.dvd_add (Nat.dvd_add (Nat.dvd_mul_right _ _) (Word.size_dvd_alignUp _))
    (Nat.dvd_mul_right _ _)

theorem size_dvd_head (s : Segment) (hi : Word.size ∣ i) : Word.size ∣ s.head i :=
  Nat.dvd_add hi (Nat.dvd_mul_right _ _)

theorem length_block (s : Segment) (i : Nat) : (s.block i).length = s.name.length :=
  Nat.add_sub_cancel_left _ _

/-- Behind the characters of a segment there are zeros only. -/
theorem bytes_eq (s : Segment) :
    ∃ n, s.bytes =
      s.code.flatMap Word.bytes ++ ([0, UInt8.ofNat s.name.length] ++ s.nameBytes ++
        List.replicate n 0) := by
  refine ⟨1 + ((Word.alignUp s.blockBytes.length - s.blockBytes.length) + Word.size * s.zeros), ?_⟩
  rw [bytes, fill, ← List.replicate_append_replicate, ← List.replicate_append_replicate]
  simp only [blockBytes, List.append_assoc, List.replicate_one]

/-- A word boundary behind the characters of a segment holds a zero word. -/
theorem wordAt?_of_le (h : StandsAt image i s.bytes) (hj : Word.size ∣ j) (hi : Word.size ∣ i)
    (hle : (s.block i).stop ≤ j) (hlt : j < i + s.bytes.length) :
    image.wordAt? j = some Word.zero := by
  obtain ⟨n, hn⟩ := s.bytes_eq
  have hend := Nat.dvd_add hi s.size_dvd_length_bytes
  have hlength := congrArg List.length hn
  rw [List.length_append, List.length_append, List.length_append, length_flatMap_bytes,
    length_nameBytes, List.length_replicate] at hlength
  simp only [List.length_cons, List.length_nil] at hlength
  rw [hn] at h
  have hzeros := h.right.right
  rw [length_flatMap_bytes, List.length_append, length_nameBytes] at hzeros
  simp only [List.length_cons, List.length_nil] at hzeros
  refine hzeros.wordAt?_of_replicate ?_ ?_
  · simp only [block, head] at hle
    omega
  · simp only [Word.size] at hj hend hlength hlt ⊢
    omega

/-- The characters of a segment end inside it. -/
theorem stop_block_le (s : Segment) (i : Nat) : (s.block i).stop ≤ i + s.bytes.length := by
  have hle := Word.le_alignUp (s.name.length + 3)
  rw [length_bytes]
  simp only [block, head]
  omega

/-- Behind the block of a segment the scan leaves out the rest of the segment. -/
theorem le_skipPadding_block (h : StandsAt image i s.bytes) (hi : Word.size ∣ i) :
    i + s.bytes.length ≤ skipPadding image (s.block i).stop := by
  obtain ⟨⟨hdvd, hle, hne⟩, -⟩ := isLeast_skipPadding image (s.block i).stop
  by_contra hlt
  exact hne (wordAt?_of_le h hdvd hi hle (Nat.not_le.mp hlt))

/-- **The scan goes on behind the segment**, unless a zero word stands there. -/
theorem skipPadding_block (h : StandsAt image i s.bytes) (hi : Word.size ∣ i)
    (hne : image.wordAt? (i + s.bytes.length) ≠ some Word.zero) :
    skipPadding image (s.block i).stop = i + s.bytes.length := by
  refine Nat.le_antisymm ?_ (le_skipPadding_block h hi)
  exact (isLeast_skipPadding image (s.block i).stop).2
    ⟨Nat.dvd_add hi s.size_dvd_length_bytes, s.stop_block_le i, hne⟩

/-! ### Blocks in segments -/

theorem standsAt_blockBytes (h : StandsAt image i s.bytes) :
    StandsAt image (s.head i) s.blockBytes := by
  have hright := h.right
  rw [length_flatMap_bytes] at hright
  exact hright.left.left

/-- A null byte ends the name. -/
theorem getElem?_stop (h : StandsAt image i s.bytes) : image.bytes[(s.block i).stop]? = some 0 := by
  have hlast := (standsAt_blockBytes h).right
  rw [List.length_append, length_nameBytes] at hlast
  have hindex : s.head i + ([0, UInt8.ofNat s.name.length].length + s.name.length) =
      (s.block i).stop := (Nat.add_assoc _ 2 _).symm
  exact hindex ▸ hlast 0 0 rfl

theorem bytesBetween_block (h : StandsAt image i s.bytes) :
    bytesBetween image ((s.block i).start + 2) (s.block i).stop = s.nameBytes := by
  have hname : StandsAt image (s.head i + 2) s.nameBytes := (standsAt_blockBytes h).left.right
  have hsize := (Array.getElem?_eq_some_iff.mp (getElem?_stop h)).1
  refine List.ext_getElem? fun k => ?_
  rw [getElem?_bytesBetween (Nat.le_of_lt hsize)]
  by_cases hk : k < s.nameBytes.length
  · have hget := List.getElem?_eq_getElem hk
    rw [length_nameBytes] at hk
    rw [if_pos (by simp only [block]; omega), hget]
    exact hname k _ hget
  · rw [List.getElem?_eq_none (Nat.not_lt.mp hk)]
    rw [length_nameBytes] at hk
    rw [if_neg (by simp only [block]; omega)]

namespace Proper

/-- A character of the name is the byte it is written as. -/
theorem toNat_ofNat (hs : s.Proper options) {c : Char} (hc : c ∈ s.name.toList) :
    (UInt8.ofNat c.toNat).toNat = c.toNat := by
  have hvisible := hs.visible c hc
  exact Nat.mod_eq_of_lt (by omega)

theorem map_toNat_nameBytes (hs : s.Proper options) :
    s.nameBytes.map UInt8.toNat = s.name.toList.map Char.toNat := by
  rw [nameBytes, List.map_map]
  exact List.map_congr_left fun c hc => hs.toNat_ofNat hc

theorem all_isNameByte_nameBytes (hs : s.Proper options) :
    s.nameBytes.all isNameByte = true := by
  rw [List.all_eq_true]
  intro b hb
  obtain ⟨c, hc, rfl⟩ := List.mem_map.mp hb
  have hvisible := hs.visible c hc
  rw [isNameByte, Bool.and_eq_true, decide_eq_true_iff, decide_eq_true_iff,
    UInt8.le_iff_toNat_le, UInt8.le_iff_toNat_le, hs.toNat_ofNat hc]
  exact hvisible

/-- **A block stands in every segment.** -/
theorem isBlock (hs : s.Proper options) (hstrict : options.Strict) (hi : Word.size ∣ i)
    (h : StandsAt image i s.bytes) : IsBlock options image (s.block i) := by
  obtain ⟨hmin, hmax, hterminator⟩ := hstrict
  have hlow := hs.minLen_le
  have hhigh := hs.lt_maxLen
  have hnull := getElem?_stop h
  have hsize : s.head i + 2 + s.name.length < image.size :=
    (Array.getElem?_eq_some_iff.mp hnull).1
  have hlengthByte : image.bytes[s.head i + 1]? = some (UInt8.ofNat s.name.length) :=
    standsAt_blockBytes h 1 _ rfl
  have hbyte : (UInt8.ofNat s.name.length).toNat = s.name.length := Nat.mod_eq_of_lt (by omega)
  have hbetween := bytesBetween_block h
  have hlength := s.length_block i
  exact {
    aligned := s.size_dvd_head hi
    word_le := by
      simp only [Word.size, block]
      omega
    null := standsAt_blockBytes h 0 _ rfl
    lengthByte := by
      change (image.bytes[s.head i + 1]?).map UInt8.toNat = _
      rw [hlengthByte, Option.map_some, hbyte, hlength]
    stop_eq := by
      rw [hlength]
      rfl
    length_pos := by omega
    minLen_le := hlength.symm ▸ hlow
    lt_maxLen := hlength.symm ▸ hhigh
    visible :=
      (all_isNameByte_iff (Nat.le_of_lt hsize)).mp (hbetween.symm ▸ hs.all_isNameByte_nameBytes)
    ends := by
      rw [if_pos hterminator]
      exact hnull
    name_eq := by
      rw [hbetween, hs.map_toNat_nameBytes]
      rfl }

/-- **The head of its block is the only candidate in a segment.** Words may be looked at in any way
that shows nothing where no candidate stands. -/
theorem filterMap_wordStarts {β : Type} {f : Nat → Option β}
    (hf : ∀ j, ¬ isCandidate options image j = true → f j = none) (hs : s.Proper options)
    (hstrict : options.Strict) (hi : Word.size ∣ i) (h : StandsAt image i s.bytes) :
    (wordStarts image i).filterMap f =
      (s.head i :: wordStarts image (i + s.bytes.length)).filterMap f := by
  have hblock := hs.isBlock hstrict hi h
  have hhead := s.size_dvd_head hi
  have hend := Nat.dvd_add hi s.size_dvd_length_bytes
  have hstop := s.stop_block_le i
  have hstart : s.head i + 2 < (s.block i).stop := hblock.start_lt_stop
  have hsize : s.head i < image.size := by
    have hle := hblock.stop_le_size
    omega
  -- nothing is shown at the instruction words, at the characters, and at the zeros behind them
  have hcode : (wordStarts image i).filterMap f = (wordStarts image (s.head i)).filterMap f :=
    filterMap_wordStarts_skip hi hhead (Nat.le_add_right _ _) fun j hj hij hlt =>
      hf j (not_isCandidate_of_standsAt h.left hs.code hi hj hij hlt)
  have hzeros : (wordStarts image (s.head i + Word.size)).filterMap f =
      (wordStarts image (i + s.bytes.length)).filterMap f := by
    refine filterMap_wordStarts_skip (Nat.dvd_add hhead (Nat.dvd_refl _)) hend ?_ ?_
    · simp only [Word.size] at hhead hend ⊢
      omega
    · intro j hj hij hlt
      have hlt' : s.head i < j := Nat.lt_of_lt_of_le (Nat.lt_add_of_pos_right (by decide)) hij
      have hskip := Nat.lt_of_lt_of_le hlt (le_skipPadding_block h hi)
      refine hf j fun hcand => ?_
      exact not_isCandidate_of_zero hstrict.minLen_pos
        (hblock.wordAt?_of_isCandidate hj hlt' hskip hcand) hcand
  rw [hcode, wordStarts_of_lt hsize, List.filterMap_cons, List.filterMap_cons, hzeros]

/-- A segment whose first instruction is not zero does not begin with a zero word. -/
theorem wordAt?_ne_zero (hs : s.Proper options) (hstrict : options.Strict) (hi : Word.size ∣ i)
    (h : StandsAt image i s.bytes) (hne : s.code.head? ≠ some Word.zero) :
    image.wordAt? i ≠ some Word.zero := by
  have hblock := hs.isBlock hstrict hi h
  rcases hcode : s.code with _ | ⟨w, rest⟩
  · have hhead : (s.block i).start = i := by
      rw [block, head, hcode]
      rfl
    exact hhead ▸ hblock.wordAt?_start_ne
  · have hword := wordAt?_of_standsAt (k := 0) h.left (congrArg (·[0]?) hcode)
    rw [hcode] at hne
    rw [Nat.mul_zero, Nat.add_zero] at hword
    exact hword ▸ hne

end Proper

end Segment

/-! ### Segments one after another -/

/-- Segments one after another, with the index at which each begins. -/
def located : Nat → List Segment → List (Nat × Segment)
  | _, [] => []
  | i, s :: rest => (i, s) :: located (i + s.bytes.length) rest

/-- The bytes of segments one after another, and of the instruction words behind them. -/
def layoutBytes (segments : List Segment) (final : List Word) : List UInt8 :=
  segments.flatMap Segment.bytes ++ final.flatMap Word.bytes

section Layout

variable {i : Nat} {segments : List Segment} {final : List Word}

theorem length_located : (located i segments).length = segments.length := by
  induction segments generalizing i with
  | nil => rfl
  | cons s rest ih => rw [located, List.length_cons, List.length_cons, ih]

/-- Each segment stands at its index, a word boundary. -/
theorem standsAt_of_mem_located (hi : Word.size ∣ i)
    (h : StandsAt image i (layoutBytes segments final)) {q : Nat × Segment}
    (hq : q ∈ located i segments) :
    q.2 ∈ segments ∧ Word.size ∣ q.1 ∧ StandsAt image q.1 q.2.bytes := by
  induction segments generalizing i with
  | nil => cases hq
  | cons s rest ih =>
    rw [layoutBytes, List.flatMap_cons, List.append_assoc] at h
    rcases List.mem_cons.mp hq with rfl | hq
    · exact ⟨List.mem_cons_self, hi, h.left⟩
    · obtain ⟨hmem, hq⟩ := ih (Nat.dvd_add hi s.size_dvd_length_bytes) h.right hq
      exact ⟨List.mem_cons_of_mem _ hmem, hq⟩

variable (hstrict : options.Strict) (hproper : ∀ s ∈ segments, s.Proper options)
  (hi : Word.size ∣ i)
include hstrict hproper hi

/-- **The only candidates of a layout are the heads of its blocks.** -/
theorem filterMap_wordStarts_located {β : Type} {f : Nat → Option β}
    (hf : ∀ j, ¬ isCandidate options image j = true → f j = none)
    (hfinal : ∀ w ∈ final, ¬ w.IsHead options)
    (h : StandsAt image i (layoutBytes segments final))
    (hend : i + (layoutBytes segments final).length = image.size) :
    (wordStarts image i).filterMap f =
      (located i segments).filterMap fun q => f (q.2.head q.1) := by
  induction segments generalizing i with
  | nil =>
    rw [layoutBytes, List.flatMap_nil, List.nil_append] at h hend
    have hsize : Word.size ∣ image.size := by
      rw [← hend, length_flatMap_bytes]
      exact Nat.dvd_add hi (Nat.dvd_mul_right _ _)
    rw [filterMap_wordStarts_skip hi hsize (hend ▸ Nat.le_add_right _ _), wordStarts,
      if_neg (Nat.lt_irrefl _)]
    · rfl
    · intro j hj hij hlt
      rw [← hend, length_flatMap_bytes] at hlt
      exact hf j (not_isCandidate_of_standsAt h hfinal hi hj hij hlt)
  | cons s rest ih =>
    rw [layoutBytes, List.flatMap_cons, List.append_assoc] at h hend
    rw [List.length_append, ← Nat.add_assoc] at hend
    have hs := hproper s List.mem_cons_self
    have hrest := ih (fun t ht => hproper t (List.mem_cons_of_mem _ ht))
      (Nat.dvd_add hi s.size_dvd_length_bytes) h.right hend
    rw [hs.filterMap_wordStarts hf hstrict hi h.left, located, List.filterMap_cons,
      List.filterMap_cons, hrest]

/-- Behind each block but the last one the scan goes on where the next segment begins. -/
theorem zipWith_skipPadding {s : Segment} {first : Nat}
    (hnext : ∀ t ∈ segments, t.code.head? ≠ some Word.zero)
    (h : StandsAt image i (layoutBytes segments final))
    (hfirst : Word.size ∣ first) (hs : StandsAt image first s.bytes)
    (hiFirst : i = first + s.bytes.length) :
    List.zipWith (fun p c : NameBlock => (image.base.toNat + skipPadding image p.stop, c.name))
        (((first, s) :: located i segments).map fun q => q.2.block q.1)
        ((located i segments).map fun q => q.2.block q.1) =
      (located i segments).map fun q => (image.base.toNat + q.1, q.2.name) := by
  induction segments generalizing i first s with
  | nil => rfl
  | cons t rest ih =>
    rw [layoutBytes, List.flatMap_cons, List.append_assoc] at h
    have hne := (hproper t List.mem_cons_self).wordAt?_ne_zero hstrict hi h.left
      (hnext t List.mem_cons_self)
    have hskip : skipPadding image (s.block first).stop = i := by
      rw [hiFirst] at hne ⊢
      exact Segment.skipPadding_block hs hfirst hne
    have hrest := ih (fun u hu => hproper u (List.mem_cons_of_mem _ hu))
      (Nat.dvd_add hi t.size_dvd_length_bytes) (fun u hu => hnext u (List.mem_cons_of_mem _ hu))
      h.right hi h.left rfl
    rw [List.map_cons, located, List.map_cons, List.zipWith_cons_cons, List.map_cons, ← hrest,
      hskip]
    rfl

end Layout

/-! ### Scanning a layout -/

/-- An image that consists of segments and of further instruction words, all of which a scan can read
back. -/
structure IsLayout (options : ScanOptions) (image : ByteImage) (segments : List Segment)
    (final : List Word) : Prop where
  strict : options.Strict
  proper : ∀ s ∈ segments, s.Proper options
  final_code : ∀ w ∈ final, ¬ w.IsHead options
  toList_bytes : image.bytes.toList = layoutBytes segments final

namespace IsLayout

variable {segments : List Segment} {final : List Word}

/-- A block stands at the head of each segment of a layout. -/
theorem isBlock_of_mem_located (h : IsLayout options image segments final) {q : Nat × Segment}
    (hq : q ∈ located 0 segments) : IsBlock options image (q.2.block q.1) := by
  obtain ⟨hmem, hdvd, hstands⟩ :=
    standsAt_of_mem_located (Nat.dvd_zero _) (.of_toList_eq h.toList_bytes) hq
  exact (h.proper q.2 hmem).isBlock h.strict hdvd hstands

private theorem filterMap_wordStarts (h : IsLayout options image segments final) {β : Type}
    {f : Nat → Option β} (hf : ∀ j, ¬ isCandidate options image j = true → f j = none) :
    (wordStarts image 0).filterMap f =
      (located 0 segments).filterMap fun q => f (q.2.head q.1) := by
  refine filterMap_wordStarts_located h.strict h.proper (Nat.dvd_zero _) hf h.final_code
    (.of_toList_eq h.toList_bytes) ?_
  rw [Nat.zero_add, ← h.toList_bytes, Array.length_toList]
  rfl

/-- The accepted blocks of a layout are those of its segments. -/
theorem acceptedBlocks_eq (h : IsLayout options image segments final) :
    acceptedBlocks options image = (located 0 segments).map fun q => q.2.block q.1 := by
  have hskipped (j : Nat) (hj : ¬ isCandidate options image j = true) :
      acceptedAt? options image j = none := by
    rw [acceptedAt?, if_neg hj]
  rw [NameRecovery.acceptedBlocks_eq, h.filterMap_wordStarts hskipped, ← List.filterMap_eq_map]
  refine List.filterMap_congr fun q hq => ?_
  have hblock := h.isBlock_of_mem_located hq
  exact (acceptedAt?_eq_some_iff hblock.aligned).mpr ⟨rfl, hblock⟩

/-- Every head that a scan of a layout meets begins a block. -/
theorem scanStats_eq (h : IsLayout options image segments final) :
    scanStats options image = ⟨segments.length, segments.length, 0⟩ := by
  have haccepted : (scanStats options image).accepted = segments.length := by
    rw [scanStats_accepted, h.acceptedBlocks_eq, List.length_map, length_located]
  have hcandidates : (scanStats options image).candidates ≤ segments.length := by
    have hheads : (findings options image).map Finding.index = _ :=
      map_index_findings h.strict.minLen_pos
    rw [h.filterMap_wordStarts fun j hj => if_neg hj] at hheads
    have hlength := congrArg List.length hheads
    rw [List.length_map] at hlength
    have hle := List.length_filterMap_le (fun q : Nat × Segment =>
      if isCandidate options image (q.2.head q.1) then some (q.2.head q.1) else none)
      (located 0 segments)
    rw [← hlength, length_located] at hle
    exact hle
  have hsum := scanStats_candidates options image
  rw [ScanStats.mk.injEq]
  omega

end IsLayout

/-- **A scan undoes laying out name blocks.** For every base and all options with a positive least
length, lengths that a byte can hold and a required terminator, let an image consist of segments
and further instruction words such that no instruction word looks like the head of a block, each
name has an accepted length and visible characters, and the instructions of a segment behind the
first one do not begin with a zero word. Filed under their own blocks, the names are those of the
segments at the places of their blocks; filed under the code they describe, the first name stands
at its block and each further one where its segment begins; and whatever the policy, as many heads
are met and accepted as there are segments, and none is rejected. -/
theorem scan_segments (options : ScanOptions) (image : ByteImage) (segments : List Segment)
    (final : List Word) (hmin : 1 ≤ options.minLen) (hmax : options.maxLen ≤ 255)
    (hterminator : options.requireTerminator = true)
    (hproper : ∀ s ∈ segments, s.Proper options)
    (hnext : ∀ s ∈ segments.tail, s.code.head? ≠ some Word.zero)
    (hfinal : ∀ w ∈ final, ¬ w.IsHead options)
    (hlayout : image.bytes.toList = layoutBytes segments final) :
    let places := located 0 segments
    let entries := fun policy : Policy =>
      (scan { options with policy := policy } image).toList.map fun e => (e.1.toNat, e.2)
    entries .blockAddress =
      (places.map fun q => (image.base.toNat + q.2.head q.1, q.2.name)) ∧
    entries .followsPrevious =
      (places.take 1).map (fun q => (image.base.toNat + q.2.head q.1, q.2.name)) ++
        places.tail.map (fun q => (image.base.toNat + q.1, q.2.name)) ∧
    ∀ policy, scanStats { options with policy := policy } image =
      ⟨segments.length, segments.length, 0⟩ := by
  intro places entries
  have h : IsLayout options image segments final :=
    ⟨⟨hmin, hmax, hterminator⟩, hproper, hfinal, hlayout⟩
  have hblocks : acceptedBlocks options image = places.map fun q => q.2.block q.1 :=
    h.acceptedBlocks_eq
  refine ⟨?_, ?_, fun policy => ?_⟩
  · have hentries : entries .blockAddress = _ := congrArg (List.map _) toList_scan_blockAddress
    rw [hentries, hblocks, List.map_map, List.map_map]
    refine List.map_congr_left fun q hq => ?_
    have hblock := h.isBlock_of_mem_located hq
    have hle := Nat.le_of_lt (start_lt_size_of_mem (mem_acceptedBlocks_iff.mpr hblock))
    exact congrArg (·, q.2.name) (ByteImage.toNat_addressOf hle)
  · have hentries : entries .followsPrevious = _ := toList_scan_followsPrevious
    rw [hentries, hblocks, ← List.map_take, List.map_map]
    refine congrArg (List.map _ (List.take 1 places) ++ ·) ?_
    cases segments with
    | nil => rfl
    | cons s rest =>
      have hstands : StandsAt image 0 (layoutBytes (s :: rest) final) := .of_toList_eq hlayout
      rw [layoutBytes, List.flatMap_cons, List.append_assoc] at hstands
      have hdvd : Word.size ∣ 0 + s.bytes.length :=
        Nat.dvd_add (Nat.dvd_zero _) s.size_dvd_length_bytes
      exact zipWith_skipPadding h.strict
        (fun t ht => hproper t (List.mem_cons_of_mem _ ht)) hdvd hnext hstands.right
        (Nat.dvd_zero _) hstands.left rfl
  · rw [scanStats_withPolicy hmin, h.scanStats_eq]

/-- Three segments: the second one follows without any instruction and is filled up with one more
zero word, and the null byte behind its name stands alone in its word. -/
def threeSegments : List Segment :=
  [⟨[⟨0x4f, 0xff, 0xfb, 0x82⟩], "MAIN", 0⟩, ⟨[], "LAYOUT", 1⟩,
    ⟨[⟨0x7c, 0x08, 0x02, 0xa6⟩, Word.zero], "MYFUN", 0⟩]

/-- The instruction behind the last name. -/
def threeSegmentsEnd : List Word := [⟨0x4e, 0x80, 0x00, 0x20⟩]

/-- The image that these segments make up. -/
def threeSegmentsImage : ByteImage :=
  ⟨⟨0x5000, by decide⟩, (layoutBytes threeSegments threeSegmentsEnd).toArray, by decide⟩

/-- The names of three segments are found at their places. -/
theorem scan_threeSegments :
    ((scan {} threeSegmentsImage).toList.map fun e => (e.1.toNat, e.2)) =
        [(0x5004, "MAIN"), (0x500c, "LAYOUT"), (0x501c, "MYFUN")] ∧
      scanStats {} threeSegmentsImage = ⟨3, 3, 0⟩ := by
  have hproper : ∀ s ∈ threeSegments, s.Proper {} := by decide
  obtain ⟨-, hfollows, hstats⟩ := scan_segments {} threeSegmentsImage threeSegments
    threeSegmentsEnd (by decide) (by decide) rfl hproper (by decide) (by decide) rfl
  exact ⟨hfollows, hstats .followsPrevious⟩

end NameRecovery
