import Mathlib.Data.List.Basic
import Mathlib.Order.Bounds.Basic
import NameRecovery.Scan.Findings

/-!
# The blocks of an image, one word at a time

Whether a block begins at an index depends on the bytes of the image and on the accepted
lengths, but not on what the scan met before. This file states that rule on the bytes
(`IsBlock`) and proves that the two tests of the scan, `isCandidate` and `blockAt?`, decide it
at every word boundary. It also says which words the scan leaves out when it goes on behind a
block: they begin with a character of the name, or they are zero, and no block begins at either.

## Main definitions

* `NameBlock.length` : the number of characters of a block.
* `IsBlock` : the rule for blocks, stated on the bytes of the image.
* `acceptedAt?` : the block at an index, by the two tests of the scan.

## Main results

* `acceptedAt?_eq_some_iff` : the two tests decide the rule.
* `IsBlock.isLeast_skipPadding` : where the scan goes on behind a block.
* `IsBlock.skipPadding_le_start` : the scan goes on at or before the head of the next block.
-/

namespace NameRecovery

variable {options : ScanOptions} {image : ByteImage}

/-! ### Words and bytes -/

namespace ByteImage

/-- A word stands at an index exactly when its four bytes do. -/
theorem wordAt?_eq_some_iff {i : Nat} {w : Word} :
    image.wordAt? i = some w ↔
      image.bytes[i]? = some w.b0 ∧ image.bytes[i + 1]? = some w.b1 ∧
        image.bytes[i + 2]? = some w.b2 ∧ image.bytes[i + 3]? = some w.b3 := by
  obtain ⟨b0, b1, b2, b3⟩ := w
  simp only [wordAt?]
  split
  · rw [Array.getElem?_eq_getElem (by omega), Array.getElem?_eq_getElem (by omega),
      Array.getElem?_eq_getElem (by omega), Array.getElem?_eq_getElem (by omega)]
    simp only [Option.some.injEq, Word.mk.injEq]
  · have hnone : image.bytes[i + 3]? = none := Array.getElem?_eq_none (by omega)
    simp [hnone]

/-- No word stands where the image ends before the word does. -/
theorem wordAt?_eq_none_iff {i : Nat} :
    image.wordAt? i = none ↔ image.size < i + Word.size := by
  simp only [wordAt?, size, Word.size]
  split
  · simp only [reduceCtorEq, false_iff]
    omega
  · simp only [true_iff]
    omega

/-- A word ends inside the image. -/
theorem le_size_of_wordAt? {i : Nat} {w : Word} (h : image.wordAt? i = some w) :
    i + Word.size ≤ image.size := by
  by_contra hlt
  rw [wordAt?_eq_none_iff.mpr (by omega)] at h
  cases h

/-- The address of an index inside the image is the base and the index. -/
theorem toNat_addressOf {i : Nat} (h : i ≤ image.size) :
    (image.addressOf i).toNat = image.base.toNat + i := by
  simp only [addressOf, Nat.min_eq_left h]

end ByteImage

theorem getElem?_bytesBetween {start stop : Nat} (hstop : stop ≤ image.size) (k : Nat) :
    (bytesBetween image start stop)[k]? =
      if k < stop - start then image.bytes[start + k]? else none := by
  have hmin : min stop image.bytes.size = stop := Nat.min_eq_left hstop
  rw [bytesBetween, Array.getElem?_toList, Array.getElem?_extract, hmin]

theorem length_bytesBetween {start stop : Nat} (hstop : stop ≤ image.size) :
    (bytesBetween image start stop).length = stop - start := by
  have hmin : min stop image.bytes.size = stop := Nat.min_eq_left hstop
  rw [bytesBetween, Array.length_toList, Array.size_extract, hmin]

/-- All bytes of a stretch are visible when the byte at each of its indices is. -/
theorem all_isNameByte_iff {start stop : Nat} (hstop : stop ≤ image.size) :
    (bytesBetween image start stop).all isNameByte = true ↔
      ∀ i, start ≤ i → i < stop → ∃ c, image.bytes[i]? = some c ∧ 0x21 ≤ c ∧ c ≤ 0x7e := by
  rw [List.all_eq_true]
  constructor
  · intro h i hi hlt
    have hsize : i < image.bytes.size := Nat.lt_of_lt_of_le hlt hstop
    refine ⟨image.bytes[i], Array.getElem?_eq_getElem hsize, ?_⟩
    have hmem : image.bytes[i] ∈ bytesBetween image start stop := by
      refine List.mem_of_getElem? (i := i - start) ?_
      rw [getElem?_bytesBetween hstop, if_pos (by omega), Nat.add_sub_cancel' hi]
      exact Array.getElem?_eq_getElem hsize
    simpa [isNameByte] using h _ hmem
  · intro h c hc
    obtain ⟨k, hk⟩ := List.mem_iff_getElem?.mp hc
    rw [getElem?_bytesBetween hstop] at hk
    split at hk
    · next hlt =>
      obtain ⟨c', hc', hvis⟩ := h (start + k) (Nat.le_add_right _ _) (by omega)
      obtain rfl : c = c' := Option.some.inj (hk.symm.trans hc')
      simpa [isNameByte] using hvis
    · cases hk

/-! ### The text of a name -/

theorem toNat_ofNat_toNat (b : UInt8) : (Char.ofNat b.toNat).toNat = b.toNat := by
  have hb : b.toNat.isValidChar := Or.inl (Nat.lt_trans b.toNat_lt (by decide))
  rw [Char.ofNat, dif_pos hb]
  rfl

/-- The characters of a name are the bytes it was read from. -/
theorem map_toNat_nameText (bytes : List UInt8) :
    (nameText bytes).toList.map Char.toNat = bytes.map UInt8.toNat := by
  rw [nameText, String.toList_ofList, List.map_map]
  exact List.map_congr_left fun b _ => toNat_ofNat_toNat b

/-- Texts with the same characters are equal. -/
theorem eq_of_map_toNat_eq {s t : String}
    (h : s.toList.map Char.toNat = t.toList.map Char.toNat) : s = t := by
  have hinj : Function.Injective Char.toNat := fun c d hcd => Char.toNat_inj.mp hcd
  exact String.toList_inj.mp (hinj.list_map h)

/-! ### The rule for blocks -/

/-- The number of characters of a block. -/
def NameBlock.length (b : NameBlock) : Nat :=
  b.stop - (b.start + 2)

/-- **The rule for blocks.** At a word boundary stand a null byte, a length byte in the accepted
range, and that many visible characters. A null byte follows them if a terminator is required,
and otherwise the image reaches as far as they do. -/
structure IsBlock (options : ScanOptions) (image : ByteImage) (b : NameBlock) : Prop where
  aligned : Word.size ∣ b.start
  word_le : b.start + Word.size ≤ image.size
  null : image.bytes[b.start]? = some 0
  lengthByte : (image.bytes[b.start + 1]?).map UInt8.toNat = some b.length
  stop_eq : b.stop = b.start + 2 + b.length
  length_pos : 1 ≤ b.length
  minLen_le : options.minLen ≤ b.length
  lt_maxLen : b.length < options.maxLen
  visible : ∀ i, b.start + 2 ≤ i → i < b.stop →
    ∃ c, image.bytes[i]? = some c ∧ 0x21 ≤ c ∧ c ≤ 0x7e
  ends : if options.requireTerminator then image.bytes[b.stop]? = some 0
    else b.stop ≤ image.size
  name_eq : b.name.toList.map Char.toNat =
    (bytesBetween image (b.start + 2) b.stop).map UInt8.toNat

/-- The block that the two tests of the scan find at an index. -/
def acceptedAt? (options : ScanOptions) (image : ByteImage) (i : Nat) : Option NameBlock :=
  if isCandidate options image i then blockAt? options image i else none

/-- The first test looks at the null byte and at the length byte of a full word. -/
theorem isCandidate_iff {i : Nat} :
    isCandidate options image i = true ↔
      i + Word.size ≤ image.size ∧ image.bytes[i]? = some 0 ∧
        ∃ length, image.bytes[i + 1]? = some length ∧ options.minLen ≤ length.toNat ∧
          length.toNat < options.maxLen := by
  simp only [isCandidate]
  cases hw : image.wordAt? i with
  | none =>
    have hlt := ByteImage.wordAt?_eq_none_iff.mp hw
    simp only [Bool.false_eq_true, false_iff]
    rintro ⟨hle, -⟩
    omega
  | some w =>
    obtain ⟨h0, h1, -⟩ := ByteImage.wordAt?_eq_some_iff.mp hw
    simp [h0, h1, ByteImage.le_size_of_wordAt? hw, and_assoc]

theorem endsAt_iff {stop : Nat} :
    endsAt options image stop = true ↔
      if options.requireTerminator then image.bytes[stop]? = some 0 else stop ≤ image.size := by
  rw [endsAt]
  split <;> simp

/-- Characters that end properly end inside the image. -/
theorem le_size_of_endsAt {stop : Nat} (h : endsAt options image stop = true) :
    stop ≤ image.size := by
  rw [endsAt_iff] at h
  split at h
  · obtain ⟨hlt, -⟩ := Array.getElem?_eq_some_iff.mp h
    exact Nat.le_of_lt hlt
  · exact h

/-- The second test looks at the characters and at what follows them. -/
theorem blockAt?_eq_some_iff {i : Nat} {b : NameBlock} :
    blockAt? options image i = some b ↔
      ∃ length, image.bytes[i + 1]? = some length ∧ 1 ≤ length.toNat ∧
        (∀ j, i + 2 ≤ j → j < i + 2 + length.toNat →
          ∃ c, image.bytes[j]? = some c ∧ 0x21 ≤ c ∧ c ≤ 0x7e) ∧
        endsAt options image (i + 2 + length.toNat) = true ∧
        b = ⟨i, i + 2 + length.toNat,
          nameText (bytesBetween image (i + 2) (i + 2 + length.toNat))⟩ := by
  simp only [blockAt?]
  cases hlen : image.bytes[i + 1]? with
  | none => simp
  | some length =>
    simp only [Option.some.injEq, exists_eq_left', Bool.and_eq_true, Bool.not_eq_true',
      List.isEmpty_eq_false_iff]
    constructor
    · intro h
      split at h
      · next hcond =>
        obtain ⟨⟨hends, hne⟩, hall⟩ := hcond
        have hstop := le_size_of_endsAt hends
        have hpos := List.length_pos_iff.mpr hne
        rw [length_bytesBetween hstop] at hpos
        exact ⟨by omega, (all_isNameByte_iff hstop).mp hall, hends, (Option.some.inj h).symm⟩
      · cases h
    · rintro ⟨hpos, hvis, hends, rfl⟩
      have hstop := le_size_of_endsAt hends
      have hne : bytesBetween image (i + 2) (i + 2 + length.toNat) ≠ [] := by
        rw [← List.length_pos_iff, length_bytesBetween hstop]
        omega
      rw [if_pos ⟨⟨hends, hne⟩, (all_isNameByte_iff hstop).mpr hvis⟩]

/-- **The two tests decide the rule.** At a word boundary the scan accepts the block that the
rule gives, and none where the rule gives none. -/
theorem acceptedAt?_eq_some_iff {i : Nat} (hi : Word.size ∣ i) {b : NameBlock} :
    acceptedAt? options image i = some b ↔ b.start = i ∧ IsBlock options image b := by
  simp only [acceptedAt?]
  constructor
  · intro h
    split at h
    · next hcand =>
      obtain ⟨hword, hnull, length, hbyte, hmin, hmax⟩ := isCandidate_iff.mp hcand
      obtain ⟨length', hbyte', hpos, hvis, hends, rfl⟩ := blockAt?_eq_some_iff.mp h
      obtain rfl : length = length' := Option.some.inj (hbyte.symm.trans hbyte')
      have hlength : i + 2 + length.toNat - (i + 2) = length.toNat := Nat.add_sub_cancel_left ..
      refine ⟨rfl, hi, hword, hnull, ?_, ?_, ?_, ?_, ?_, hvis, endsAt_iff.mp hends,
        map_toNat_nameText _⟩
      all_goals simp only [NameBlock.length, hlength]
      · rw [hbyte, Option.map_some]
      · exact hpos
      · exact hmin
      · exact hmax
    · cases h
  · rintro ⟨rfl, h⟩
    obtain ⟨length, hbyte, hlength⟩ := Option.map_eq_some_iff.mp h.lengthByte
    have hstop : b.stop = b.start + 2 + length.toNat := hlength ▸ h.stop_eq
    have hcand : isCandidate options image b.start = true :=
      isCandidate_iff.mpr ⟨h.word_le, h.null, length, hbyte, hlength ▸ h.minLen_le,
        hlength ▸ h.lt_maxLen⟩
    rw [if_pos hcand, blockAt?_eq_some_iff]
    refine ⟨length, hbyte, hlength ▸ h.length_pos, hstop ▸ h.visible,
      hstop ▸ endsAt_iff.mpr h.ends, ?_⟩
    have hname : b.name = nameText (bytesBetween image (b.start + 2) b.stop) :=
      eq_of_map_toNat_eq (h.name_eq.trans (map_toNat_nameText _).symm)
    rw [← hstop, ← hname]

namespace IsBlock

variable {b : NameBlock}

theorem start_lt_stop (hb : IsBlock options image b) : b.start + 2 < b.stop := by
  have := hb.length_pos
  have := hb.stop_eq
  omega

theorem stop_le_size (hb : IsBlock options image b) : b.stop ≤ image.size :=
  le_size_of_endsAt (endsAt_iff.mpr hb.ends)

end IsBlock

/-! ### Where the scan goes on -/

/-- The zeros behind a block end at the first word boundary where no zero word stands. -/
theorem isLeast_skipZeros (image : ByteImage) {pos : Nat} (hpos : Word.size ∣ pos) :
    IsLeast {j | Word.size ∣ j ∧ pos ≤ j ∧ image.wordAt? j ≠ some Word.zero}
      (skipZeros image pos) := by
  fun_induction skipZeros image pos with
  | case1 pos h ih =>
    obtain ⟨⟨hdvd, hle, hne⟩, hleast⟩ := ih (Nat.dvd_add hpos (Nat.dvd_refl _))
    refine ⟨⟨hdvd, by omega, hne⟩, ?_⟩
    rintro j ⟨hj, hpj, hjne⟩
    -- the zero word at `pos` is not the one looked for, so `j` is at least a word further
    have hjpos : j ≠ pos := fun hj => hjne (hj ▸ h.2)
    refine hleast ⟨hj, ?_, hjne⟩
    simp only [Word.size] at hj hpos ⊢
    omega
  | case2 pos h =>
    refine ⟨⟨hpos, Nat.le_refl _, fun hzero => h ⟨?_, hzero⟩⟩, fun j hj => hj.2.1⟩
    have := ByteImage.le_size_of_wordAt? hzero
    simp only [Word.size] at this
    omega

/-- Behind a block the scan goes on at the first word boundary, from the end of the block on,
where no zero word stands. -/
theorem isLeast_skipPadding (image : ByteImage) (stop : Nat) :
    IsLeast {j | Word.size ∣ j ∧ stop ≤ j ∧ image.wordAt? j ≠ some Word.zero}
      (skipPadding image stop) := by
  obtain ⟨⟨hdvd, hle, hne⟩, hleast⟩ :=
    isLeast_skipZeros image (Word.size_dvd_alignUp stop)
  refine ⟨⟨hdvd, Nat.le_trans (Word.le_alignUp stop) hle, hne⟩, ?_⟩
  rintro j ⟨hj, hstop, hjne⟩
  refine hleast ⟨hj, ?_, hjne⟩
  have hlt := Word.alignUp_lt stop
  have hdvd' := Word.size_dvd_alignUp stop
  simp only [Word.size] at hj hlt hdvd'
  omega

/-- A word boundary that the scan leaves out behind a block lies before the end of the block or
holds a zero word. -/
theorem lt_or_wordAt?_of_lt_skipPadding {stop j : Nat} (hj : Word.size ∣ j)
    (h : j < skipPadding image stop) : j < stop ∨ image.wordAt? j = some Word.zero := by
  by_contra hnot
  rw [not_or, Nat.not_lt] at hnot
  exact absurd ((isLeast_skipPadding image stop).2 ⟨hj, hnot⟩) (Nat.not_le.mpr h)

namespace IsBlock

variable {b c : NameBlock}

/-- No candidate stands at a word boundary inside a block: a character stands there. -/
theorem not_isCandidate_of_lt_stop (hb : IsBlock options image b) {j : Nat}
    (hj : Word.size ∣ j) (hlt : b.start < j) (hstop : j < b.stop) :
    ¬ isCandidate options image j = true := by
  intro hcand
  obtain ⟨-, hnull, -⟩ := isCandidate_iff.mp hcand
  have hdvd := hb.aligned
  simp only [Word.size] at hj hdvd
  obtain ⟨c, hc, hvis, -⟩ := hb.visible j (by omega) hstop
  obtain rfl : 0 = c := Option.some.inj (hnull.symm.trans hc)
  exact absurd hvis (by decide)

/-- A candidate that the scan leaves out behind a block is a zero word. -/
theorem wordAt?_of_isCandidate (hb : IsBlock options image b) {j : Nat} (hj : Word.size ∣ j)
    (hlt : b.start < j) (hskip : j < skipPadding image b.stop)
    (hcand : isCandidate options image j = true) : image.wordAt? j = some Word.zero :=
  (lt_or_wordAt?_of_lt_skipPadding hj hskip).resolve_left fun hstop =>
    hb.not_isCandidate_of_lt_stop hj hlt hstop hcand

/-- No block begins with a zero word. -/
theorem wordAt?_start_ne (hb : IsBlock options image b) :
    image.wordAt? b.start ≠ some Word.zero := by
  intro hzero
  obtain ⟨-, hbyte, -⟩ := ByteImage.wordAt?_eq_some_iff.mp hzero
  have hlength := hb.lengthByte
  rw [hbyte] at hlength
  have := hb.length_pos
  simp [Word.zero] at hlength
  omega

/-- The scan goes on at or before the head of the next block. -/
theorem skipPadding_le_start (hb : IsBlock options image b) (hc : IsBlock options image c)
    (hlt : b.start < c.start) : skipPadding image b.stop ≤ c.start := by
  by_contra hskip
  have haccepted := (acceptedAt?_eq_some_iff hc.aligned).mpr ⟨rfl, hc⟩
  have hcand : isCandidate options image c.start = true := by
    by_contra hnot
    rw [acceptedAt?, if_neg hnot] at haccepted
    cases haccepted
  exact hc.wordAt?_start_ne (hb.wordAt?_of_isCandidate hc.aligned hlt (by omega) hcand)

end IsBlock

end NameRecovery
