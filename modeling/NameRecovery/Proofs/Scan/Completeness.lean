import NameRecovery.Proofs.Scan.Keys

/-!
# The scan misses nothing and invents nothing

The accepted blocks are the blocks of the image in ascending order, whatever the policy. If every
accepted length is positive, the rejected heads do not depend on the policy either; zero words
are heads of length zero otherwise, and only some policies jump over them.

## Main definitions

* `scanStats` : how many heads a scan meets.

## Main results

* `scanStats_accepted`, `scanStats_candidates` : what is counted.
* `scanStats_withPolicy` : the counts do not depend on the policy.
* `toList_scan_blockAddress` : the names filed under their own blocks.
* `scan_exact` : all of this for every image, every range of lengths and every policy.
-/

namespace NameRecovery

variable {options : ScanOptions} {image : ByteImage}

/-! ### Counts -/

/-- How many heads a scan meets. -/
def scanStats (options : ScanOptions) (image : ByteImage) : ScanStats :=
  .ofFindings (findings options image)

theorem scanStats_accepted :
    (scanStats options image).accepted = (acceptedBlocks options image).length := by
  rw [acceptedBlocks, List.length_filterMap_eq_countP]
  rfl

/-- Every head is accepted or rejected. -/
theorem scanStats_candidates (options : ScanOptions) (image : ByteImage) :
    (scanStats options image).candidates =
      (scanStats options image).accepted + (scanStats options image).rejected := by
  have hsplit := List.length_eq_countP_add_countP Finding.isAccepted (l := findings options image)
  simpa [scanStats, ScanStats.ofFindings] using hsplit

namespace Finding

/-- The index of the head. -/
def index : Finding → Nat
  | rejected i => i
  | accepted b _ => b.start

end Finding

/-- A zero word is no candidate if every accepted length is positive. -/
theorem not_isCandidate_of_zero (hmin : 1 ≤ options.minLen) {i : Nat}
    (hzero : image.wordAt? i = some Word.zero) : ¬ isCandidate options image i = true := by
  intro hcand
  obtain ⟨-, -, length, hbyte, hle, -⟩ := isCandidate_iff.mp hcand
  obtain ⟨-, hbyte', -⟩ := ByteImage.wordAt?_eq_some_iff.mp hzero
  obtain rfl : length = 0 := Option.some.inj (hbyte.symm.trans hbyte')
  have hlength : (0 : UInt8).toNat = 0 := rfl
  omega

theorem shownAt_index (hmin : 1 ≤ options.minLen) :
    ShownAt options image (fun f => some f.index)
      fun i => if isCandidate options image i then some i else none where
  skipped i h := if_neg h
  rejected i h _ := (if_pos h).symm
  accepted i b key? h hb := by
    rw [if_pos h, ← start_blockAt? hb]
    rfl
  jumped b hb j hj hlt hjump := by
    have hskip := Nat.lt_of_lt_of_le hjump (options.policy.resume_le_skipPadding hb)
    refine if_neg fun hcand => ?_
    exact not_isCandidate_of_zero hmin (hb.wordAt?_of_isCandidate hj hlt hskip hcand) hcand

/-- The heads that the scan meets are the candidates among all words. -/
theorem map_index_findings (hmin : 1 ≤ options.minLen) :
    (findings options image).map Finding.index =
      (wordStarts image 0).filterMap fun i =>
        if isCandidate options image i then some i else none := by
  rw [← filterMap_findings (shownAt_index hmin), List.filterMap_eq_map']

/-- The counts do not depend on the policy. -/
theorem scanStats_withPolicy (hmin : 1 ≤ options.minLen) (policy : Policy) :
    scanStats { options with policy := policy } image = scanStats options image := by
  have hcandidates : (scanStats { options with policy := policy } image).candidates =
      (scanStats options image).candidates := by
    have hmin' : 1 ≤ ({ options with policy := policy } : ScanOptions).minLen := hmin
    have hheads : (findings { options with policy := policy } image).map Finding.index =
        (findings options image).map Finding.index := by
      rw [map_index_findings hmin, map_index_findings hmin']
      rfl
    have hlength := congrArg List.length hheads
    rw [List.length_map, List.length_map] at hlength
    exact hlength
  have haccepted : (scanStats { options with policy := policy } image).accepted =
      (scanStats options image).accepted := by
    rw [scanStats_accepted, scanStats_accepted, acceptedBlocks_withPolicy]
  have hsum := scanStats_candidates { options with policy := policy } image
  have hsum' := scanStats_candidates options image
  have hrejected : (scanStats { options with policy := policy } image).rejected =
      (scanStats options image).rejected := by
    omega
  rw [ScanStats.mk.injEq]
  exact ⟨hcandidates, haccepted, hrejected⟩

/-! ### Names filed under their own blocks -/

/-- The names filed under their own blocks are listed in the order of the blocks. -/
theorem toList_scan_blockAddress :
    (scan { options with policy := .blockAddress } image).toList =
      (acceptedBlocks options image).map fun b => (image.addressOf b.start, b.name) := by
  rw [toList_scan_of_isForward (by trivial), keyed, attributed_eq_map fun _ _ => rfl,
    acceptedBlocks_withPolicy, List.map_map]
  rfl

/-! ### The whole statement -/

/-- **The scan misses nothing and invents nothing.** For every image and all options, the
accepted blocks ascend and are exactly those that the rule for blocks gives; they, and how many
they are, do not depend on the policy; filed under their own blocks, the names are listed in the
order of the blocks; every head is accepted or rejected; and if every accepted length is
positive, all counts are the same for all policies. -/
theorem scan_exact (options : ScanOptions) (image : ByteImage) :
    (acceptedBlocks options image).Pairwise (fun b c => b.start < c.start) ∧
    (∀ b, b ∈ acceptedBlocks options image ↔ IsBlock options image b) ∧
    (scanStats options image).accepted = (acceptedBlocks options image).length ∧
    (∀ policy,
      acceptedBlocks { options with policy := policy } image = acceptedBlocks options image ∧
      (scanStats { options with policy := policy } image).accepted =
        (scanStats options image).accepted) ∧
    ((scan { options with policy := .blockAddress } image).toList.map
      fun e => (e.1.toNat, e.2)) =
      ((acceptedBlocks options image).map fun b => (image.base.toNat + b.start, b.name)) ∧
    (scanStats options image).candidates =
      (scanStats options image).accepted + (scanStats options image).rejected ∧
    (1 ≤ options.minLen → ∀ policy,
      scanStats { options with policy := policy } image = scanStats options image) := by
  refine ⟨pairwise_acceptedBlocks, fun b => mem_acceptedBlocks_iff, scanStats_accepted,
    fun policy => ⟨acceptedBlocks_withPolicy policy, ?_⟩, ?_, scanStats_candidates options image,
    scanStats_withPolicy⟩
  · rw [scanStats_accepted, scanStats_accepted, acceptedBlocks_withPolicy]
  · rw [toList_scan_blockAddress, List.map_map]
    refine List.map_congr_left fun b hb => ?_
    have hle := Nat.le_of_lt (start_lt_size_of_mem hb)
    exact congrArg (·, b.name) (ByteImage.toNat_addressOf hle)

/-- A marker, two names, and an instruction behind each. -/
def twoNames : ByteImage :=
  ⟨⟨0x1000, by decide⟩,
    #[0x4f, 0xff, 0xfb, 0x82,
      0x00, 0x04, 0x4d, 0x41, 0x49, 0x4e, 0x00, 0x00,
      0x7c, 0x08, 0x02, 0xa6,
      0x00, 0x05, 0x4d, 0x59, 0x46, 0x55, 0x4e, 0x00,
      0x4e, 0x80, 0x00, 0x20],
    by decide⟩

/-- The accepted lengths begin at four, so a scan for markers counts the same heads. -/
theorem scan_twoNames_marker :
    1 ≤ ({} : ScanOptions).minLen ∧
      acceptedBlocks {} twoNames = [⟨4, 10, "MAIN"⟩, ⟨16, 23, "MYFUN"⟩] ∧
      IsBlock {} twoNames ⟨16, 23, "MYFUN"⟩ ∧
      scanStats { policy := .marker Policy.defaultMarker } twoNames = ⟨2, 2, 0⟩ := by
  have hmin : 1 ≤ ({} : ScanOptions).minLen := by decide
  have hblocks : acceptedBlocks {} twoNames = [⟨4, 10, "MAIN"⟩, ⟨16, 23, "MYFUN"⟩] := by
    decide +kernel
  have hstats : scanStats {} twoNames = ⟨2, 2, 0⟩ := by decide +kernel
  obtain ⟨-, hmem, -, -, -, -, hcounts⟩ := scan_exact {} twoNames
  refine ⟨hmin, hblocks, (hmem _).mp ?_, (hcounts hmin _).trans hstats⟩
  rw [hblocks]
  exact List.mem_cons_of_mem _ List.mem_cons_self

end NameRecovery
