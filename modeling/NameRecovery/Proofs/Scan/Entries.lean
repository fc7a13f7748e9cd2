import NameRecovery.Proofs.Scan.Growth

/-!
# The entries of a scan

A name is filed under the index of a byte of the image, and the index is a word boundary: the head
of a block, the place where the scan went on after a block, or a marker. The entries never descend,
so the addresses of the map ascend. Names that are not filed under markers never meet; under markers
several blocks may share an entry.

## Main results

* `IsBlock.length_name`, `IsBlock.visible_name` : the name of a block.
* `size_dvd_of_mem_keyed` : keys are word boundaries.
* `exists_of_mem_filed` : what a scan files.
* `scan_ascending_in_image` : the order, the place and the number of the names, for every image and
  all options.
-/

namespace NameRecovery

variable {options : ScanOptions} {image : ByteImage}

/-! ### Names -/

namespace IsBlock

variable {b : NameBlock}

/-- The name of a block has one character for each of its bytes. -/
theorem length_name (hb : IsBlock options image b) : b.name.length = b.length := by
  have hlength := congrArg List.length hb.name_eq
  rw [List.length_map, List.length_map, length_bytesBetween hb.stop_le_size] at hlength
  rw [← String.length_toList, hlength, NameBlock.length]

/-- The characters of a name are visible. -/
theorem visible_name (hb : IsBlock options image b) :
    ∀ c ∈ b.name.toList, 0x21 ≤ c.toNat ∧ c.toNat ≤ 0x7e := by
  intro c hc
  have hmem : c.toNat ∈ b.name.toList.map Char.toNat := List.mem_map_of_mem hc
  rw [hb.name_eq] at hmem
  obtain ⟨x, hx, hxc⟩ := List.mem_map.mp hmem
  have hall := (all_isNameByte_iff hb.stop_le_size).mpr hb.visible
  have hvisible : 0x21 ≤ x ∧ x ≤ 0x7e := by
    simpa [isNameByte] using List.all_eq_true.mp hall x hx
  rw [← hxc]
  exact hvisible

end IsBlock

/-! ### Addresses -/

namespace ByteImage

theorem contains_addressOf {i : Nat} (h : i < image.size) :
    image.contains (image.addressOf i) = true := by
  have haddress := toNat_addressOf (Nat.le_of_lt h)
  rw [contains, Bool.and_eq_true, decide_eq_true_iff, decide_eq_true_iff, Address.le_def,
    Address.lt_def, haddress]
  exact ⟨Nat.le_add_right _ _, Nat.add_lt_add_left h _⟩

/-- An index inside the image is found again from its address. -/
theorem offsetOf?_addressOf {i : Nat} (h : i < image.size) :
    image.offsetOf? (image.addressOf i) = some i := by
  rw [offsetOf?, if_pos (contains_addressOf h), toNat_addressOf (Nat.le_of_lt h),
    Nat.add_sub_cancel_left]

end ByteImage

/-! ### Keys -/

/-- A key is a word boundary if the head of the block is one, and so is the place where the scan
went on. -/
theorem Policy.size_dvd_of_key? {policy : Policy} {previous : Option Nat} {b : NameBlock} {key : Nat}
    (hkey : policy.key? image previous b = some key) (hb : Word.size ∣ b.start)
    (hprev : ∀ p, previous = some p → Word.size ∣ p) : Word.size ∣ key := by
  cases policy with
  | blockAddress =>
    obtain rfl := Option.some.inj hkey
    exact hb
  | followsPrevious =>
    cases previous with
    | none =>
      obtain rfl := Option.some.inj hkey
      exact hb
    | some p =>
      obtain rfl := Option.some.inj hkey
      exact hprev p rfl
  | marker word => exact ((markerBefore?_eq_some_iff hb).mp hkey).aligned

theorem size_dvd_of_mem_attributed {policy : Policy} {previous : Option Nat}
    {blocks : List NameBlock} (hblocks : ∀ b ∈ blocks, Word.size ∣ b.start)
    (hprev : ∀ p, previous = some p → Word.size ∣ p) :
    ∀ q ∈ attributed policy image previous blocks, ∀ key, q.2 = some key → Word.size ∣ key := by
  induction blocks generalizing previous with
  | nil => intro q hq; cases hq
  | cons b rest ih =>
    obtain ⟨hb, hrest⟩ := List.forall_mem_cons.mp hblocks
    intro q hq key hkey
    rcases List.mem_cons.mp hq with rfl | hq
    · exact policy.size_dvd_of_key? hkey hb hprev
    · refine ih hrest (fun p hp => ?_) q hq key hkey
      rw [← Option.some.inj hp]
      exact policy.size_dvd_resume image hb

/-- **Keys are word boundaries**, whatever the policy. -/
theorem size_dvd_of_mem_keyed {q : NameBlock × Option Nat} (hq : q ∈ keyed options image)
    {key : Nat} (hkey : q.2 = some key) : Word.size ∣ key :=
  size_dvd_of_mem_attributed (fun _ hb => (mem_acceptedBlocks_iff.mp hb).aligned)
    (fun _ hp => by cases hp) q hq key hkey

/-- Under a marker, the marker stands at every key. -/
theorem wordAt?_of_mem_keyed {word : Word} (hpolicy : options.policy = .marker word)
    {q : NameBlock × Option Nat} (hq : q ∈ keyed options image) {key : Nat}
    (hkey : q.2 = some key) : image.wordAt? key = some word := by
  rw [keyed, hpolicy, attributed_marker] at hq
  obtain ⟨b, hb, rfl⟩ := List.mem_map.mp hq
  exact ((markerBefore?_eq_some_iff (mem_acceptedBlocks_iff.mp hb).aligned).mp hkey).wordAt?_eq

/-- **What a scan files.** An entry is the name of a block under the address of a word boundary
inside the image, and under a marker the marker stands there. -/
theorem exists_of_mem_filed {e : Address × String} (he : e ∈ filed options image) :
    ∃ b key, IsBlock options image b ∧ e = (image.addressOf key, b.name) ∧ key < image.size ∧
      Word.size ∣ key ∧ ∀ word, options.policy = .marker word → image.wordAt? key = some word := by
  obtain ⟨⟨b, key?⟩, hq, hentry⟩ := List.mem_filterMap.mp he
  obtain ⟨key, rfl, rfl⟩ := Option.map_eq_some_iff.mp hentry
  exact ⟨b, key, isBlock_of_mem_keyed hq, rfl, key_lt_size_of_mem_keyed hq rfl,
    size_dvd_of_mem_keyed hq rfl, fun word hpolicy => wordAt?_of_mem_keyed hpolicy hq rfl⟩

/-- The entries of a scan are among those it files. -/
theorem mem_filed_of_mem_toList_scan {e : Address × String}
    (he : e ∈ (scan options image).toList) : e ∈ filed options image := by
  rw [scan_eq_ofList] at he
  exact NameMap.mem_of_mem_toList_ofList he

/-- The characters of the names of a scan are visible. -/
theorem visible_of_mem_scan {e : Address × String} (he : e ∈ (scan options image).toList) :
    ∀ c ∈ e.2.toList, 0x21 ≤ c.toNat ∧ c.toNat ≤ 0x7e := by
  obtain ⟨b, key, hb, rfl, -⟩ := exists_of_mem_filed (mem_filed_of_mem_toList_scan he)
  exact hb.visible_name

/-- The name of an entry of a scan stands on one line. -/
theorem newline_not_mem_scan : ∀ e ∈ (scan options image).toList, '\n' ∉ e.2.toList := by
  intro e he hmem
  obtain ⟨hlow, -⟩ := visible_of_mem_scan he '\n' hmem
  exact absurd hlow (by decide)

/-! ### The number of names -/

theorem length_keyed : (keyed options image).length = (scanStats options image).accepted := by
  have hblocks : (keyed options image).map (·.1) = acceptedBlocks options image :=
    map_fst_attributed _ _ _
  rw [scanStats_accepted, ← hblocks, List.length_map]

/-- There are at most as many names as accepted blocks. -/
theorem size_scan_le : (scan options image).size ≤ (scanStats options image).accepted := by
  rw [← length_keyed, scan_eq_ofList]
  exact Nat.le_trans (NameMap.size_ofList_le _) (List.length_filterMap_le _ _)

/-- Unless names are filed under markers, there are as many names as accepted blocks. -/
theorem size_scan_of_isForward (hpolicy : options.policy.IsForward) :
    (scan options image).size = (scanStats options image).accepted := by
  rw [NameMap.size_eq_length_toList, toList_scan_of_isForward hpolicy, List.length_map, length_keyed]

/-! ### The whole statement -/

/-- **The names of a scan come in ascending order and point into the image.** For every image and
all options, the addresses of the entries strictly ascend; each of them is the address of a word
boundary inside the image, and under a marker the marker stands there; each name has an accepted
length, at least one character, and visible characters only; and there are at most as many names as
accepted blocks, and exactly as many unless names are filed under markers. -/
theorem scan_ascending_in_image (options : ScanOptions) (image : ByteImage) :
    let names := scan options image
    let stats := scanStats options image
    (names.toList.Pairwise fun e f => e.1 < f.1) ∧
    (∀ e ∈ names.toList,
      image.contains e.1 = true ∧
      (∃ i, image.offsetOf? e.1 = some i ∧ Word.size ∣ i ∧
        ∀ word, options.policy = .marker word → image.wordAt? i = some word) ∧
      e.2 ≠ "" ∧ options.minLen ≤ e.2.length ∧ e.2.length < options.maxLen ∧
      ∀ c ∈ e.2.toList, 0x21 ≤ c.toNat ∧ c.toNat ≤ 0x7e) ∧
    (options.policy.IsForward → names.size = stats.accepted) ∧
    names.size ≤ stats.accepted := by
  intro names stats
  refine ⟨?_, fun e he => ?_, size_scan_of_isForward, size_scan_le⟩
  · have hkeys := NameMap.pairwise_keys_ofList (pairwise_filed_le options image)
    rw [← scan_eq_ofList, NameMap.keys, List.pairwise_map] at hkeys
    exact hkeys
  · obtain ⟨b, key, hb, rfl, hlt, hdvd, hmarker⟩ :=
      exists_of_mem_filed (mem_filed_of_mem_toList_scan he)
    have hlength : b.name.length = b.length := hb.length_name
    refine ⟨ByteImage.contains_addressOf hlt,
      ⟨key, ByteImage.offsetOf?_addressOf hlt, hdvd, hmarker⟩, ?_, ?_, ?_, hb.visible_name⟩
    · intro hempty
      have hpos := hb.length_pos
      rw [← hlength, show b.name = "" from hempty] at hpos
      exact absurd hpos (by decide)
    · exact hlength ▸ hb.minLen_le
    · exact hlength ▸ hb.lt_maxLen

/-- Two names filed under the code they describe, and one entry for both under their marker. -/
theorem size_scan_twoNames :
    (scan {} twoNames).size = 2 ∧
      (scan { policy := .marker Policy.defaultMarker } twoNames).size = 1 ∧
      twoNames.wordAt? 0 = some Policy.defaultMarker ∧
      ∃ i, twoNames.offsetOf? ⟨0x100c, by decide⟩ = some i ∧ Word.size ∣ i := by
  have hstats : scanStats {} twoNames = ⟨2, 2, 0⟩ := by decide +kernel
  have hmarker : (scan { policy := .marker Policy.defaultMarker } twoNames).toList =
      [(twoNames.base, "MYFUN")] := by decide +kernel
  have hmem : (⟨0x100c, by decide⟩, "MYFUN") ∈ (scan {} twoNames).toList := by decide +kernel
  obtain ⟨-, hentries, hsize, -⟩ := scan_ascending_in_image {} twoNames
  obtain ⟨-, ⟨i, hi, hdvd, -⟩, -⟩ := hentries _ hmem
  obtain ⟨-, hmarkers, -, -⟩ :=
    scan_ascending_in_image { policy := .marker Policy.defaultMarker } twoNames
  obtain ⟨-, ⟨j, hj, -, hword⟩, -⟩ := hmarkers (twoNames.base, "MYFUN") (by simp [hmarker])
  obtain rfl : 0 = j := Option.some.inj ((by decide : twoNames.offsetOf? twoNames.base = _).symm.trans hj)
  refine ⟨(hsize trivial).trans (by rw [hstats]), ?_, hword _ rfl, i, hi, hdvd⟩
  rw [NameMap.size_eq_length_toList, hmarker]
  rfl

end NameRecovery
