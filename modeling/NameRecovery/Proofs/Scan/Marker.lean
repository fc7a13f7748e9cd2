import NameRecovery.Proofs.Scan.Coverage

/-!
# Names filed under markers

A name is filed under the nearest marker at or before its block, and several blocks may share one
marker: the last of them keeps it. The backward search of the scan is compared with the relation
`IsNearestMarker` on word boundaries, and the names of a scan are read off that relation.

## Main definitions

* `IsNearestMarker` : the nearest word boundary at or before an index that holds a given word.

## Main results

* `markerBefore?_eq_some_iff`, `markerBefore?_eq_none_iff` : what the backward search finds.
* `IsNearestMarker.unique` : the nearest marker is unique.
* `get?_scan_marker_eq_some_iff` : the name of a marker is that of its last block.
* `marker_exact` : which markers are named, and how, for every image and every marker.
-/

namespace NameRecovery

variable {options : ScanOptions} {image : ByteImage} {word : Word}

/-! ### The nearest marker -/

/-- The nearest word boundary at or before `i` that holds `word`. -/
structure IsNearestMarker (image : ByteImage) (word : Word) (i j : Nat) : Prop where
  aligned : Word.size ∣ j
  le : j ≤ i
  wordAt?_eq : image.wordAt? j = some word
  nearest : ∀ k, Word.size ∣ k → j < k → k ≤ i → image.wordAt? k ≠ some word

theorem IsNearestMarker.unique {i j k : Nat} (hj : IsNearestMarker image word i j)
    (hk : IsNearestMarker image word i k) : j = k := by
  rcases Nat.lt_trichotomy j k with hlt | heq | hlt
  · exact absurd hk.wordAt?_eq (hj.nearest k hk.aligned hlt hk.le)
  · exact heq
  · exact absurd hj.wordAt?_eq (hk.nearest j hj.aligned hlt hj.le)

/-- The search meets the word boundaries at or before `i`, the nearest one first. -/
theorem markerBefore?_spec (image : ByteImage) (word : Word) {i : Nat} (hi : Word.size ∣ i) :
    (∃ j, markerBefore? image word i = some j ∧ IsNearestMarker image word i j) ∨
      markerBefore? image word i = none ∧
        ∀ j, Word.size ∣ j → j ≤ i → image.wordAt? j ≠ some word := by
  fun_induction markerBefore? image word i with
  | case1 i hword =>
    refine Or.inl ⟨i, rfl, hi, Nat.le_refl _, hword, fun k _ hlt hle => ?_⟩
    exact absurd hlt (Nat.not_lt.mpr hle)
  | case2 i hword hle ih =>
    -- a word boundary at or before `i` is `i` itself or lies at or before the one before it
    have hback {k : Nat} (hk : Word.size ∣ k) (hki : k ≤ i) : k = i ∨ k ≤ i - Word.size := by
      simp only [Word.size] at hi hk hle ⊢
      omega
    rcases ih (Nat.dvd_sub hi (Nat.dvd_refl _)) with ⟨j, hj, hnear⟩ | ⟨hnone, hall⟩
    · refine Or.inl ⟨j, hj, hnear.aligned, Nat.le_trans hnear.le (Nat.sub_le _ _),
        hnear.wordAt?_eq, fun k hk hjk hki => ?_⟩
      rcases hback hk hki with rfl | hki
      · exact hword
      · exact hnear.nearest k hk hjk hki
    · refine Or.inr ⟨hnone, fun k hk hki => ?_⟩
      rcases hback hk hki with rfl | hki
      · exact hword
      · exact hall k hk hki
  | case3 i hword hlt =>
    refine Or.inr ⟨rfl, fun k hk hki => ?_⟩
    obtain rfl : k = i := by
      simp only [Word.size] at hi hk hlt
      omega
    exact hword

theorem markerBefore?_eq_some_iff {i j : Nat} (hi : Word.size ∣ i) :
    markerBefore? image word i = some j ↔ IsNearestMarker image word i j := by
  rcases markerBefore?_spec image word hi with ⟨k, hk, hnear⟩ | ⟨hnone, hall⟩
  · rw [hk, Option.some.injEq]
    constructor
    · rintro rfl
      exact hnear
    · exact hnear.unique
  · rw [hnone]
    simp only [reduceCtorEq, false_iff]
    exact fun hj => hall j hj.aligned hj.le hj.wordAt?_eq

theorem markerBefore?_eq_none_iff {i : Nat} (hi : Word.size ∣ i) :
    markerBefore? image word i = none ↔
      ∀ j, Word.size ∣ j → j ≤ i → image.wordAt? j ≠ some word := by
  rcases markerBefore?_spec image word hi with ⟨k, hk, hnear⟩ | ⟨hnone, hall⟩
  · rw [hk]
    simp only [reduceCtorEq, false_iff]
    exact fun hall => hall k hnear.aligned hnear.le hnear.wordAt?_eq
  · exact ⟨fun _ => hall, fun _ => hnone⟩

/-! ### Entries -/

theorem attributed_marker (previous : Option Nat) (blocks : List NameBlock) :
    attributed (.marker word) image previous blocks =
      blocks.map fun b => (b, markerBefore? image word b.start) :=
  attributed_eq_map (fun _ _ => rfl) previous blocks

/-- The entry that a block gives under a marker. -/
def markerFiling? (image : ByteImage) (word : Word) (b : NameBlock) :
    Option (Address × String) :=
  (markerBefore? image word b.start).map fun j => (image.addressOf j, b.name)

theorem filed_marker :
    filed { options with policy := .marker word } image =
      (acceptedBlocks options image).filterMap (markerFiling? image word) := by
  rw [filed, attributed_marker, acceptedBlocks_withPolicy, List.filterMap_map]
  rfl

/-- A block gives an entry for an address exactly when its nearest marker is there. -/
theorem markerFiling?_filter_eq_some_iff {b : NameBlock} (hb : IsBlock options image b)
    {a : Address} {e : Address × String} :
    (markerFiling? image word b).filter (fun e => e.1 = a) = some e ↔
      (∃ j, IsNearestMarker image word b.start j ∧ a.toNat = image.base.toNat + j) ∧
        e = (a, b.name) := by
  have haddress {j : Nat} (hj : IsNearestMarker image word b.start j) :
      (image.addressOf j).toNat = image.base.toNat + j := by
    have hlt := start_lt_size_of_mem (mem_acceptedBlocks_iff.mpr hb)
    exact ByteImage.toNat_addressOf (Nat.le_trans hj.le (Nat.le_of_lt hlt))
  rw [Option.filter_eq_some_iff, markerFiling?, Option.map_eq_some_iff]
  constructor
  · rintro ⟨⟨j, hj, rfl⟩, heq⟩
    obtain rfl : image.addressOf j = a := of_decide_eq_true heq
    have hnear := (markerBefore?_eq_some_iff hb.aligned).mp hj
    exact ⟨⟨j, hnear, haddress hnear⟩, rfl⟩
  · rintro ⟨⟨j, hnear, ha⟩, rfl⟩
    have heq : image.addressOf j = a := Address.ext ((haddress hnear).trans ha.symm)
    exact ⟨⟨j, (markerBefore?_eq_some_iff hb.aligned).mpr hnear, by rw [heq]⟩,
      decide_eq_true rfl⟩

/-- A marker is named if it is the nearest one of some block. -/
theorem mem_keys_scan_marker_iff {a : Address} :
    a ∈ (scan { options with policy := .marker word } image).keys ↔
      ∃ j, a.toNat = image.base.toNat + j ∧
        ∃ b ∈ acceptedBlocks options image, IsNearestMarker image word b.start j := by
  rw [scan_eq_ofList, filed_marker, NameMap.mem_keys_ofList, List.mem_map]
  constructor
  · rintro ⟨e, he, rfl⟩
    obtain ⟨b, hb, hentry⟩ := List.mem_filterMap.mp he
    have hfilter : (markerFiling? image word b).filter (fun f => f.1 = e.1) = some e :=
      Option.filter_eq_some_iff.mpr ⟨hentry, decide_eq_true rfl⟩
    obtain ⟨⟨j, hnear, haj⟩, -⟩ :=
      (markerFiling?_filter_eq_some_iff (mem_acceptedBlocks_iff.mp hb)).mp hfilter
    exact ⟨j, haj, b, hb, hnear⟩
  · rintro ⟨j, haj, b, hb, hnear⟩
    have hfilter := (markerFiling?_filter_eq_some_iff (mem_acceptedBlocks_iff.mp hb)).mpr
      ⟨⟨j, hnear, haj⟩, rfl⟩
    exact ⟨(a, b.name), List.mem_filterMap.mpr ⟨b, hb, (Option.filter_eq_some_iff.mp hfilter).1⟩,
      rfl⟩

/-- The last value of a partial function on a list. -/
private theorem getLast?_filterMap_eq_some_iff {α β : Type} {f : α → Option β} {l : List α}
    {y : β} :
    (l.filterMap f).getLast? = some y ↔
      ∃ pre x post, l = pre ++ x :: post ∧ f x = some y ∧ ∀ z ∈ post, f z = none := by
  rw [List.getLast?_filterMap, List.findSome?_eq_some_iff]
  constructor
  · rintro ⟨post, x, pre, hsplit, hx, hnone⟩
    refine ⟨pre.reverse, x, post.reverse, ?_, hx, fun z hz => hnone z (List.mem_reverse.mp hz)⟩
    rw [← List.reverse_reverse l, hsplit]
    simp
  · rintro ⟨pre, x, post, rfl, hx, hnone⟩
    exact ⟨post.reverse, x, pre.reverse, by simp, hx,
      fun z hz => hnone z (List.mem_reverse.mp hz)⟩

/-- **The name of a marker is that of its last block.** -/
theorem get?_scan_marker_eq_some_iff {a : Address} {name : String} :
    (scan { options with policy := .marker word } image).get? a = some name ↔
      ∃ j pre b post, a.toNat = image.base.toNat + j ∧
        acceptedBlocks options image = pre ++ b :: post ∧
        IsNearestMarker image word b.start j ∧
        (∀ c ∈ post, ¬ IsNearestMarker image word c.start j) ∧ b.name = name := by
  have hblock {b : NameBlock} (hb : b ∈ acceptedBlocks options image) (e : Address × String) :
      (markerFiling? image word b).filter (fun e => e.1 = a) = some e ↔
        (∃ j, IsNearestMarker image word b.start j ∧ a.toNat = image.base.toNat + j) ∧
          e = (a, b.name) :=
    markerFiling?_filter_eq_some_iff (mem_acceptedBlocks_iff.mp hb)
  rw [scan_eq_ofList, filed_marker, NameMap.get?_ofList, List.filter_filterMap,
    Option.map_eq_some_iff]
  simp only [getLast?_filterMap_eq_some_iff]
  constructor
  · rintro ⟨e, ⟨pre, b, post, hlist, hentry, hnone⟩, rfl⟩
    obtain ⟨⟨j, hnear, ha⟩, rfl⟩ := (hblock (by simp [hlist]) e).mp hentry
    refine ⟨j, pre, b, post, ha, hlist, hnear, fun c hc hcnear => ?_, rfl⟩
    have hcentry := (hblock (b := c) (by simp [hlist, hc]) _).mpr ⟨⟨j, hcnear, ha⟩, rfl⟩
    rw [hnone c hc] at hcentry
    cases hcentry
  · rintro ⟨j, pre, b, post, ha, hlist, hnear, hlast, rfl⟩
    have hentry := (hblock (b := b) (by simp [hlist]) _).mpr ⟨⟨j, hnear, ha⟩, rfl⟩
    refine ⟨(a, b.name), ⟨pre, b, post, hlist, hentry, fun c hc => ?_⟩, rfl⟩
    rw [Option.eq_none_iff_forall_ne_some]
    intro e he
    obtain ⟨⟨k, hcnear, hka⟩, -⟩ := (hblock (by simp [hlist, hc]) e).mp he
    obtain rfl : k = j := by omega
    exact hlast c hc hcnear

/-! ### What a block contributes -/

/-- Filing a finding changes no map exactly when it has no key. -/
theorem fileName_accepted_eq_iff {b : NameBlock} {key? : Option Nat} :
    (∀ m, fileName image m (.accepted b key?) = m) ↔ key? = none := by
  constructor
  · intro h
    cases key? with
    | none => rfl
    | some key =>
      have hempty : (NameMap.insert {} (image.addressOf key) b.name).toList = [] :=
        congrArg NameMap.toList (h {})
      rw [NameMap.toList_insert_of_not_mem (List.not_mem_nil)] at hempty
      cases hempty
  · rintro rfl m
    rfl

/-- Under a marker, the key of an accepted block is its nearest marker. -/
theorem key?_of_mem_findings_marker {b : NameBlock} {key? : Option Nat}
    (h : .accepted b key? ∈ findings { options with policy := .marker word } image) :
    b ∈ acceptedBlocks options image ∧ key? = markerBefore? image word b.start := by
  have hmem : (b, key?) ∈ (findings { options with policy := .marker word } image).filterMap
      Finding.attribution? := List.mem_filterMap.mpr ⟨_, h, rfl⟩
  rw [filterMap_attribution?, attributed_marker, acceptedBlocks_withPolicy] at hmem
  obtain ⟨c, hc, heq⟩ := List.mem_map.mp hmem
  obtain ⟨rfl, rfl⟩ := Prod.mk.inj heq
  exact ⟨hc, rfl⟩

/-! ### The whole statement -/

/-- **Names are filed under the nearest marker, and the last block of a marker names it.** For
every image, every marker and all options, an address is named exactly when the marker stands at
its index and some accepted block has no marker nearer to it; its name is that of the last such
block; and an accepted block adds nothing exactly when no word boundary at or before its head
holds the marker. -/
theorem marker_exact (options : ScanOptions) (word : Word) (image : ByteImage) :
    let blocks := acceptedBlocks { options with policy := .marker word } image
    let names := scan { options with policy := .marker word } image
    (∀ a, a ∈ names.keys ↔
      ∃ j, a.toNat = image.base.toNat + j ∧ Word.size ∣ j ∧ image.wordAt? j = some word ∧
        ∃ b ∈ blocks, Word.size ∣ b.start ∧ j ≤ b.start ∧
          ∀ k, Word.size ∣ k → j < k → k ≤ b.start → image.wordAt? k ≠ some word) ∧
    (∀ a name, names.get? a = some name ↔
      ∃ j pre b post, a.toNat = image.base.toNat + j ∧ blocks = pre ++ b :: post ∧
        IsNearestMarker image word b.start j ∧
        (∀ c ∈ post, ¬ IsNearestMarker image word c.start j) ∧ b.name = name) ∧
    (∀ b key?, .accepted b key? ∈ findings { options with policy := .marker word } image →
      ((∀ m, fileName image m (.accepted b key?) = m) ↔
        ∀ j, Word.size ∣ j → j ≤ b.start → image.wordAt? j ≠ some word)) := by
  intro blocks names
  have hblocks : blocks = acceptedBlocks options image := acceptedBlocks_withPolicy _
  rw [hblocks]
  refine ⟨fun a => ?_, fun a name => get?_scan_marker_eq_some_iff, fun b key? h => ?_⟩
  · rw [mem_keys_scan_marker_iff]
    constructor
    · rintro ⟨j, haj, b, hb, hnear⟩
      exact ⟨j, haj, hnear.aligned, hnear.wordAt?_eq, b, hb,
        (mem_acceptedBlocks_iff.mp hb).aligned, hnear.le, hnear.nearest⟩
    · rintro ⟨j, haj, hj, hword, b, hb, -, hle, hnearest⟩
      exact ⟨j, haj, b, hb, hj, hle, hword, hnearest⟩
  · obtain ⟨hmem, rfl⟩ := key?_of_mem_findings_marker h
    rw [fileName_accepted_eq_iff,
      markerBefore?_eq_none_iff (mem_acceptedBlocks_iff.mp hmem).aligned]

/-- Both names lie behind the one marker, and the second name replaces the first. -/
theorem scan_twoNames_sharedMarker :
    let options : ScanOptions := { policy := .marker Policy.defaultMarker }
    (scan options twoNames).toList = [(twoNames.base, "MYFUN")] ∧
      .accepted ⟨4, 10, "MAIN"⟩ (some 0) ∈ findings options twoNames ∧
      ¬ ∀ m, fileName twoNames m (.accepted ⟨4, 10, "MAIN"⟩ (some 0)) = m := by
  intro options
  have hmem : .accepted ⟨4, 10, "MAIN"⟩ (some 0) ∈ findings options twoNames := by
    decide +kernel
  obtain ⟨-, -, hnone⟩ := marker_exact {} Policy.defaultMarker twoNames
  refine ⟨by decide +kernel, hmem, fun hsame => ?_⟩
  exact (hnone _ _ hmem).mp hsame 0 (Nat.dvd_zero _) (Nat.zero_le _) (by decide)

end NameRecovery
