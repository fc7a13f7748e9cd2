import NameRecovery.Proofs.Scan.Marker

/-!
# Images that grow

When bytes are appended to an image, every block of the image stays a block, and the block that
the end of the image cut off may become one. It begins behind all others: a block that began
before one of them and ended behind the image would hold a null byte among its characters. So the
accepted blocks of the shorter image come first, and so do the entries they give. Only the padding
behind the last block may go on, and no entry depends on it.

## Main definitions

* `ByteImage.Extends` : the base stays and bytes are appended.

## Main results

* `prefix_acceptedBlocks`, `prefix_filed` : the blocks and the entries of the shorter image come
  first.
* `pairwise_filed_le` : the entries never descend.
* `prefix_toList_scan` : the names of the shorter image come first unless they are filed under
  markers.
* `prefix_keys_scan`, `prefix_dropLast_toList_scan` : under markers, only the name of the last key
  may change.
-/

namespace NameRecovery

variable {options : ScanOptions} {image image' : ByteImage}

/-! ### Bytes and words -/

/-- The base stays, and bytes are only appended. -/
structure ByteImage.Extends (image image' : ByteImage) : Prop where
  base_eq : image.base = image'.base
  prefix_bytes : image.bytes.toList <+: image'.bytes.toList

namespace ByteImage.Extends

theorem getElem?_eq_some (h : image.Extends image') {i : Nat} {b : UInt8}
    (hb : image.bytes[i]? = some b) : image'.bytes[i]? = some b := by
  rw [← Array.getElem?_toList] at hb ⊢
  obtain ⟨more, hmore⟩ := h.prefix_bytes
  rw [← hmore, List.getElem?_append_left (List.getElem?_eq_some_iff.mp hb).1]
  exact hb

theorem size_le (h : image.Extends image') : image.size ≤ image'.size :=
  h.prefix_bytes.length_le

theorem getElem?_eq (h : image.Extends image') {i : Nat} (hi : i < image.size) :
    image'.bytes[i]? = image.bytes[i]? := by
  have hb : image.bytes[i]? = some image.bytes[i] := Array.getElem?_eq_getElem hi
  rw [hb, h.getElem?_eq_some hb]

/-- A word of the shorter image stays where it is. -/
theorem wordAt?_eq (h : image.Extends image') {i : Nat} (hi : i + Word.size ≤ image.size) :
    image'.wordAt? i = image.wordAt? i := by
  cases hw : image.wordAt? i with
  | none => exact absurd (wordAt?_eq_none_iff.mp hw) (Nat.not_lt.mpr hi)
  | some w =>
    obtain ⟨h0, h1, h2, h3⟩ := wordAt?_eq_some_iff.mp hw
    exact wordAt?_eq_some_iff.mpr ⟨h.getElem?_eq_some h0, h.getElem?_eq_some h1,
      h.getElem?_eq_some h2, h.getElem?_eq_some h3⟩

theorem addressOf_eq (h : image.Extends image') {i : Nat} (hi : i ≤ image.size) :
    image'.addressOf i = image.addressOf i := by
  refine Address.ext ?_
  rw [toNat_addressOf hi, toNat_addressOf (Nat.le_trans hi h.size_le), h.base_eq]

theorem bytesBetween_eq (h : image.Extends image') {start stop : Nat} (hstop : stop ≤ image.size) :
    bytesBetween image' start stop = bytesBetween image start stop := by
  refine List.ext_getElem? fun k => ?_
  rw [getElem?_bytesBetween hstop, getElem?_bytesBetween (Nat.le_trans hstop h.size_le)]
  split
  · exact h.getElem?_eq (by omega)
  · rfl

end ByteImage.Extends

/-! ### Blocks -/

namespace IsBlock

variable {b c : NameBlock}

/-- A block stays a block. -/
theorem of_extends (hb : IsBlock options image b) (h : image.Extends image') :
    IsBlock options image' b where
  aligned := hb.aligned
  word_le := Nat.le_trans hb.word_le h.size_le
  null := h.getElem?_eq_some hb.null
  lengthByte := by
    obtain ⟨length, hbyte, hlength⟩ := Option.map_eq_some_iff.mp hb.lengthByte
    rw [h.getElem?_eq_some hbyte, Option.map_some, hlength]
  stop_eq := hb.stop_eq
  length_pos := hb.length_pos
  minLen_le := hb.minLen_le
  lt_maxLen := hb.lt_maxLen
  visible i hi hlt := by
    obtain ⟨c, hc, hvis⟩ := hb.visible i hi hlt
    exact ⟨c, h.getElem?_eq_some hc, hvis⟩
  ends := by
    have hends := hb.ends
    by_cases hterminator : options.requireTerminator
    · rw [if_pos hterminator] at hends ⊢
      exact h.getElem?_eq_some hends
    · rw [if_neg hterminator] at hends ⊢
      exact Nat.le_trans hends h.size_le
  name_eq := by rw [h.bytesBetween_eq hb.stop_le_size, hb.name_eq]

/-- A block that ends inside the shorter image was a block of it. -/
theorem of_stop_lt (hb : IsBlock options image' b) (h : image.Extends image')
    (hstop : b.stop < image.size) : IsBlock options image b := by
  have hlt := hb.start_lt_stop
  refine ⟨hb.aligned, ?_, ?_, ?_, hb.stop_eq, hb.length_pos, hb.minLen_le, hb.lt_maxLen,
    fun i hi hlt => ?_, ?_, ?_⟩
  · simp only [Word.size]
    omega
  · rw [← h.getElem?_eq (by omega)]
    exact hb.null
  · rw [← h.getElem?_eq (by omega)]
    exact hb.lengthByte
  · rw [← h.getElem?_eq (by omega)]
    exact hb.visible i hi hlt
  · rw [← h.getElem?_eq hstop]
    have hends := hb.ends
    by_cases hterminator : options.requireTerminator
    · rw [if_pos hterminator] at hends ⊢
      exact hends
    · rw [if_neg hterminator]
      exact Nat.le_of_lt hstop
  · rw [← h.bytesBetween_eq (Nat.le_of_lt hstop)]
    exact hb.name_eq

/-- **No new block begins before an old one.** -/
theorem of_start_lt (hc : IsBlock options image' c) (h : image.Extends image')
    (hb : IsBlock options image b) (hlt : c.start < b.start) : IsBlock options image c := by
  have hskip := hc.skipPadding_le_start (hb.of_extends h) hlt
  have hpadding := le_skipPadding image' c.stop
  have hend := hb.start_lt_stop
  have hsize := hb.stop_le_size
  exact hc.of_stop_lt h (by omega)

end IsBlock

/-- In ascending lists, one of which holds the other one and nothing else before its elements,
the shorter one comes first. -/
private theorem prefix_of_pairwise {α : Type} {r : α → α → Prop} (hasymm : ∀ x y, r x y → ¬ r y x)
    {l m : List α} (hl : l.Pairwise r) (hm : m.Pairwise r) (hsub : ∀ x ∈ l, x ∈ m)
    (hdown : ∀ x ∈ m, ∀ y ∈ l, r x y → x ∈ l) : l <+: m := by
  induction l generalizing m with
  | nil => exact List.nil_prefix
  | cons y rest ih =>
    cases m with
    | nil => cases hsub y List.mem_cons_self
    | cons x more =>
      obtain ⟨hy, hrest⟩ := List.pairwise_cons.mp hl
      obtain ⟨hx, hmore⟩ := List.pairwise_cons.mp hm
      -- the first elements are the same: otherwise each of them comes before the other one
      obtain rfl : x = y := by
        by_contra hne
        have hymore := (List.mem_cons.mp (hsub y List.mem_cons_self)).resolve_left
          fun hyx => hne hyx.symm
        have hxy := hx y hymore
        have hxrest := (List.mem_cons.mp (hdown x List.mem_cons_self y List.mem_cons_self
          hxy)).resolve_left hne
        exact hasymm x y hxy (hy x hxrest)
      have hne {z : α} (hz : z ∈ rest ∨ z ∈ more) : z ≠ x := by
        rintro rfl
        have hzz : r z z := hz.elim (hy z) (hx z)
        exact hasymm z z hzz hzz
      rw [List.prefix_cons_inj]
      refine ih hrest hmore (fun z hz => ?_) fun z hz w hw hzw => ?_
      · exact (List.mem_cons.mp (hsub z (List.mem_cons_of_mem x hz))).resolve_left (hne (Or.inl hz))
      · exact (List.mem_cons.mp (hdown z (List.mem_cons_of_mem x hz) w (List.mem_cons_of_mem x hw)
          hzw)).resolve_left (hne (Or.inr hz))

/-- **The accepted blocks of the shorter image come first.** -/
theorem prefix_acceptedBlocks (options : ScanOptions) (h : image.Extends image') :
    acceptedBlocks options image <+: acceptedBlocks options image' := by
  refine prefix_of_pairwise (fun b c => Nat.lt_asymm) pairwise_acceptedBlocks
    pairwise_acceptedBlocks (fun b hb => ?_) fun c hc b hb hlt => ?_
  · exact mem_acceptedBlocks_iff.mpr ((mem_acceptedBlocks_iff.mp hb).of_extends h)
  · exact mem_acceptedBlocks_iff.mpr
      ((mem_acceptedBlocks_iff.mp hc).of_start_lt h (mem_acceptedBlocks_iff.mp hb) hlt)

/-! ### Keys and entries -/

/-- The padding between two blocks stays where it is. -/
theorem skipPadding_eq_of_extends (h : image.Extends image') {b c : NameBlock}
    (hb : IsBlock options image b) (hc : IsBlock options image c) (hlt : b.start < c.start) :
    skipPadding image' b.stop = skipPadding image b.stop := by
  have hle := hb.skipPadding_le_start hc hlt
  have hword := hc.word_le
  refine (isLeast_skipPadding image' b.stop).unique ?_
  obtain ⟨⟨hdvd, hstop, hne⟩, hleast⟩ := isLeast_skipPadding image b.stop
  refine ⟨⟨hdvd, hstop, ?_⟩, fun j hj => ?_⟩
  · rw [h.wordAt?_eq (by omega)]
    exact hne
  · obtain ⟨hj, hjstop, hjne⟩ := hj
    by_contra hjlt
    rw [h.wordAt?_eq (by omega)] at hjne
    exact hjlt (hleast ⟨hj, hjstop, hjne⟩)

/-- The nearest marker of a block stays where it is. -/
theorem markerBefore?_eq_of_extends (h : image.Extends image') (word : Word) {b : NameBlock}
    (hb : IsBlock options image b) :
    markerBefore? image' word b.start = markerBefore? image word b.start := by
  have hword := hb.word_le
  cases hj : markerBefore? image word b.start with
  | none =>
    rw [markerBefore?_eq_none_iff hb.aligned] at hj ⊢
    intro j hdvd hle
    rw [h.wordAt?_eq (by omega)]
    exact hj j hdvd hle
  | some j =>
    rw [markerBefore?_eq_some_iff hb.aligned] at hj ⊢
    refine ⟨hj.aligned, hj.le, ?_, fun k hdvd hjk hk => ?_⟩
    · rw [h.wordAt?_eq (by have := hj.le; omega)]
      exact hj.wordAt?_eq
    · rw [h.wordAt?_eq (by omega)]
      exact hj.nearest k hdvd hjk hk

theorem Policy.key?_eq_of_extends (policy : Policy) (h : image.Extends image')
    (previous : Option Nat) {b : NameBlock} (hb : IsBlock options image b) :
    policy.key? image' previous b = policy.key? image previous b := by
  cases policy with
  | followsPrevious => rfl
  | blockAddress => rfl
  | marker word => exact markerBefore?_eq_of_extends h word hb

theorem Policy.resume_eq_of_extends (policy : Policy) (h : image.Extends image')
    {b c : NameBlock} (hb : IsBlock options image b) (hc : IsBlock options image c)
    (hlt : b.start < c.start) : policy.resume image' b = policy.resume image b := by
  cases policy with
  | followsPrevious => exact skipPadding_eq_of_extends h hb hc hlt
  | blockAddress => exact skipPadding_eq_of_extends h hb hc hlt
  | marker word => rfl

/-- The keys of old blocks stay. Where the scan goes on behind the last one does not matter. -/
theorem attributed_eq_of_extends (policy : Policy) (h : image.Extends image')
    {previous : Option Nat} {blocks : List NameBlock}
    (hblocks : ∀ b ∈ blocks, IsBlock options image b)
    (hascending : blocks.Pairwise fun b c => b.start < c.start) :
    attributed policy image' previous blocks = attributed policy image previous blocks := by
  induction blocks generalizing previous with
  | nil => rfl
  | cons b rest ih =>
    obtain ⟨hb, hrest⟩ := List.forall_mem_cons.mp hblocks
    obtain ⟨hlt, hascending⟩ := List.pairwise_cons.mp hascending
    rw [attributed, attributed, policy.key?_eq_of_extends h previous hb]
    cases rest with
    | nil => rfl
    | cons c rest =>
      have hc := hrest c List.mem_cons_self
      rw [policy.resume_eq_of_extends h hb hc (hlt c List.mem_cons_self), ih hrest hascending]

/-- The keys of the first blocks do not depend on further ones. -/
theorem prefix_attributed (policy : Policy) {previous : Option Nat} {blocks more : List NameBlock}
    (h : blocks <+: more) :
    attributed policy image previous blocks <+: attributed policy image previous more := by
  induction blocks generalizing previous more with
  | nil => exact List.nil_prefix
  | cons b rest ih =>
    obtain ⟨suffix, rfl⟩ := h
    exact (List.prefix_cons_inj _).mpr (ih (List.prefix_append rest suffix))

/-- A key is the index of a byte of the image, whatever the policy. -/
theorem key_lt_size_of_mem_keyed {q : NameBlock × Option Nat} (hq : q ∈ keyed options image)
    {key : Nat} (hkey : q.2 = some key) : key < image.size := by
  have hlt := start_lt_size_of_mem (mem_acceptedBlocks_of_mem_keyed hq)
  cases hpolicy : options.policy with
  | followsPrevious =>
    obtain ⟨key', hkey', -, hlt'⟩ := exists_key_of_mem_keyed (by rw [hpolicy]; trivial) hq
    exact Option.some.inj (hkey.symm.trans hkey') ▸ hlt'
  | blockAddress =>
    obtain ⟨key', hkey', -, hlt'⟩ := exists_key_of_mem_keyed (by rw [hpolicy]; trivial) hq
    exact Option.some.inj (hkey.symm.trans hkey') ▸ hlt'
  | marker word =>
    rw [keyed, hpolicy, attributed_marker] at hq
    obtain ⟨b, hb, rfl⟩ := List.mem_map.mp hq
    have hnear := (markerBefore?_eq_some_iff (mem_acceptedBlocks_iff.mp hb).aligned).mp hkey
    exact Nat.lt_of_le_of_lt hnear.le hlt

/-- **The entries of the shorter image come first.** -/
theorem prefix_filed (options : ScanOptions) (h : image.Extends image') :
    filed options image <+: filed options image' := by
  have hkeyed : keyed options image <+: keyed options image' := by
    rw [keyed, ← attributed_eq_of_extends options.policy h
      (fun _ => mem_acceptedBlocks_iff.mp) pairwise_acceptedBlocks]
    exact prefix_attributed _ (prefix_acceptedBlocks options h)
  have hentries : filed options image = (keyed options image).filterMap (entryOf? image') := by
    refine List.filterMap_congr fun q hq => ?_
    rw [entryOf?, entryOf?]
    refine Option.map_congr fun key hkey => ?_
    rw [h.addressOf_eq (Nat.le_of_lt (key_lt_size_of_mem_keyed hq hkey))]
  rw [hentries]
  exact hkeyed.filterMap _

theorem IsNearestMarker.mono {word : Word} {i i' j j' : Nat} (hj : IsNearestMarker image word i j)
    (hj' : IsNearestMarker image word i' j') (h : i ≤ i') : j ≤ j' := by
  by_contra hlt
  exact hj'.nearest j hj.aligned (by omega) (Nat.le_trans hj.le h) hj.wordAt?_eq

/-- **The entries never descend**, whatever the policy. Several blocks may have one marker. -/
theorem pairwise_filed_le (options : ScanOptions) (image : ByteImage) :
    (filed options image).Pairwise fun e f => e.1 ≤ f.1 := by
  cases hpolicy : options.policy with
  | followsPrevious =>
    exact (pairwise_filed image (by rw [hpolicy]; trivial)).imp Nat.le_of_lt
  | blockAddress =>
    exact (pairwise_filed image (by rw [hpolicy]; trivial)).imp Nat.le_of_lt
  | marker word =>
    have hmarker : options = { options with policy := .marker word } := by rw [← hpolicy]
    rw [hmarker, filed_marker, List.pairwise_filterMap]
    refine pairwise_acceptedBlocks.imp_of_mem fun {b c} hb hc hlt e he f hf => ?_
    obtain ⟨j, hj, rfl⟩ := Option.map_eq_some_iff.mp he
    obtain ⟨k, hk, rfl⟩ := Option.map_eq_some_iff.mp hf
    have hj := (markerBefore?_eq_some_iff (mem_acceptedBlocks_iff.mp hb).aligned).mp hj
    have hk := (markerBefore?_eq_some_iff (mem_acceptedBlocks_iff.mp hc).aligned).mp hk
    have hjk := hj.mono hk (Nat.le_of_lt hlt)
    have hsize := Nat.le_of_lt (start_lt_size_of_mem hc)
    have hle := hk.le
    rw [Address.le_def, ByteImage.toNat_addressOf (by omega),
      ByteImage.toNat_addressOf (by omega)]
    omega

/-! ### Names -/

/-- **Unless they are filed under markers, the names of the shorter image come first.** -/
theorem prefix_toList_scan (hpolicy : options.policy.IsForward) (h : image.Extends image') :
    (scan options image).toList <+: (scan options image').toList := by
  rw [toList_scan_of_pairwise (pairwise_filed image hpolicy),
    toList_scan_of_pairwise (pairwise_filed image' hpolicy)]
  exact prefix_filed options h

/-- The keys of the shorter image come first, whatever the policy. -/
theorem prefix_keys_scan (options : ScanOptions) (h : image.Extends image') :
    (scan options image).keys <+: (scan options image').keys := by
  obtain ⟨more, hmore⟩ := prefix_filed options h
  rw [scan_eq_ofList, scan_eq_ofList, ← hmore]
  exact NameMap.prefix_keys_ofList _ more

/-- **Only the name of the last key may change.** A later block is filed at or behind the last
key. -/
theorem prefix_dropLast_toList_scan (options : ScanOptions) (h : image.Extends image') :
    (scan options image).toList.dropLast <+: (scan options image').toList := by
  obtain ⟨more, hmore⟩ := prefix_filed options h
  have hascending := pairwise_filed_le options image'
  rw [← hmore, List.pairwise_append] at hascending
  obtain ⟨hfiled, -, hlater⟩ := hascending
  rw [scan_eq_ofList, scan_eq_ofList, ← hmore]
  refine NameMap.prefix_toList_ofList (List.dropLast_prefix _) fun f hf e he => ?_
  have hne : (NameMap.ofList (filed options image)).toList ≠ [] :=
    List.ne_nil_of_mem (List.dropLast_subset _ hf)
  have hkeys := NameMap.pairwise_keys_ofList hfiled
  rw [NameMap.keys, ← List.dropLast_append_getLast hne, List.map_append, List.pairwise_append]
    at hkeys
  have hlast : ((NameMap.ofList (filed options image)).toList.getLast hne).1 ∈
      (filed options image).map (·.1) :=
    NameMap.mem_keys_ofList.mp (List.mem_map_of_mem (List.getLast_mem hne))
  obtain ⟨x, hx, hxlast⟩ := List.mem_map.mp hlast
  have hlt := hkeys.2.2 f.1 (List.mem_map_of_mem hf) _ (List.mem_singleton.mpr rfl)
  have hle := hlater x hx e he
  rw [hxlast] at hle
  exact Address.ne_of_lt (Nat.lt_of_lt_of_le hlt hle)

end NameRecovery
