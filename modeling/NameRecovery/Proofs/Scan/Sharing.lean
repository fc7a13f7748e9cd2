import NameRecovery.Proofs.Scan.Coverage

/-!
# Which bytes two blocks share

Behind a block the scan goes on at the first word boundary, from the null byte that ends the block
on, where no zero word stands. If that null byte itself stands at a word boundary, and no zero word
begins there, the scan goes on at the null byte: a block that begins there shares this byte with the
block before, and a name may be filed there. This is the only way in which blocks share bytes, and
no block shares more than this one byte with another one.

## Main definitions

* `NameBlock.Occupies` : the bytes of a block, with the null byte that ends it.
* `NameBlock.Abuts` : the end of a block is a word boundary, and no zero word begins there.

## Main results

* `NameBlock.skipPadding_eq_stop_iff` : when the scan goes on at the end of a block.
* `IsBlock.occupies_both_iff` : what two blocks share.
* `sharing_exact` : where the scan goes on, what blocks share and where names are filed, for every
  image.
* `sharing_overlappingNames` : two blocks that share a byte.
-/

namespace NameRecovery

variable {options : ScanOptions} {image : ByteImage} {b c : NameBlock}

/-! ### Blocks whose end is not stepped over -/

namespace NameBlock

/-- The bytes of a block: its head, its characters, and the null byte that ends them. -/
def Occupies (b : NameBlock) (i : Nat) : Prop :=
  b.start ≤ i ∧ i ≤ b.stop

/-- The end of the block is a word boundary, and no zero word begins there. -/
structure Abuts (image : ByteImage) (b : NameBlock) : Prop where
  aligned : Word.size ∣ b.stop
  wordAt?_ne : image.wordAt? b.stop ≠ some Word.zero

/-- **The scan goes on at the end of a block** exactly when this is a word boundary where no zero
word begins. -/
theorem skipPadding_eq_stop_iff : skipPadding image b.stop = b.stop ↔ b.Abuts image := by
  obtain ⟨⟨hdvd, hle, hne⟩, hleast⟩ := isLeast_skipPadding image b.stop
  constructor
  · intro heq
    rw [heq] at hdvd hne
    exact ⟨hdvd, hne⟩
  · intro habuts
    exact Nat.le_antisymm (hleast ⟨habuts.aligned, Nat.le_refl _, habuts.wordAt?_ne⟩) hle

/-- Otherwise the scan goes on behind the end. -/
theorem stop_lt_skipPadding_iff : b.stop < skipPadding image b.stop ↔ ¬ b.Abuts image := by
  have hle := le_skipPadding image b.stop
  rw [← skipPadding_eq_stop_iff]
  omega

end NameBlock

/-! ### What blocks share -/

namespace IsBlock

/-- A block ends at or before the head of the next one. -/
theorem stop_le_start (hb : IsBlock options image b) (hc : IsBlock options image c)
    (hlt : b.start < c.start) : b.stop ≤ c.start :=
  Nat.le_trans (le_skipPadding image b.stop) (hb.skipPadding_le_start hc hlt)

/-- **Two blocks share a byte** only if the null byte that ends the first one is also the null byte
that begins the second one, and then they share no other byte. -/
theorem occupies_both_iff (hb : IsBlock options image b) (hc : IsBlock options image c)
    (hlt : b.start < c.start) {i : Nat} :
    b.Occupies i ∧ c.Occupies i ↔ i = b.stop ∧ c.start = b.stop := by
  have hle := hb.stop_le_start hc hlt
  have hb' := hb.start_lt_stop
  have hc' := hc.start_lt_stop
  simp only [NameBlock.Occupies]
  omega

/-- A block that begins at the end of another one begins with a word that is not zero. -/
theorem abuts_of_start_eq_stop (hc : IsBlock options image c) (h : c.start = b.stop) :
    b.Abuts image :=
  ⟨h ▸ hc.aligned, h ▸ hc.wordAt?_start_ne⟩

end IsBlock

/-! ### Where the next name is filed -/

/-- The key of the next block depends on where the scan went on behind the block before. -/
theorem getElem?_attributed_succ {policy : Policy} {blocks : List NameBlock}
    (previous : Option Nat) {k : Nat} (hk : blocks[k]? = some b) :
    (attributed policy image previous blocks)[k + 1]? =
      blocks[k + 1]?.map fun c => (c, policy.key? image (some (policy.resume image b)) c) := by
  induction blocks generalizing previous k with
  | nil => cases hk
  | cons x rest ih =>
    rw [attributed, List.getElem?_cons_succ, List.getElem?_cons_succ]
    cases k with
    | zero =>
      obtain rfl := Option.some.inj hk
      cases rest with
      | nil => rfl
      | cons y rest => rfl
    | succ k => exact ih _ hk

/-- The next entry lies at or behind the place where the scan went on, and exactly there if names
are filed under the code they describe. -/
theorem exists_key_of_getElem?_succ (hpolicy : options.policy.IsForward) {k : Nat}
    {e : Address × String} (hb : (acceptedBlocks options image)[k]? = some b)
    (he : (scan options image).toList[k + 1]? = some e) :
    ∃ key, e.1.toNat = image.base.toNat + key ∧ skipPadding image b.stop ≤ key ∧
      (options.policy = .followsPrevious → key = skipPadding image b.stop) := by
  rw [toList_scan_of_isForward hpolicy, List.getElem?_map, Option.map_eq_some_iff] at he
  obtain ⟨r, hr, rfl⟩ := he
  have hfst : (keyed options image).map (·.1) = acceptedBlocks options image :=
    map_fst_attributed _ _ _
  rw [← hfst, List.getElem?_map, Option.map_eq_some_iff] at hb
  obtain ⟨q, hq, rfl⟩ := hb
  obtain ⟨key, hkey, -, hlt⟩ := exists_key_of_mem_keyed hpolicy (List.mem_of_getElem? hr)
  refine ⟨key, toNat_entryOf hkey hlt, ?_, fun hfollows => ?_⟩
  · have hahead : Ahead options image none (acceptedBlocks options image) := ahead_acceptedBlocks
    have hskip := List.pairwise_iff_getElem.mp (pairwise_attributed hpolicy hahead)
    obtain ⟨hk, rfl⟩ := List.getElem?_eq_some_iff.mp hq
    obtain ⟨hk', rfl⟩ := List.getElem?_eq_some_iff.mp hr
    exact hskip k (k + 1) hk hk' (Nat.lt_succ_self k) key hkey
  · have hblock : (acceptedBlocks options image)[k]? = some q.1 := by
      rw [← hfst, List.getElem?_map, hq]
      rfl
    rw [keyed, getElem?_attributed_succ none hblock, Option.map_eq_some_iff] at hr
    obtain ⟨c, -, rfl⟩ := hr
    rw [hfollows] at hkey
    exact (Option.some.inj hkey).symm

/-! ### One step of the scan -/

/-- **Where the scan goes on.** A step that accepts a block finds it at the cursor, and goes on
where the padding behind the block ends. -/
theorem isBlock_of_advance (hpolicy : options.policy.IsForward) {cursor : Cursor}
    (hcursor : Word.size ∣ cursor.index) {key? : Option Nat}
    (h : (cursor.advance options image).1 = some (.accepted b key?)) :
    b.start = cursor.index ∧ IsBlock options image b ∧
      (cursor.advance options image).2 =
        ⟨skipPadding image b.stop, some (skipPadding image b.stop)⟩ := by
  rcases advance_cases options image hcursor with
    ⟨-, hadvance⟩ | ⟨-, -, hadvance⟩ | ⟨c, -, -, hstart, hblock, hadvance⟩
  · rw [hadvance] at h
    cases h
  · rw [hadvance] at h
    cases h
  · rw [hadvance] at h ⊢
    obtain ⟨rfl, -⟩ := Finding.accepted.inj (Option.some.inj h)
    exact ⟨hstart, hblock, by rw [hpolicy.resume_eq]⟩

/-! ### The whole statement -/

/-- **What blocks share.** For every image and all options that require a null byte behind the
characters, unless names are filed under markers: this byte stands at the end of every accepted
block. After a block is accepted the scan does not go on before the end of the block, and it goes on
behind the end unless this is a word boundary where no zero word begins. Two accepted blocks share a
byte only if the second one begins at the end of the first one, and then only this byte. The next
name is not filed before the end of a block, and it is filed behind the end unless this is a word
boundary where no zero word begins; then it is filed at the end, if names are filed under the code
they describe. So blocks share no byte if a zero word begins at the end of every block whose end is
a word boundary. -/
theorem sharing_exact (options : ScanOptions) (image : ByteImage)
    (hterminator : options.requireTerminator = true) (hpolicy : options.policy.IsForward) :
    let blocks := acceptedBlocks options image
    let names := scan options image
    (∀ b ∈ blocks, image.bytes[b.stop]? = some 0) ∧
    (∀ (cursor : Cursor) b key?, Word.size ∣ cursor.index →
      (cursor.advance options image).1 = some (.accepted b key?) →
      let next := (cursor.advance options image).2
      b.start = cursor.index ∧ next.previous = some next.index ∧ b.stop ≤ next.index ∧
        (b.stop < next.index ↔ ¬ b.Abuts image)) ∧
    (blocks.Pairwise fun b c =>
      ∀ i, b.Occupies i ∧ c.Occupies i ↔ i = b.stop ∧ c.start = b.stop) ∧
    (∀ k b e, blocks[k]? = some b → names.toList[k + 1]? = some e →
      image.base.toNat + b.stop ≤ e.1.toNat ∧
      (¬ b.Abuts image → image.base.toNat + b.stop < e.1.toNat) ∧
      (options.policy = .followsPrevious → b.Abuts image →
        e.1.toNat = image.base.toNat + b.stop)) ∧
    ((∀ b ∈ blocks, ¬ b.Abuts image) →
      blocks.Pairwise fun b c => ∀ i, ¬ (b.Occupies i ∧ c.Occupies i)) := by
  intro blocks names
  have hblock : ∀ b ∈ blocks, IsBlock options image b := fun b => mem_acceptedBlocks_iff.mp
  have hshared : blocks.Pairwise fun b c =>
      ∀ i, b.Occupies i ∧ c.Occupies i ↔ i = b.stop ∧ c.start = b.stop :=
    pairwise_acceptedBlocks.imp_of_mem fun hb hc hlt _ =>
      (hblock _ hb).occupies_both_iff (hblock _ hc) hlt
  refine ⟨fun b hb => ?_, fun cursor b key? hcursor haccepted => ?_, hshared,
    fun k b e hb he => ?_, fun hnone => ?_⟩
  · have hends := (hblock b hb).ends
    rwa [if_pos hterminator] at hends
  · obtain ⟨hstart, -, hnext⟩ := isBlock_of_advance hpolicy hcursor haccepted
    rw [hnext]
    exact ⟨hstart, rfl, le_skipPadding image b.stop, NameBlock.stop_lt_skipPadding_iff⟩
  · obtain ⟨key, hkey, hle, hfollows⟩ := exists_key_of_getElem?_succ hpolicy hb he
    have hstop := le_skipPadding image b.stop
    refine ⟨by omega, fun hnot => ?_, fun hpolicy' habuts => ?_⟩
    · have hlt := NameBlock.stop_lt_skipPadding_iff.mpr hnot
      omega
    · rw [hkey, hfollows hpolicy', NameBlock.skipPadding_eq_stop_iff.mpr habuts]
  · refine hshared.imp_of_mem fun {b c} hb hc hiff i hboth => ?_
    exact hnone b hb ((hblock c hc).abuts_of_start_eq_stop ((hiff i).mp hboth).2)

/-- Two names; the null byte that ends the first one is the null byte that begins the second one. -/
def overlappingNames : ByteImage :=
  ⟨⟨0x7000, by decide⟩,
    #[0x00, 0x06, 0x53, 0x45, 0x54, 0x55, 0x50, 0x4d,
      0x00, 0x04, 0x4d, 0x41, 0x49, 0x4e, 0x00, 0x00],
    by decide⟩

theorem acceptedBlocks_overlappingNames :
    acceptedBlocks {} overlappingNames = [⟨0, 8, "SETUPM"⟩, ⟨8, 14, "MAIN"⟩] := by
  decide +kernel

/-- **Blocks may share a byte.** The byte at index 8 belongs to two accepted blocks; the scan goes
on at the end of the first one, and files the second name there, inside the block of the first name.
-/
theorem sharing_overlappingNames :
    ¬ (∀ b ∈ acceptedBlocks {} overlappingNames,
      b.stop < ({} : ScanOptions).policy.resume overlappingNames b) ∧
    ¬ (acceptedBlocks {} overlappingNames).Pairwise
      (fun b c => ∀ i, ¬ (b.Occupies i ∧ c.Occupies i)) ∧
    (scan {} overlappingNames).toList =
      [(overlappingNames.addressOf 0, "SETUPM"), (overlappingNames.addressOf 8, "MAIN")] := by
  rw [acceptedBlocks_overlappingNames]
  refine ⟨fun hall => ?_, fun hpairwise => ?_, by decide +kernel⟩
  · exact absurd (hall _ List.mem_cons_self) (by decide +kernel)
  · have hapart := (List.pairwise_cons.mp hpairwise).1 _ List.mem_cons_self 8
    exact hapart ⟨⟨by decide, by decide⟩, by decide, by decide⟩

/-- The second name is filed at the end of the first one, where its own block begins. -/
theorem sharing_exact_overlappingNames :
    ({} : ScanOptions).requireTerminator = true ∧ ({} : ScanOptions).policy.IsForward ∧
      overlappingNames.bytes[8]? = some 0 ∧
      (∀ i, NameBlock.Occupies ⟨0, 8, "SETUPM"⟩ i ∧ NameBlock.Occupies ⟨8, 14, "MAIN"⟩ i ↔
        i = 8) ∧
      (overlappingNames.addressOf 8).toNat = 0x7000 + 8 := by
  obtain ⟨hends, -, hshared, hfiled, -⟩ := sharing_exact {} overlappingNames rfl trivial
  rw [acceptedBlocks_overlappingNames] at hends hshared hfiled
  have hlist : (scan {} overlappingNames).toList[1]? =
      some (overlappingNames.addressOf 8, "MAIN") := by decide +kernel
  have habuts : NameBlock.Abuts overlappingNames ⟨0, 8, "SETUPM"⟩ := ⟨by decide, by decide⟩
  refine ⟨rfl, trivial, hends _ List.mem_cons_self, fun i => ?_,
    (hfiled 0 _ _ rfl hlist).2.2 rfl habuts⟩
  exact ((List.pairwise_cons.mp hshared).1 _ List.mem_cons_self i).trans (and_iff_left rfl)

end NameRecovery
