import NameRecovery.Proofs.Scan.Marker

/-!
# Looser scans

A scan with a wider range of lengths, or without the null byte behind the characters, accepts more
blocks. A further block moves the cursor and becomes the predecessor of later names, so the two
scans soon stand at different places. But whether a block is accepted depends on its own bytes only,
so every block of the stricter scan is found again, with the same name. Under markers no key is
lost, and inside a block the nearest name is that of the block in both scans, although the names may
be filed at different places.

## Main definitions

* `Loosened` : when options are looser than others.

## Main results

* `Loosened.isBlock`, `Loosened.sublist_acceptedBlocks` : no block is lost.
* `Loosened.keys_subset` : no marker loses its name.
* `loosening_exact` : all of this for every image.
-/

namespace NameRecovery

variable {strict loose : ScanOptions} {image : ByteImage}

/-- The options `loose` file names as `strict` does, accept at least its lengths, and require a null
byte behind the characters only if it does. -/
structure Loosened (strict loose : ScanOptions) : Prop where
  policy_eq : loose.policy = strict.policy
  minLen_le : loose.minLen ≤ strict.minLen
  le_maxLen : strict.maxLen ≤ loose.maxLen
  terminator : loose.requireTerminator = true → strict.requireTerminator = true

/-- Options that have a policy are not changed by giving it to them. -/
theorem ScanOptions.withPolicy_eq {options : ScanOptions} {policy : Policy}
    (h : options.policy = policy) : { options with policy := policy } = options := by
  rw [← h]

/-- A function that is defined more often keeps what the other one finds, in the same order. -/
theorem filterMap_sublist_filterMap {α β : Type} {f g : α → Option β} {xs : List α}
    (h : ∀ x ∈ xs, ∀ y, f x = some y → g x = some y) :
    (xs.filterMap f).Sublist (xs.filterMap g) := by
  induction xs with
  | nil => exact List.Sublist.slnil
  | cons x rest ih =>
    obtain ⟨hx, hrest⟩ := List.forall_mem_cons.mp h
    cases hf : f x with
    | some y =>
      rw [List.filterMap_cons_some hf, List.filterMap_cons_some (hx y hf)]
      exact (ih hrest).cons_cons y
    | none =>
      rw [List.filterMap_cons_none hf]
      cases hg : g x with
      | none =>
        rw [List.filterMap_cons_none hg]
        exact ih hrest
      | some y =>
        rw [List.filterMap_cons_some hg]
        exact (ih hrest).cons y

namespace Loosened

/-- **A block stays a block** when the options are loosened. -/
theorem isBlock (h : Loosened strict loose) {b : NameBlock} (hb : IsBlock strict image b) :
    IsBlock loose image b where
  aligned := hb.aligned
  word_le := hb.word_le
  null := hb.null
  lengthByte := hb.lengthByte
  stop_eq := hb.stop_eq
  length_pos := hb.length_pos
  minLen_le := Nat.le_trans h.minLen_le hb.minLen_le
  lt_maxLen := Nat.lt_of_lt_of_le hb.lt_maxLen h.le_maxLen
  visible := hb.visible
  ends := by
    by_cases hterminator : loose.requireTerminator = true
    · have hends := hb.ends
      rw [if_pos (h.terminator hterminator)] at hends
      rwa [if_pos hterminator]
    · rw [if_neg hterminator]
      exact hb.stop_le_size
  name_eq := hb.name_eq

/-- **No block is lost**, and the blocks keep their order. -/
theorem sublist_acceptedBlocks (h : Loosened strict loose) :
    (acceptedBlocks strict image).Sublist (acceptedBlocks loose image) := by
  rw [acceptedBlocks_eq, acceptedBlocks_eq]
  refine filterMap_sublist_filterMap fun i hi b hb => ?_
  have hdvd := ((mem_wordStarts_iff (Nat.dvd_zero _)).mp hi).1
  obtain ⟨hstart, hblock⟩ := (acceptedAt?_eq_some_iff hdvd).mp hb
  exact (acceptedAt?_eq_some_iff hdvd).mpr ⟨hstart, h.isBlock hblock⟩

theorem mem_acceptedBlocks (h : Loosened strict loose) {b : NameBlock}
    (hb : b ∈ acceptedBlocks strict image) : b ∈ acceptedBlocks loose image :=
  h.sublist_acceptedBlocks.subset hb

/-- Filed under their own blocks, the names of the stricter scan are listed among those of the
looser one. -/
theorem sublist_toList_scan (h : Loosened strict loose) (hpolicy : strict.policy = .blockAddress) :
    (scan strict image).toList.Sublist (scan loose image).toList := by
  have hlist {options : ScanOptions} (ho : options.policy = .blockAddress) :
      (scan options image).toList =
        (acceptedBlocks options image).map fun b => (image.addressOf b.start, b.name) := by
    rw [← toList_scan_blockAddress, ScanOptions.withPolicy_eq ho]
  rw [hlist hpolicy, hlist (h.policy_eq.trans hpolicy)]
  exact h.sublist_acceptedBlocks.map _

/-- **No marker loses its name**: it stays the nearest one of its block. -/
theorem keys_subset (h : Loosened strict loose) {word : Word}
    (hpolicy : strict.policy = .marker word) :
    (scan strict image).keys ⊆ (scan loose image).keys := by
  have hkeys {options : ScanOptions} (ho : options.policy = .marker word) {a : Address} :
      a ∈ (scan options image).keys ↔ ∃ j, a.toNat = image.base.toNat + j ∧
        ∃ b ∈ acceptedBlocks options image, IsNearestMarker image word b.start j := by
    rw [← mem_keys_scan_marker_iff, ScanOptions.withPolicy_eq ho]
  intro a ha
  obtain ⟨j, haj, b, hb, hnear⟩ := (hkeys hpolicy).mp ha
  exact (hkeys (h.policy_eq.trans hpolicy)).mpr ⟨j, haj, b, h.mem_acceptedBlocks hb, hnear⟩

end Loosened

/-! ### The whole statement -/

/-- **Looser scans lose no name.** For every image and all options that are looser than others, the
accepted blocks of the stricter scan are among those of the looser one, with their names and in the
same order. Filed under their own blocks, the entries of the stricter scan are among those of the
looser one, in the same order; under a marker every named address stays named; and filed under the
code they describe, both scans give the name of a block of the stricter scan for every address
inside this block, its own address included. -/
theorem loosening_exact {strict loose : ScanOptions} (image : ByteImage)
    (h : Loosened strict loose) :
    (acceptedBlocks strict image).Sublist (acceptedBlocks loose image) ∧
    (strict.policy = .blockAddress →
      (scan strict image).toList.Sublist (scan loose image).toList) ∧
    (∀ word, strict.policy = .marker word →
      ∀ a ∈ (scan strict image).keys, a ∈ (scan loose image).keys) ∧
    (strict.policy = .followsPrevious → ∀ b ∈ acceptedBlocks strict image, ∀ a : Address,
      image.base.toNat + b.start ≤ a.toNat → a.toNat < image.base.toNat + b.stop →
      ((scan strict image).lookup? a).map (·.2) = some b.name ∧
      ((scan loose image).lookup? a).map (·.2) = some b.name) := by
  refine ⟨h.sublist_acceptedBlocks, h.sublist_toList_scan,
    fun word hpolicy _ ha => h.keys_subset hpolicy ha, fun hpolicy b hb a hstart hstop => ?_⟩
  have hforward {options : ScanOptions} (ho : options.policy = .followsPrevious) :
      options.policy.IsForward := by
    rw [ho]
    trivial
  exact ⟨lookup?_scan_of_mem_block (hforward hpolicy) hb hstart hstop,
    lookup?_scan_of_mem_block (hforward (h.policy_eq.trans hpolicy)) (h.mem_acceptedBlocks hb)
      hstart hstop⟩

/-- A short name without a null byte behind it, an instruction, and a longer name. -/
def unevenNames : ByteImage :=
  ⟨⟨0x6000, by decide⟩,
    #[0x00, 0x02, 0x47, 0x4f, 0x4e, 0x80, 0x00, 0x20,
      0x00, 0x04, 0x4d, 0x41, 0x49, 0x4e, 0x00, 0x00],
    by decide⟩

/-- The looser scan also accepts the short name, and files the longer one behind it instead of at
its own block; but inside that block both scans give its name. -/
theorem loosening_unevenNames :
    let loose : ScanOptions := { minLen := 1, maxLen := 64, requireTerminator := false }
    Loosened {} loose ∧
      (scan {} unevenNames).toList = [(unevenNames.addressOf 8, "MAIN")] ∧
      (scan loose unevenNames).toList =
        [(unevenNames.addressOf 0, "GO"), (unevenNames.addressOf 4, "MAIN")] ∧
      ((scan {} unevenNames).lookup? (unevenNames.addressOf 8)).map (·.2) = some "MAIN" ∧
      ((scan loose unevenNames).lookup? (unevenNames.addressOf 8)).map (·.2) = some "MAIN" := by
  intro loose
  have hloose : Loosened {} loose := ⟨rfl, by decide, by decide, by decide⟩
  have hblock : acceptedBlocks {} unevenNames = [⟨8, 14, "MAIN"⟩] := by decide +kernel
  have hmem : ⟨8, 14, "MAIN"⟩ ∈ acceptedBlocks {} unevenNames := hblock ▸ List.mem_cons_self
  obtain ⟨-, -, -, hlookup⟩ := loosening_exact unevenNames hloose
  exact ⟨hloose, by decide +kernel, by decide +kernel,
    hlookup rfl _ hmem _ (by decide) (by decide)⟩

end NameRecovery
