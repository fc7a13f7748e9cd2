import NameRecovery.Proofs.NameMap
import NameRecovery.Proofs.Scan.Accepted

/-!
# Where names are filed

Unless names are filed under markers, each name is filed under an index between the place where
the scan went on after the block before and the head of its own block. So keys and blocks
interleave: every key lies at or before its block, and behind the padding of all blocks before. It
follows that no name replaces another one, and that the names are listed in ascending order.

## Main definitions

* `Policy.IsForward` : names are not filed under markers.
* `Ahead` : the blocks that lie ahead of the scan.
* `keyed`, `entryOf` : the accepted blocks with their keys, and the entries they give.

## Main results

* `attributed_key`, `pairwise_attributed` : keys and blocks interleave.
* `pairwise_filed`, `pairwise_toList_scan` : the entries ascend.
* `toList_scan_of_isForward` : no name replaces another one.
-/

namespace NameRecovery

variable {options : ScanOptions} {image : ByteImage}

/-! ### Keys and blocks interleave -/

namespace Policy

/-- Names are not filed under markers. -/
def IsForward : Policy → Prop
  | followsPrevious | blockAddress => True
  | marker _ => False

theorem IsForward.resume_eq {policy : Policy} (h : policy.IsForward) (image : ByteImage)
    (b : NameBlock) : policy.resume image b = skipPadding image b.stop := by
  match policy, h with
  | followsPrevious, _ => rfl
  | blockAddress, _ => rfl

/-- A key lies between the place where the scan went on and the head of the block. -/
theorem IsForward.exists_key? {policy : Policy} (h : policy.IsForward) (image : ByteImage)
    {previous : Option Nat} {b : NameBlock} (hprev : ∀ p, previous = some p → p ≤ b.start) :
    ∃ key, policy.key? image previous b = some key ∧ key ≤ b.start ∧
      ∀ p, previous = some p → p ≤ key := by
  match policy, h with
  | blockAddress, _ => exact ⟨b.start, rfl, Nat.le_refl _, hprev⟩
  | followsPrevious, _ =>
    cases previous with
    | none => exact ⟨b.start, rfl, Nat.le_refl _, fun p hp => by cases hp⟩
    | some p =>
      refine ⟨p, rfl, hprev p rfl, fun p' hp' => ?_⟩
      exact Nat.le_of_eq (Option.some.inj hp').symm

end Policy

/-- Blocks in ascending order, the place where the scan went on lying before all of them. -/
structure Ahead (options : ScanOptions) (image : ByteImage) (previous : Option Nat)
    (blocks : List NameBlock) : Prop where
  isBlock : ∀ b ∈ blocks, IsBlock options image b
  ascending : blocks.Pairwise fun b c => b.start < c.start
  previous_le : ∀ p, previous = some p → ∀ b ∈ blocks, p ≤ b.start

theorem ahead_acceptedBlocks :
    Ahead options image none (acceptedBlocks options image) :=
  ⟨fun _ => mem_acceptedBlocks_iff.mp, pairwise_acceptedBlocks, fun p hp => by cases hp⟩

/-- What is ahead after the first block is accepted. -/
theorem Ahead.tail {previous : Option Nat} {b : NameBlock} {blocks : List NameBlock}
    (h : Ahead options image previous (b :: blocks)) :
    Ahead options image (some (skipPadding image b.stop)) blocks := by
  obtain ⟨hb, hblocks⟩ := List.forall_mem_cons.mp h.isBlock
  obtain ⟨hlt, hascending⟩ := List.pairwise_cons.mp h.ascending
  refine ⟨hblocks, hascending, fun p hp c hc => ?_⟩
  rw [← Option.some.inj hp]
  exact hb.skipPadding_le_start (hblocks c hc) (hlt c hc)

/-- **Every key lies at or before its block**, and not before the place where the scan went on. -/
theorem attributed_key {policy : Policy} (hpolicy : policy.IsForward) {previous : Option Nat}
    {blocks : List NameBlock} (h : Ahead options image previous blocks) :
    ∀ q ∈ attributed policy image previous blocks,
      ∃ key, q.2 = some key ∧ key ≤ q.1.start ∧ ∀ p, previous = some p → p ≤ key := by
  induction blocks generalizing previous with
  | nil => intro q hq; cases hq
  | cons b rest ih =>
    intro q hq
    have hb := (List.forall_mem_cons.mp h.isBlock).1
    rcases List.mem_cons.mp hq with rfl | hq
    · exact hpolicy.exists_key? image fun p hp => h.previous_le p hp b List.mem_cons_self
    · rw [hpolicy.resume_eq] at hq
      obtain ⟨key, hkey, hle, hprev⟩ := ih h.tail q hq
      refine ⟨key, hkey, hle, fun p hp => ?_⟩
      have hpb := h.previous_le p hp b List.mem_cons_self
      have hbstop := hb.start_lt_stop
      have hskip := le_skipPadding image b.stop
      have hkeyskip := hprev _ rfl
      omega

/-- **Every key lies behind the padding of the blocks before.** -/
theorem pairwise_attributed {policy : Policy} (hpolicy : policy.IsForward)
    {previous : Option Nat} {blocks : List NameBlock}
    (h : Ahead options image previous blocks) :
    (attributed policy image previous blocks).Pairwise fun q r =>
      ∀ key, r.2 = some key → skipPadding image q.1.stop ≤ key := by
  induction blocks generalizing previous with
  | nil => exact List.Pairwise.nil
  | cons b rest ih =>
    rw [attributed, hpolicy.resume_eq]
    refine List.pairwise_cons.mpr ⟨fun r hr key hkey => ?_, ih h.tail⟩
    obtain ⟨key', hkey', -, hprev⟩ := attributed_key hpolicy h.tail r hr
    obtain rfl : key = key' := Option.some.inj (hkey.symm.trans hkey')
    exact hprev _ rfl

theorem map_fst_attributed (policy : Policy) (previous : Option Nat)
    (blocks : List NameBlock) :
    (attributed policy image previous blocks).map (·.1) = blocks := by
  induction blocks generalizing previous with
  | nil => rfl
  | cons b rest ih => rw [attributed, List.map_cons, ih]

/-! ### The names in ascending order -/

/-- The accepted blocks with the indices their names are filed under. -/
def keyed (options : ScanOptions) (image : ByteImage) : List (NameBlock × Option Nat) :=
  attributed options.policy image none (acceptedBlocks options image)

theorem mem_acceptedBlocks_of_mem_keyed {q : NameBlock × Option Nat}
    (hq : q ∈ keyed options image) : q.1 ∈ acceptedBlocks options image := by
  have hmem := List.mem_map_of_mem (f := fun q => q.1) hq
  rwa [keyed, map_fst_attributed] at hmem

theorem start_lt_size_of_mem {b : NameBlock} (h : b ∈ acceptedBlocks options image) :
    b.start < image.size := by
  have hb := mem_acceptedBlocks_iff.mp h
  exact Nat.lt_of_lt_of_le (Nat.lt_of_le_of_lt (Nat.le_add_right _ 2) hb.start_lt_stop)
    hb.stop_le_size

/-- Every accepted block has a key, and the key is the index of a byte of the image. -/
theorem exists_key_of_mem_keyed (hpolicy : options.policy.IsForward)
    {q : NameBlock × Option Nat} (hq : q ∈ keyed options image) :
    ∃ key, q.2 = some key ∧ key ≤ q.1.start ∧ key < image.size := by
  obtain ⟨key, hkey, hle, -⟩ := attributed_key hpolicy ahead_acceptedBlocks q hq
  have hlt := start_lt_size_of_mem (mem_acceptedBlocks_of_mem_keyed hq)
  exact ⟨key, hkey, hle, Nat.lt_of_le_of_lt hle hlt⟩

/-- The entry of an accepted block with its key. -/
def entryOf (image : ByteImage) (q : NameBlock × Option Nat) : Address × String :=
  (image.addressOf (q.2.getD q.1.start), q.1.name)

/-- Every accepted block gives an entry. -/
theorem filed_eq_map (hpolicy : options.policy.IsForward) :
    filed options image = (keyed options image).map (entryOf image) := by
  rw [filed, ← List.filterMap_eq_map]
  refine List.filterMap_congr fun q hq => ?_
  obtain ⟨key, hkey, -⟩ := exists_key_of_mem_keyed hpolicy hq
  rw [entryOf?, Function.comp_apply, entryOf, hkey]
  rfl

theorem toNat_entryOf {q : NameBlock × Option Nat} {key : Nat} (hkey : q.2 = some key)
    (hlt : key < image.size) : (entryOf image q).1.toNat = image.base.toNat + key := by
  rw [entryOf, hkey]
  exact ByteImage.toNat_addressOf (Nat.le_of_lt hlt)

/-- An entry lies behind the padding of the blocks before. -/
theorem skipPadding_le_entryOf (image : ByteImage) (hpolicy : options.policy.IsForward) :
    (keyed options image).Pairwise fun q r =>
      image.base.toNat + skipPadding image q.1.stop ≤ (entryOf image r).1.toNat := by
  refine (pairwise_attributed hpolicy ahead_acceptedBlocks).imp_of_mem fun _ hr hskip => ?_
  obtain ⟨key, hkey, -, hlt⟩ := exists_key_of_mem_keyed hpolicy hr
  rw [toNat_entryOf hkey hlt]
  exact Nat.add_le_add_left (hskip key hkey) _

/-- An entry lies at or before its block. -/
theorem entryOf_le_start (hpolicy : options.policy.IsForward) {q : NameBlock × Option Nat}
    (hq : q ∈ keyed options image) :
    (entryOf image q).1.toNat ≤ image.base.toNat + q.1.start := by
  obtain ⟨key, hkey, hle, hlt⟩ := exists_key_of_mem_keyed hpolicy hq
  rw [toNat_entryOf hkey hlt]
  exact Nat.add_le_add_left hle _

theorem isBlock_of_mem_keyed {q : NameBlock × Option Nat} (hq : q ∈ keyed options image) :
    IsBlock options image q.1 :=
  mem_acceptedBlocks_iff.mp (mem_acceptedBlocks_of_mem_keyed hq)

/-- The entries ascend. -/
theorem pairwise_filed (image : ByteImage) (hpolicy : options.policy.IsForward) :
    (filed options image).Pairwise fun e f => e.1 < f.1 := by
  rw [filed_eq_map hpolicy, List.pairwise_map]
  refine (skipPadding_le_entryOf image hpolicy).imp_of_mem fun {q r} hq _ hskip => ?_
  have hle := entryOf_le_start hpolicy hq
  have hstop := (isBlock_of_mem_keyed hq).start_lt_stop
  have hpadding := le_skipPadding image q.1.stop
  rw [Address.lt_def]
  omega

/-- Entries that ascend are listed as they are filed. -/
theorem toList_scan_of_pairwise (h : (filed options image).Pairwise fun e f => e.1 < f.1) :
    (scan options image).toList = filed options image := by
  rw [scan_eq_ofList]
  refine NameMap.toList_ofList_of_nodup ?_
  rw [List.nodup_iff_pairwise_ne, List.pairwise_map]
  exact h.imp fun hlt => Address.ne_of_lt hlt

/-- The names are listed in ascending order. -/
theorem pairwise_toList_scan (image : ByteImage) (hpolicy : options.policy.IsForward) :
    (scan options image).toList.Pairwise fun e f => e.1 < f.1 := by
  have hascending := pairwise_filed image hpolicy
  rwa [← toList_scan_of_pairwise hascending] at hascending

/-- Unless names are filed under markers, no name replaces another one. -/
theorem toList_scan_of_isForward (hpolicy : options.policy.IsForward) :
    (scan options image).toList = (keyed options image).map (entryOf image) := by
  rw [toList_scan_of_pairwise (pairwise_filed image hpolicy), filed_eq_map hpolicy]

end NameRecovery
