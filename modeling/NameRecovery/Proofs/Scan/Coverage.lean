import NameRecovery.Proofs.Scan.Completeness

/-!
# Which name covers an address

Keys ascend and interleave with the blocks, so the name nearest below an address is found between
two neighbouring entries, and inside a block it is the name of this block. Names that are filed
under the code they describe are filed where the padding behind the block before ends.

## Main results

* `lookup?_scan_of_getElem?` : the name nearest below an address.
* `lookup?_scan_of_mem_block` : the name nearest below an address inside a block.
* `toList_scan_followsPrevious` : the names filed under the code they describe.
* `followsPrevious_exact` : all of this for every image and all options.
-/

namespace NameRecovery

variable {options : ScanOptions} {image : ByteImage}

/-! ### The nearest name -/

theorem coherent_scan : (scan options image).Coherent := by
  rw [scan_eq_ofList]
  exact NameMap.coherent_ofList _

/-- **The name nearest below an address** is that of the last entry that is not above it. -/
theorem lookup?_scan_of_getElem? (hpolicy : options.policy.IsForward) {k : Nat}
    {e : Address × String} {a : Address} (he : (scan options image).toList[k]? = some e)
    (hle : e.1 ≤ a) (hnext : ∀ f, (scan options image).toList[k + 1]? = some f → a < f.1) :
    (scan options image).lookup? a = some e := by
  have hascending := pairwise_toList_scan image hpolicy
  obtain ⟨hk, rfl⟩ := List.getElem?_eq_some_iff.mp he
  have hsplit := List.take_append_drop k (scan options image).toList
  rw [List.drop_eq_getElem_cons hk] at hsplit
  refine coherent_scan.lookup?_of_toList_eq_append hsplit.symm ?_ hle ?_
  · rw [← hsplit, List.pairwise_append] at hascending
    exact fun f hf => hascending.2.2 f hf _ List.mem_cons_self
  · intro f hf
    obtain ⟨i, hi⟩ := List.mem_iff_getElem?.mp hf
    rw [List.getElem?_drop] at hi
    obtain ⟨hik, rfl⟩ := List.getElem?_eq_some_iff.mp hi
    have hlt : a < (scan options image).toList[k + 1].1 :=
      hnext _ (List.getElem?_eq_getElem (by omega))
    rcases Nat.eq_zero_or_pos i with rfl | hpos
    · exact hlt
    · have hrel := List.pairwise_iff_getElem.mp hascending (k + 1) (k + 1 + i) (by omega) hik
        (by omega)
      exact Nat.lt_trans hlt hrel

/-- **Inside a block the nearest name is its own.** -/
theorem lookup?_scan_of_mem_block (hpolicy : options.policy.IsForward) {b : NameBlock}
    (hb : b ∈ acceptedBlocks options image) {a : Address}
    (hstart : image.base.toNat + b.start ≤ a.toNat) (hstop : a.toNat < image.base.toNat + b.stop) :
    ((scan options image).lookup? a).map (·.2) = some b.name := by
  have hfst : (keyed options image).map (·.1) = acceptedBlocks options image :=
    map_fst_attributed _ _ _
  rw [← hfst] at hb
  obtain ⟨q, hq, rfl⟩ := List.mem_map.mp hb
  obtain ⟨pre, post, hsplit⟩ := List.append_of_mem hq
  have hlist : (scan options image).toList =
      pre.map (entryOf image) ++ entryOf image q :: post.map (entryOf image) := by
    rw [toList_scan_of_isForward hpolicy, hsplit, List.map_append, List.map_cons]
  have hascending := pairwise_toList_scan image hpolicy
  rw [hlist, List.pairwise_append] at hascending
  have hskip := skipPadding_le_entryOf image hpolicy
  rw [hsplit, List.pairwise_append] at hskip
  have hfound : (scan options image).lookup? a = some (entryOf image q) := by
    refine coherent_scan.lookup?_of_toList_eq_append hlist ?_ ?_ ?_
    · exact fun f hf => hascending.2.2 f hf _ List.mem_cons_self
    · exact Nat.le_trans (entryOf_le_start hpolicy hq) hstart
    · intro f hf
      obtain ⟨r, hr, rfl⟩ := List.mem_map.mp hf
      have hle := (List.pairwise_cons.mp hskip.2.1).1 r hr
      have hpadding := le_skipPadding image q.1.stop
      rw [Address.lt_def]
      omega
  rw [hfound]
  rfl

/-! ### Names filed under the code they describe -/

/-- After a block, each name is filed where the scan went on after the block before it. -/
theorem attributed_followsPrevious (b : NameBlock) (rest : List NameBlock) :
    attributed .followsPrevious image (some (skipPadding image b.stop)) rest =
      List.zipWith (fun p c => (c, some (skipPadding image p.stop))) (b :: rest) rest := by
  induction rest generalizing b with
  | nil => rfl
  | cons c rest ih =>
    rw [List.zipWith_cons_cons, ← ih c]
    rfl

theorem keyed_followsPrevious :
    keyed { options with policy := .followsPrevious } image =
      ((acceptedBlocks options image).take 1).map (fun b => (b, some b.start)) ++
        List.zipWith (fun p c => (c, some (skipPadding image p.stop)))
          (acceptedBlocks options image) (acceptedBlocks options image).tail := by
  rw [keyed, acceptedBlocks_withPolicy]
  cases acceptedBlocks options image with
  | nil => rfl
  | cons b rest => exact congrArg (List.cons _) (attributed_followsPrevious b rest)

/-- **Names filed under the code they describe.** The first name is filed under its own block,
and each further name where the padding behind the block before it ends. -/
theorem toList_scan_followsPrevious :
    ((scan { options with policy := .followsPrevious } image).toList.map
      fun e => (e.1.toNat, e.2)) =
      ((acceptedBlocks options image).take 1).map
        (fun b => (image.base.toNat + b.start, b.name)) ++
      List.zipWith (fun p c => (image.base.toNat + skipPadding image p.stop, c.name))
        (acceptedBlocks options image) (acceptedBlocks options image).tail := by
  have hentry (q : NameBlock × Option Nat)
      (hq : q ∈ keyed { options with policy := .followsPrevious } image) :
      ((fun e : Address × String => (e.1.toNat, e.2)) ∘ entryOf image) q =
        (image.base.toNat + q.2.getD q.1.start, q.1.name) := by
    obtain ⟨key, hkey, -, hlt⟩ := exists_key_of_mem_keyed (by trivial) hq
    rw [Function.comp_apply, toNat_entryOf hkey hlt, hkey]
    rfl
  rw [toList_scan_of_isForward (by trivial), List.map_map, List.map_congr_left hentry,
    keyed_followsPrevious, List.map_append, List.map_map, List.map_zipWith]
  rfl

/-- **Names are filed under the code they describe.** For every image and all options, let the
accepted blocks be listed in order and let the padding behind a block end at the first word
boundary, from the end of the block on, where no zero word stands. Then the entries are the
first name at its own block and each further name where the padding behind the block before it
ends; this place lies behind the head of the one block and not behind the head of the other; no
name replaces another one; between an entry and the next one the nearest name is that of the
entry; and inside a block it is the name of the block, as it is when names are filed under their
own blocks. -/
theorem followsPrevious_exact (options : ScanOptions) (image : ByteImage) :
    let blocks := acceptedBlocks { options with policy := .followsPrevious } image
    let names := scan { options with policy := .followsPrevious } image
    (∀ b ∈ blocks, IsBlock options image b ∧
      IsLeast {j | Word.size ∣ j ∧ b.stop ≤ j ∧ image.wordAt? j ≠ some Word.zero}
        (skipPadding image b.stop)) ∧
    (names.toList.map fun e => (e.1.toNat, e.2)) =
      (blocks.take 1).map (fun b => (image.base.toNat + b.start, b.name)) ++
      List.zipWith (fun p c => (image.base.toNat + skipPadding image p.stop, c.name))
        blocks blocks.tail ∧
    (∀ b ∈ blocks, b.start < skipPadding image b.stop) ∧
    (blocks.Pairwise fun b c => skipPadding image b.stop ≤ c.start) ∧
    names.toList.map (·.2) = blocks.map (·.name) ∧
    (∀ k e a, names.toList[k]? = some e → e.1 ≤ a →
      (∀ f, names.toList[k + 1]? = some f → a < f.1) → names.lookup? a = some e) ∧
    (∀ b ∈ blocks, ∀ a : Address, image.base.toNat + b.start ≤ a.toNat →
      a.toNat < image.base.toNat + b.stop →
      (names.lookup? a).map (·.2) = some b.name ∧
      ((scan { options with policy := .blockAddress } image).lookup? a).map (·.2) =
        some b.name) := by
  intro blocks names
  have hblocks : blocks = acceptedBlocks options image := acceptedBlocks_withPolicy _
  refine ⟨fun b hb => ⟨?_, isLeast_skipPadding image b.stop⟩, ?_, ?_, ?_, ?_, ?_, ?_⟩
  · rw [hblocks] at hb
    exact mem_acceptedBlocks_iff.mp hb
  · rw [hblocks]
    exact toList_scan_followsPrevious
  · intro b hb
    have hlt := (mem_acceptedBlocks_iff.mp hb).start_lt_stop
    have hskip := le_skipPadding image b.stop
    omega
  · exact pairwise_acceptedBlocks.imp_of_mem fun hb hc hlt =>
      (mem_acceptedBlocks_iff.mp hb).skipPadding_le_start (mem_acceptedBlocks_iff.mp hc) hlt
  · have hfst : (keyed { options with policy := .followsPrevious } image).map (·.1) = blocks :=
      map_fst_attributed _ _ _
    rw [toList_scan_of_isForward (by trivial), ← hfst, List.map_map, List.map_map]
    rfl
  · exact fun k e a => lookup?_scan_of_getElem? (by trivial)
  · intro b hb a hstart hstop
    refine ⟨lookup?_scan_of_mem_block (by trivial) hb hstart hstop,
      lookup?_scan_of_mem_block (by trivial) ?_ hstart hstop⟩
    rw [acceptedBlocks_withPolicy, ← hblocks]
    exact hb

/-- The second name is filed where the code behind the first one begins, and covers this code and
its own block. -/
theorem lookup?_twoNames_followsPrevious :
    let names := scan { policy := .followsPrevious } twoNames
    names.toList = [(twoNames.addressOf 4, "MAIN"), (twoNames.addressOf 12, "MYFUN")] ∧
      names.lookup? (twoNames.addressOf 11) = some (twoNames.addressOf 4, "MAIN") ∧
      names.lookup? (twoNames.addressOf 28) = some (twoNames.addressOf 12, "MYFUN") ∧
      (names.lookup? (twoNames.addressOf 18)).map (·.2) = some "MYFUN" := by
  intro names
  have hlist : names.toList =
      [(twoNames.addressOf 4, "MAIN"), (twoNames.addressOf 12, "MYFUN")] := by decide +kernel
  have hblocks : acceptedBlocks { policy := .followsPrevious } twoNames =
      [⟨4, 10, "MAIN"⟩, ⟨16, 23, "MYFUN"⟩] := by decide +kernel
  obtain ⟨-, -, -, -, -, hlookup, hinside⟩ := followsPrevious_exact {} twoNames
  refine ⟨hlist, ?_, ?_, ?_⟩
  · refine hlookup 0 _ _ (congrArg (·[0]?) hlist) (by decide) fun f hf => ?_
    obtain rfl := Option.some.inj ((congrArg (·[1]?) hlist).symm.trans hf)
    decide
  · refine hlookup 1 _ _ (congrArg (·[1]?) hlist) (by decide) fun f hf => ?_
    cases (congrArg (·[2]?) hlist).symm.trans hf
  · refine (hinside ⟨16, 23, "MYFUN"⟩ ?_ _ (by decide) (by decide)).1
    exact hblocks ▸ List.mem_cons_of_mem _ List.mem_cons_self

end NameRecovery
