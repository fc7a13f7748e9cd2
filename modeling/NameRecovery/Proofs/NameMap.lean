import Mathlib.Data.List.Basic
import Mathlib.Data.List.Induction
import Mathlib.Data.List.Nodup
import NameRecovery.NameMap

/-!
# Name maps as lists of entries

A name map is read through the list of its entries (`NameMap.toList`). This file says what
naming an address does to that list, and that the index stays in step with it
(`NameMap.Coherent`): every query is then a statement on the list.

## Main definitions

* `NameMap.keys` : the addresses of the entries, in order.
* `NameMap.Coherent` : each address is listed once, and the index holds exactly the listed
  addresses in descending order.

## Main results

* `NameMap.toList_insert`, `NameMap.get?_insert` : what naming an address does.
* `NameMap.Coherent.insert`, `NameMap.coherent_ofList` : maps are coherent as they grow.
* `NameMap.toList_ofList_of_nodup` : naming distinct addresses lists the entries as they come.
* `NameMap.get?_ofList`, `NameMap.mem_keys_ofList` : the last name of an address holds.
* `NameMap.prefix_toList_ofList`, `NameMap.prefix_keys_ofList` : what further names leave as it is.
* `NameMap.Coherent.lookup?_eq_some_iff`, `NameMap.Coherent.lookup?_eq_none_iff` : the entry nearest
  below an address.
* `NameMap.mem_of_mem_toList_ofList`, `NameMap.size_ofList_le` : entries come from what was named.
-/

namespace NameRecovery

namespace Address

theorem le_of_not_lt {a b : Address} (h : ¬ a < b) : b ≤ a :=
  Nat.not_lt.mp h

theorem lt_of_le_of_ne {a b : Address} (h : a ≤ b) (hne : a ≠ b) : a < b :=
  Nat.lt_of_le_of_ne h fun hab => hne (Address.ext hab)

theorem ne_of_lt {a b : Address} (h : a < b) : a ≠ b :=
  fun hab => Nat.ne_of_lt h (congrArg Address.toNat hab)

end Address

namespace NameMap

variable {m : NameMap} {a b : Address} {name : String}

/-- The addresses of the entries, in order. -/
def keys (m : NameMap) : List Address :=
  m.toList.map (·.1)

theorem mem_keys_iff : a ∈ m.keys ↔ ∃ name, (a, name) ∈ m.toList := by
  simp [keys]

/-! ### Naming an address -/

private theorem any_entries_iff :
    (m.entries.any fun e => e.1 = a) = true ↔ a ∈ m.keys := by
  simp only [Array.any_eq_true', decide_eq_true_eq, keys, toList, List.mem_map,
    Array.mem_toList_iff]

/-- A known address keeps its place and takes the new name. -/
theorem toList_insert_of_mem (h : a ∈ m.keys) :
    (m.insert a name).toList = m.toList.map fun e => if e.1 = a then (a, name) else e := by
  simp only [insert, toList, if_pos (any_entries_iff.mpr h), Array.toList_map]

/-- A new address goes to the end. -/
theorem toList_insert_of_not_mem (h : a ∉ m.keys) :
    (m.insert a name).toList = m.toList ++ [(a, name)] := by
  simp only [insert, toList, if_neg (mt any_entries_iff.mp h), Array.toList_push]

theorem keys_insert_of_mem (h : a ∈ m.keys) : (m.insert a name).keys = m.keys := by
  rw [keys, toList_insert_of_mem h, List.map_map, keys]
  refine List.map_congr_left fun e _ => ?_
  by_cases he : e.1 = a <;> simp [he]

theorem keys_insert_of_not_mem (h : a ∉ m.keys) : (m.insert a name).keys = m.keys ++ [a] := by
  rw [keys, toList_insert_of_not_mem h, List.map_append, List.map_singleton, keys]

theorem mem_keys_insert : b ∈ (m.insert a name).keys ↔ b = a ∨ b ∈ m.keys := by
  by_cases h : a ∈ m.keys
  · rw [keys_insert_of_mem h]
    refine ⟨Or.inr, ?_⟩
    rintro (rfl | hb)
    · exact h
    · exact hb
  · rw [keys_insert_of_not_mem h, List.mem_append, List.mem_singleton, or_comm]

theorem get?_eq_find?_toList : m.get? a = (m.toList.find? fun e => e.1 = a).map (·.2) := by
  rw [get?, toList, Array.find?_toList]

theorem get?_eq_none_iff : m.get? a = none ↔ a ∉ m.keys := by
  rw [get?_eq_find?_toList, Option.map_eq_none_iff, List.find?_eq_none, mem_keys_iff]
  constructor
  · rintro h ⟨name, hmem⟩
    exact h _ hmem (decide_eq_true rfl)
  · intro h e he hea
    exact h ⟨e.2, of_decide_eq_true hea ▸ he⟩

/-- Renaming the entries of `a` leaves the entries of other addresses where they are. -/
private theorem find?_renamed (l : List (Address × String)) :
    ((l.map fun e => if e.1 = a then (a, name) else e).find? fun e => e.1 = b) =
      if b = a then (l.find? fun e => e.1 = a).map fun _ => (a, name)
      else l.find? fun e => e.1 = b := by
  induction l with
  | nil => simp
  | cons e rest ih =>
    rw [List.map_cons, List.find?_cons, List.find?_cons, List.find?_cons, ih]
    by_cases he : e.1 = a
    · by_cases hba : b = a
      · simp [he, hba]
      · have hab : ¬ a = b := fun hab => hba hab.symm
        simp [he, hba, hab]
    · by_cases hba : b = a
      · simp [he, hba]
      · simp [he, hba]

/-- A named address has its new name, and every other address keeps its own. -/
theorem get?_insert : (m.insert a name).get? b = if b = a then some name else m.get? b := by
  by_cases h : a ∈ m.keys
  · rw [get?_eq_find?_toList, toList_insert_of_mem h, find?_renamed]
    by_cases hba : b = a
    · have hsome : m.get? a ≠ none := mt get?_eq_none_iff.mp (not_not_intro h)
      obtain ⟨name', hget⟩ := Option.ne_none_iff_exists'.mp hsome
      rw [get?_eq_find?_toList, Option.map_eq_some_iff] at hget
      obtain ⟨e, hfind, -⟩ := hget
      rw [if_pos hba, if_pos hba, hfind]
      rfl
    · rw [if_neg hba, if_neg hba, get?_eq_find?_toList]
  · rw [get?_eq_find?_toList, toList_insert_of_not_mem h, List.find?_append, Option.map_or,
      ← get?_eq_find?_toList]
    by_cases hba : b = a
    · rw [if_pos hba, hba, get?_eq_none_iff.mpr h]
      simp
    · have hab : ¬ a = b := fun hab => hba hab.symm
      simp [hba, hab]

/-! ### The index -/

theorem mem_insertDescending {l : List Address} :
    b ∈ insertDescending a l ↔ b = a ∨ b ∈ l := by
  induction l with
  | nil => simp [insertDescending]
  | cons c rest ih =>
    simp only [insertDescending]
    split
    · rw [List.mem_cons, List.mem_cons, ih, or_left_comm]
    · split
      · next hac => simp [hac]
      · rw [List.mem_cons]

theorem pairwise_insertDescending {l : List Address} (h : l.Pairwise fun x y => y < x) :
    (insertDescending a l).Pairwise fun x y => y < x := by
  induction l with
  | nil => exact List.pairwise_singleton _ _
  | cons c rest ih =>
    obtain ⟨hc, hrest⟩ := List.pairwise_cons.mp h
    simp only [insertDescending]
    split
    · next hac =>
      refine List.pairwise_cons.mpr ⟨fun x hx => ?_, ih hrest⟩
      rcases mem_insertDescending.mp hx with rfl | hx
      · exact hac
      · exact hc x hx
    · next hac =>
      split
      · exact h
      · next hne =>
        have hca : c < a :=
          Address.lt_of_le_of_ne (Address.le_of_not_lt hac) fun hca => hne hca.symm
        refine List.pairwise_cons.mpr ⟨fun x hx => ?_, h⟩
        rcases List.mem_cons.mp hx with rfl | hx
        · exact hca
        · exact Nat.lt_trans (hc x hx) hca

/-- Each address is listed once, and the index holds exactly the listed addresses, in descending
order. -/
structure Coherent (m : NameMap) : Prop where
  nodup_keys : m.keys.Nodup
  pairwise_index : m.index.Pairwise fun x y => y < x
  mem_index_iff : ∀ a, a ∈ m.index ↔ a ∈ m.keys

theorem coherent_empty : Coherent {} :=
  ⟨List.nodup_nil, List.Pairwise.nil, fun _ => Iff.rfl⟩

/-- Naming an address keeps a map coherent. -/
theorem Coherent.insert (h : m.Coherent) : (m.insert a name).Coherent where
  nodup_keys := by
    by_cases ha : a ∈ m.keys
    · rw [keys_insert_of_mem ha]
      exact h.nodup_keys
    · rw [keys_insert_of_not_mem ha, List.nodup_append]
      refine ⟨h.nodup_keys, List.nodup_singleton a, fun x hx y hy hxy => ha ?_⟩
      rw [← List.mem_singleton.mp hy, ← hxy]
      exact hx
  pairwise_index := pairwise_insertDescending h.pairwise_index
  mem_index_iff x := by
    rw [mem_keys_insert, ← h.mem_index_iff]
    exact mem_insertDescending

/-! ### Maps made of lists -/

theorem ofList_concat (l : List (Address × String)) (e : Address × String) :
    ofList (l ++ [e]) = (ofList l).insert e.1 e.2 := by
  rw [ofList, List.foldl_append]
  rfl

/-- **Maps are coherent**, whichever addresses are named in whatever order. -/
theorem coherent_ofList (l : List (Address × String)) : (ofList l).Coherent := by
  induction l using List.reverseRecOn with
  | nil => exact coherent_empty
  | append_singleton l e ih =>
    rw [ofList_concat]
    exact ih.insert

theorem mem_keys_ofList {l : List (Address × String)} :
    a ∈ (ofList l).keys ↔ a ∈ l.map (·.1) := by
  induction l using List.reverseRecOn with
  | nil => exact Iff.rfl
  | append_singleton l e ih =>
    rw [ofList_concat, mem_keys_insert, ih, List.map_append, List.mem_append,
      List.map_singleton, List.mem_singleton, or_comm]

/-- Naming distinct addresses lists the entries in the order in which they come. -/
theorem toList_ofList_of_nodup {l : List (Address × String)} (h : (l.map (·.1)).Nodup) :
    (ofList l).toList = l := by
  induction l using List.reverseRecOn with
  | nil => rfl
  | append_singleton l e ih =>
    rw [List.map_append, List.nodup_append] at h
    obtain ⟨hl, -, hdisj⟩ := h
    have hnew : e.1 ∉ (ofList l).keys := fun hmem =>
      hdisj e.1 (mem_keys_ofList.mp hmem) e.1 (List.mem_singleton.mpr rfl) rfl
    rw [ofList_concat, toList_insert_of_not_mem hnew, ih hl]

/-- The last name given to an address is its name. -/
theorem get?_ofList (l : List (Address × String)) :
    (ofList l).get? a = ((l.filter fun e => e.1 = a).getLast?).map (·.2) := by
  induction l using List.reverseRecOn with
  | nil => rfl
  | append_singleton l e ih =>
    rw [ofList_concat, get?_insert, ih, List.filter_append]
    by_cases hea : a = e.1
    · simp [hea]
    · have hae : ¬ e.1 = a := fun hae => hea hae.symm
      simp [hea, hae]

/-! ### Maps that grow -/

/-- Entries at the front keep their place and their names as long as other addresses are named. -/
theorem prefix_toList_insert {front : List (Address × String)} (h : front <+: m.toList)
    (hne : ∀ f ∈ front, f.1 ≠ a) : front <+: (m.insert a name).toList := by
  by_cases ha : a ∈ m.keys
  · obtain ⟨rest, hrest⟩ := h
    have hfront : (front.map fun e => if e.1 = a then (a, name) else e) = front := by
      conv_rhs => rw [← List.map_id front]
      exact List.map_congr_left fun f hf => if_neg (hne f hf)
    rw [toList_insert_of_mem ha, ← hrest, List.map_append, hfront]
    exact List.prefix_append _ _
  · rw [toList_insert_of_not_mem ha]
    exact h.trans (List.prefix_append _ _)

theorem prefix_keys_insert (m : NameMap) (a : Address) (name : String) :
    m.keys <+: (m.insert a name).keys := by
  by_cases ha : a ∈ m.keys
  · rewrite [keys_insert_of_mem ha]
    exact List.prefix_rfl
  · rw [keys_insert_of_not_mem ha]
    exact List.prefix_append _ _

/-- Entries at the front stay as long as further addresses are other ones. -/
theorem prefix_toList_ofList {front l more : List (Address × String)}
    (h : front <+: (ofList l).toList) (hne : ∀ f ∈ front, ∀ e ∈ more, f.1 ≠ e.1) :
    front <+: (ofList (l ++ more)).toList := by
  induction more using List.reverseRecOn with
  | nil =>
    rw [List.append_nil]
    exact h
  | append_singleton more e ih =>
    rw [← List.append_assoc, ofList_concat]
    have hmore : ∀ f ∈ front, ∀ x ∈ more, f.1 ≠ x.1 := fun f hf x hx =>
      hne f hf x (List.mem_append_left [e] hx)
    exact prefix_toList_insert (ih hmore) fun f hf => hne f hf e (by simp)

/-- The keys come in the order in which the addresses were first named. -/
theorem prefix_keys_ofList (l more : List (Address × String)) :
    (ofList l).keys <+: (ofList (l ++ more)).keys := by
  induction more using List.reverseRecOn with
  | nil =>
    rewrite [List.append_nil]
    exact List.prefix_rfl
  | append_singleton more e ih =>
    rw [← List.append_assoc, ofList_concat]
    exact ih.trans (prefix_keys_insert _ _ _)

/-- If the addresses that are named never descend, then the keys ascend. -/
theorem pairwise_keys_ofList {l : List (Address × String)}
    (h : l.Pairwise fun e f => e.1 ≤ f.1) : (ofList l).keys.Pairwise fun x y => x < y := by
  induction l using List.reverseRecOn with
  | nil => exact List.Pairwise.nil
  | append_singleton l e ih =>
    obtain ⟨hl, -, hle⟩ := List.pairwise_append.mp h
    rw [ofList_concat]
    by_cases he : e.1 ∈ (ofList l).keys
    · rw [keys_insert_of_mem he]
      exact ih hl
    · rw [keys_insert_of_not_mem he, List.pairwise_append]
      refine ⟨ih hl, List.pairwise_singleton _ _, fun x hx y hy => ?_⟩
      obtain rfl := List.mem_singleton.mp hy
      obtain ⟨f, hf, rfl⟩ := List.mem_map.mp (mem_keys_ofList.mp hx)
      exact Address.lt_of_le_of_ne (hle f hf e (List.mem_singleton.mpr rfl))
        fun heq => he (heq ▸ hx)

/-! ### The nearest entry -/

theorem Coherent.get?_eq_some_iff (h : m.Coherent) :
    m.get? a = some name ↔ (a, name) ∈ m.toList := by
  rw [get?_eq_find?_toList, Option.map_eq_some_iff]
  constructor
  · rintro ⟨e, hfind, rfl⟩
    obtain rfl : e.1 = a := by simpa using List.find?_some hfind
    exact List.mem_of_find?_eq_some hfind
  · intro hmem
    cases hfind : m.toList.find? fun e => decide (e.1 = a) with
    | none => exact absurd (decide_eq_true rfl) (List.find?_eq_none.mp hfind _ hmem)
    | some e =>
      have hea : e.1 = a := by simpa using List.find?_some hfind
      -- two entries of one address are the same entry
      have heq : e = (a, name) :=
        List.inj_on_of_nodup_map h.nodup_keys (List.mem_of_find?_eq_some hfind) hmem hea
      exact ⟨e, rfl, by rw [heq]⟩

/-- In a descending list the first address not above `a` is the greatest such address. -/
theorem find?_eq_some_iff_of_descending {l : List Address}
    (h : l.Pairwise fun x y => y < x) :
    (l.find? fun x => x ≤ a) = some b ↔ b ∈ l ∧ b ≤ a ∧ ∀ x ∈ l, x ≤ a → x ≤ b := by
  induction l with
  | nil => simp
  | cons c rest ih =>
    obtain ⟨hc, hrest⟩ := List.pairwise_cons.mp h
    by_cases hca : c ≤ a
    · have hpos : decide (c ≤ a) = true := decide_eq_true hca
      rw [List.find?_cons, hpos]
      constructor
      · intro heq
        obtain rfl := Option.some.inj heq
        refine ⟨List.mem_cons_self, hca, fun x hx _ => ?_⟩
        rcases List.mem_cons.mp hx with rfl | hx
        · exact Nat.le_refl _
        · exact Nat.le_of_lt (hc x hx)
      · rintro ⟨hb, -, hmax⟩
        rcases List.mem_cons.mp hb with rfl | hb
        · rfl
        · exact absurd (hmax c List.mem_cons_self hca) (Nat.not_le.mpr (hc b hb))
    · have hneg : decide (c ≤ a) = false := decide_eq_false hca
      rw [List.find?_cons, hneg]
      refine (ih hrest).trans ?_
      constructor
      · rintro ⟨hb, hba, hmax⟩
        refine ⟨List.mem_cons_of_mem c hb, hba, fun x hx hxa => ?_⟩
        rcases List.mem_cons.mp hx with rfl | hx
        · exact absurd hxa hca
        · exact hmax x hx hxa
      · rintro ⟨hb, hba, hmax⟩
        rcases List.mem_cons.mp hb with rfl | hb
        · exact absurd hba hca
        · exact ⟨hb, hba, fun x hx hxa => hmax x (List.mem_cons_of_mem c hx) hxa⟩

/-- **The nearest entry.** The entry found for an address is the listed one with the greatest
address that is not above it. -/
theorem Coherent.lookup?_eq_some_iff (h : m.Coherent) {e : Address × String} :
    m.lookup? a = some e ↔
      e ∈ m.toList ∧ e.1 ≤ a ∧ ∀ f ∈ m.toList, f.1 ≤ a → f.1 ≤ e.1 := by
  have hmem (x : Address × String) (hx : x ∈ m.toList) : x.1 ∈ m.index :=
    (h.mem_index_iff x.1).mpr (List.mem_map_of_mem hx)
  rw [lookup?, Option.bind_eq_some_iff]
  constructor
  · rintro ⟨b, hfind, hget⟩
    obtain ⟨name, hname, rfl⟩ := Option.map_eq_some_iff.mp hget
    obtain ⟨-, hba, hmax⟩ := (find?_eq_some_iff_of_descending h.pairwise_index).mp hfind
    exact ⟨h.get?_eq_some_iff.mp hname, hba, fun f hf hfa => hmax f.1 (hmem f hf) hfa⟩
  · rintro ⟨he, hea, hmax⟩
    have hfind : (m.index.find? fun x => x ≤ a) = some e.1 := by
      refine (find?_eq_some_iff_of_descending h.pairwise_index).mpr ⟨hmem e he, hea, ?_⟩
      intro x hx hxa
      obtain ⟨name, hxmem⟩ := mem_keys_iff.mp ((h.mem_index_iff x).mp hx)
      exact hmax (x, name) hxmem hxa
    exact ⟨e.1, hfind, by rw [h.get?_eq_some_iff.mpr he]; rfl⟩

/-- **Nothing is found** for an address below all entries, and only for such an address. -/
theorem Coherent.lookup?_eq_none_iff (h : m.Coherent) :
    m.lookup? a = none ↔ ∀ e ∈ m.toList, a < e.1 := by
  constructor
  · intro hnone e he
    by_contra hnot
    have hmem : e.1 ∈ m.index := (h.mem_index_iff e.1).mpr (List.mem_map_of_mem he)
    cases hfind : m.index.find? fun x => decide (x ≤ a) with
    | none =>
      exact List.find?_eq_none.mp hfind e.1 hmem (decide_eq_true (Address.le_of_not_lt hnot))
    | some b =>
      obtain ⟨name, hname⟩ := mem_keys_iff.mp ((h.mem_index_iff b).mp (List.mem_of_find?_eq_some hfind))
      rw [lookup?, hfind, Option.bind_some, h.get?_eq_some_iff.mpr hname] at hnone
      cases hnone
  · intro hall
    rw [Option.eq_none_iff_forall_ne_some]
    intro e he
    obtain ⟨hmem, hle, -⟩ := h.lookup?_eq_some_iff.mp he
    exact Nat.lt_irrefl _ (Nat.lt_of_lt_of_le (hall e hmem) hle)

/-- In a map whose entries ascend, the last entry that is not above an address is the one found
for it. -/
theorem Coherent.lookup?_of_toList_eq_append (h : m.Coherent) {e : Address × String}
    {pre post : List (Address × String)} (hlist : m.toList = pre ++ e :: post)
    (hpre : ∀ f ∈ pre, f.1 < e.1) (hle : e.1 ≤ a) (hpost : ∀ f ∈ post, a < f.1) :
    m.lookup? a = some e := by
  rw [h.lookup?_eq_some_iff, hlist]
  refine ⟨List.mem_append_right pre List.mem_cons_self, hle, fun f hf hfa => ?_⟩
  rcases List.mem_append.mp hf with hf | hf
  · exact Nat.le_of_lt (hpre f hf)
  · rcases List.mem_cons.mp hf with rfl | hf
    · exact Nat.le_refl _
    · exact absurd hfa (Nat.not_le.mpr (hpost f hf))

/-! ### Entries and what was named -/

/-- Every entry of a map was named as it is. -/
theorem mem_of_mem_toList_ofList {l : List (Address × String)} {e : Address × String}
    (he : e ∈ (ofList l).toList) : e ∈ l := by
  have hget := (coherent_ofList l).get?_eq_some_iff.mpr he
  rw [get?_ofList, Option.map_eq_some_iff] at hget
  obtain ⟨f, hlast, hname⟩ := hget
  obtain ⟨hf, haddress⟩ := List.mem_filter.mp (List.mem_of_getLast? hlast)
  have hfe : f = e := Prod.ext (of_decide_eq_true haddress) hname
  exact hfe ▸ hf

theorem size_eq_length_toList (m : NameMap) : m.size = m.toList.length :=
  Array.length_toList.symm

/-- There are at most as many entries as addresses are named. -/
theorem size_ofList_le (l : List (Address × String)) : (ofList l).size ≤ l.length := by
  rw [size_eq_length_toList]
  induction l using List.reverseRecOn with
  | nil => exact Nat.le_refl _
  | append_singleton l e ih =>
    rw [ofList_concat, List.length_append, List.length_singleton]
    by_cases he : e.1 ∈ (ofList l).keys
    · rw [toList_insert_of_mem he, List.length_map]
      exact Nat.le_succ_of_le ih
    · rw [toList_insert_of_not_mem he, List.length_append, List.length_singleton]
      exact Nat.succ_le_succ ih

end NameMap

end NameRecovery
