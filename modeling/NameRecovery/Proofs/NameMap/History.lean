import Mathlib.Data.List.Perm.Subperm
import NameRecovery.Proofs.NameMap

/-!
# Maps and the names that were given

A name map is made by naming addresses one after another, and it keeps from this history what its
queries need: each address once, in the order in which the addresses first came, with the name that
it got last. This file states all queries on that list, and says which histories give equal maps.

## Main definitions

* `NameMap.lastName?` : the name that an address got last.

## Main results

* `NameMap.keys_ofList`, `NameMap.lastName?_of_mem` : the list of entries, from the history.
* `NameMap.addressOf?_eq_some_iff` : the first entry with a name.
* `NameMap.Coherent.index_eq` : the index is settled by the entries.
* `NameMap.Coherent.beq_iff_perm` : when two maps are equal.
* `NameMap.ofList_exact` : all queries, for every history.
-/

namespace NameRecovery

namespace NameMap

variable {m n : NameMap} {a : Address} {name : String} {named : List (Address × String)}
  {e : Address × String}

/-! ### Entries and the history -/

/-- The name that an address got last. -/
def lastName? (named : List (Address × String)) (a : Address) : Option String :=
  ((named.filter fun e => e.1 = a).getLast?).map (·.2)

/-- **The keys are the named addresses**, each once, where it first came. -/
theorem keys_ofList (named : List (Address × String)) :
    (ofList named).keys = (named.map (·.1)).eraseDups := by
  induction named using List.reverseRecOn with
  | nil => rfl
  | append_singleton named e ih =>
    rw [ofList_concat, List.map_append, List.map_singleton, List.eraseDups_append, ← ih]
    by_cases he : e.1 ∈ (ofList named).keys
    · have hold : [e.1].removeAll (named.map (·.1)) = [] := by
        simpa [List.removeAll] using mem_keys_ofList.mp he
      rw [keys_insert_of_mem he, hold, List.eraseDups_nil, List.append_nil]
    · have hnew : [e.1].removeAll (named.map (·.1)) = [e.1] := by
        simpa [List.removeAll] using mt mem_keys_ofList.mpr he
      rw [keys_insert_of_not_mem he, hnew, List.eraseDups_cons, List.filter_nil, List.eraseDups_nil]

/-- An entry has the name that its address got last. -/
theorem lastName?_of_mem (he : e ∈ (ofList named).toList) : lastName? named e.1 = some e.2 := by
  rw [lastName?, ← get?_ofList]
  exact (coherent_ofList named).get?_eq_some_iff.mpr he

/-! ### Queries -/

theorem isEmpty_iff : m.isEmpty = true ↔ m.toList = [] := by
  rw [isEmpty, toList, Array.isEmpty_iff, Array.toList_eq_nil_iff]

/-- **The first entry with a name.** -/
theorem addressOf?_eq_some_iff :
    m.addressOf? name = some a ↔
      ∃ pre post, m.toList = pre ++ (a, name) :: post ∧ ∀ e ∈ pre, e.2 ≠ name := by
  rw [addressOf?, ← Array.find?_toList, Option.map_eq_some_iff]
  constructor
  · rintro ⟨e, hfind, rfl⟩
    obtain ⟨hname, pre, post, hlist, hpre⟩ := List.find?_eq_some_iff_append.mp hfind
    obtain rfl := of_decide_eq_true hname
    exact ⟨pre, post, hlist, fun f hf => by simpa using hpre f hf⟩
  · rintro ⟨pre, post, hlist, hpre⟩
    refine ⟨(a, name), List.find?_eq_some_iff_append.mpr ⟨decide_eq_true rfl, pre, post, hlist, ?_⟩,
      rfl⟩
    exact fun f hf => by simpa using hpre f hf

/-! ### Equal maps -/

theorem Coherent.nodup_toList (h : m.Coherent) : m.toList.Nodup :=
  h.nodup_keys.of_map _

/-- The index of a map is settled by its entries, in whatever order they stand. -/
theorem Coherent.index_eq (hm : m.Coherent) (hn : n.Coherent) (h : m.toList.Perm n.toList) :
    m.index = n.index := by
  have hasymm (x y : Address) (hxy : y < x) (hyx : x < y) : x = y :=
    absurd hxy (Nat.lt_asymm hyx)
  have hnodup {l : List Address} (hl : l.Pairwise fun x y => y < x) : l.Nodup :=
    hl.imp fun hlt => (Address.ne_of_lt hlt).symm
  have hmem (a : Address) : a ∈ m.index ↔ a ∈ n.index := by
    rw [hm.mem_index_iff, hn.mem_index_iff]
    exact (h.map (·.1)).mem_iff
  have hperm : m.index.Perm n.index :=
    (List.perm_ext_iff_of_nodup (hnodup hm.pairwise_index) (hnodup hn.pairwise_index)).mpr hmem
  exact hperm.eq_of_pairwise (fun x y _ _ => hasymm x y) hm.pairwise_index hn.pairwise_index

theorem Coherent.sameEntries_iff_perm (hm : m.Coherent) (hn : n.Coherent) :
    m.sameEntries n = true ↔ m.toList.Perm n.toList := by
  have hsame : m.sameEntries n = true ↔
      m.toList.length = n.toList.length ∧ ∀ e ∈ m.toList, e ∈ n.toList := by
    simp only [sameEntries, size_eq_length_toList, Bool.and_eq_true, beq_iff_eq,
      Array.all_eq_true_iff_forall_mem, hn.get?_eq_some_iff, toList, Array.mem_toList_iff]
  rw [hsame]
  constructor
  · rintro ⟨hlength, hsubset⟩
    have hsubperm := List.subperm_of_subset hm.nodup_toList hsubset
    exact hsubperm.perm_of_length_le (Nat.le_of_eq hlength.symm)
  · intro hperm
    exact ⟨hperm.length_eq, fun e he => hperm.mem_iff.mp he⟩

/-- **Two maps are equal when they have the same entries**, in whatever order; their indices are then
the same as well. -/
theorem Coherent.beq_iff_perm (hm : m.Coherent) (hn : n.Coherent) :
    (m == n) = true ↔ m.toList.Perm n.toList := by
  have hbeq : (m == n) = true ↔ m.sameEntries n = true ∧ m.index = n.index := by
    change (m.sameEntries n && m.index == n.index) = true ↔ _
    rw [Bool.and_eq_true, beq_iff_eq]
  rw [hbeq, hm.sameEntries_iff_perm hn]
  exact and_iff_left_of_imp (hm.index_eq hn)

/-! ### The whole statement -/

/-- **A name map says what was named.** For every history of names given to addresses, the map lists
each named address once, in the order in which the addresses first came, with the name that it got
last; naming a further address gives the map of the longer history and says which name the address
had before; the name of an address, the number of entries and whether there is none are those of the
list; the index holds exactly the listed addresses, in descending order; the entry found for an
address is the listed one with the greatest address that is not above it, and there is none exactly
when all listed addresses are above it; the address found for a name is that of the first entry with
this name; and two maps are equal exactly when they list the same entries, in whatever order. -/
theorem ofList_exact (named : List (Address × String)) :
    let m := ofList named
    (m.keys.Nodup ∧ m.keys = (named.map (·.1)).eraseDups ∧
      ∀ e ∈ m.toList, lastName? named e.1 = some e.2) ∧
    (∀ a name, m.getThenInsert? a name = (lastName? named a, ofList (named ++ [(a, name)]))) ∧
    (∀ a name, m.get? a = some name ↔ (a, name) ∈ m.toList) ∧
    (m.size = m.toList.length ∧ (m.isEmpty = true ↔ m.toList = [])) ∧
    (m.index.Pairwise (fun x y => y < x) ∧ ∀ a, a ∈ m.index ↔ a ∈ m.keys) ∧
    (∀ a e, m.lookup? a = some e ↔
      e ∈ m.toList ∧ e.1 ≤ a ∧ ∀ f ∈ m.toList, f.1 ≤ a → f.1 ≤ e.1) ∧
    (∀ a, m.lookup? a = none ↔ ∀ e ∈ m.toList, a < e.1) ∧
    (∀ name a, m.addressOf? name = some a ↔
      ∃ pre post, m.toList = pre ++ (a, name) :: post ∧ ∀ e ∈ pre, e.2 ≠ name) ∧
    (∀ named', (m == ofList named') = true ↔ m.toList.Perm (ofList named').toList) := by
  intro m
  have hm : m.Coherent := coherent_ofList named
  refine ⟨⟨hm.nodup_keys, keys_ofList named, fun e => lastName?_of_mem⟩, fun a name => ?_,
    fun a name => hm.get?_eq_some_iff, ⟨m.size_eq_length_toList, isEmpty_iff⟩,
    ⟨hm.pairwise_index, hm.mem_index_iff⟩, fun a e => hm.lookup?_eq_some_iff,
    fun a => hm.lookup?_eq_none_iff, fun name a => addressOf?_eq_some_iff,
    fun named' => hm.beq_iff_perm (coherent_ofList named')⟩
  rw [getThenInsert?, ofList_concat, get?_ofList]
  rfl

/-- A second name for an address replaces the first one where it stands. -/
example :
    let low : Address := ⟨0x80, by decide⟩
    let high : Address := ⟨0x100, by decide⟩
    let m := ofList [(high, "first"), (low, "second"), (high, "third")]
    m.toList = [(high, "third"), (low, "second")] ∧ m.index = [high, low] ∧
      m.addressOf? "first" = none ∧ m.lookup? ⟨0xff, by decide⟩ = some (low, "second") := by
  decide +kernel

end NameMap

end NameRecovery
