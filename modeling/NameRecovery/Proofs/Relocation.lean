import Mathlib.Data.List.Forall2
import NameRecovery.Image
import NameRecovery.Proofs.NameMap

/-!
# Moved addresses

An address is moved when a distance `d` is added to its number and the sum is an address again. What
holds addresses is moved with them: an image keeps its bytes, a name map keeps its names and their
order, and only the addresses differ. Comparing two addresses gives the same before and after.

## Main definitions

* `Address.Relocated`, `ByteImage.Relocated`, `NameMap.Relocated` : the second one is the first one
  moved by `d`.
* `ExceptRel` : two results that are both values or both errors, and related.

## Main results

* `Address.Relocated.lt_iff`, `Address.Relocated.eq_iff` : comparisons are kept.
* `NameMap.Relocated.insert` : naming an address is kept.
-/

namespace NameRecovery

variable {d : Nat}

/-- Both results are values related by `V`, or both are errors related by `E`. -/
inductive ExceptRel {ε δ α β : Type} (E : ε → δ → Prop) (V : α → β → Prop) :
    Except ε α → Except δ β → Prop
  | ok {a : α} {b : β} (h : V a b) : ExceptRel E V (.ok a) (.ok b)
  | error {e : ε} {f : δ} (h : E e f) : ExceptRel E V (.error e) (.error f)

instance {ε δ α β : Type} {E : ε → δ → Prop} {V : α → β → Prop} [∀ e f, Decidable (E e f)]
    [∀ a b, Decidable (V a b)] : ∀ x y, Decidable (ExceptRel E V x y)
  | .ok a, .ok b => decidable_of_iff (V a b) ⟨.ok, fun | .ok h => h⟩
  | .error e, .error f => decidable_of_iff (E e f) ⟨.error, fun | .error h => h⟩
  | .ok _, .error _ => isFalse nofun
  | .error _, .ok _ => isFalse nofun

theorem ExceptRel.cases {ε δ α β : Type} {E : ε → δ → Prop} {V : α → β → Prop}
    {x : Except ε α} {y : Except δ β} (h : ExceptRel E V x y) :
    (∃ a b, x = .ok a ∧ y = .ok b ∧ V a b) ∨ ∃ e f, x = .error e ∧ y = .error f ∧ E e f := by
  cases h with
  | ok h => exact Or.inl ⟨_, _, rfl, rfl, h⟩
  | error h => exact Or.inr ⟨_, _, rfl, rfl, h⟩

/-! ### Addresses -/

namespace Address

/-- The address `b` is `a` moved up by `d` bytes. -/
def Relocated (d : Nat) (a b : Address) : Prop :=
  b.toNat = a.toNat + d

instance (d : Nat) (a b : Address) : Decidable (Relocated d a b) :=
  inferInstanceAs (Decidable (b.toNat = a.toNat + d))

namespace Relocated

variable {a b a' b' : Address}

theorem lt_iff (h : Relocated d a b) (h' : Relocated d a' b') : a < a' ↔ b < b' := by
  rw [lt_def, lt_def, h, h', Nat.add_lt_add_iff_right]

theorem eq_iff (h : Relocated d a b) (h' : Relocated d a' b') : a = a' ↔ b = b' := by
  rw [Address.ext_iff, Address.ext_iff, h, h', Nat.add_right_cancel_iff]

theorem biUnique : Relator.BiUnique (Relocated d) :=
  ⟨fun _ _ _ h h' => (h.eq_iff h').mpr rfl, fun _ _ _ h h' => (h.eq_iff h').mp rfl⟩

/-- The base, if there is one, or else the address of a line. -/
theorem getD {base base' : Option Address} (hbase : Option.Rel (Relocated d) base base')
    (h : Relocated d a b) : Relocated d (base.getD a) (base'.getD b) := by
  cases hbase with
  | none => exact h
  | some hbase => exact hbase

end Relocated

end Address

/-! ### Images -/

/-- The bytes stay, and the base is moved. -/
structure ByteImage.Relocated (d : Nat) (image image' : ByteImage) : Prop where
  base : Address.Relocated d image.base image'.base
  bytes_eq : image'.bytes = image.bytes

/-- The address of an index is moved with the base. -/
theorem ByteImage.Relocated.addressOf {image image' : ByteImage} (h : image.Relocated d image')
    (i : Nat) : Address.Relocated d (image.addressOf i) (image'.addressOf i) := by
  have hbase : image'.base.toNat = image.base.toNat + d := h.base
  change image'.base.toNat + min i image'.bytes.size = image.base.toNat + min i image.bytes.size + d
  rw [hbase, h.bytes_eq]
  exact Nat.add_right_comm _ _ _

/-! ### Maps -/

namespace NameMap

variable {m n : NameMap} {a b : Address}

/-- The address of an entry is moved, its name stays. -/
def EntryRelocated (d : Nat) (e f : Address × String) : Prop :=
  Address.Relocated d e.1 f.1 ∧ e.2 = f.2

/-- The addresses are moved; the names stay, and so does the order. -/
structure Relocated (d : Nat) (m n : NameMap) : Prop where
  entries : List.Forall₂ (EntryRelocated d) m.toList n.toList
  index : List.Forall₂ (Address.Relocated d) m.index n.index

theorem relocated_empty : Relocated d {} {} :=
  ⟨.nil, .nil⟩

/-- Putting an address into a descending list. -/
theorem relocated_insertDescending {l l' : List Address}
    (hl : List.Forall₂ (Address.Relocated d) l l') (h : Address.Relocated d a b) :
    List.Forall₂ (Address.Relocated d) (insertDescending a l) (insertDescending b l') := by
  induction hl with
  | nil => exact .cons h .nil
  | @cons c c' rest rest' hc hrest ih =>
    rw [insertDescending, insertDescending]
    by_cases hlt : a < c
    · rw [if_pos hlt, if_pos ((h.lt_iff hc).mp hlt)]
      exact .cons hc ih
    · rw [if_neg hlt, if_neg (mt (h.lt_iff hc).mpr hlt)]
      by_cases heq : a = c
      · rw [if_pos heq, if_pos ((h.eq_iff hc).mp heq)]
        exact .cons hc hrest
      · rw [if_neg heq, if_neg (mt (h.eq_iff hc).mpr heq)]
        exact .cons h (.cons hc hrest)

namespace Relocated

theorem mem_keys_iff (hm : m.Relocated d n) (h : Address.Relocated d a b) :
    a ∈ m.keys ↔ b ∈ n.keys :=
  List.rel_mem Address.Relocated.biUnique h (List.rel_map (fun _ _ he => he.1) hm.entries)

/-- **Naming an address** in a map, and the moved address in the moved map. -/
theorem insert (hm : m.Relocated d n) (h : Address.Relocated d a b) (name : String) :
    (m.insert a name).Relocated d (n.insert b name) where
  entries := by
    by_cases hmem : a ∈ m.keys
    · rw [toList_insert_of_mem hmem, toList_insert_of_mem ((hm.mem_keys_iff h).mp hmem)]
      refine List.rel_map (fun e f he => ?_) hm.entries
      by_cases heq : e.1 = a
      · rw [if_pos heq, if_pos ((he.1.eq_iff h).mp heq)]
        exact ⟨h, rfl⟩
      · rw [if_neg heq, if_neg (mt (he.1.eq_iff h).mpr heq)]
        exact he
    · rw [toList_insert_of_not_mem hmem,
        toList_insert_of_not_mem (mt (hm.mem_keys_iff h).mpr hmem)]
      exact List.rel_append hm.entries (.cons ⟨h, rfl⟩ .nil)
  index := relocated_insertDescending hm.index h

end Relocated

end NameMap

end NameRecovery
