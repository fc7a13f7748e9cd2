import NameRecovery.Proofs.Listing.Meaning

/-!
# Chunks laid out in memory

Chunks are placed one after another. A chunk below the end of what is placed is skipped whole;
any other chunk is placed, with zeros up to its address. This file describes the chunks that are
placed and the bytes they make up, as functions of the list of chunks and of the address where
the first byte belongs.

## Main definitions

* `placedFrom` : the chunks that are placed.
* `endFrom` : where the last chunk ends.
* `fillFrom` : the bytes of chunks with zeros between them.
* `Ascending` : each chunk begins at or after the end of the one before.

## Main results

* `ascending_placedFrom`, `Ascending.pairwise` : placed chunks ascend and do not overlap.
* `Ascending.length_fillFrom` : the bytes reach up to the end of the last chunk.
* `Ascending.getElem?_fillFrom_of_byteAt?`, `Ascending.getElem?_fillFrom_of_uncovered` : each byte
  is that of the chunk that covers its address, and zero where there is none.
* `Ascending.exists_byteAt?_of_ne_zero` : a byte that is not zero is that of a chunk.
* `placedFrom_append`, `fillFrom_append` : what further chunks add.
-/

namespace NameRecovery

/-- The chunks that are placed when the next byte belongs at `stop`. A chunk below that is
skipped whole. -/
def placedFrom (stop : Nat) : List Chunk → List Chunk
  | [] => []
  | c :: rest =>
    if stop ≤ c.address.toNat then c :: placedFrom c.stop rest else placedFrom stop rest

/-- Where the last of some chunks ends, or `stop` if there is none. -/
def endFrom (stop : Nat) : List Chunk → Nat
  | [] => stop
  | c :: rest => endFrom c.stop rest

/-- The bytes of chunks from `stop` on, with zeros up to the address of each. -/
def fillFrom (stop : Nat) : List Chunk → List UInt8
  | [] => []
  | c :: rest => List.replicate (c.address.toNat - stop) 0 ++ (c.bytes ++ fillFrom c.stop rest)

/-- Each chunk begins at or after the end of the one before, and the first one at or after
`stop`. -/
def Ascending (stop : Nat) : List Chunk → Prop
  | [] => True
  | c :: rest => stop ≤ c.address.toNat ∧ Ascending c.stop rest

variable {stop x : Nat} {c : Chunk} {cs ds : List Chunk}

theorem mem_of_mem_placedFrom (h : c ∈ placedFrom stop cs) : c ∈ cs := by
  induction cs generalizing stop with
  | nil => exact h
  | cons d rest ih =>
    rw [placedFrom] at h
    split at h
    · rcases List.mem_cons.mp h with rfl | h
      · exact List.mem_cons_self
      · exact List.mem_cons_of_mem d (ih h)
    · exact List.mem_cons_of_mem d (ih h)

theorem ascending_placedFrom : Ascending stop (placedFrom stop cs) := by
  induction cs generalizing stop with
  | nil => trivial
  | cons d rest ih =>
    rw [placedFrom]
    split
    · next hle => exact ⟨hle, ih⟩
    · exact ih

/-- The end is that of the last chunk. -/
theorem endFrom_eq_getLast? : endFrom stop cs = cs.getLast?.elim stop Chunk.stop := by
  induction cs generalizing stop with
  | nil => rfl
  | cons d rest ih =>
    rw [endFrom, ih, List.getLast?_cons]
    cases rest.getLast? <;> rfl

/-! ### Chunks that ascend -/

namespace Ascending

theorem le_address (h : Ascending stop cs) : ∀ c ∈ cs, stop ≤ c.address.toNat := by
  induction cs generalizing stop with
  | nil => intro c hc; cases hc
  | cons d rest ih =>
    intro c hc
    obtain ⟨hle, hrest⟩ := h
    rcases List.mem_cons.mp hc with rfl | hc
    · exact hle
    · have hstop := ih hrest c hc
      rw [Chunk.stop] at hstop
      omega

theorem pairwise (h : Ascending stop cs) :
    cs.Pairwise fun c d => c.stop ≤ d.address.toNat := by
  induction cs generalizing stop with
  | nil => exact List.Pairwise.nil
  | cons d rest ih => exact List.pairwise_cons.mpr ⟨h.2.le_address, ih h.2⟩

theorem le_endFrom (h : Ascending stop cs) : stop ≤ endFrom stop cs := by
  induction cs generalizing stop with
  | nil => exact Nat.le_refl _
  | cons d rest ih =>
    have hrest := ih h.2
    have hle := h.1
    rw [endFrom]
    rw [Chunk.stop] at hrest ⊢
    omega

theorem stop_le_endFrom (h : Ascending stop cs) : ∀ c ∈ cs, c.stop ≤ endFrom stop cs := by
  induction cs generalizing stop with
  | nil => intro c hc; cases hc
  | cons d rest ih =>
    intro c hc
    rcases List.mem_cons.mp hc with rfl | hc
    · exact h.2.le_endFrom
    · exact ih h.2 c hc

/-- **The bytes reach up to the end of the last chunk.** -/
theorem length_fillFrom (h : Ascending stop cs) :
    stop + (fillFrom stop cs).length = endFrom stop cs := by
  induction cs generalizing stop with
  | nil => rfl
  | cons d rest ih =>
    have hrest := ih h.2
    have hle := h.1
    rw [endFrom, ← hrest, fillFrom, List.length_append, List.length_append,
      List.length_replicate, Chunk.stop]
    omega

/-- The byte at an address: a zero before the first chunk, a byte of that chunk, or a byte of
what follows it. -/
theorem getElem?_fillFrom_cons (hle : stop ≤ c.address.toNat) (hx : stop ≤ x) :
    (fillFrom stop (c :: cs))[x - stop]? =
      if x < c.address.toNat then some 0
      else if x < c.stop then c.bytes[x - c.address.toNat]?
      else (fillFrom c.stop cs)[x - c.stop]? := by
  rw [fillFrom, List.getElem?_append, List.length_replicate]
  by_cases hbefore : x < c.address.toNat
  · rw [if_pos (by omega), if_pos hbefore, List.getElem?_replicate, if_pos (by omega)]
  · have hindex : x - stop - (c.address.toNat - stop) = x - c.address.toNat := by omega
    rw [if_neg (by omega), if_neg hbefore, hindex, List.getElem?_append]
    by_cases hin : x < c.stop
    · rw [if_pos (by rw [Chunk.stop] at hin; omega), if_pos hin]
    · have hrest : x - c.address.toNat - c.bytes.length = x - c.stop := by
        rw [Chunk.stop]
        omega
      rw [if_neg (by rw [Chunk.stop] at hin; omega), if_neg hin, hrest]

/-- **A covered address holds the byte of the chunk that covers it.** -/
theorem getElem?_fillFrom_of_byteAt? (h : Ascending stop cs) (hc : c ∈ cs) {b : UInt8}
    (hb : c.byteAt? x = some b) : (fillFrom stop cs)[x - stop]? = some b := by
  induction cs generalizing stop with
  | nil => cases hc
  | cons d rest ih =>
    obtain ⟨hle, hlt⟩ := Chunk.lt_of_byteAt?_eq_some hb
    have hstop := h.le_address c hc
    rw [getElem?_fillFrom_cons h.1 (Nat.le_trans hstop hle)]
    rcases List.mem_cons.mp hc with rfl | hc
    · rw [if_neg (Nat.not_lt.mpr hle), if_pos hlt]
      rwa [Chunk.byteAt?, if_pos hle] at hb
    · -- the chunk lies behind the first one, and so does the address
      have hafter := Nat.le_trans (h.2.le_address c hc) hle
      have hstart : d.address.toNat ≤ d.stop := Nat.le_add_right _ _
      rw [if_neg (by omega), if_neg (Nat.not_lt.mpr hafter)]
      exact ih h.2 hc

/-- **An address that no chunk covers holds a zero.** -/
theorem getElem?_fillFrom_of_uncovered (h : Ascending stop cs) (hx : stop ≤ x)
    (hend : x < endFrom stop cs) (hnone : ∀ c ∈ cs, c.byteAt? x = none) :
    (fillFrom stop cs)[x - stop]? = some 0 := by
  induction cs generalizing stop with
  | nil => exact absurd hx (Nat.not_le.mpr hend)
  | cons d rest ih =>
    rw [getElem?_fillFrom_cons h.1 hx]
    obtain ⟨hd, hrest⟩ := List.forall_mem_cons.mp hnone
    rcases Chunk.byteAt?_eq_none_iff.mp hd with hbefore | hafter
    · rw [if_pos hbefore]
    · have hstart : d.address.toNat ≤ d.stop := Nat.le_add_right _ _
      rw [if_neg (by omega), if_neg (Nat.not_lt.mpr hafter)]
      exact ih h.2 hafter hend hrest

/-- **A byte that is not zero is that of a chunk.** -/
theorem exists_byteAt?_of_ne_zero (h : Ascending stop cs) (hx : stop ≤ x) {b : UInt8}
    (hb : (fillFrom stop cs)[x - stop]? = some b) (hne : b ≠ 0) :
    ∃ c ∈ cs, c.byteAt? x = some b := by
  by_cases hcovered : ∃ c ∈ cs, c.byteAt? x ≠ none
  · obtain ⟨c, hc, hsome⟩ := hcovered
    obtain ⟨b', hb'⟩ := Option.ne_none_iff_exists'.mp hsome
    obtain rfl := Option.some.inj ((h.getElem?_fillFrom_of_byteAt? hc hb').symm.trans hb)
    exact ⟨c, hc, hb'⟩
  · have hnone : ∀ c ∈ cs, c.byteAt? x = none :=
      fun c hc => Classical.not_not.mp fun hsome => hcovered ⟨c, hc, hsome⟩
    have hend : x < endFrom stop cs := by
      rw [← h.length_fillFrom]
      obtain ⟨hlt, -⟩ := List.getElem?_eq_some_iff.mp hb
      omega
    have hzero := h.getElem?_fillFrom_of_uncovered hx hend hnone
    exact absurd (Option.some.inj (hb.symm.trans hzero)) hne

end Ascending

/-! ### Further chunks -/

theorem fillFrom_append :
    fillFrom stop (cs ++ ds) = fillFrom stop cs ++ fillFrom (endFrom stop cs) ds := by
  induction cs generalizing stop with
  | nil => rfl
  | cons c rest ih =>
    rw [List.cons_append, fillFrom, ih, fillFrom, endFrom, List.append_assoc, List.append_assoc]

/-- Further chunks are placed from the end of those placed before. -/
theorem placedFrom_append :
    placedFrom stop (cs ++ ds) =
      placedFrom stop cs ++ placedFrom (endFrom stop (placedFrom stop cs)) ds := by
  induction cs generalizing stop with
  | nil => rfl
  | cons c rest ih =>
    rw [List.cons_append, placedFrom, placedFrom]
    split
    · rw [ih, endFrom, List.cons_append]
    · exact ih

end NameRecovery
