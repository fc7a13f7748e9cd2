import Mathlib.Data.List.Induction
import NameRecovery.Proofs.Listing.Growth

/-!
# Where bytes come from

The bytes of an image are those of placed lines, and zeros that fill the gaps between them. So a
byte that is not zero is a byte of a placed line (`Supplied`). Only one placed line covers its
address: a line is placed at or above the end of all lines placed before.

## Main definitions

* `PlacedAt` : the line at a position is placed.
* `Supplied` : a byte comes from exactly one placed line.

## Main results

* `PlacedAt.stop_le_address`, `PlacedAt.byteAt?_eq_none` : placed lines do not overlap.
* `exists_placedAt` : a placed chunk is that of a placed line.
* `supplied_of_ne_zero` : a byte that is not zero comes from exactly one placed line.
-/

namespace NameRecovery

open Reconstruction

variable {options : ListingOptions} {lines : List String} {r : Reconstruction} {line : String}
  {n n' k : Nat} {c c' : Chunk} {b : UInt8} {image : ByteImage}

/-- The line at position `n` gives the bytes of `c` at their address, and they are placed: no line
before it fails, and it is not skipped. -/
def PlacedAt (options : ListingOptions) (lines : List String) (n : Nat) (c : Chunk) : Prop :=
  ∃ pre line post r gap, lines = pre ++ line :: post ∧ pre.length = n ∧
    Line.meaning? options.dialect line = some (.data c.address c.bytes) ∧
    Reconstruction.feed options {} pre = .ok r ∧
    (r.push options line).2 = .ok (.placed c.address gap c.bytes)

/-- A placed line covers the address `x` with the byte `b`, and no other placed line covers it. -/
def Supplied (options : ListingOptions) (lines : List String) (x : Nat) (b : UInt8) : Prop :=
  ∃ n c, PlacedAt options lines n c ∧ c.byteAt? x = some b ∧
    ∀ n' c', PlacedAt options lines n' c' → n' ≠ n → c'.byteAt? x = none

/-! ### Placed lines -/

/-- Further lines leave a placed line where it is. -/
theorem PlacedAt.append (h : PlacedAt options lines n c) (more : List String) :
    PlacedAt options (lines ++ more) n c := by
  obtain ⟨pre, line, post, r, gap, rfl, hn, hmeaning, hpre, hpush⟩ := h
  exact ⟨pre, line, post ++ more, r, gap, by rw [List.append_assoc, List.cons_append], hn, hmeaning,
    hpre, hpush⟩

/-- Where the next byte belongs before a line is placed, and after it. -/
theorem exists_of_push_placed {gap : Nat}
    (h : (r.push options line).2 = .ok (.placed c.address gap c.bytes)) :
    r.stopFrom c.address + gap = c.address.toNat ∧
      ∃ s p, r.push options line = (s, .ok p) ∧ s.base ≠ none ∧ ∀ a, s.stopFrom a = c.stop := by
  have hpush : r.push options line =
      ((r.push options line).1, .ok (.placed c.address gap c.bytes)) :=
    Prod.ext rfl h
  obtain ⟨⟨m, -, hm⟩, hs⟩ := push_eq_ok_iff.mp hpush
  cases hm with
  | placed hfits hgap hlimit =>
    refine ⟨hgap, _, _, hpush, ?_, fun a => ?_⟩
    · rw [hs]
      exact Option.some_ne_none _
    · rw [hs, stopFrom_apply_placed hgap]
      rfl

/-- **Placed lines do not overlap.** A line is placed at or above the end of each line placed before
it. -/
theorem PlacedAt.stop_le_address (h : PlacedAt options lines n c)
    (h' : PlacedAt options lines n' c') (hlt : n < n') : c.stop ≤ c'.address.toNat := by
  obtain ⟨pre, line, post, r, gap, rfl, rfl, -, hpre, hpush⟩ := h
  obtain ⟨pre', line', post', r', gap', hsplit, rfl, -, hpre', hpush'⟩ := h'
  -- the lines before the second one begin with those up to the first one
  have hprefix : pre ++ [line] <+: pre' := by
    refine List.prefix_of_prefix_length_le ⟨post, ?_⟩ ⟨line' :: post', hsplit.symm⟩ ?_
    · rw [List.append_assoc, List.singleton_append]
    · rw [List.length_append, List.length_singleton]
      exact hlt
  obtain ⟨mid, rfl⟩ := hprefix
  obtain ⟨-, s, p, hs, hbase, hstop⟩ := exists_of_push_placed hpush
  obtain ⟨hgap', -⟩ := exists_of_push_placed hpush'
  have hmid : s.feed options mid = .ok r' := by
    have hline : r.feed options [line] = .ok s := feed_cons_eq_ok_iff.mpr ⟨s, p, hs, rfl⟩
    rw [← hpre', List.append_assoc, feed_append_of_ok hpre, feed_append_of_ok hline]
  have hle := (Extends.feed hmid).stopFrom_le hbase c'.address
  rw [hstop] at hle
  omega

/-- **Only one placed line covers an address.** -/
theorem PlacedAt.byteAt?_eq_none (h : PlacedAt options lines n c) {x : Nat}
    (hb : c.byteAt? x = some b) (h' : PlacedAt options lines n' c') (hne : n' ≠ n) :
    c'.byteAt? x = none := by
  rw [Chunk.byteAt?_eq_none_iff]
  obtain ⟨hle, hlt⟩ := Chunk.lt_of_byteAt?_eq_some hb
  rcases Nat.lt_or_gt_of_ne hne with hbefore | hafter
  · exact Or.inr (Nat.le_trans (h'.stop_le_address h hbefore) hle)
  · exact Or.inl (Nat.lt_of_lt_of_le hlt (h.stop_le_address h' hafter))

/-! ### Placed chunks -/

theorem chunks_concat {d : Dialect} {m : Line} (h : Line.meaning? d line = some m) :
    chunks d (lines ++ [line]) = chunks d lines ++ m.chunk?.toList := by
  rw [chunks, List.filterMap_append]
  exact congrArg _ ((chunks_cons h).trans (List.append_nil _))

/-- **A placed chunk is that of a placed line**, whichever base the chunks get if there is none
yet. -/
theorem exists_placedAt (h : Reconstruction.feed options {} lines = .ok r) (a : Address) :
    ∀ c ∈ placedFrom (r.base.getD a).toNat (chunks options.dialect lines),
      ∃ n, PlacedAt options lines n c := by
  induction lines using List.reverseRecOn generalizing r a with
  | nil => intro c hc; cases hc
  | append_singleton lines line ih =>
    obtain ⟨s, hs, hline⟩ := feed_append_eq_ok_iff.mp h
    obtain ⟨t, p, hpush, hnil⟩ := feed_cons_eq_ok_iff.mp hline
    obtain rfl := Except.ok.inj hnil
    obtain ⟨⟨m, hmeaning, hm⟩, rfl⟩ := push_eq_ok_iff.mp hpush
    have hholds := holds_empty.feed hs
    rw [List.nil_append, List.nil_append] at hholds
    have hold (a : Address) (c : Chunk)
        (hc : c ∈ placedFrom (s.base.getD a).toNat (chunks options.dialect lines)) :
        ∃ n, PlacedAt options (lines ++ [line]) n c := by
      obtain ⟨n, hn⟩ := ih hs a c hc
      exact ⟨n, hn.append [line]⟩
    intro c hc
    rw [chunks_concat hmeaning] at hc
    cases hm with
    | ignored => exact hold a c (List.append_nil (chunks options.dialect lines) ▸ hc)
    | outOfBounds b => exact hold b c (List.append_nil (chunks options.dialect lines) ▸ hc)
    | @overlap b expected bytes hfits hexpected hlt =>
      have hm : Accepts options s (.data b bytes) (.overlap b expected) :=
        .overlap hfits hexpected hlt
      have hskip := (hholds.placedFrom_concat hm).trans (List.append_nil _)
      exact hold b c (hskip ▸ hc)
    | @placed b bytes gap hfits hgap hlimit =>
      have hplaced := hholds.placedFrom_concat (.placed hfits hgap hlimit)
      rcases List.mem_append.mp (hplaced ▸ hc) with hc | hc
      · exact hold b c hc
      · obtain rfl := List.mem_singleton.mp hc
        exact ⟨lines.length, lines, line, [], s, gap, rfl, rfl, hmeaning, hs, by rw [hpush]⟩

/-! ### Bytes -/

/-- **A byte that is not zero comes from exactly one placed line.** -/
theorem supplied_of_ne_zero (h : reconstruct options lines = .ok image)
    (hb : image.bytes[k]? = some b) (hne : b ≠ 0) :
    Supplied options lines (image.base.toNat + k) b := by
  have hbyte : (fillFrom image.base.toNat (placedFrom image.base.toNat
      (chunks options.dialect lines)))[image.base.toNat + k - image.base.toNat]? = some b := by
    rw [← toList_bytes_of_reconstruct h, Array.getElem?_toList, Nat.add_sub_cancel_left, hb]
  obtain ⟨c, hc, hcb⟩ :=
    ascending_placedFrom.exists_byteAt?_of_ne_zero (Nat.le_add_right _ k) hbyte hne
  obtain ⟨r, hfeed, hbase, -⟩ := reconstruct_eq_ok_iff.mp h
  have hgetD : r.base.getD image.base = image.base := by
    rw [hbase]
    rfl
  obtain ⟨n, hn⟩ := exists_placedAt hfeed image.base c (hgetD.symm ▸ hc)
  exact ⟨n, c, hn, hcb, fun _ _ hn' hne' => hn.byteAt?_eq_none hcb hn' hne'⟩

end NameRecovery
