import NameRecovery.Proofs.Listing.Layout
import NameRecovery.Proofs.Listing.Steps

/-!
# The image of a listing

A reconstruction depends on the lines pushed so far through their addresses and their chunks only:
the first address is the base, and the bytes are those of the placed chunks with zeros between
them (`Reconstruction.Holds`). A line that is taken keeps this true, and so does a whole listing;
the image of a listing can then be read off its chunks.

## Main definitions

* `Placement.chunk?` : the chunk that a placement adds.
* `Reconstruction.Holds` : what a reconstruction says about the lines pushed so far.

## Main results

* `Reconstruction.Holds.placedFrom_concat` : what a data line adds to the placed chunks.
* `Reconstruction.Holds.apply`, `Reconstruction.Holds.feed` : one line, and many lines.
* `reconstruct_eq_ok_iff` : when a listing has an image.
* `toList_bytes_of_reconstruct` : the bytes of an image.
* `reconstruct_eq_empty_iff` : when a listing has no address.
* `reconstruct_exact` : the image of every listing.
-/

namespace NameRecovery

/-- The chunk that a placement adds. -/
def Placement.chunk? : Placement → Option Chunk
  | placed a _ bytes => some ⟨a, bytes⟩
  | _ => none

namespace Reconstruction

variable {options : ListingOptions} {r r' : Reconstruction} {as : List Address}
  {cs : List Chunk}

/-- The lines pushed so far have the addresses `as` and give the chunks `cs`: the first address is
the base, and the bytes are those of the placed chunks with zeros between them. -/
structure Holds (r : Reconstruction) (as : List Address) (cs : List Chunk) : Prop where
  base_eq : r.base = as.head?
  chunks_eq_nil : r.base = none → cs = []
  bytes_eq_nil : r.base = none → r.bytes = #[]
  toList_bytes : ∀ base, r.base = some base →
    r.bytes.toList = fillFrom base.toNat (placedFrom base.toNat cs)

theorem holds_empty : Holds {} [] [] :=
  ⟨rfl, fun _ => rfl, fun _ => rfl, fun _ h => by cases h⟩

namespace Holds

/-- Once there is a base, it remains to compare the base and the bytes. -/
theorem of_base {base : Address} (hbase : r.base = some base) (has : as.head? = some base)
    (hbytes : r.bytes.toList = fillFrom base.toNat (placedFrom base.toNat cs)) :
    r.Holds as cs where
  base_eq := hbase.trans has.symm
  chunks_eq_nil hnone := by rw [hbase] at hnone; cases hnone
  bytes_eq_nil hnone := by rw [hbase] at hnone; cases hnone
  toList_bytes base' hbase' := by
    obtain rfl := Option.some.inj (hbase.symm.trans hbase')
    exact hbytes

/-- The bytes, whichever base they get if there is none yet. -/
theorem toList_bytes_getD (h : r.Holds as cs) (a : Address) :
    r.bytes.toList =
      fillFrom (r.base.getD a).toNat (placedFrom (r.base.getD a).toNat cs) := by
  cases hbase : r.base with
  | none =>
    rw [h.chunks_eq_nil hbase, h.bytes_eq_nil hbase]
    rfl
  | some base => exact h.toList_bytes base hbase

/-- The next byte belongs where the placed chunks end. -/
theorem endFrom_eq (h : r.Holds as cs) (a : Address) :
    endFrom (r.base.getD a).toNat (placedFrom (r.base.getD a).toNat cs) = r.stopFrom a := by
  rw [← ascending_placedFrom.length_fillFrom, ← h.toList_bytes_getD a, Array.length_toList]
  rfl

/-- The first address stays the base. -/
theorem head?_append (h : r.Holds as cs) (a : Address) :
    (as ++ [a]).head? = some (r.base.getD a) := by
  rw [h.base_eq]
  cases as <;> rfl

/-- Further bytes are a chunk behind those placed before, unless they overlap them. -/
theorem placedFrom_concat (h : r.Holds as cs) {a : Address} {bytes : List UInt8} {p : Placement}
    (hm : Accepts options r (.data a bytes) p) :
    placedFrom (r.base.getD a).toNat (cs ++ [⟨a, bytes⟩]) =
      placedFrom (r.base.getD a).toNat cs ++ p.chunk?.toList := by
  rw [placedFrom_append, h.endFrom_eq, placedFrom]
  cases hm with
  | overlap hfits hexpected hlt =>
    rw [Address.lt_def, hexpected] at hlt
    rw [if_neg (Nat.not_le.mpr hlt)]
    rfl
  | placed hfits hgap hlimit =>
    rw [if_pos (Nat.le.intro hgap)]
    rfl

/-- **What one line keeps true.** -/
theorem apply (h : r.Holds as cs) {m : Line} {p : Placement} (hm : Accepts options r m p)
    (n : Nat) :
    (({ r with lineNo := n } : Reconstruction).apply p).Holds (as ++ m.address?.toList)
      (cs ++ m.chunk?.toList) := by
  cases hm with
  | ignored =>
    have has : as ++ Line.ignored.address?.toList = as := List.append_nil as
    have hcs : cs ++ Line.ignored.chunk?.toList = cs := List.append_nil cs
    rw [has, hcs]
    exact ⟨h.base_eq, h.chunks_eq_nil, h.bytes_eq_nil, h.toList_bytes⟩
  | outOfBounds a =>
    have hcs : cs ++ (Line.outOfBounds a).chunk?.toList = cs := List.append_nil cs
    rw [hcs]
    exact of_base rfl (h.head?_append a) (h.toList_bytes_getD a)
  | @overlap a expected bytes hfits hexpected hlt =>
    have hm : Accepts options r (.data a bytes) (.overlap a expected) :=
      .overlap hfits hexpected hlt
    have hskip : placedFrom (r.base.getD a).toNat (cs ++ [⟨a, bytes⟩]) =
        placedFrom (r.base.getD a).toNat cs :=
      (h.placedFrom_concat hm).trans (List.append_nil _)
    exact of_base rfl (h.head?_append a) ((h.toList_bytes_getD a).trans (congrArg _ hskip.symm))
  | @placed a bytes gap hfits hgap hlimit =>
    refine of_base rfl (h.head?_append a) ?_
    have hplaced : placedFrom (r.base.getD a).toNat (cs ++ [⟨a, bytes⟩]) =
        placedFrom (r.base.getD a).toNat cs ++ [⟨a, bytes⟩] :=
      h.placedFrom_concat (.placed hfits hgap hlimit)
    have hsub : a.toNat - r.stopFrom a = gap := by omega
    change (zeroFill r.bytes gap ++ bytes).toList =
      fillFrom (r.base.getD a).toNat (placedFrom (r.base.getD a).toNat (cs ++ [⟨a, bytes⟩]))
    rw [hplaced, fillFrom_append, ← h.toList_bytes_getD a, h.endFrom_eq, zeroFill_eq, fillFrom,
      fillFrom, hsub]
    simp

end Holds

/-! ### Many lines -/

variable {d : Dialect} {line : String} {rest : List String} {m : Line}

theorem addresses_cons (h : Line.meaning? d line = some m) :
    addresses d (line :: rest) = m.address?.toList ++ addresses d rest := by
  rw [addresses, List.filterMap_cons, h, Option.bind_some]
  cases m.address? <;> rfl

theorem chunks_cons (h : Line.meaning? d line = some m) :
    chunks d (line :: rest) = m.chunk?.toList ++ chunks d rest := by
  rw [chunks, List.filterMap_cons, h, Option.bind_some]
  cases m.chunk? <;> rfl

/-- **What a whole listing keeps true.** -/
theorem Holds.feed {lines : List String} (h : r.Holds as cs)
    (hfeed : r.feed options lines = .ok r') :
    r'.Holds (as ++ addresses options.dialect lines) (cs ++ chunks options.dialect lines) := by
  induction lines generalizing r as cs with
  | nil =>
    obtain rfl := Except.ok.inj hfeed
    have has : as ++ addresses options.dialect [] = as := List.append_nil as
    have hcs : cs ++ chunks options.dialect [] = cs := List.append_nil cs
    rw [has, hcs]
    exact h
  | cons line rest ih =>
    obtain ⟨s, p, hpush, hrest⟩ := feed_cons_eq_ok_iff.mp hfeed
    obtain ⟨⟨m, hmeaning, hm⟩, rfl⟩ := push_eq_ok_iff.mp hpush
    rw [addresses_cons hmeaning, chunks_cons hmeaning, ← List.append_assoc, ← List.append_assoc]
    exact ih (h.apply hm _) hrest

/-- Every line of a listing without an error has a meaning. -/
theorem exists_meaning_of_feed {lines : List String} (hfeed : r.feed options lines = .ok r') :
    ∀ line ∈ lines, ∃ m, Line.meaning? options.dialect line = some m := by
  induction lines generalizing r with
  | nil => intro line hline; cases hline
  | cons first rest ih =>
    intro line hline
    obtain ⟨s, p, hpush, hrest⟩ := feed_cons_eq_ok_iff.mp hfeed
    rcases List.mem_cons.mp hline with rfl | hline
    · obtain ⟨⟨m, hmeaning, -⟩, -⟩ := push_eq_ok_iff.mp hpush
      exact ⟨m, hmeaning⟩
    · exact ih hrest line hline

/-- Ignored lines are counted and nothing else. -/
theorem feed_of_ignored {lines : List String}
    (h : ∀ line ∈ lines, Line.meaning? options.dialect line = some .ignored) :
    r.feed options lines = .ok { r with lineNo := r.lineNo + lines.length } := by
  induction lines generalizing r with
  | nil => rfl
  | cons line rest ih =>
    obtain ⟨hline, hrest⟩ := List.forall_mem_cons.mp h
    have hpush : r.push options line = ({ r with lineNo := r.lineNo + 1 }, .ok .ignored) :=
      push_eq_ok_iff.mpr ⟨⟨.ignored, hline, .ignored⟩, rfl⟩
    refine feed_cons_eq_ok_iff.mpr ⟨_, _, hpush, ?_⟩
    rw [ih hrest, List.length_cons, Nat.add_assoc, Nat.add_comm 1]

end Reconstruction

/-! ### Images -/

variable {options : ListingOptions} {lines : List String} {image : ByteImage}

open Reconstruction

/-- A listing has an image when all its lines are taken and one of them has an address. -/
theorem reconstruct_eq_ok_iff :
    reconstruct options lines = .ok image ↔
      ∃ r : Reconstruction, Reconstruction.feed options {} lines = .ok r ∧
        r.base = some image.base ∧ r.bytes = image.bytes := by
  obtain ⟨base, bytes, fits⟩ := image
  rw [reconstruct]
  cases Reconstruction.feed options {} lines with
  | error e => simp
  | ok r =>
    simp only [Except.ok.injEq, exists_eq_left', finish]
    cases hbase : r.base with
    | none => simp
    | some base' =>
      simp only [ByteImage.ofBytes?, Option.some.injEq]
      split
      · next image' himage =>
        split at himage
        · obtain rfl := Option.some.inj himage
          simp only [Except.ok.injEq, ByteImage.mk.injEq]
        · cases himage
      · next himage =>
        simp only [reduceCtorEq, false_iff]
        rintro ⟨rfl, hbytes⟩
        rw [dif_pos (hbytes ▸ fits)] at himage
        cases himage

/-- The bytes of an image are those of the placed chunks, with zeros between them. -/
theorem toList_bytes_of_reconstruct (h : reconstruct options lines = .ok image) :
    image.bytes.toList =
      fillFrom image.base.toNat (placedFrom image.base.toNat (chunks options.dialect lines)) := by
  obtain ⟨r, hfeed, hbase, hbytes⟩ := reconstruct_eq_ok_iff.mp h
  have hholds := holds_empty.feed hfeed
  rw [List.nil_append, List.nil_append] at hholds
  rw [← hbytes]
  exact hholds.toList_bytes image.base hbase

/-- **A listing has no address** exactly when each of its lines is ignored. -/
theorem reconstruct_eq_empty_iff :
    reconstruct options lines = .error .empty ↔
      ∀ line ∈ lines, Line.meaning? options.dialect line = some .ignored := by
  constructor
  · intro h
    rw [reconstruct] at h
    cases hfeed : Reconstruction.feed options {} lines with
    | error e =>
      rw [hfeed] at h
      obtain rfl := Except.error.inj h
      exact absurd hfeed feed_ne_empty
    | ok r =>
      rw [hfeed] at h
      have hbase : r.base = none := by
        cases hbase : r.base with
        | none => rfl
        | some base =>
          simp only [finish, hbase] at h
          split at h <;> cases h
      have hnil : addresses options.dialect lines = [] := by
        have hhead := (holds_empty.feed hfeed).base_eq
        rw [hbase, List.nil_append] at hhead
        exact List.head?_eq_none_iff.mp hhead.symm
      intro line hline
      obtain ⟨m, hm⟩ := exists_meaning_of_feed hfeed line hline
      have hnone := List.filterMap_eq_nil_iff.mp hnil line hline
      rw [hm, Option.bind_some] at hnone
      cases m with
      | ignored => exact hm
      | outOfBounds a => cases hnone
      | data a bytes => cases hnone
  · intro h
    rw [reconstruct, feed_of_ignored h]
    rfl

/-- **The image of every listing.** Let the chunks of a listing be placed from the base on, each
one that begins at or after the end of the last placed chunk, all others being skipped whole. If
the listing has an image, then its base is the first address of the listing; the placed chunks
are not empty, lie between the base and the end of the address space, ascend and do not overlap;
the image ends where the last of them ends; and each byte is that of the placed chunk that covers
its address, and zero where there is none. A listing has no image for lack of an address exactly
when each of its lines is ignored. -/
theorem reconstruct_exact (options : ListingOptions) (lines : List String) :
    (∀ image, reconstruct options lines = .ok image →
      let placed := placedFrom image.base.toNat (chunks options.dialect lines)
      (addresses options.dialect lines).head? = some image.base ∧
      (∀ c ∈ placed,
        c.bytes ≠ [] ∧ image.base.toNat ≤ c.address.toNat ∧ c.stop < 0x10000000000000000) ∧
      (placed.Pairwise fun c d => c.stop ≤ d.address.toNat) ∧
      image.base.toNat + image.size = placed.getLast?.elim image.base.toNat Chunk.stop ∧
      ∀ k < image.size,
        (∀ c ∈ placed, ∀ b, c.byteAt? (image.base.toNat + k) = some b →
          image.bytes[k]? = some b) ∧
        ((∀ c ∈ placed, c.byteAt? (image.base.toNat + k) = none) →
          image.bytes[k]? = some 0)) ∧
    (reconstruct options lines = .error .empty ↔
      ∀ line ∈ lines, Line.meaning? options.dialect line = some .ignored) := by
  refine ⟨?_, reconstruct_eq_empty_iff⟩
  intro image himage placed
  obtain ⟨r, hfeed, hbase, hbytes⟩ := reconstruct_eq_ok_iff.mp himage
  have hholds := holds_empty.feed hfeed
  rw [List.nil_append, List.nil_append] at hholds
  have hascending : Ascending image.base.toNat placed := ascending_placedFrom
  have hfill : image.bytes.toList = fillFrom image.base.toNat placed := by
    rw [← hbytes]
    exact hholds.toList_bytes image.base hbase
  have hend : image.base.toNat + image.size = endFrom image.base.toNat placed := by
    rw [← hascending.length_fillFrom, ← hfill, Array.length_toList]
    rfl
  have hbyte (k : Nat) : image.bytes[k]? =
      (fillFrom image.base.toNat placed)[image.base.toNat + k - image.base.toNat]? := by
    rw [← hfill, Array.getElem?_toList, Nat.add_sub_cancel_left]
  refine ⟨hbase ▸ hholds.base_eq.symm, fun c hc => ⟨?_, hascending.le_address c hc, ?_⟩,
    hascending.pairwise, hend.trans endFrom_eq_getLast?, fun k hk => ⟨fun c hc b hb => ?_,
    fun hnone => ?_⟩⟩
  · exact bytes_ne_nil_of_mem_chunks (mem_of_mem_placedFrom hc)
  · have hstop := hascending.stop_le_endFrom c hc
    have hfits := image.fits
    rw [ByteImage.size] at hend
    omega
  · rw [hbyte k]
    exact hascending.getElem?_fillFrom_of_byteAt? hc hb
  · rw [hbyte k]
    exact hascending.getElem?_fillFrom_of_uncovered (Nat.le_add_right _ _) (by omega) hnone

/-- Memory that could not be read, a label, bytes, bytes that overlap them, and a gap. -/
def gappedListing : List String :=
  ["00000ffc: (out of bounds)", "entry:", "00001000: 1122 3344\tnop", "00001002: 5566\tnop",
    "00001006: 7788"]

/-- The image of `gappedListing`. -/
def gappedImage : ByteImage :=
  ⟨⟨0xffc, by decide⟩, #[0, 0, 0, 0, 0x11, 0x22, 0x33, 0x44, 0, 0, 0x77, 0x88], by decide⟩

/-- The base is the address that could not be read, the overlapping bytes are skipped, and the
gap holds zeros. -/
theorem reconstruct_gappedListing :
    reconstruct {} gappedListing = .ok gappedImage ∧
      (addresses .fixedWidth gappedListing).head? = some gappedImage.base ∧
      (placedFrom 0xffc (chunks .fixedWidth gappedListing)).map Chunk.stop = [0x1004, 0x1008] ∧
      0xffc + gappedImage.size = 0x1008 ∧
      gappedImage.bytes[5]? = some 0x22 ∧ gappedImage.bytes[8]? = some 0 := by
  have himage : reconstruct {} gappedListing = .ok gappedImage := by rfl
  have hplaced : placedFrom 0xffc (chunks .fixedWidth gappedListing) =
      [⟨⟨0x1000, by decide⟩, [0x11, 0x22, 0x33, 0x44]⟩, ⟨⟨0x1006, by decide⟩, [0x77, 0x88]⟩] := by
    decide +kernel
  obtain ⟨hbase, -, -, hend, hbytes⟩ := (reconstruct_exact {} gappedListing).1 _ himage
  simp only [show gappedImage.base.toNat = 0xffc from rfl, hplaced] at hend hbytes
  refine ⟨himage, hbase, by rw [hplaced]; rfl, hend, ?_, ?_⟩
  · exact (hbytes 5 (by decide)).1 _ List.mem_cons_self _ rfl
  · refine (hbytes 8 (by decide)).2 fun c hc => ?_
    rw [List.mem_cons, List.mem_singleton] at hc
    rcases hc with rfl | rfl <;> rfl

end NameRecovery
