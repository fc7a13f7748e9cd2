import NameRecovery.Proofs.Listing.Growth

/-!
# Lines that come again

A line that was taken leaves nothing to do for the same line later: an ignored line has no effect,
memory that could not be read only fixes a base, and bytes begin below the end of what is placed
from then on, whether they were placed or skipped, because a data line gives at least one byte. So
a meaning is settled (`Reconstruction.Settled`) once a line with it was taken, it stays settled, and
a line with a settled meaning is taken and changes neither the base nor the bytes.

## Main definitions

* `Reconstruction.Settled` : the meanings that have nothing left to do.
* `Reconstruction.SameImage` : the base, the bytes and the data lines are the same.

## Main results

* `Reconstruction.settled_of_feed` : after a listing all its lines are settled.
* `Reconstruction.exists_feed_of_settled` : settled lines are taken and change nothing.
* `reconstruct_replay` : lines that come again do not change the image of a listing.
-/

namespace NameRecovery

namespace Reconstruction

variable {options : ListingOptions} {r s t : Reconstruction} {line : String}
  {xs ys : List String} {m : Line} {p : Placement}

/-- The meanings that have nothing left to do. -/
inductive Settled (r : Reconstruction) : Line → Prop
  | ignored : Settled r .ignored
  | outOfBounds (a : Address) (hbase : r.base ≠ none) : Settled r (.outOfBounds a)
  | data {a : Address} {bytes : List UInt8} (hbase : r.base ≠ none)
      (hfits : a.toNat + bytes.length < 0x10000000000000000) (hlt : a.toNat < r.stopFrom a) :
      Settled r (.data a bytes)

/-- The base, the bytes and the data lines that gave them are the same. -/
structure SameImage (r s : Reconstruction) : Prop where
  base_eq : s.base = r.base
  bytes_eq : s.bytes = r.bytes
  dataLines_eq : s.dataLines = r.dataLines
  paddedBytes_eq : s.paddedBytes = r.paddedBytes

namespace SameImage

theorem refl (r : Reconstruction) : SameImage r r :=
  ⟨rfl, rfl, rfl, rfl⟩

theorem trans (hrs : SameImage r s) (hst : SameImage s t) : SameImage r t :=
  ⟨hst.base_eq.trans hrs.base_eq, hst.bytes_eq.trans hrs.bytes_eq,
    hst.dataLines_eq.trans hrs.dataLines_eq, hst.paddedBytes_eq.trans hrs.paddedBytes_eq⟩

theorem toExtends (h : SameImage r s) : Extends r s :=
  ⟨fun _ hbase => h.base_eq.trans hbase, h.bytes_eq ▸ List.prefix_rfl⟩

theorem finish_eq (h : SameImage r s) : s.finish = r.finish := by
  rw [finish, finish, h.base_eq, h.bytes_eq]

end SameImage

namespace Settled

/-- **A line that is taken is settled.** Bytes that are placed end above their address because there
is at least one of them. -/
theorem of_accepts (hm : Accepts options r m p)
    (hne : ∀ a bytes, m = .data a bytes → bytes ≠ []) (n : Nat) :
    Settled (({ r with lineNo := n } : Reconstruction).apply p) m := by
  cases hm with
  | ignored => exact .ignored
  | outOfBounds a => exact .outOfBounds a (Option.some_ne_none _)
  | overlap hfits hexpected hlt =>
    rw [Address.lt_def, hexpected] at hlt
    exact .data (Option.some_ne_none _) hfits hlt
  | @placed a bytes gap hfits hgap hlimit =>
    refine .data (Option.some_ne_none _) hfits ?_
    have hpos := List.length_pos_iff.mpr (hne a bytes rfl)
    rw [stopFrom_apply_placed hgap]
    omega

/-- What is settled stays settled when bytes are appended. -/
theorem of_extends (hm : Settled r m) (h : Extends r s) : Settled s m := by
  have hbase (hne : r.base ≠ none) : s.base ≠ none := by
    obtain ⟨base, hr⟩ := Option.ne_none_iff_exists'.mp hne
    rw [h.base_eq base hr]
    exact Option.some_ne_none base
  cases hm with
  | ignored => exact .ignored
  | outOfBounds a hne => exact .outOfBounds a (hbase hne)
  | data hne hfits hlt =>
    exact .data (hbase hne) hfits (Nat.lt_of_lt_of_le hlt (h.stopFrom_le hne _))

/-- **A line that is settled is taken and changes nothing** but the number of lines. -/
theorem exists_push (hm : Settled r m) (hr : r.Sound)
    (hmeaning : Line.meaning? options.dialect line = some m) :
    ∃ s p, r.push options line = (s, .ok p) ∧ SameImage r s := by
  have hgetD (a : Address) (hne : r.base ≠ none) : some (r.base.getD a) = r.base := by
    obtain ⟨base, hbase⟩ := Option.ne_none_iff_exists'.mp hne
    rw [hbase]
    rfl
  cases hm with
  | ignored =>
    exact ⟨_, _, push_eq_ok_iff.mpr ⟨⟨_, hmeaning, .ignored⟩, rfl⟩, rfl, rfl, rfl, rfl⟩
  | outOfBounds a hne =>
    exact ⟨_, _, push_eq_ok_iff.mpr ⟨⟨_, hmeaning, .outOfBounds a⟩, rfl⟩, hgetD a hne, rfl, rfl,
      rfl⟩
  | @data a bytes hne hfits hlt =>
    have hoverlap : Accepts options r (.data a bytes)
        (.overlap a ⟨r.stopFrom a, hr.stopFrom_lt a⟩) := .overlap hfits rfl hlt
    exact ⟨_, _, push_eq_ok_iff.mpr ⟨⟨_, hmeaning, hoverlap⟩, rfl⟩, hgetD a hne, rfl, rfl, rfl⟩

end Settled

/-! ### Many lines -/

/-- **After a listing all its lines are settled.** -/
theorem settled_of_feed (h : r.feed options xs = .ok s) :
    ∀ line ∈ xs, ∃ m, Line.meaning? options.dialect line = some m ∧ Settled s m := by
  induction xs generalizing r with
  | nil => intro line hline; cases hline
  | cons first rest ih =>
    intro line hline
    obtain ⟨t, p, hpush, hrest⟩ := feed_cons_eq_ok_iff.mp h
    rcases List.mem_cons.mp hline with rfl | hline
    · obtain ⟨⟨m, hmeaning, hm⟩, rfl⟩ := push_eq_ok_iff.mp hpush
      refine ⟨m, hmeaning, (Settled.of_accepts hm ?_ _).of_extends (.feed hrest)⟩
      rintro a bytes rfl
      exact Line.bytes_ne_nil_of_classify (Line.classify_eq_ok_iff (n := 0).mpr hmeaning)
    · exact ih hrest line hline

/-- **Settled lines are taken and change nothing.** -/
theorem exists_feed_of_settled (hr : r.Sound)
    (h : ∀ line ∈ ys, ∃ m, Line.meaning? options.dialect line = some m ∧ Settled r m) :
    ∃ s, r.feed options ys = .ok s ∧ SameImage r s := by
  induction ys generalizing r with
  | nil => exact ⟨r, rfl, .refl r⟩
  | cons line rest ih =>
    obtain ⟨⟨m, hmeaning, hm⟩, hrest⟩ := List.forall_mem_cons.mp h
    obtain ⟨t, p, hpush, hsame⟩ := hm.exists_push hr hmeaning
    have ht : t.Sound := by
      have hsound := hr.push options line
      rwa [hpush] at hsound
    obtain ⟨s, hfeed, hsame'⟩ := ih ht fun line hline => by
      obtain ⟨m', hmeaning', hm'⟩ := hrest line hline
      exact ⟨m', hmeaning', hm'.of_extends hsame.toExtends⟩
    exact ⟨s, feed_cons_eq_ok_iff.mpr ⟨t, p, hpush, hfeed⟩, hsame.trans hsame'⟩

/-- Lines that come again are taken and change nothing. -/
theorem exists_feed_of_subset (hxs : Reconstruction.feed options {} xs = .ok r) (h : ys ⊆ xs) :
    ∃ s, r.feed options ys = .ok s ∧ SameImage r s :=
  exists_feed_of_settled (sound_empty.feed hxs) fun line hline =>
    settled_of_feed hxs line (h hline)

/-- Feeding lines fails at a line, and the error names it. -/
theorem line?_of_feed_eq_error {e : ListingError} (h : r.feed options xs = .error e) :
    e.line? ≠ none := by
  obtain ⟨pre, line, post, s, -, -, hfails⟩ := feed_eq_error_iff.mp h
  rw [line?_of_push_eq_error hfails]
  exact Option.some_ne_none _

end Reconstruction

open Reconstruction

variable {options : ListingOptions} {xs ys : List String} {r : Reconstruction}

theorem reconstruct_append_of_subset (hxs : Reconstruction.feed options {} xs = .ok r)
    (h : ys ⊆ xs) : reconstruct options (xs ++ ys) = reconstruct options xs := by
  obtain ⟨s, hys, hsame⟩ := exists_feed_of_subset hxs h
  rw [reconstruct, reconstruct, feed_append_of_ok hxs, hys, hxs]
  exact hsame.finish_eq

/-- **Lines that come again change nothing.** For all options, a listing of which no line fails, and
any lines that all occur in it, in whatever order and however often: with these lines appended the
listing gives the same image, or still has no address. In particular a listing may come twice. None
of the lines fails when it comes again, and none of them is placed. -/
theorem reconstruct_replay (options : ListingOptions) (xs ys : List String)
    (hxs : ∀ e, reconstruct options xs = .error e → e.line? = none) (hys : ∀ line ∈ ys, line ∈ xs) :
    reconstruct options (xs ++ ys) = reconstruct options xs ∧
    reconstruct options (xs ++ xs) = reconstruct options xs ∧
    ∃ r s, Reconstruction.feed options {} xs = .ok r ∧ r.feed options ys = .ok s ∧
      s.base = r.base ∧ s.bytes = r.bytes ∧ s.dataLines = r.dataLines ∧
      s.paddedBytes = r.paddedBytes := by
  cases hfeed : Reconstruction.feed options {} xs with
  | error e =>
    exact absurd (hxs e (by rw [reconstruct, hfeed])) (line?_of_feed_eq_error hfeed)
  | ok r =>
    obtain ⟨s, hs, hsame⟩ := exists_feed_of_subset hfeed hys
    exact ⟨reconstruct_append_of_subset hfeed hys,
      reconstruct_append_of_subset hfeed (List.Subset.refl xs), r, s, rfl, hs, hsame.base_eq,
      hsame.bytes_eq, hsame.dataLines_eq, hsame.paddedBytes_eq⟩

/-- The bytes of `gappedListing` that were skipped, twice, the label, and the first line. -/
theorem reconstruct_replay_gappedListing :
    let again := ["00001002: 5566\tnop", "00001002: 5566\tnop", "entry:", "00000ffc: (out of bounds)"]
    (∀ e, reconstruct {} gappedListing = .error e → e.line? = none) ∧
      (∀ line ∈ again, line ∈ gappedListing) ∧
      reconstruct {} (gappedListing ++ again) = .ok gappedImage := by
  intro again
  have himage : reconstruct {} gappedListing = .ok gappedImage := by rfl
  have hfails : ∀ e, reconstruct {} gappedListing = .error e → e.line? = none := by
    rw [himage]
    intro e he
    cases he
  have hagain : ∀ line ∈ again, line ∈ gappedListing := by decide
  exact ⟨hfails, hagain, (reconstruct_replay {} _ _ hfails hagain).1.trans himage⟩

end NameRecovery
