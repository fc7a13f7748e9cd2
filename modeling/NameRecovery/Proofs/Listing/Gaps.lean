import NameRecovery.Proofs.Listing.Growth

/-!
# The limit on a zero fill

The limit only decides whether a line is refused; where a line is placed does not depend on it. Under
a larger limit a line does the same, unless the smaller one refuses it (`push_eq_or_failsForGap`), and
the same holds of a listing. So a listing that is not refused for a gap has the same image under every
larger limit, and the first fill that exceeds the limit can be found in the run without one. What is
placed under a limit has no longer fill, and this bounds the size of the image.

## Main definitions

* `ListingOptions.LimitLe` : limits in order; no limit is above every limit.
* `FailsForGap` : what failed because a gap is too large.
* `gapsFrom` : the zero fills before some chunks.
* `Reconstruction.FillsAtMost` : the zero fills so far stay within a limit.

## Main results

* `Reconstruction.feed_eq_or_failsForGap` : what a listing does under two limits.
* `Reconstruction.failsForGap_feed_iff` : when a listing is refused for a gap.
* `Reconstruction.FillsAtMost.feed` : what a listing keeps true under a limit.
* `gap_limit_exact` : all of this for every listing and all limits.
-/

namespace NameRecovery

/-! ### Limits -/

namespace ListingOptions

variable {options options' : ListingOptions} {gap limit : Nat}

/-- Lines are read alike, and the limit of the first options is at most that of the others. No limit
is above every limit. -/
structure LimitLe (options options' : ListingOptions) : Prop where
  dialect_eq : options.dialect = options'.dialect
  maxGap_le : ∀ limit', options'.maxGap = some limit' →
    ∃ limit, options.maxGap = some limit ∧ limit ≤ limit'

/-- The options without a limit. -/
def unlimited (options : ListingOptions) : ListingOptions :=
  { options with maxGap := none }

theorem limitLe_unlimited (options : ListingOptions) : options.LimitLe options.unlimited :=
  ⟨rfl, fun _ h => by cases h⟩

theorem exceeded?_eq_some_iff :
    options.exceeded? gap = some limit ↔ options.maxGap = some limit ∧ limit < gap := by
  rw [exceeded?, Option.filter_eq_some_iff, decide_eq_true_iff]

theorem exceeded?_eq_none_iff :
    options.exceeded? gap = none ↔ ∀ limit, options.maxGap = some limit → gap ≤ limit := by
  simp only [exceeded?, Option.filter_eq_none_iff, decide_eq_true_iff, Nat.not_lt]

/-- A fill within the smaller limit is within the larger one. -/
theorem LimitLe.exceeded?_eq_none (h : options.LimitLe options')
    (hgap : options.exceeded? gap = none) : options'.exceeded? gap = none := by
  rw [exceeded?_eq_none_iff] at hgap ⊢
  intro limit' hlimit'
  obtain ⟨limit, hlimit, hle⟩ := h.maxGap_le limit' hlimit'
  exact Nat.le_trans (hgap limit hlimit) hle

end ListingOptions

/-- Something failed because a gap is too large. -/
def FailsForGap {α : Type} (result : Except ListingError α) : Prop :=
  ∃ line a gap limit, result = .error (.gapTooLarge line a gap limit)

/-! ### Two limits -/

namespace Reconstruction

open ListingOptions

variable {options options' : ListingOptions} {r s : Reconstruction} {line : String}
  {lines : List String} {m : Line} {p : Placement} {n : Nat} {e : ListingError}

theorem Accepts.of_limitLe (hm : Accepts options r m p) (h : options.LimitLe options') :
    Accepts options' r m p := by
  cases hm with
  | ignored => exact .ignored
  | outOfBounds a => exact .outOfBounds a
  | overlap hfits hexpected hlt => exact .overlap hfits hexpected hlt
  | placed hfits hgap hlimit => exact .placed hfits hgap (h.exceeded?_eq_none hlimit)

/-- Under a larger limit a line is placed in the same way, and fails in the same way, unless the
smaller one refuses it for a gap. -/
theorem placement_eq_or_failsForGap (h : options.LimitLe options') (r : Reconstruction) (n : Nat)
    (m : Line) :
    r.placement options n m = r.placement options' n m ∨
      FailsForGap (r.placement options n m) := by
  rcases accepts_or_refuses options r n m with ⟨p, hp⟩ | ⟨e, he⟩
  · left
    rw [placement_of_accepts hp, placement_of_accepts (hp.of_limitLe h)]
  · cases he with
    | addressOverflow hover =>
      left
      rw [placement_data_of_over hover, placement_data_of_over hover]
    | @gapTooLarge a bytes gap limit hfits hgap hlimit =>
      right
      exact ⟨n, a, gap, limit, placement_of_refuses (.gapTooLarge hfits hgap hlimit)⟩

theorem push_eq_or_failsForGap (h : options.LimitLe options') (r : Reconstruction)
    (line : String) :
    r.push options line = r.push options' line ∨ FailsForGap (r.push options line).2 := by
  cases hclassify : Line.classify options.dialect (r.lineNo + 1) line with
  | error e =>
    left
    rw [push_of_classify_eq_error hclassify, push_of_classify_eq_error (h.dialect_eq ▸ hclassify)]
  | ok m =>
    have hmeaning := Line.classify_eq_ok_iff.mp hclassify
    rw [push_of_meaning? hmeaning, push_of_meaning? (h.dialect_eq ▸ hmeaning)]
    rcases placement_eq_or_failsForGap h r (r.lineNo + 1) m with heq | ⟨_, _, _, _, hfails⟩
    · left
      rw [heq]
    · right
      rw [hfails]
      exact ⟨_, _, _, _, rfl⟩

/-- **A listing does the same under a larger limit**, unless the smaller one refuses it for a gap. -/
theorem feed_eq_or_failsForGap (h : options.LimitLe options') (r : Reconstruction)
    (lines : List String) :
    r.feed options lines = r.feed options' lines ∨ FailsForGap (r.feed options lines) := by
  induction lines generalizing r with
  | nil => exact Or.inl rfl
  | cons line rest ih =>
    rw [feed, feed]
    rcases push_eq_or_failsForGap h r line with heq | ⟨_, _, _, _, hfails⟩
    · rw [← heq]
      cases r.push options line with
      | mk s result =>
        cases result with
        | ok p => exact ih s
        | error e => exact Or.inl rfl
    · right
      cases hpush : r.push options line with
      | mk s result =>
        rw [hpush] at hfails
        obtain rfl : result = _ := hfails
        exact ⟨_, _, _, _, rfl⟩

/-! ### Lines refused for a gap -/

/-- What a line that is refused for a gap says: its bytes belong `gap` bytes further up, and this
exceeds the limit. -/
theorem gap_of_push_eq_error {a : Address} {gap limit : Nat}
    (h : (r.push options line).2 = .error (.gapTooLarge n a gap limit)) :
    options.maxGap = some limit ∧ limit < gap ∧ r.stopFrom a + gap = a.toNat ∧
      ∃ bytes, Line.meaning? options.dialect line = some (.data a bytes) := by
  rw [push_snd] at h
  rcases nextPlacement_eq_error_cases h with ⟨text, cause, hdecode⟩ | ⟨m, hmeaning, hrefuses⟩
  · cases hdecode
  · cases hrefuses with
    | @gapTooLarge a bytes gap limit hfits hgap hlimit =>
      obtain ⟨hlimit, hlt⟩ := exceeded?_eq_some_iff.mp hlimit
      exact ⟨hlimit, hlt, hgap, bytes, hmeaning⟩

/-- A line is refused for a gap exactly when it is placed without a limit after a fill that exceeds
the limit. -/
theorem failsForGap_push_iff :
    FailsForGap (r.push options line).2 ↔
      ∃ a gap bytes limit, (r.push options.unlimited line).2 = .ok (.placed a gap bytes) ∧
        options.maxGap = some limit ∧ limit < gap := by
  rw [push_snd, push_snd]
  constructor
  · rintro ⟨n, a, gap, limit, hfails⟩
    rcases nextPlacement_eq_error_cases hfails with ⟨_, _, hdecode⟩ | ⟨m, hmeaning, hrefuses⟩
    · cases hdecode
    · cases hrefuses with
      | @gapTooLarge a bytes gap limit hfits hgap hlimit =>
        refine ⟨a, gap, bytes, limit, ?_, exceeded?_eq_some_iff.mp hlimit⟩
        exact nextPlacement_eq_ok_iff.mpr ⟨_, hmeaning, .placed hfits hgap rfl⟩
  · rintro ⟨a, gap, bytes, limit, hplaced, hlimit⟩
    obtain ⟨m, hmeaning, hm⟩ := nextPlacement_eq_ok_iff.mp hplaced
    cases hm with
    | placed hfits hgap _ =>
      have hclassify := Line.classify_eq_ok_iff (d := options.dialect) (n := r.lineNo + 1).mpr hmeaning
      refine ⟨r.lineNo + 1, a, gap, limit, ?_⟩
      rw [nextPlacement, hclassify]
      exact placement_of_refuses (.gapTooLarge hfits hgap (exceeded?_eq_some_iff.mpr hlimit))

/-- **A listing is refused for a gap** exactly when without a limit some line is placed after a fill
that exceeds the limit, and no line before it fails. -/
theorem failsForGap_feed_iff :
    FailsForGap (r.feed options lines) ↔
      ∃ pre line post s a gap bytes limit, lines = pre ++ line :: post ∧
        r.feed options.unlimited pre = .ok s ∧
        (s.push options.unlimited line).2 = .ok (.placed a gap bytes) ∧
        options.maxGap = some limit ∧ limit < gap := by
  have hlockstep := feed_eq_or_failsForGap (limitLe_unlimited options) r
  constructor
  · rintro ⟨n, a, gap, limit, hfails⟩
    obtain ⟨pre, line, post, s, hsplit, hpre, hline⟩ := feed_eq_error_iff.mp hfails
    obtain ⟨b, gap', bytes, limit', hplaced, hlimit⟩ :=
      failsForGap_push_iff.mp ⟨n, a, gap, limit, hline⟩
    refine ⟨pre, line, post, s, b, gap', bytes, limit', hsplit, ?_, hplaced, hlimit⟩
    rcases hlockstep pre with heq | ⟨_, _, _, _, hpre'⟩
    · rw [← heq, hpre]
    · rw [hpre] at hpre'
      cases hpre'
  · rintro ⟨pre, line, post, s, a, gap, bytes, limit, rfl, hpre, hplaced, hlimit⟩
    rcases hlockstep pre with heq | ⟨n, b, gap', limit', hfails⟩
    · obtain ⟨n, b, gap', limit', hline⟩ :=
        failsForGap_push_iff.mpr ⟨a, gap, bytes, limit, hplaced, hlimit⟩
      exact ⟨n, b, gap', limit',
        feed_eq_error_iff.mpr ⟨pre, line, post, s, rfl, heq.trans hpre, hline⟩⟩
    · exact ⟨n, b, gap', limit', by rw [feed_append, hfails]⟩

/-- Before a gap there is a base: without one a line belongs where it wants to be. -/
theorem Sound.base_ne_none_of_gap (h : r.Sound) {a : Address} {gap : Nat} (hpos : 0 < gap)
    (hgap : r.stopFrom a + gap = a.toNat) : r.base ≠ none := by
  intro hbase
  rw [h.stopFrom_of_base_eq_none hbase] at hgap
  omega

end Reconstruction

/-! ### The fills before chunks -/

/-- The zero fills before some chunks when the next byte belongs at `stop`. -/
def gapsFrom (stop : Nat) : List Chunk → List Nat
  | [] => []
  | c :: rest => (c.address.toNat - stop) :: gapsFrom c.stop rest

section Gaps

variable {stop limit : Nat} {cs ds : List Chunk}

theorem gapsFrom_append :
    gapsFrom stop (cs ++ ds) = gapsFrom stop cs ++ gapsFrom (endFrom stop cs) ds := by
  induction cs generalizing stop with
  | nil => rfl
  | cons c rest ih => rw [List.cons_append, gapsFrom, ih, gapsFrom, endFrom, List.cons_append]

/-- The bytes of chunks are their own bytes and the fills before them; short fills bound them. -/
theorem length_fillFrom_le (h : ∀ gap ∈ gapsFrom stop cs, gap ≤ limit) :
    (fillFrom stop cs).length ≤ (cs.flatMap Chunk.bytes).length + limit * cs.length := by
  induction cs generalizing stop with
  | nil => exact Nat.zero_le _
  | cons c rest ih =>
    obtain ⟨hgap, hrest⟩ := List.forall_mem_cons.mp h
    have hle := ih hrest
    rw [fillFrom, List.length_append, List.length_append, List.length_replicate,
      List.flatMap_cons, List.length_append, List.length_cons, Nat.mul_succ]
    omega

end Gaps

/-! ### Fills under a limit -/

namespace Reconstruction

variable {options : ListingOptions} {r s : Reconstruction} {lines : List String} {m : Line}
  {p : Placement} {as : List Address} {cs : List Chunk} {limit : Nat}

/-- The fills before the chunks placed so far stay within a limit, whichever base they get if there
is none yet. -/
def FillsAtMost (limit : Nat) (r : Reconstruction) (cs : List Chunk) : Prop :=
  ∀ a, ∀ gap ∈ gapsFrom (r.base.getD a).toNat (placedFrom (r.base.getD a).toNat cs), gap ≤ limit

namespace FillsAtMost

/-- **What one line keeps true.** -/
theorem apply (h : FillsAtMost limit r cs) (hr : r.Holds as cs) (hlimit : options.maxGap = some limit)
    (hm : Accepts options r m p) (n : Nat) :
    FillsAtMost limit (({ r with lineNo := n } : Reconstruction).apply p)
      (cs ++ m.chunk?.toList) := by
  cases hm with
  | ignored =>
    have hcs : cs ++ Line.ignored.chunk?.toList = cs := List.append_nil cs
    rw [hcs]
    exact h
  | outOfBounds a =>
    have hcs : cs ++ (Line.outOfBounds a).chunk?.toList = cs := List.append_nil cs
    rw [hcs]
    exact fun _ => h a
  | @overlap a expected bytes hfits hexpected hlt =>
    intro b
    change ∀ gap ∈ gapsFrom (r.base.getD a).toNat
      (placedFrom (r.base.getD a).toNat (cs ++ [⟨a, bytes⟩])), gap ≤ limit
    have hm : Accepts options r (.data a bytes) (.overlap a expected) :=
      .overlap hfits hexpected hlt
    rw [(hr.placedFrom_concat hm).trans (List.append_nil _)]
    exact h a
  | @placed a bytes gap hfits hgap hexceeded =>
    intro b
    change ∀ gap ∈ gapsFrom (r.base.getD a).toNat
      (placedFrom (r.base.getD a).toNat (cs ++ [⟨a, bytes⟩])), gap ≤ limit
    have hwithin : gap ≤ limit := ListingOptions.exceeded?_eq_none_iff.mp hexceeded limit hlimit
    rw [hr.placedFrom_concat (.placed hfits hgap hexceeded), gapsFrom_append, hr.endFrom_eq]
    intro gap' hgap'
    rcases List.mem_append.mp hgap' with hold | hnew
    · exact h a gap' hold
    · have hgap'' : gap' = a.toNat - r.stopFrom a := List.mem_singleton.mp hnew
      omega

/-- **What a whole listing keeps true.** -/
theorem feed (h : FillsAtMost limit r cs) (hr : r.Holds as cs)
    (hlimit : options.maxGap = some limit) (hfeed : r.feed options lines = .ok s) :
    FillsAtMost limit s (cs ++ chunks options.dialect lines) := by
  induction lines generalizing r as cs with
  | nil =>
    obtain rfl := Except.ok.inj hfeed
    have hcs : cs ++ chunks options.dialect [] = cs := List.append_nil cs
    rw [hcs]
    exact h
  | cons line rest ih =>
    obtain ⟨t, p, hpush, hrest⟩ := feed_cons_eq_ok_iff.mp hfeed
    obtain ⟨⟨m, hmeaning, hm⟩, rfl⟩ := push_eq_ok_iff.mp hpush
    rw [chunks_cons hmeaning, ← List.append_assoc]
    exact ih (h.apply hr hlimit hm _) (hr.apply hm _) hrest

end FillsAtMost

end Reconstruction

/-! ### Images under a limit -/

open Reconstruction ListingOptions

variable {options options' : ListingOptions} {lines : List String} {image : ByteImage}

/-- Only a line is refused for a gap. -/
theorem reconstruct_eq_gapTooLarge_iff {n : Nat} {a : Address} {gap limit : Nat} :
    reconstruct options lines = .error (.gapTooLarge n a gap limit) ↔
      Reconstruction.feed options {} lines = .error (.gapTooLarge n a gap limit) := by
  rw [reconstruct]
  cases hfeed : Reconstruction.feed options {} lines with
  | error e => simp only [Except.error.injEq]
  | ok r =>
    simp only [reduceCtorEq, iff_false]
    rcases (sound_empty.feed hfeed).finish_cases with ⟨image, himage⟩ | hempty
    · rw [himage]
      exact fun h => by cases h
    · rw [hempty]
      exact fun h => by cases h

theorem failsForGap_reconstruct_iff :
    FailsForGap (reconstruct options lines) ↔
      FailsForGap (Reconstruction.feed options {} lines) := by
  simp only [FailsForGap, reconstruct_eq_gapTooLarge_iff]

/-- **A larger limit changes nothing** unless the smaller one refuses the listing for a gap. -/
theorem reconstruct_eq_of_limitLe (h : options.LimitLe options')
    (hgap : ¬ FailsForGap (reconstruct options lines)) :
    reconstruct options' lines = reconstruct options lines := by
  rw [failsForGap_reconstruct_iff] at hgap
  rw [reconstruct, reconstruct, (feed_eq_or_failsForGap h {} lines).resolve_right hgap]

/-- **The line that is refused for a gap**: the lines before it have an image, and the gap reaches
from the end of this image to the address of the line. -/
theorem exists_of_reconstruct_eq_gapTooLarge {n : Nat} {a : Address} {gap limit : Nat}
    (h : reconstruct options lines = .error (.gapTooLarge n a gap limit)) :
    options.maxGap = some limit ∧ limit < gap ∧
      ∃ pre line post bytes image, lines = pre ++ line :: post ∧ n = pre.length + 1 ∧
        Line.meaning? options.dialect line = some (.data a bytes) ∧
        reconstruct options pre = .ok image ∧ image.stop.toNat + gap = a.toNat := by
  rw [reconstruct_eq_gapTooLarge_iff] at h
  obtain ⟨pre, line, post, r, hsplit, hpre, hline⟩ := feed_eq_error_iff.mp h
  obtain ⟨hlimit, hlt, hgap, bytes, hmeaning⟩ := gap_of_push_eq_error hline
  have hsound := sound_empty.feed hpre
  have hpos : 0 < gap := Nat.lt_of_le_of_lt (Nat.zero_le _) hlt
  obtain ⟨base, hbase⟩ :=
    Option.ne_none_iff_exists'.mp (hsound.base_ne_none_of_gap hpos hgap)
  have hnumber : some n = some (r.lineNo + 1) := line?_of_push_eq_error hline
  refine ⟨hlimit, hlt, pre, line, post, bytes, ⟨base, r.bytes, hsound.stop_lt base hbase⟩, hsplit,
    ?_, hmeaning, reconstruct_eq_ok_iff.mpr ⟨r, hpre, hbase, rfl⟩, ?_⟩
  · rw [Option.some.inj hnumber, lineNo_feed hpre]
    exact congrArg (· + 1) (Nat.zero_add _)
  · rw [stopFrom, hbase] at hgap
    exact hgap

/-- **Under a limit, no fill is longer**, and this bounds the size of the image. -/
theorem fills_le_of_reconstruct {limit : Nat} (h : reconstruct options lines = .ok image)
    (hlimit : options.maxGap = some limit) :
    let placed := placedFrom image.base.toNat (chunks options.dialect lines)
    (∀ gap ∈ gapsFrom image.base.toNat placed, gap ≤ limit) ∧
      image.size ≤ (placed.flatMap Chunk.bytes).length + limit * placed.length := by
  intro placed
  obtain ⟨r, hfeed, hbase, -⟩ := reconstruct_eq_ok_iff.mp h
  have hempty : FillsAtMost limit {} [] := fun _ _ hgap => by cases hgap
  have hfills := hempty.feed holds_empty hlimit hfeed image.base
  rw [hbase, List.nil_append] at hfills
  refine ⟨hfills, ?_⟩
  rw [ByteImage.size, ← Array.length_toList, toList_bytes_of_reconstruct h]
  exact length_fillFrom_le hfills

/-- **The limit on a zero fill only ever refuses a listing.** For all options and all listings: unless
a listing is refused for a gap, it gives the same image, or the same error, under every larger limit.
If it is refused, then the error names the limit and a gap that exceeds it; the lines before the named
one have an image, and the gap reaches from the end of this image to the address of the line. A listing
is refused for a gap exactly when without a limit some line is placed after a fill that exceeds the
limit, and no line before it fails. And if a listing has an image under a limit, then no placed chunk
stands after a longer fill, so the image has at most the bytes of the placed chunks and as many times
the limit as there are placed chunks. -/
theorem gap_limit_exact (options : ListingOptions) (lines : List String) :
    (∀ options', options.LimitLe options' → ¬ FailsForGap (reconstruct options lines) →
      reconstruct options' lines = reconstruct options lines) ∧
    (∀ n a gap limit, reconstruct options lines = .error (.gapTooLarge n a gap limit) →
      options.maxGap = some limit ∧ limit < gap ∧
      ∃ pre line post bytes image, lines = pre ++ line :: post ∧ n = pre.length + 1 ∧
        Line.meaning? options.dialect line = some (.data a bytes) ∧
        reconstruct options pre = .ok image ∧ image.stop.toNat + gap = a.toNat) ∧
    (FailsForGap (reconstruct options lines) ↔
      ∃ pre line post r a gap bytes limit, lines = pre ++ line :: post ∧
        Reconstruction.feed options.unlimited {} pre = .ok r ∧
        (r.push options.unlimited line).2 = .ok (.placed a gap bytes) ∧
        options.maxGap = some limit ∧ limit < gap) ∧
    (∀ image limit, reconstruct options lines = .ok image → options.maxGap = some limit →
      let placed := placedFrom image.base.toNat (chunks options.dialect lines)
      (∀ gap ∈ gapsFrom image.base.toNat placed, gap ≤ limit) ∧
      image.size ≤ (placed.flatMap Chunk.bytes).length + limit * placed.length) := by
  refine ⟨fun options' h hgap => reconstruct_eq_of_limitLe h hgap,
    fun n a gap limit h => exists_of_reconstruct_eq_gapTooLarge h, ?_,
    fun image limit h hlimit => fills_le_of_reconstruct h hlimit⟩
  rw [failsForGap_reconstruct_iff]
  exact failsForGap_feed_iff

/-- Bytes, and further bytes behind a gap of four bytes. -/
def spacedListing : List String :=
  ["00004000: 1122 3344\tnop", "00004008: 5566\tnop"]

/-- The image of `spacedListing`. -/
def spacedImage : ByteImage :=
  ⟨⟨0x4000, by decide⟩, #[0x11, 0x22, 0x33, 0x44, 0, 0, 0, 0, 0x55, 0x66], by decide⟩

/-- A limit of four bytes is as good as none, and a limit of three refuses the second line. -/
theorem reconstruct_spacedListing :
    let four : ListingOptions := { maxGap := some 4 }
    let three : ListingOptions := { maxGap := some 3 }
    reconstruct four spacedListing = .ok spacedImage ∧
      reconstruct four.unlimited spacedListing = .ok spacedImage ∧
      spacedImage.size ≤ 6 + 4 * 2 ∧
      reconstruct three spacedListing = .error (.gapTooLarge 2 ⟨0x4008, by decide⟩ 4 3) ∧
      (∃ pre image, pre.length + 1 = 2 ∧ reconstruct three pre = .ok image ∧
        image.stop.toNat + 4 = 0x4008) ∧
      ∃ line r a gap bytes,
        (Reconstruction.push three.unlimited r line).2 = .ok (.placed a gap bytes) ∧ 3 < gap := by
  intro four three
  have himage : reconstruct { maxGap := some 4 } spacedListing = .ok spacedImage := by rfl
  have hrefused : reconstruct { maxGap := some 3 } spacedListing =
      .error (.gapTooLarge 2 ⟨0x4008, by decide⟩ 4 3) := by rfl
  have hplaced : placedFrom 0x4000 (chunks .fixedWidth spacedListing) =
      [⟨⟨0x4000, by decide⟩, [0x11, 0x22, 0x33, 0x44]⟩, ⟨⟨0x4008, by decide⟩, [0x55, 0x66]⟩] := by
    decide +kernel
  obtain ⟨hsame, -, -, hbound⟩ := gap_limit_exact four spacedListing
  obtain ⟨-, hline, hfails, -⟩ := gap_limit_exact three spacedListing
  have hnot : ¬ FailsForGap (reconstruct four spacedListing) := by
    rintro ⟨_, _, _, _, h⟩
    rw [himage] at h
    cases h
  have hsize := (hbound _ 4 himage rfl).2
  simp only [show spacedImage.base.toNat = 0x4000 from rfl, show four.dialect = .fixedWidth from rfl,
    hplaced] at hsize
  obtain ⟨-, -, pre, -, -, -, image, -, hnumber, -, hpre, hstop⟩ := hline _ _ _ _ hrefused
  obtain ⟨_, line, _, r, a, gap, bytes, limit, -, -, hpush, hlimit, hlt⟩ :=
    hfails.mp ⟨_, _, _, _, hrefused⟩
  obtain rfl : 3 = limit := Option.some.inj hlimit
  exact ⟨himage, (hsame _ four.limitLe_unlimited hnot).trans himage, hsize, hrefused,
    ⟨pre, image, hnumber.symm, hpre, hstop⟩, line, r, a, gap, bytes, hpush, hlt⟩

end NameRecovery
