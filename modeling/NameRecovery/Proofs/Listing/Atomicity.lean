import NameRecovery.Proofs.Listing.Steps

/-!
# Lines that fail

The address of a line becomes the base before the place of the line is checked, so a line may fix
the base and then fail. This never happens: as long as there is no base there are no bytes either,
the line then belongs exactly where it wants to be, and no check is left that it could fail. So a
line that fails is counted and changes nothing else, and a listing pushed to its end gives the
image of the lines that do not fail.

## Main definitions

* `Reconstruction.Sound` : what lines keep true, whether they fail or not.
* `Reconstruction.pushAll` : lines pushed to the end, whether they fail or not.
* `Reconstruction.taken` : the lines that do not fail.

## Main results

* `Reconstruction.Sound.push_cases` : what pushing one line does.
* `Reconstruction.Sound.push`, `Reconstruction.Sound.pushAll` : one line, and many lines.
* `Reconstruction.Sound.push_error` : a line that fails is counted and changes nothing else.
* `Reconstruction.Sound.feed_taken` : without the failing lines no line fails.
* `Reconstruction.Sound.finish_exact` : the image in the end, if there is one.
* `push_atomic` : all of this for every state that lines can lead to.
-/

namespace NameRecovery

namespace Reconstruction

variable {options : ListingOptions} {r r' s : Reconstruction} {line : String}
  {lines : List String} {m : Line} {p : Placement} {e : ListingError} {n : Nat} {a : Address}

/-! ### What lines keep true -/

/-- There are no bytes without a base, and the address after the last byte exists. -/
structure Sound (r : Reconstruction) : Prop where
  bytes_eq_nil : r.base = none → r.bytes = #[]
  stop_lt : ∀ base, r.base = some base → base.toNat + r.bytes.size < 0x10000000000000000

theorem sound_empty : Sound {} :=
  ⟨fun _ => rfl, fun _ h => by cases h⟩

/-- Behind placed bytes the next byte belongs where they end. -/
theorem stopFrom_apply_placed {bytes : List UInt8} {gap : Nat}
    (hgap : r.stopFrom a + gap = a.toNat) (n : Nat) (b : Address) :
    (({ r with lineNo := n } : Reconstruction).apply (.placed a gap bytes)).stopFrom b =
      a.toNat + bytes.length := by
  have hsize : (zeroFill r.bytes gap ++ bytes).size = r.bytes.size + gap + bytes.length := by
    rw [zeroFill_eq, ← Array.length_toList]
    simp [Nat.add_assoc]
  rw [stopFrom] at hgap
  change (r.base.getD a).toNat + (zeroFill r.bytes gap ++ bytes).size = _
  omega

namespace Sound

/-- Once there is a base, it remains to say where the bytes end. -/
theorem of_base {base : Address} (hbase : r.base = some base)
    (hstop : base.toNat + r.bytes.size < 0x10000000000000000) : r.Sound where
  bytes_eq_nil hnone := by rw [hbase] at hnone; cases hnone
  stop_lt base' hbase' := by
    obtain rfl := Option.some.inj (hbase.symm.trans hbase')
    exact hstop

/-- Without a base the next byte belongs at whichever address comes first. -/
theorem stopFrom_of_base_eq_none (h : r.Sound) (hbase : r.base = none) (a : Address) :
    r.stopFrom a = a.toNat := by
  rw [stopFrom, hbase, h.bytes_eq_nil hbase]
  rfl

/-- The next byte always belongs inside the address space. -/
theorem stopFrom_lt (h : r.Sound) (a : Address) : r.stopFrom a < 0x10000000000000000 := by
  cases hbase : r.base with
  | none =>
    rw [h.stopFrom_of_base_eq_none hbase]
    exact a.toNat_lt
  | some base =>
    rw [stopFrom, hbase]
    exact h.stop_lt base hbase

/-- What a line that is taken keeps true. -/
theorem apply (h : r.Sound) (hm : Accepts options r m p) (n : Nat) :
    (({ r with lineNo := n } : Reconstruction).apply p).Sound := by
  cases hm with
  | ignored => exact ⟨h.bytes_eq_nil, h.stop_lt⟩
  | outOfBounds a => exact of_base rfl (h.stopFrom_lt a)
  | overlap hfits hexpected hlt => exact of_base rfl (h.stopFrom_lt _)
  | @placed a bytes gap hfits hgap hlimit =>
    exact of_base rfl (Nat.lt_of_le_of_lt (Nat.le_of_eq (stopFrom_apply_placed hgap n a)) hfits)

end Sound

/-! ### One line -/

/-- A base is fixed once. -/
theorem fixBase_of_base {base : Address} (h : r.base = some base) (m : Line) :
    r.fixBase m = r := by
  obtain ⟨_, _, _, _, _, _⟩ := r
  obtain rfl : _ = some base := h
  match m with
  | .ignored => rfl
  | .outOfBounds a => rfl
  | .data a bytes =>
    rw [fixBase]
    split <;> rfl

/-- **A line that is refused has not fixed the base.** Either its bytes leave the address space,
and this is checked first, or the base was fixed before. -/
theorem Sound.fixBase_of_refuses (h : r.Sound) (he : Refuses options r n m e) :
    r.fixBase m = r := by
  cases he with
  | @addressOverflow a bytes hover =>
    have hstop := h.stopFrom_lt a
    have hnone : a.add? bytes.length = none := Address.ofNat?_eq_none_iff.mpr (by omega)
    rw [fixBase, hnone]
  | @gapTooLarge a bytes gap limit hfits hgap hlimit =>
    cases hbase : r.base with
    | some base => exact fixBase_of_base hbase _
    | none =>
      rw [h.stopFrom_of_base_eq_none hbase] at hgap
      obtain rfl : gap = 0 := by omega
      rw [exceeded?_zero] at hlimit
      cases hlimit

/-- A line that is refused is only counted. -/
theorem Sound.push_of_refuses (h : r.Sound)
    (hmeaning : Line.meaning? options.dialect line = some m)
    (he : Refuses options r (r.lineNo + 1) m e) :
    r.push options line = ({ r with lineNo := r.lineNo + 1 }, .error e) := by
  have hcounted : ({ r with lineNo := r.lineNo + 1 } : Reconstruction).Sound :=
    ⟨h.bytes_eq_nil, h.stop_lt⟩
  have hp := placement_of_refuses he
  have hrefuses : Refuses options { r with lineNo := r.lineNo + 1 } (r.lineNo + 1) m e := by
    rw [← placement_eq_error_iff, ← hp]
    cases m <;> rfl
  rw [push_of_meaning? hmeaning, hp]
  simp only [hcounted.fixBase_of_refuses hrefuses]

/-- **What pushing one line does.** Its byte groups spell no bytes, or it has a meaning that is
taken or refused; a line that is not taken is only counted. -/
theorem Sound.push_cases (h : r.Sound) (options : ListingOptions) (line : String) :
    (Line.meaning? options.dialect line = none ∧
      ∃ text cause, r.push options line =
        ({ r with lineNo := r.lineNo + 1 }, .error (.decode (r.lineNo + 1) text cause))) ∨
    ∃ m, Line.meaning? options.dialect line = some m ∧
      ((∃ p, Accepts options r m p ∧ r.push options line =
          (({ r with lineNo := r.lineNo + 1 } : Reconstruction).apply p, .ok p)) ∨
        ∃ e, Refuses options r (r.lineNo + 1) m e ∧ r.push options line =
          ({ r with lineNo := r.lineNo + 1 }, .error e)) := by
  cases hclassify : Line.classify options.dialect (r.lineNo + 1) line with
  | error f =>
    obtain ⟨text, cause, rfl⟩ := Line.exists_eq_decode_of_classify_eq_error hclassify
    refine Or.inl ⟨?_, text, cause, push_of_classify_eq_error hclassify⟩
    rw [Option.eq_none_iff_forall_ne_some]
    intro m hm
    cases hclassify.symm.trans (Line.classify_eq_ok_iff.mpr hm)
  | ok m =>
    have hmeaning := Line.classify_eq_ok_iff.mp hclassify
    refine Or.inr ⟨m, hmeaning, ?_⟩
    rcases accepts_or_refuses options r (r.lineNo + 1) m with ⟨p, hp⟩ | ⟨f, hf⟩
    · exact Or.inl ⟨p, hp, push_eq_ok_iff.mpr ⟨⟨m, hmeaning, hp⟩, rfl⟩⟩
    · exact Or.inr ⟨f, hf, h.push_of_refuses hmeaning hf⟩

/-- **A line that fails is counted and changes nothing else.** -/
theorem Sound.push_error (h : r.Sound) (he : r.push options line = (r', .error e)) :
    r' = { r with lineNo := r.lineNo + 1 } := by
  rcases h.push_cases options line with
    ⟨-, text, cause, hpush⟩ | ⟨m, -, ⟨p, -, hpush⟩ | ⟨f, -, hpush⟩⟩
  · exact (Prod.mk.inj (he.symm.trans hpush)).1
  · cases (Prod.mk.inj (he.symm.trans hpush)).2
  · exact (Prod.mk.inj (he.symm.trans hpush)).1

/-- **What one line keeps true**, whether it fails or not. -/
theorem Sound.push (h : r.Sound) (options : ListingOptions) (line : String) :
    (r.push options line).1.Sound := by
  rcases h.push_cases options line with
    ⟨-, text, cause, hpush⟩ | ⟨m, -, ⟨p, hp, hpush⟩ | ⟨f, -, hpush⟩⟩
  · rw [hpush]
    exact ⟨h.bytes_eq_nil, h.stop_lt⟩
  · rw [hpush]
    exact h.apply hp _
  · rw [hpush]
    exact ⟨h.bytes_eq_nil, h.stop_lt⟩

/-- The number of a line that is taken does not matter. -/
theorem push_ok_of_lineNo (h : r.push options line = (s, .ok p)) (n : Nat) :
    ({ r with lineNo := n } : Reconstruction).push options line =
      ({ s with lineNo := n + 1 }, .ok p) := by
  obtain ⟨⟨m, hmeaning, hm⟩, rfl⟩ := push_eq_ok_iff.mp h
  refine push_eq_ok_iff.mpr ⟨⟨m, hmeaning, ?_⟩, by cases p <;> rfl⟩
  rw [← placement_eq_ok_iff (n := 0)] at hm ⊢
  rw [← hm]
  cases m <;> rfl

/-! ### Many lines -/

/-- Lines pushed to the end, whether they fail or not. -/
def pushAll (options : ListingOptions) (r : Reconstruction) : List String → Reconstruction
  | [] => r
  | line :: rest => (r.push options line).1.pushAll options rest

/-- The lines that do not fail when lines are pushed to the end. -/
def taken (options : ListingOptions) (r : Reconstruction) : List String → List String
  | [] => []
  | line :: rest =>
    match r.push options line with
    | (s, .ok _) => line :: s.taken options rest
    | (s, .error _) => s.taken options rest

/-- **What a whole listing keeps true**, whether lines fail or not. -/
theorem Sound.pushAll (h : r.Sound) (options : ListingOptions) (lines : List String) :
    (r.pushAll options lines).Sound := by
  induction lines generalizing r with
  | nil => exact h
  | cons line rest ih => exact ih (h.push options line)

/-- **Without the failing lines no line fails**, and the same is placed; only the line count
differs. -/
theorem Sound.feed_taken (h : r.Sound) (n : Nat) :
    ({ r with lineNo := n } : Reconstruction).feed options (r.taken options lines) =
      .ok { r.pushAll options lines with lineNo := n + (r.taken options lines).length } := by
  induction lines generalizing r n with
  | nil => rfl
  | cons line rest ih =>
    have hsound := h.push options line
    rw [taken, Reconstruction.pushAll]
    cases hpush : r.push options line with
    | mk s result =>
      rw [hpush] at hsound
      cases result with
      | ok p =>
        refine feed_cons_eq_ok_iff.mpr ⟨_, p, push_ok_of_lineNo hpush n, ?_⟩
        rw [ih hsound (n + 1), List.length_cons, Nat.add_assoc, Nat.add_comm 1]
      | error e =>
        -- the state after the failing line is the one before it, up to the line count
        obtain rfl := h.push_error hpush
        exact ih hsound n

/-- Once there is a base, there is an image. -/
theorem Sound.finish_of_base (h : r.Sound) {base : Address} (hbase : r.base = some base) :
    r.finish = .ok ⟨base, r.bytes, h.stop_lt base hbase⟩ := by
  have himage : ByteImage.ofBytes? base r.bytes = some ⟨base, r.bytes, h.stop_lt base hbase⟩ :=
    dif_pos (h.stop_lt base hbase)
  rw [finish, hbase]
  simp only [himage]

theorem finish_of_base_eq_none (hbase : r.base = none) : r.finish = .error .empty := by
  rw [finish, hbase]

/-- The image holds what is placed, from the base on; without a base there is none. -/
theorem Sound.finish_exact (h : r.Sound) :
    (r.base = none ∧ r.bytes = #[] ∧ r.finish = .error .empty) ∨
      ∃ image, r.base = some image.base ∧ r.bytes = image.bytes ∧ r.finish = .ok image := by
  cases hbase : r.base with
  | none => exact Or.inl ⟨rfl, h.bytes_eq_nil hbase, finish_of_base_eq_none hbase⟩
  | some base => exact Or.inr ⟨_, rfl, rfl, h.finish_of_base hbase⟩

/-- There is an image, or no line has an address. -/
theorem Sound.finish_cases (h : r.Sound) :
    (∃ image, r.finish = .ok image) ∨ r.finish = .error .empty := by
  rcases h.finish_exact with ⟨-, -, hempty⟩ | ⟨image, -, -, himage⟩
  · exact Or.inr hempty
  · exact Or.inl ⟨image, himage⟩

/-- Why a line fails. -/
theorem push_error_cases (h : r.push options line = (r', .error e)) :
    (∃ text cause, e = .decode (r.lineNo + 1) text cause) ∨
      (∃ a size, e = .addressOverflow (r.lineNo + 1) a size) ∨
      ∃ a gap limit, e = .gapTooLarge (r.lineNo + 1) a gap limit := by
  have hnext : r.nextPlacement options line = .error e := by rw [← push_snd, h]
  rcases nextPlacement_eq_error_cases hnext with hdecode | ⟨m, -, hrefuses⟩
  · exact Or.inl hdecode
  · cases hrefuses with
    | @addressOverflow a bytes _ => exact Or.inr (Or.inl ⟨a, bytes.length, rfl⟩)
    | @gapTooLarge a bytes gap limit => exact Or.inr (Or.inr ⟨a, gap, limit, rfl⟩)

end Reconstruction

open Reconstruction

/-- **A line that fails leaves a reconstruction as it was.** For every state that lines lead to,
whether some of them failed or not, a line that fails is counted and changes nothing else; its
error is that its byte groups spell no bytes, that it leaves the address space, or that the gap
before it is too large. So, when lines are pushed to the end, the lines that do not fail give the
same result on their own, and none of them fails then; the result is an image, or that no line
has an address. -/
theorem push_atomic (options : ListingOptions) (lines : List String) :
    let r := pushAll options {} lines
    (∀ line r' e, r.push options line = (r', .error e) →
      r' = { r with lineNo := r.lineNo + 1 } ∧
      ((∃ text cause, e = .decode r'.lineNo text cause) ∨
        (∃ a size, e = .addressOverflow r'.lineNo a size) ∨
        ∃ a gap limit, e = .gapTooLarge r'.lineNo a gap limit)) ∧
    (∃ r', Reconstruction.feed options {} (taken options {} lines) = .ok r' ∧
      r'.finish = r.finish) ∧
    ((∃ image, r.finish = .ok image) ∨ r.finish = .error .empty) := by
  intro r
  have hr : r.Sound := sound_empty.pushAll options lines
  refine ⟨fun line r' e he => ?_, ⟨_, sound_empty.feed_taken 0, rfl⟩, hr.finish_cases⟩
  obtain rfl := hr.push_error he
  exact ⟨rfl, push_error_cases he⟩

/-- Bytes, a group with an odd digit, bytes behind a large gap, and bytes that follow the first. -/
def faultyListing : List String :=
  ["00001000: 1122 3344\tnop", "00001004: 55667\tnop", "00002000: 8899\tnop", "00001004: aabb"]

/-- The second and the third line fail; without them the image is the same. A further line that
fails is counted as line five. -/
theorem pushAll_faultyListing :
    let options : ListingOptions := { maxGap := some 0x100 }
    let r := pushAll options {} faultyListing
    taken options {} faultyListing = ["00001000: 1122 3344\tnop", "00001004: aabb"] ∧
      r.push options "00002000: 8899\tnop" =
        ({ r with lineNo := 5 }, .error (.gapTooLarge 5 ⟨0x2000, by decide⟩ 0xffa 0x100)) ∧
      ∃ r', Reconstruction.feed options {} (taken options {} faultyListing) = .ok r' ∧
        r'.finish =
          .ok ⟨⟨0x1000, by decide⟩, #[0x11, 0x22, 0x33, 0x44, 0xaa, 0xbb], by decide⟩ := by
  intro options r
  have hr : r = { base := some ⟨0x1000, by decide⟩, bytes := #[0x11, 0x22, 0x33, 0x44, 0xaa, 0xbb],
                  lineNo := 4, dataLines := 2 } := by
    decide +kernel
  have hmeaning : Line.meaning? options.dialect "00002000: 8899\tnop" =
      some (.data ⟨0x2000, by decide⟩ [0x88, 0x99]) := by
    decide +kernel
  have hfails : (r.push options "00002000: 8899\tnop").2 =
      .error (.gapTooLarge 5 ⟨0x2000, by decide⟩ 0xffa 0x100) := by
    rw [push_of_meaning? hmeaning, hr]
    rfl
  obtain ⟨herror, ⟨r', hfeed, hfinish⟩, -⟩ := push_atomic options faultyListing
  refine ⟨by decide +kernel, ?_, r', hfeed, hfinish.trans ((congrArg finish hr).trans rfl)⟩
  cases hpush : r.push options "00002000: 8899\tnop" with
  | mk s result =>
    rw [hpush] at hfails
    obtain rfl : result = _ := hfails
    obtain ⟨rfl, -⟩ := herror _ s _ hpush
    rw [show pushAll options {} faultyListing = r from rfl, hr]

end NameRecovery
