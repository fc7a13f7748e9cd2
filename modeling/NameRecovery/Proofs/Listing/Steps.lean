import NameRecovery.Listing.Reconstruction
import NameRecovery.Proofs.Address
import NameRecovery.Proofs.Listing.Meaning

/-!
# What one line does

This file says once what a line can do to a reconstruction. The relation `Accepts` lists the four
ways in which a line is taken, with the placement each of them gives; the relation `Refuses` lists
the two ways in which a data line fails. Both are exactly what `Reconstruction.placement` decides,
and pushing a line is one of the two, or a decode error.

## Main definitions

* `Reconstruction.stopFrom` : where the next byte belongs.
* `Reconstruction.Accepts`, `Reconstruction.Refuses` : what a line with a meaning does.

## Main results

* `Reconstruction.placement_eq_ok_iff`, `Reconstruction.placement_eq_error_iff` : the decision.
* `Reconstruction.nextPlacement_eq_ok_iff`, `Reconstruction.nextPlacement_eq_error_cases` : when
  the next line is taken and why it fails.
* `Reconstruction.push_of_meaning?`, `Reconstruction.push_eq_ok_iff` : what pushing it does.
* `Reconstruction.feed_cons_eq_ok_iff`, `Reconstruction.feed_ne_empty` : pushing many lines.
-/

namespace NameRecovery

namespace Reconstruction

variable {options : ListingOptions} {r r' : Reconstruction} {n : Nat} {a : Address}

/-- The number of the address where the next byte belongs, if the base were `a` unless it is fixed
already. -/
def stopFrom (r : Reconstruction) (a : Address) : Nat :=
  (r.base.getD a).toNat + r.bytes.size

/-- The ways in which a line is taken. -/
inductive Accepts (options : ListingOptions) (r : Reconstruction) : Line → Placement → Prop
  | ignored : Accepts options r .ignored .ignored
  | outOfBounds (a : Address) : Accepts options r (.outOfBounds a) (.outOfBounds a)
  | overlap {a expected : Address} {bytes : List UInt8}
      (hfits : a.toNat + bytes.length < 0x10000000000000000)
      (hexpected : expected.toNat = r.stopFrom a) (hlt : a < expected) :
      Accepts options r (.data a bytes) (.overlap a expected)
  | placed {a : Address} {bytes : List UInt8} {gap : Nat}
      (hfits : a.toNat + bytes.length < 0x10000000000000000) (hgap : r.stopFrom a + gap = a.toNat)
      (hlimit : options.exceeded? gap = none) :
      Accepts options r (.data a bytes) (.placed a gap bytes)

/-- The ways in which a data line fails; `n` is its number. -/
inductive Refuses (options : ListingOptions) (r : Reconstruction) (n : Nat) :
    Line → ListingError → Prop
  | addressOverflow {a : Address} {bytes : List UInt8}
      (hover : 0x10000000000000000 ≤ a.toNat + bytes.length ∨ 0x10000000000000000 ≤ r.stopFrom a) :
      Refuses options r n (.data a bytes) (.addressOverflow n a bytes.length)
  | gapTooLarge {a : Address} {bytes : List UInt8} {gap limit : Nat}
      (hfits : a.toNat + bytes.length < 0x10000000000000000) (hgap : r.stopFrom a + gap = a.toNat)
      (hlimit : options.exceeded? gap = some limit) :
      Refuses options r n (.data a bytes) (.gapTooLarge n a gap limit)

/-! ### The decision -/

/-- A fill of no bytes stays within every limit. -/
theorem exceeded?_zero (options : ListingOptions) : options.exceeded? 0 = none := by
  rw [ListingOptions.exceeded?, Option.filter_eq_none_iff]
  intro limit _
  simp

/-- A data line that leaves the address space, or that belongs outside it. -/
theorem placement_data_of_over {bytes : List UInt8}
    (hover : 0x10000000000000000 ≤ a.toNat + bytes.length ∨ 0x10000000000000000 ≤ r.stopFrom a) :
    r.placement options n (.data a bytes) = .error (.addressOverflow n a bytes.length) := by
  rw [placement, Address.add?]
  rcases hover with hover | hover
  · rw [Address.ofNat?_eq_none_iff.mpr hover]
  · have hnone : r.nextAddress? a = none := Address.ofNat?_eq_none_iff.mpr hover
    rw [hnone]
    cases Address.ofNat? (a.toNat + bytes.length) <;> rfl

/-- A data line inside the address space, compared with where the next byte belongs. -/
theorem placement_data_of_fits {bytes : List UInt8} {expected : Address}
    (hfits : a.toNat + bytes.length < 0x10000000000000000)
    (hexpected : expected.toNat = r.stopFrom a) :
    r.placement options n (.data a bytes) =
      if a < expected then .ok (.overlap a expected)
      else match options.exceeded? (a.toNat - expected.toNat) with
        | some limit => .error (.gapTooLarge n a (a.toNat - expected.toNat) limit)
        | none => .ok (.placed a (a.toNat - expected.toNat) bytes) := by
  have hend : Address.ofNat? (a.toNat + bytes.length) = some ⟨_, hfits⟩ :=
    Address.ofNat?_eq_some_iff.mpr rfl
  have hnext : r.nextAddress? a = some expected := Address.ofNat?_eq_some_iff.mpr hexpected
  rewrite [placement, Address.add?, hend, hnext]
  rfl

/-- A data line `gap` bytes above the place where the next byte belongs. -/
theorem placement_data_of_gap {bytes : List UInt8} {gap : Nat}
    (hfits : a.toNat + bytes.length < 0x10000000000000000) (hgap : r.stopFrom a + gap = a.toNat) :
    r.placement options n (.data a bytes) =
      match options.exceeded? gap with
      | some limit => .error (.gapTooLarge n a gap limit)
      | none => .ok (.placed a gap bytes) := by
  have hstop : r.stopFrom a < 0x10000000000000000 := by
    have := a.toNat_lt
    omega
  have hexpected : (⟨r.stopFrom a, hstop⟩ : Address).toNat = r.stopFrom a := rfl
  have hnot : ¬ a < ⟨r.stopFrom a, hstop⟩ := by
    rw [Address.lt_def, hexpected]
    omega
  have hsub : a.toNat - r.stopFrom a = gap := by omega
  rw [placement_data_of_fits hfits hexpected, if_neg hnot, hexpected, hsub]

theorem placement_of_accepts {m : Line} {p : Placement} (h : Accepts options r m p) :
    r.placement options n m = .ok p := by
  cases h with
  | ignored => rfl
  | outOfBounds a => rfl
  | overlap hfits hexpected hlt => rw [placement_data_of_fits hfits hexpected, if_pos hlt]
  | placed hfits hgap hlimit => rw [placement_data_of_gap hfits hgap, hlimit]

theorem placement_of_refuses {m : Line} {e : ListingError} (h : Refuses options r n m e) :
    r.placement options n m = .error e := by
  cases h with
  | addressOverflow hover => exact placement_data_of_over hover
  | gapTooLarge hfits hgap hlimit => rw [placement_data_of_gap hfits hgap, hlimit]

/-- A line with a meaning is taken or refused. -/
theorem accepts_or_refuses (options : ListingOptions) (r : Reconstruction) (n : Nat) (m : Line) :
    (∃ p, Accepts options r m p) ∨ ∃ e, Refuses options r n m e := by
  match m with
  | .ignored => exact Or.inl ⟨_, .ignored⟩
  | .outOfBounds a => exact Or.inl ⟨_, .outOfBounds a⟩
  | .data a bytes =>
    by_cases hover :
        0x10000000000000000 ≤ a.toNat + bytes.length ∨ 0x10000000000000000 ≤ r.stopFrom a
    · exact Or.inr ⟨_, .addressOverflow hover⟩
    · rw [not_or, Nat.not_le, Nat.not_le] at hover
      obtain ⟨hfits, hstop⟩ := hover
      rcases Nat.lt_or_ge a.toNat (r.stopFrom a) with hlt | hle
      · have hexpected : (⟨r.stopFrom a, hstop⟩ : Address).toNat = r.stopFrom a := rfl
        exact Or.inl ⟨_, .overlap hfits hexpected hlt⟩
      · have hgap := Nat.add_sub_cancel' hle
        cases hlimit : options.exceeded? (a.toNat - r.stopFrom a) with
        | none => exact Or.inl ⟨_, .placed hfits hgap hlimit⟩
        | some limit => exact Or.inr ⟨_, .gapTooLarge hfits hgap hlimit⟩

/-- **A line is taken exactly in the ways listed.** -/
theorem placement_eq_ok_iff {m : Line} {p : Placement} :
    r.placement options n m = .ok p ↔ Accepts options r m p := by
  refine ⟨fun h => ?_, placement_of_accepts⟩
  rcases accepts_or_refuses options r n m with ⟨q, hq⟩ | ⟨e, he⟩
  · rw [placement_of_accepts hq] at h
    exact Except.ok.inj h ▸ hq
  · rw [placement_of_refuses he] at h
    cases h

/-- **A line fails exactly in the ways listed.** -/
theorem placement_eq_error_iff {m : Line} {e : ListingError} :
    r.placement options n m = .error e ↔ Refuses options r n m e := by
  refine ⟨fun h => ?_, placement_of_refuses⟩
  rcases accepts_or_refuses options r n m with ⟨p, hp⟩ | ⟨f, hf⟩
  · rw [placement_of_accepts hp] at h
    cases h
  · rw [placement_of_refuses hf] at h
    exact Except.error.inj h ▸ hf

/-! ### Pushing lines -/

/-- The next line is taken when its meaning is. -/
theorem nextPlacement_eq_ok_iff {line : String} {p : Placement} :
    r.nextPlacement options line = .ok p ↔
      ∃ m, Line.meaning? options.dialect line = some m ∧ Accepts options r m p := by
  rw [nextPlacement]
  constructor
  · intro h
    split at h
    · next m hclassify =>
      exact ⟨m, Line.classify_eq_ok_iff.mp hclassify, placement_eq_ok_iff.mp h⟩
    · cases h
  · rintro ⟨m, hmeaning, hp⟩
    rw [Line.classify_eq_ok_iff.mpr hmeaning]
    exact placement_of_accepts hp

/-- The next line fails when its byte groups spell no bytes or its meaning is refused. -/
theorem nextPlacement_eq_error_cases {line : String} {e : ListingError}
    (h : r.nextPlacement options line = .error e) :
    (∃ text cause, e = .decode (r.lineNo + 1) text cause) ∨
      ∃ m, Line.meaning? options.dialect line = some m ∧
        Refuses options r (r.lineNo + 1) m e := by
  rw [nextPlacement] at h
  split at h
  · next m hclassify =>
    exact Or.inr ⟨m, Line.classify_eq_ok_iff.mp hclassify, placement_eq_error_iff.mp h⟩
  · next f hclassify =>
    obtain rfl := Except.error.inj h
    exact Or.inl (Line.exists_eq_decode_of_classify_eq_error hclassify)

/-- Where the next byte belongs does not change when the address of the line becomes the base. -/
theorem placement_fixBase (m : Line) :
    (r.fixBase m).placement options n m = r.placement options n m := by
  match m with
  | .ignored => rfl
  | .outOfBounds a => rfl
  | .data a bytes =>
    rw [fixBase]
    split <;> rfl

/-- A placement fixes the base in any case. -/
theorem apply_fixBase {m : Line} {p : Placement} (hm : Accepts options r m p) :
    (r.fixBase m).apply p = r.apply p := by
  cases hm with
  | ignored => rfl
  | outOfBounds a => rfl
  | overlap hfits hexpected hlt =>
    rw [fixBase]
    split <;> rfl
  | placed hfits hgap hlimit =>
    rw [fixBase]
    split <;> rfl

/-- A line without a meaning is only counted. -/
theorem push_of_classify_eq_error {line : String} {e : ListingError}
    (h : Line.classify options.dialect (r.lineNo + 1) line = .error e) :
    r.push options line = ({ r with lineNo := r.lineNo + 1 }, .error e) := by
  simp only [push, h]

/-- A line with a meaning is placed, or fails after it fixed the base. -/
theorem push_of_meaning? {line : String} {m : Line}
    (h : Line.meaning? options.dialect line = some m) :
    r.push options line =
      match r.placement options (r.lineNo + 1) m with
      | .ok p => (({ r with lineNo := r.lineNo + 1 } : Reconstruction).apply p, .ok p)
      | .error e => (({ r with lineNo := r.lineNo + 1 } : Reconstruction).fixBase m, .error e) := by
  have hcounted : ({ r with lineNo := r.lineNo + 1 } : Reconstruction).placement options
      (r.lineNo + 1) m = r.placement options (r.lineNo + 1) m := by
    cases m <;> rfl
  simp only [push, Line.classify_eq_ok_iff.mpr h, placement_fixBase, hcounted]
  cases hp : r.placement options (r.lineNo + 1) m with
  | ok p =>
    rw [← hcounted] at hp
    simp only [apply_fixBase (placement_eq_ok_iff.mp hp)]
  | error e => rfl

/-- A pushed line does what is next. -/
theorem push_snd (options : ListingOptions) (r : Reconstruction) (line : String) :
    (r.push options line).2 = r.nextPlacement options line := by
  rw [nextPlacement]
  cases hclassify : Line.classify options.dialect (r.lineNo + 1) line with
  | error e => rw [push_of_classify_eq_error hclassify]
  | ok m =>
    rw [push_of_meaning? (Line.classify_eq_ok_iff.mp hclassify)]
    simp only
    cases r.placement options (r.lineNo + 1) m <;> rfl

/-- Pushing a line succeeds when its meaning is taken; the line is counted and the placement is
carried out. -/
theorem push_eq_ok_iff {line : String} {p : Placement} :
    r.push options line = (r', .ok p) ↔
      (∃ m, Line.meaning? options.dialect line = some m ∧ Accepts options r m p) ∧
        r' = ({ r with lineNo := r.lineNo + 1 } : Reconstruction).apply p := by
  constructor
  · intro h
    have hnext : r.nextPlacement options line = .ok p := by rw [← push_snd, h]
    obtain ⟨m, hmeaning, hm⟩ := nextPlacement_eq_ok_iff.mp hnext
    rw [push_of_meaning? hmeaning, placement_of_accepts hm] at h
    exact ⟨⟨m, hmeaning, hm⟩, (Prod.mk.inj h).1.symm⟩
  · rintro ⟨⟨m, hmeaning, hm⟩, rfl⟩
    rw [push_of_meaning? hmeaning, placement_of_accepts hm]

/-- Feeding lines succeeds when the first line is taken and feeding the others succeeds. -/
theorem feed_cons_eq_ok_iff {line : String} {rest : List String} :
    r.feed options (line :: rest) = .ok r' ↔
      ∃ s p, r.push options line = (s, .ok p) ∧ s.feed options rest = .ok r' := by
  rw [feed]
  obtain ⟨s, result⟩ := r.push options line
  cases result with
  | ok p => simp
  | error e => simp

/-- No line fails because there is no address: that is only known in the end. -/
theorem feed_ne_empty {lines : List String} : r.feed options lines ≠ .error .empty := by
  induction lines generalizing r with
  | nil => intro h; cases h
  | cons line rest ih =>
    intro h
    rw [feed] at h
    cases hpush : r.push options line with
    | mk s result =>
      rw [hpush] at h
      cases result with
      | ok p => exact ih h
      | error e =>
        obtain rfl := Except.error.inj h
        have hnext : r.nextPlacement options line = .error .empty := by rw [← push_snd, hpush]
        rcases nextPlacement_eq_error_cases hnext with ⟨text, cause, hdecode⟩ | ⟨m, -, hrefuses⟩
        · cases hdecode
        · cases hrefuses

end Reconstruction

end NameRecovery
