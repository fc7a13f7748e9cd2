import NameRecovery.Proofs.Listing.Atomicity
import NameRecovery.Proofs.Listing.Exactness

/-!
# Listings that grow

Lines are pushed one after another, so a longer listing begins as the shorter one did. The first
line that fails is the same, and its error names its position among all lines. If no line fails,
the base stays and bytes are only appended.

## Main definitions

* `ListingError.line?` : the number of the line that an error names.
* `Reconstruction.Extends` : the base stays and bytes are appended.

## Main results

* `Reconstruction.feed_append` : lines fed in two parts.
* `Reconstruction.feed_eq_error_iff`, `Reconstruction.line?_of_feed_eq_error` : the first line
  that fails, and its position.
* `Reconstruction.Extends.feed` : what further lines leave as it is.
-/

namespace NameRecovery

/-- The number of the line that an error names. -/
def ListingError.line? : ListingError → Option Nat
  | decode line _ _ => some line
  | gapTooLarge line _ _ _ => some line
  | addressOverflow line _ _ => some line
  | _ => none

namespace Reconstruction

variable {options : ListingOptions} {r s t : Reconstruction} {line : String}
  {xs ys : List String} {e : ListingError}

/-- Lines fed in two parts. -/
theorem feed_append :
    r.feed options (xs ++ ys) =
      match r.feed options xs with
      | .ok s => s.feed options ys
      | .error e => .error e := by
  induction xs generalizing r with
  | nil => rfl
  | cons line rest ih =>
    rw [List.cons_append, feed, feed]
    obtain ⟨s, result⟩ := r.push options line
    cases result with
    | ok p => exact ih
    | error e => rfl

theorem feed_append_of_ok (h : r.feed options xs = .ok s) :
    r.feed options (xs ++ ys) = s.feed options ys := by
  rw [feed_append, h]

theorem feed_append_eq_ok_iff :
    r.feed options (xs ++ ys) = .ok t ↔
      ∃ s, r.feed options xs = .ok s ∧ s.feed options ys = .ok t := by
  rw [feed_append]
  cases r.feed options xs with
  | ok s => simp
  | error e => simp

/-- Lines that are fed without an error are pushed to the end. -/
theorem pushAll_of_feed (h : r.feed options xs = .ok s) : r.pushAll options xs = s := by
  induction xs generalizing r with
  | nil => exact Except.ok.inj h
  | cons line rest ih =>
    obtain ⟨t, p, hpush, hrest⟩ := feed_cons_eq_ok_iff.mp h
    rw [pushAll, hpush]
    exact ih hrest

theorem Sound.feed (h : r.Sound) (hfeed : r.feed options xs = .ok s) : s.Sound := by
  rw [← pushAll_of_feed hfeed]
  exact h.pushAll options xs

/-! ### The first line that fails -/

/-- Feeding lines fails at the first line that fails, and with its error. -/
theorem feed_eq_error_iff :
    r.feed options xs = .error e ↔
      ∃ pre line post s, xs = pre ++ line :: post ∧ r.feed options pre = .ok s ∧
        (s.push options line).2 = .error e := by
  constructor
  · intro h
    induction xs generalizing r with
    | nil => cases h
    | cons line rest ih =>
      cases hpush : r.push options line with
      | mk s result =>
        rw [feed, hpush] at h
        cases result with
        | error f =>
          obtain rfl := Except.error.inj h
          exact ⟨[], line, rest, r, rfl, rfl, by rw [hpush]⟩
        | ok p =>
          obtain ⟨pre, fails, post, t, rfl, hpre, hfails⟩ := ih h
          exact ⟨line :: pre, fails, post, t, rfl,
            feed_cons_eq_ok_iff.mpr ⟨s, p, hpush, hpre⟩, hfails⟩
  · rintro ⟨pre, line, post, s, rfl, hpre, hfails⟩
    rw [feed_append_of_ok hpre, feed]
    cases hpush : s.push options line with
    | mk t result =>
      rw [hpush] at hfails
      obtain rfl : result = .error e := hfails
      rfl

theorem lineNo_push (options : ListingOptions) (r : Reconstruction) (line : String) :
    (r.push options line).1.lineNo = r.lineNo + 1 := by
  cases hclassify : Line.classify options.dialect (r.lineNo + 1) line with
  | error e => rw [push_of_classify_eq_error hclassify]
  | ok m =>
    rw [push_of_meaning? (Line.classify_eq_ok_iff.mp hclassify)]
    cases r.placement options (r.lineNo + 1) m with
    | ok p => cases p <;> rfl
    | error e =>
      match m with
      | .ignored => rfl
      | .outOfBounds a => rfl
      | .data a bytes =>
        simp only [fixBase]
        split <;> rfl

/-- Every line is counted. -/
theorem lineNo_feed (h : r.feed options xs = .ok s) : s.lineNo = r.lineNo + xs.length := by
  induction xs generalizing r with
  | nil => rw [← Except.ok.inj h, List.length_nil, Nat.add_zero]
  | cons line rest ih =>
    obtain ⟨t, p, hpush, hrest⟩ := feed_cons_eq_ok_iff.mp h
    have hcount := lineNo_push options r line
    rw [hpush] at hcount
    rw [ih hrest, hcount, List.length_cons, Nat.add_assoc, Nat.add_comm 1]

/-- The error of a line names the number of the line. -/
theorem line?_of_push_eq_error (h : (r.push options line).2 = .error e) :
    e.line? = some (r.lineNo + 1) := by
  have hpush : r.push options line = ((r.push options line).1, .error e) := Prod.ext rfl h
  rcases push_error_cases hpush with ⟨_, _, rfl⟩ | ⟨_, _, rfl⟩ | ⟨_, _, _, rfl⟩ <;> rfl

/-! ### What further lines leave as it is -/

/-- The base stays, and bytes are only appended. -/
structure Extends (r s : Reconstruction) : Prop where
  base_eq : ∀ base, r.base = some base → s.base = some base
  prefix_bytes : r.bytes.toList <+: s.bytes.toList

namespace Extends

theorem refl (r : Reconstruction) : Extends r r :=
  ⟨fun _ h => h, List.prefix_rfl⟩

theorem trans (hrs : Extends r s) (hst : Extends s t) : Extends r t :=
  ⟨fun base h => hst.base_eq base (hrs.base_eq base h), hrs.prefix_bytes.trans hst.prefix_bytes⟩

/-- Where the next byte belongs only moves up. -/
theorem stopFrom_le (h : Extends r s) (hne : r.base ≠ none) (a : Address) :
    r.stopFrom a ≤ s.stopFrom a := by
  obtain ⟨base, hbase⟩ := Option.ne_none_iff_exists'.mp hne
  rw [stopFrom, stopFrom, hbase, h.base_eq base hbase]
  exact Nat.add_le_add_left h.prefix_bytes.length_le _

/-- What a line that is taken leaves as it is. -/
theorem apply {m : Line} {p : Placement} (hm : Accepts options r m p) (n : Nat) :
    Extends r (({ r with lineNo := n } : Reconstruction).apply p) := by
  have hbase (a : Address) (base : Address) (h : r.base = some base) :
      some (r.base.getD a) = some base := by
    rw [h]
    rfl
  cases hm with
  | ignored => exact ⟨fun _ h => h, List.prefix_rfl⟩
  | outOfBounds a => exact ⟨hbase a, List.prefix_rfl⟩
  | overlap hfits hexpected hlt => exact ⟨hbase _, List.prefix_rfl⟩
  | @placed a bytes gap hfits hgap hlimit =>
    refine ⟨hbase a, ?_⟩
    change r.bytes.toList <+: (zeroFill r.bytes gap ++ bytes).toList
    rw [zeroFill_eq, Array.toList_appendList, Array.toList_append, List.append_assoc]
    exact List.prefix_append _ _

/-- **Further lines leave the base and the bytes as they are.** -/
theorem feed (h : r.feed options xs = .ok s) : Extends r s := by
  induction xs generalizing r with
  | nil =>
    obtain rfl := Except.ok.inj h
    exact refl r
  | cons line rest ih =>
    obtain ⟨t, p, hpush, hrest⟩ := feed_cons_eq_ok_iff.mp h
    obtain ⟨⟨m, -, hm⟩, rfl⟩ := push_eq_ok_iff.mp hpush
    exact (apply hm _).trans (ih hrest)

end Extends

end Reconstruction

end NameRecovery
