import NameRecovery.Proofs.Listing.Growth
import NameRecovery.Proofs.Relocation

/-!
# Moved listings

A listing is moved when the address of each of its lines is, and each line still ends inside the
address space. All that a line is compared with moves along: the base, the place where the next byte
belongs, and so the gap before a line stays as it is. So both listings take the same lines, skip the
same lines and fail at the same line. Nothing new can leave the address space: the next byte never
belongs above the end of a line.

## Main definitions

* `Line.Relocated`, `Line.ReadsRelocated` : moved meanings, and lines that have them.
* `Placement.Relocated`, `ListingError.Relocated`, `Reconstruction.Relocated` : what lines do, why
  they fail, and what is placed.

## Main results

* `Reconstruction.Relocated.accepts`, `Reconstruction.Relocated.refuses` : a moved line does the
  same, or fails for the same reason.
* `Reconstruction.Relocated.push`, `Reconstruction.Relocated.feed` : one line, and many lines.
* `relocated_reconstruct` : the image of a moved listing.
-/

namespace NameRecovery

open Reconstruction

variable {options : ListingOptions} {d : Nat}

/-- The address is moved, and the line still ends inside the address space. -/
inductive Line.Relocated (d : Nat) : Line → Line → Prop
  | ignored : Relocated d .ignored .ignored
  | outOfBounds {a b : Address} (h : Address.Relocated d a b) :
      Relocated d (.outOfBounds a) (.outOfBounds b)
  | data {a b : Address} {bytes : List UInt8} (h : Address.Relocated d a b)
      (hfits : b.toNat + bytes.length < 0x10000000000000000) :
      Relocated d (.data a bytes) (.data b bytes)

namespace Line

instance (d : Nat) : ∀ m m' : Line, Decidable (m.Relocated d m')
  | .ignored, .ignored => isTrue .ignored
  | .outOfBounds a, .outOfBounds b =>
    decidable_of_iff (Address.Relocated d a b) ⟨.outOfBounds, fun | .outOfBounds h => h⟩
  | .data a xs, .data b ys =>
    decidable_of_iff
      (xs = ys ∧ Address.Relocated d a b ∧ b.toNat + xs.length < 0x10000000000000000)
      ⟨fun ⟨hbytes, h, hfits⟩ => hbytes ▸ .data h hfits, fun | .data h hfits => ⟨rfl, h, hfits⟩⟩
  | .ignored, .outOfBounds _ | .ignored, .data _ _ => isFalse nofun
  | .outOfBounds _, .ignored | .outOfBounds _, .data _ _ => isFalse nofun
  | .data _ _, .ignored | .data _ _, .outOfBounds _ => isFalse nofun

/-- The two lines mean the same but for moved addresses, or their byte groups are the same and
spell no bytes. The number they are read with does not matter (`ReadsRelocated.cases`). -/
def ReadsRelocated (dialect : Dialect) (d : Nat) (x y : String) : Prop :=
  ExceptRel Eq (Relocated d) (classify dialect 0 x) (classify dialect 0 y)

instance (dialect : Dialect) (d : Nat) (x y : String) : Decidable (ReadsRelocated dialect d x y) :=
  inferInstanceAs (Decidable (ExceptRel Eq (Relocated d) _ _))

/-- Whatever number the two lines have, they have moved meanings or the same error. -/
theorem ReadsRelocated.cases {dialect : Dialect} {x y : String} (h : ReadsRelocated dialect d x y)
    (n : Nat) :
    (∃ m m', meaning? dialect x = some m ∧ meaning? dialect y = some m' ∧ m.Relocated d m') ∨
      ∃ text cause, classify dialect n x = .error (.decode n text cause) ∧
        classify dialect n y = .error (.decode n text cause) := by
  rcases ExceptRel.cases h with ⟨m, m', hx, hy, hm⟩ | ⟨e, f, hx, hy, rfl⟩
  · exact Or.inl ⟨m, m', classify_eq_ok_iff.mp hx, classify_eq_ok_iff.mp hy, hm⟩
  · obtain ⟨text, cause, rfl⟩ := exists_eq_decode_of_classify_eq_error hx
    exact Or.inr ⟨text, cause, classify_eq_decode_iff.mp hx, classify_eq_decode_iff.mp hy⟩

end Line

/-- The address is moved, what the line does stays. -/
inductive Placement.Relocated (d : Nat) : Placement → Placement → Prop
  | ignored : Relocated d .ignored .ignored
  | outOfBounds {a b : Address} (h : Address.Relocated d a b) :
      Relocated d (.outOfBounds a) (.outOfBounds b)
  | overlap {a b expected expected' : Address} (h : Address.Relocated d a b)
      (hexpected : Address.Relocated d expected expected') :
      Relocated d (.overlap a expected) (.overlap b expected')
  | placed {a b : Address} {gap : Nat} {bytes : List UInt8} (h : Address.Relocated d a b) :
      Relocated d (.placed a gap bytes) (.placed b gap bytes)

/-- The address of an error is moved, if it has one. -/
inductive ListingError.Relocated (d : Nat) : ListingError → ListingError → Prop
  | empty : Relocated d .empty .empty
  | decode (line : Nat) (text : String) (cause : Hex.DecodeError) :
      Relocated d (.decode line text cause) (.decode line text cause)
  | gapTooLarge {a b : Address} (h : Address.Relocated d a b) (line gap limit : Nat) :
      Relocated d (.gapTooLarge line a gap limit) (.gapTooLarge line b gap limit)
  | addressOverflow {a b : Address} (h : Address.Relocated d a b) (line size : Nat) :
      Relocated d (.addressOverflow line a size) (.addressOverflow line b size)
  | imageOverflow {a b : Address} (h : Address.Relocated d a b) (size : Nat) :
      Relocated d (.imageOverflow a size) (.imageOverflow b size)
  | unreadable (reason : String) : Relocated d (.unreadable reason) (.unreadable reason)

/-- The base is moved, if there is one; the bytes and all counts stay. -/
def Reconstruction.Relocated (d : Nat) (r s : Reconstruction) : Prop :=
  ∃ base, Option.Rel (Address.Relocated d) r.base base ∧ s = { r with base := base }

namespace Reconstruction

variable {r s : Reconstruction} {m m' : Line} {p p' : Placement} {e : ListingError} {n : Nat}
  {a b : Address} {x y : String} {xs ys : List String}

theorem relocated_empty : Relocated d {} {} :=
  ⟨none, .none, rfl⟩

namespace Relocated

theorem lineNo_eq (h : r.Relocated d s) : s.lineNo = r.lineNo := by
  obtain ⟨base, -, rfl⟩ := h
  rfl

/-- Where the next byte belongs is moved. -/
theorem stopFrom (h : r.Relocated d s) (ha : Address.Relocated d a b) :
    s.stopFrom b = r.stopFrom a + d := by
  obtain ⟨base, hbase, rfl⟩ := h
  have hgetD : (base.getD b).toNat = (r.base.getD a).toNat + d := Address.Relocated.getD hbase ha
  change (base.getD b).toNat + r.bytes.size = (r.base.getD a).toNat + r.bytes.size + d
  omega

/-- The gap before a line stays. -/
theorem gap_eq (h : r.Relocated d s) (ha : Address.Relocated d a b) {gap : Nat}
    (hgap : r.stopFrom a + gap = a.toNat) : s.stopFrom b + gap = b.toNat := by
  rw [h.stopFrom ha, Nat.add_right_comm, hgap, ha]

/-! ### One line -/

/-- **A line that is taken** does the same when it is moved. -/
theorem accepts (h : r.Relocated d s) (hs : s.Sound) (hm : m.Relocated d m')
    (hp : Accepts options r m p) : ∃ p', Accepts options s m' p' ∧ p.Relocated d p' := by
  cases hp with
  | ignored =>
    cases hm
    exact ⟨_, .ignored, .ignored⟩
  | outOfBounds a =>
    cases hm with
    | @outOfBounds _ b ha => exact ⟨_, .outOfBounds b, .outOfBounds ha⟩
  | @overlap a expected bytes hfits hexpected hlt =>
    cases hm with
    | @data _ b _ ha hfits' =>
      have hmoved : Address.Relocated d expected ⟨s.stopFrom b, hs.stopFrom_lt b⟩ :=
        (h.stopFrom ha).trans (by rw [hexpected])
      exact ⟨_, .overlap hfits' rfl ((ha.lt_iff hmoved).mp hlt), .overlap ha hmoved⟩
  | @placed a bytes gap hfits hgap hlimit =>
    cases hm with
    | @data _ b _ ha hfits' =>
      exact ⟨_, .placed hfits' (h.gap_eq ha hgap) hlimit, .placed ha⟩

/-- **A line that fails** fails for the same reason when it is moved. Its bytes do not leave the
address space, since those of the moved line do not. -/
theorem refuses (h : r.Relocated d s) (hr : r.Sound) (hm : m.Relocated d m')
    (he : Refuses options r n m e) : ∃ e', Refuses options s n m' e' ∧ e.Relocated d e' := by
  cases he with
  | @addressOverflow a bytes hover =>
    cases hm with
    | @data _ b _ ha hfits' =>
      have hb : b.toNat = a.toNat + d := ha
      have hstop := hr.stopFrom_lt a
      omega
  | @gapTooLarge a bytes gap limit hfits hgap hlimit =>
    cases hm with
    | @data _ b _ ha hfits' =>
      exact ⟨_, .gapTooLarge hfits' (h.gap_eq ha hgap) hlimit, .gapTooLarge ha n gap limit⟩

/-- Both count a line. -/
theorem count (h : r.Relocated d s) (n : Nat) :
    ({ r with lineNo := n } : Reconstruction).Relocated d { s with lineNo := n } := by
  obtain ⟨base, hbase, rfl⟩ := h
  exact ⟨base, hbase, rfl⟩

/-- What a moved line leaves behind. -/
theorem apply (h : r.Relocated d s) (hp : p.Relocated d p') :
    (r.apply p).Relocated d (s.apply p') := by
  obtain ⟨base, hbase, rfl⟩ := h
  cases hp with
  | ignored => exact ⟨base, hbase, rfl⟩
  | outOfBounds ha => exact ⟨_, .some (Address.Relocated.getD hbase ha), rfl⟩
  | overlap ha hexpected => exact ⟨_, .some (Address.Relocated.getD hbase ha), rfl⟩
  | placed ha => exact ⟨_, .some (Address.Relocated.getD hbase ha), rfl⟩

/-- **Pushing a moved line**, whether it fails or not. -/
theorem push (h : r.Relocated d s) (hr : r.Sound) (hs : s.Sound)
    (hline : Line.ReadsRelocated options.dialect d x y) :
    (r.push options x).1.Relocated d (s.push options y).1 ∧
      ExceptRel (ListingError.Relocated d) (Placement.Relocated d)
        (r.push options x).2 (s.push options y).2 := by
  have hn := h.lineNo_eq
  rcases hline.cases (r.lineNo + 1) with ⟨m, m', hx, hy, hm⟩ | ⟨text, cause, hx, hy⟩
  · rcases accepts_or_refuses options r (r.lineNo + 1) m with ⟨p, hp⟩ | ⟨e, he⟩
    · obtain ⟨p', hp', hmoved⟩ := h.accepts hs hm hp
      rw [push_eq_ok_iff.mpr ⟨⟨m, hx, hp⟩, rfl⟩, push_eq_ok_iff.mpr ⟨⟨m', hy, hp'⟩, rfl⟩, hn]
      exact ⟨(h.count _).apply hmoved, .ok hmoved⟩
    · obtain ⟨e', he', hmoved⟩ := h.refuses hr hm he
      rw [hr.push_of_refuses hx he, hs.push_of_refuses hy (hn ▸ he'), hn]
      exact ⟨h.count _, .error hmoved⟩
  · rw [push_of_classify_eq_error hx, push_of_classify_eq_error (hn ▸ hy), hn]
    exact ⟨h.count _, .error (.decode _ text cause)⟩

/-! ### Many lines -/

/-- **Feeding a moved listing.** -/
theorem feed (h : r.Relocated d s) (hr : r.Sound) (hs : s.Sound)
    (hlines : List.Forall₂ (Line.ReadsRelocated options.dialect d) xs ys) :
    ExceptRel (ListingError.Relocated d) (Reconstruction.Relocated d)
      (r.feed options xs) (s.feed options ys) := by
  induction hlines generalizing r s with
  | nil => exact .ok h
  | @cons x y xs ys hline hrest ih =>
    obtain ⟨hstate, hresult⟩ := h.push hr hs hline
    have hr' := hr.push options x
    have hs' := hs.push options y
    rw [Reconstruction.feed, Reconstruction.feed]
    generalize r.push options x = px at hstate hresult hr' ⊢
    generalize s.push options y = py at hstate hresult hs' ⊢
    obtain ⟨r', result⟩ := px
    obtain ⟨s', result'⟩ := py
    cases hresult with
    | ok hp => exact ih hstate hr' hs'
    | error he => exact .error he

/-- The image in the end. -/
theorem finish (h : r.Relocated d s) (hr : r.Sound) (hs : s.Sound) :
    ExceptRel (ListingError.Relocated d) (ByteImage.Relocated d) r.finish s.finish := by
  obtain ⟨base', hmoved, rfl⟩ := h
  cases hbase : r.base with
  | none =>
    rw [hbase] at hmoved
    cases hmoved
    rw [finish_of_base_eq_none hbase, finish_of_base_eq_none rfl]
    exact .error .empty
  | some base =>
    rw [hbase] at hmoved
    cases hmoved with
    | some hmoved =>
      rw [hr.finish_of_base hbase, hs.finish_of_base rfl]
      exact .ok ⟨hmoved, rfl⟩

end Relocated

end Reconstruction

/-- **The image of a moved listing** has the same bytes and a moved base; if there is none, it is
for the same reason. -/
theorem relocated_reconstruct {xs ys : List String}
    (h : List.Forall₂ (Line.ReadsRelocated options.dialect d) xs ys) :
    ExceptRel (ListingError.Relocated d) (ByteImage.Relocated d)
      (reconstruct options xs) (reconstruct options ys) := by
  rcases (relocated_empty.feed sound_empty sound_empty h).cases with
    ⟨r, s, hxs, hys, hrs⟩ | ⟨e, f, hxs, hys, hef⟩
  · rw [reconstruct, reconstruct, hxs, hys]
    exact hrs.finish (sound_empty.feed hxs) (sound_empty.feed hys)
  · rw [reconstruct, reconstruct, hxs, hys]
    exact .error hef

end NameRecovery
