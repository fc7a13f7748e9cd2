import Mathlib.Algebra.GroupWithZero.Nat
import NameRecovery.Proofs.Listing.Growth

/-!
# What is counted

Lines are pushed to the end here, and a line that fails does not stop them. A data line is placed,
skipped with a warning, or refused, and exactly one counter or report tells which. The bytes are
those of the placed lines and the zeros before them, and none of the sums that say where a line
belongs leaves the address space: only the end of the line's own bytes can.

## Main definitions

* `Reconstruction.results`, `Reconstruction.notices` : what lines give and what is reported when
  they are pushed to the end.
* `Reconstruction.appended?`, `Reconstruction.isRefused` : what a result says about a data line.
* `Reconstruction.Tally` : the counters before and after some lines.

## Main results

* `Reconstruction.Sound.exists_nextAddress?` : the next byte always has an address.
* `Reconstruction.Sound.push_eq_addressOverflow_iff` : which lines leave the address space.
* `Reconstruction.Sound.push_cases_of_fits` : what all other data lines do.
* `Reconstruction.Sound.tally_push`, `Reconstruction.Sound.tally_pushAll` : one line, and many
  lines.
* `counters_exact` : all of this for every state that lines can lead to.
-/

namespace NameRecovery

/-- Whether a line gives bytes. -/
def Line.isData : Line → Bool
  | .data _ _ => true
  | _ => false

/-- Whether a line names memory that could not be read. -/
def Line.isOutOfBounds : Line → Bool
  | .outOfBounds _ => true
  | _ => false

/-- Whether a notice is a warning. -/
def Notice.isWarning (n : Notice) : Bool :=
  n.level = .warn

namespace Reconstruction

variable {options : ListingOptions} {d : Dialect} {r s t : Reconstruction} {line : String}
  {lines : List String} {a : Address} {n gap : Nat}

/-- What the lines give when they are pushed to the end, in their order. -/
def results (options : ListingOptions) (r : Reconstruction) :
    List String → List (Except ListingError Placement)
  | [] => []
  | line :: rest => (r.push options line).2 :: (r.push options line).1.results options rest

/-- What is reported when the lines are pushed to the end. -/
def notices (options : ListingOptions) (r : Reconstruction) : List String → List Notice
  | [] => []
  | line :: rest =>
    (r.pushNotice? options line).toList ++ (r.push options line).1.notices options rest

/-- The zeros and the bytes that a line appends. -/
def appended? : Except ListingError Placement → Option (Nat × List UInt8)
  | .ok (.placed _ gap bytes) => some (gap, bytes)
  | _ => none

/-- Whether a data line has bytes, and they cannot be placed. -/
def isRefused : Except ListingError Placement → Bool
  | .error (.addressOverflow _ _ _) => true
  | .error (.gapTooLarge _ _ _ _) => true
  | _ => false

/-! ### The address of the next byte -/

/-- **The next byte always has an address.** -/
theorem Sound.exists_nextAddress? (h : r.Sound) (a : Address) :
    ∃ expected, r.nextAddress? a = some expected ∧ expected.toNat = r.stopFrom a :=
  ⟨⟨_, h.stopFrom_lt a⟩, Address.ofNat?_eq_some_iff.mpr rfl, rfl⟩

/-- **A line leaves the address space exactly when its own bytes do.** That is checked before
anything else, so it does not matter where the next byte belongs. -/
theorem Sound.push_eq_addressOverflow_iff (h : r.Sound) {size : Nat} :
    (r.push options line).2 = .error (.addressOverflow n a size) ↔
      n = r.lineNo + 1 ∧ ∃ bytes, Line.meaning? options.dialect line = some (.data a bytes) ∧
        size = bytes.length ∧ 0x10000000000000000 ≤ a.toNat + size := by
  constructor
  · intro he
    rw [push_snd] at he
    rcases nextPlacement_eq_error_cases he with ⟨text, cause, hdecode⟩ | ⟨m, hmeaning, hrefuses⟩
    · cases hdecode
    · cases hrefuses with
      | @addressOverflow a bytes hover =>
        have hstop := h.stopFrom_lt a
        exact ⟨rfl, bytes, hmeaning, rfl, by omega⟩
  · rintro ⟨rfl, bytes, hmeaning, rfl, hover⟩
    rw [h.push_of_refuses hmeaning (.addressOverflow (Or.inl hover))]

/-- **A data line inside the address space is skipped or lies a gap above the next byte**, and the
gap is the exact difference: it is never cut off at zero. -/
theorem Sound.push_cases_of_fits (h : r.Sound) {bytes : List UInt8}
    (hmeaning : Line.meaning? options.dialect line = some (.data a bytes))
    (hfits : a.toNat + bytes.length < 0x10000000000000000) :
    ∃ expected, r.nextAddress? a = some expected ∧
      ((a < expected ∧ (r.push options line).2 = .ok (.overlap a expected)) ∨
        ∃ gap, expected.toNat + gap = a.toNat ∧
          ((r.push options line).2 = .ok (.placed a gap bytes) ∨
            ∃ limit, (r.push options line).2 =
              .error (.gapTooLarge (r.lineNo + 1) a gap limit))) := by
  obtain ⟨expected, hnext, hexpected⟩ := h.exists_nextAddress? a
  refine ⟨expected, hnext, ?_⟩
  rcases h.push_cases options line with ⟨hnone, -⟩ | ⟨m, hm, hpush⟩
  · cases hnone.symm.trans hmeaning
  · obtain rfl := Option.some.inj (hm.symm.trans hmeaning)
    rcases hpush with ⟨p, hp, hpush⟩ | ⟨e, he, hpush⟩
    · cases hp with
      | @overlap _ expected' _ _ hexpected' hlt =>
        obtain rfl : expected = expected' := Address.ext (hexpected.trans hexpected'.symm)
        exact Or.inl ⟨hlt, by rw [hpush]⟩
      | @placed _ _ gap _ hgap hlimit =>
        exact Or.inr ⟨gap, by rw [hexpected, hgap], Or.inl (by rw [hpush])⟩
    · cases he with
      | addressOverflow hover =>
        have := h.stopFrom_lt a
        omega
      | @gapTooLarge _ _ gap limit _ hgap hlimit =>
        exact Or.inr ⟨gap, by rw [hexpected, hgap], Or.inr ⟨limit, by rw [hpush]⟩⟩

/-! ### One line -/

/-- The counters of `s`, of which those of `r` are the counters before `lines` further lines with
the given meanings, results and notices. -/
structure Tally (r s : Reconstruction) (lines : Nat) (meanings : List Line)
    (results : List (Except ListingError Placement)) (notices : List Notice) : Prop where
  lineNo_eq : s.lineNo = r.lineNo + lines
  outOfBoundsLines_eq : s.outOfBoundsLines = r.outOfBoundsLines + meanings.countP Line.isOutOfBounds
  dataLines_eq : s.dataLines = r.dataLines + (results.filterMap appended?).length
  paddedBytes_eq : s.paddedBytes =
    r.paddedBytes + ((results.filterMap appended?).map fun x => x.1).sum
  size_eq : s.bytes.size = r.bytes.size + ((results.filterMap appended?).map fun x => x.1).sum +
    ((results.filterMap appended?).map fun x => x.2.length).sum
  /-- Each data line is placed, skipped with a warning, or refused. -/
  isData_eq : meanings.countP Line.isData =
    (results.filterMap appended?).length + notices.countP Notice.isWarning +
      results.countP isRefused

/-- What is counted for a line that is taken. -/
theorem tally_of_accepts {m : Line} {p : Placement} (hm : Accepts options r m p) (n : Nat) :
    Tally r (({ r with lineNo := r.lineNo + 1 } : Reconstruction).apply p) 1 [m] [.ok p]
      (placementNotice? n p).toList := by
  cases hm with
  | ignored => exact ⟨rfl, rfl, rfl, rfl, rfl, rfl⟩
  | outOfBounds a => exact ⟨rfl, rfl, rfl, rfl, rfl, rfl⟩
  | overlap hfits hexpected hlt => exact ⟨rfl, rfl, rfl, rfl, rfl, rfl⟩
  | @placed a bytes gap hfits hgap hlimit =>
    refine ⟨rfl, rfl, rfl, rfl, ?_, ?_⟩
    · change (zeroFill r.bytes gap ++ bytes).size = r.bytes.size + gap + bytes.length
      rw [zeroFill_eq, ← Array.length_toList]
      simp [Nat.add_assoc]
    · -- a report about the zeros is no warning
      rw [placementNotice?]
      split <;> rfl

/-- What is counted for a line that is refused. -/
theorem tally_of_refuses {m : Line} {e : ListingError} (he : Refuses options r n m e) :
    Tally r { r with lineNo := r.lineNo + 1 } 1 [m] [.error e] [] := by
  cases he with
  | addressOverflow hover => exact ⟨rfl, rfl, rfl, rfl, rfl, rfl⟩
  | gapTooLarge hfits hgap hlimit => exact ⟨rfl, rfl, rfl, rfl, rfl, rfl⟩

/-- **What is counted for one line**, whether it fails or not. -/
theorem Sound.tally_push (h : r.Sound) (options : ListingOptions) (line : String) :
    Tally r (r.push options line).1 1 (Line.meaning? options.dialect line).toList
      [(r.push options line).2] (r.pushNotice? options line).toList := by
  have hnotice : r.pushNotice? options line =
      (r.push options line).2.toOption.bind (placementNotice? (r.lineNo + 1)) := by
    rw [push_snd, pushNotice?]
    cases r.nextPlacement options line <;> rfl
  rcases h.push_cases options line with
    ⟨hmeaning, text, cause, hpush⟩ | ⟨m, hmeaning, ⟨p, hp, hpush⟩ | ⟨e, he, hpush⟩⟩
  · rw [hnotice, hpush, hmeaning]
    exact ⟨rfl, rfl, rfl, rfl, rfl, rfl⟩
  · rw [hnotice, hpush, hmeaning]
    exact tally_of_accepts hp _
  · rw [hnotice, hpush, hmeaning]
    exact tally_of_refuses he

/-! ### Many lines -/

theorem Tally.refl (r : Reconstruction) : Tally r r 0 [] [] [] :=
  ⟨rfl, rfl, rfl, rfl, rfl, rfl⟩

/-- What is counted for some lines and then for others. -/
theorem Tally.append {k l : Nat} {ms ms' : List Line}
    {results results' : List (Except ListingError Placement)} {notices notices' : List Notice}
    (hrs : Tally r s k ms results notices) (hst : Tally s t l ms' results' notices') :
    Tally r t (k + l) (ms ++ ms') (results ++ results') (notices ++ notices') where
  lineNo_eq := by
    rw [hst.lineNo_eq, hrs.lineNo_eq, Nat.add_assoc]
  outOfBoundsLines_eq := by
    rw [hst.outOfBoundsLines_eq, hrs.outOfBoundsLines_eq, List.countP_append, Nat.add_assoc]
  dataLines_eq := by
    rw [hst.dataLines_eq, hrs.dataLines_eq, List.filterMap_append, List.length_append,
      Nat.add_assoc]
  paddedBytes_eq := by
    rw [hst.paddedBytes_eq, hrs.paddedBytes_eq, List.filterMap_append, List.map_append,
      List.sum_append, Nat.add_assoc]
  size_eq := by
    rw [hst.size_eq, hrs.size_eq, List.filterMap_append, List.map_append, List.map_append,
      List.sum_append, List.sum_append]
    omega
  isData_eq := by
    rw [List.countP_append, hrs.isData_eq, hst.isData_eq, List.filterMap_append,
      List.length_append, List.countP_append, List.countP_append]
    omega

/-- **What is counted for many lines**, whether some of them fail or not. -/
theorem Sound.tally_pushAll (h : r.Sound) (options : ListingOptions) (lines : List String) :
    Tally r (r.pushAll options lines) lines.length
      (lines.filterMap (Line.meaning? options.dialect)) (r.results options lines)
      (r.notices options lines) := by
  induction lines generalizing r with
  | nil => exact .refl r
  | cons line rest ih =>
    have hmeanings : (line :: rest).filterMap (Line.meaning? options.dialect) =
        (Line.meaning? options.dialect line).toList ++
          rest.filterMap (Line.meaning? options.dialect) := by
      cases hmeaning : Line.meaning? options.dialect line with
      | none => exact List.filterMap_cons_none hmeaning
      | some m => exact List.filterMap_cons_some hmeaning
    rw [hmeanings, List.length_cons, Nat.add_comm]
    exact (h.tally_push options line).append (ih (h.push options line))

end Reconstruction

open Reconstruction

/-- **The sums of a reconstruction stay in the address space, and its counters add up.** For every
state that lines lead to, whether some of them failed or not: without a base there are no bytes, and
otherwise the bytes end inside the address space, so that there is an image. The next byte always
has an address; a line leaves the address space exactly when its own bytes do, even one that would
be skipped; any other data line is skipped, or it lies a gap above the next byte, which is the exact
difference. All lines are counted, and so are those out of bounds. Each data line is placed and
counted, skipped with a warning, or refused. The bytes are those of the counted data lines, and the
padding. -/
theorem counters_exact (options : ListingOptions) (lines : List String) :
    let r := pushAll options {} lines
    let meanings := lines.filterMap (Line.meaning? options.dialect)
    let results := Reconstruction.results options {} lines
    let notices := Reconstruction.notices options {} lines
    let appended := results.filterMap appended?
    ((r.base = none ∧ r.bytes = #[] ∧ r.finish = .error .empty) ∨
      ∃ image, r.base = some image.base ∧ r.bytes = image.bytes ∧ r.finish = .ok image ∧
        image.base.toNat + image.bytes.size ≤ 0xffffffffffffffff) ∧
    (∀ a, ∃ expected, r.nextAddress? a = some expected) ∧
    (∀ line n a size, (r.push options line).2 = .error (.addressOverflow n a size) ↔
      n = r.lineNo + 1 ∧ ∃ bytes, Line.meaning? options.dialect line = some (.data a bytes) ∧
        size = bytes.length ∧ 0xffffffffffffffff < a.toNat + size) ∧
    (∀ line a bytes, Line.meaning? options.dialect line = some (.data a bytes) →
      a.toNat + bytes.length ≤ 0xffffffffffffffff →
      ∃ expected, r.nextAddress? a = some expected ∧
        ((a < expected ∧ (r.push options line).2 = .ok (.overlap a expected)) ∨
          ∃ gap, expected.toNat + gap = a.toNat ∧
            ((r.push options line).2 = .ok (.placed a gap bytes) ∨
              ∃ limit, (r.push options line).2 =
                .error (.gapTooLarge (r.lineNo + 1) a gap limit)))) ∧
    r.lineNo = lines.length ∧
    r.outOfBoundsLines = meanings.countP Line.isOutOfBounds ∧
    r.dataLines = appended.length ∧
    r.dataLines + notices.countP Notice.isWarning + results.countP isRefused =
      meanings.countP Line.isData ∧
    r.paddedBytes = (appended.map fun x => x.1).sum ∧
    r.bytes.size = r.paddedBytes + (appended.map fun x => x.2.length).sum := by
  intro r meanings results notices appended
  have hr : r.Sound := sound_empty.pushAll options lines
  have htally : Tally {} r lines.length meanings results notices :=
    sound_empty.tally_pushAll options lines
  have hline := htally.lineNo_eq
  have hout := htally.outOfBoundsLines_eq
  have hdata := htally.dataLines_eq
  have hpadded := htally.paddedBytes_eq
  have hsize := htally.size_eq
  simp only [Nat.zero_add, List.size_toArray, List.length_nil] at hline hout hdata hpadded hsize
  refine ⟨?_, fun a => ?_, fun line n a size => hr.push_eq_addressOverflow_iff,
    fun line a bytes hmeaning hfits => hr.push_cases_of_fits hmeaning (Nat.lt_succ_of_le hfits),
    hline, hout, hdata, ?_, hpadded, ?_⟩
  · rcases hr.finish_exact with hempty | ⟨image, hbase, hbytes, himage⟩
    · exact Or.inl hempty
    · exact Or.inr ⟨image, hbase, hbytes, himage, Nat.le_of_lt_succ image.fits⟩
  · obtain ⟨expected, hexpected, -⟩ := hr.exists_nextAddress? a
    exact ⟨expected, hexpected⟩
  · rw [hdata]
    exact htally.isData_eq.symm
  · rw [hpadded]
    exact hsize

end NameRecovery
