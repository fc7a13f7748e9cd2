import NameRecovery.Proofs.Relocation
import NameRecovery.Proofs.Scan.Accepted

/-!
# Scans of moved images

The scan works on indices and looks at bytes only; the base takes part when a name is filed. So
images with the same bytes have the same findings, and when the base is moved, so is the address
under which each name is filed.

## Main results

* `met_of_bytes_eq`, `findings_of_bytes_eq` : what the scan meets does not depend on the base.
* `relocated_fileNames` : the names are filed under moved addresses.
-/

namespace NameRecovery

variable {options : ScanOptions} {image image' : ByteImage} {d : Nat}

/-! ### Images with the same bytes -/

section SameBytes

variable (h : image'.bytes = image.bytes)

include h

theorem size_of_bytes_eq : image'.size = image.size :=
  congrArg Array.size h

theorem wordAt?_of_bytes_eq (i : Nat) : image'.wordAt? i = image.wordAt? i := by
  refine Option.ext fun w => ?_
  rw [ByteImage.wordAt?_eq_some_iff, ByteImage.wordAt?_eq_some_iff, h]

theorem isCandidate_of_bytes_eq (i : Nat) :
    isCandidate options image' i = isCandidate options image i := by
  rw [isCandidate, isCandidate, wordAt?_of_bytes_eq h]

theorem endsAt_of_bytes_eq (stop : Nat) :
    endsAt options image' stop = endsAt options image stop := by
  rw [endsAt, endsAt, size_of_bytes_eq h, h]

theorem bytesBetween_of_bytes_eq (start stop : Nat) :
    bytesBetween image' start stop = bytesBetween image start stop := by
  rw [bytesBetween, bytesBetween, h]

theorem blockAt?_of_bytes_eq (i : Nat) :
    blockAt? options image' i = blockAt? options image i := by
  simp only [blockAt?, endsAt_of_bytes_eq h, bytesBetween_of_bytes_eq h, h]

theorem skipZeros_of_bytes_eq (pos : Nat) : skipZeros image' pos = skipZeros image pos := by
  fun_induction skipZeros image pos with
  | case1 pos hzero ih =>
    rw [skipZeros, size_of_bytes_eq h, wordAt?_of_bytes_eq h, if_pos hzero, ih]
  | case2 pos hzero =>
    rw [skipZeros, size_of_bytes_eq h, wordAt?_of_bytes_eq h, if_neg hzero]

theorem markerBefore?_of_bytes_eq (word : Word) (i : Nat) :
    markerBefore? image' word i = markerBefore? image word i := by
  fun_induction markerBefore? image word i with
  | case1 i hword => rw [markerBefore?, wordAt?_of_bytes_eq h, if_pos hword]
  | case2 i hword hle ih =>
    rw [markerBefore?, wordAt?_of_bytes_eq h, if_neg hword, if_pos hle, ih]
  | case3 i hword hle => rw [markerBefore?, wordAt?_of_bytes_eq h, if_neg hword, if_neg hle]

theorem resume_of_bytes_eq (policy : Policy) (b : NameBlock) :
    policy.resume image' b = policy.resume image b := by
  cases policy with
  | followsPrevious => exact skipZeros_of_bytes_eq h _
  | blockAddress => exact skipZeros_of_bytes_eq h _
  | marker word => rfl

theorem key?_of_bytes_eq (policy : Policy) (previous : Option Nat) (b : NameBlock) :
    policy.key? image' previous b = policy.key? image previous b := by
  cases policy with
  | followsPrevious => rfl
  | blockAddress => rfl
  | marker word => exact markerBefore?_of_bytes_eq h word b.start

/-- One step of the scan looks at bytes only. -/
theorem advance_of_bytes_eq (c : Cursor) :
    c.advance options image' = c.advance options image := by
  simp only [Cursor.advance, isCandidate_of_bytes_eq h, blockAt?_of_bytes_eq h,
    resume_of_bytes_eq h, key?_of_bytes_eq h]

/-- **What the scan meets does not depend on the base.** -/
theorem met_of_bytes_eq (c : Cursor) : met options image' c = met options image c := by
  fun_induction met options image c with
  | case1 c hlt ih => rw [met, size_of_bytes_eq h, if_pos hlt, advance_of_bytes_eq h, ih]
  | case2 c hlt => rw [met, size_of_bytes_eq h, if_neg hlt]

theorem findings_of_bytes_eq : findings options image' = findings options image := by
  rw [findings_eq_met, findings_eq_met, met_of_bytes_eq h]

end SameBytes

/-! ### Names -/

/-- Filing one name in moved maps. -/
theorem relocated_fileName (h : image.Relocated d image') {m n : NameMap} (hm : m.Relocated d n)
    (f : Finding) : (fileName image m f).Relocated d (fileName image' n f) := by
  match f with
  | .rejected i => exact hm
  | .accepted b none => exact hm
  | .accepted b (some key) => exact hm.insert (h.addressOf key) b.name

/-- **The names are filed under moved addresses**, in the same order. -/
theorem relocated_fileNames (h : image.Relocated d image') (found : List Finding) :
    (fileNames image found).Relocated d (fileNames image' found) :=
  List.foldl_rel NameMap.relocated_empty fun f _ _ _ hm => relocated_fileName h hm f

end NameRecovery
