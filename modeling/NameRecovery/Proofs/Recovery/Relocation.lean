import NameRecovery.Proofs.Listing.Relocation
import NameRecovery.Proofs.Scan.Relocation
import NameRecovery.Recovery

/-!
# Moved recoveries

A listing says where its bytes stand in memory, and nothing else depends on that place. So the
recovery of a moved listing is the recovery of the listing, moved: the same names in the same order
and the same counts, or the same error.

## Main definitions

* `Recovery.Relocated` : the image and the names are moved.

## Main results

* `recover_relocated` : recovery commutes with moving a listing.
-/

namespace NameRecovery

variable {d : Nat}

/-- The image, if there is one, and the names are moved; the counts stay. -/
structure Recovery.Relocated (d : Nat) (u v : Recovery) : Prop where
  image? : Option.Rel (ByteImage.Relocated d) u.image? v.image?
  names : u.names.Relocated d v.names
  stats_eq : v.stats = u.stats

/-- The scan of a moved image. -/
theorem relocated_ofImage {image image' : ByteImage} (h : image.Relocated d image')
    (options : ScanOptions) :
    (Recovery.ofImage options image).Relocated d (.ofImage options image') := by
  have hfindings : findings options image' = findings options image :=
    findings_of_bytes_eq h.bytes_eq
  refine ⟨.some h, ?_, congrArg ScanStats.ofFindings hfindings⟩
  change (fileNames image _).Relocated d (fileNames image' _)
  rw [hfindings]
  exact relocated_fileNames h _

/-- **Recovery commutes with moving a listing.** Let the lines of two listings read the same, but
for addresses that are moved up by `d` bytes, and let each line of the second one end inside the
address space. Then both recoveries succeed or both fail. If they succeed, the base of the image and
the address of each name are moved by `d`, and the bytes, the names, their order and the counts are
the same. If they fail, it is for the same reason at the same line, and the address of the error is
moved by `d`, if it has one. -/
theorem recover_relocated (options : Options) (d : Nat) (xs ys : List String)
    (h : List.Forall₂ (Line.ReadsRelocated options.listing.dialect d) xs ys) :
    ExceptRel (ListingError.Relocated d) (Recovery.Relocated d)
      (recover options xs) (recover options ys) := by
  rw [recover, recover]
  have hreconstruct := relocated_reconstruct h
  generalize reconstruct options.listing xs = x at hreconstruct ⊢
  generalize reconstruct options.listing ys = y at hreconstruct ⊢
  cases hreconstruct with
  | ok himage => exact .ok (relocated_ofImage himage options.scan)
  | error he =>
    cases he with
    | empty => exact .ok ⟨.none, NameMap.relocated_empty, rfl⟩
    | decode line text cause => exact .error (.decode line text cause)
    | gapTooLarge ha line gap limit => exact .error (.gapTooLarge ha line gap limit)
    | addressOverflow ha line size => exact .error (.addressOverflow ha line size)
    | imageOverflow ha size => exact .error (.imageOverflow ha size)
    | unreadable reason => exact .error (.unreadable reason)

/-- A header, a name, a line that overlaps it, memory that could not be read, and code. -/
def lowListing : List String :=
  ["main:", "1000: 00044d41", "1004: 494e0000", "1000: ffff", "1010: out of bounds",
    "101b: 4e800020"]

/-- The same at the top of memory: no byte fits behind the last one. -/
def highListing : List String :=
  ["main:", "ffffffffffffffe0: 00044d41", "ffffffffffffffe4: 494e0000", "ffffffffffffffe0: ffff",
    "fffffffffffffff0: out of bounds", "fffffffffffffffb: 4e800020"]

/-- Moved to the top of memory, the name is still found. -/
theorem recover_relocated_lowListing :
    let options : Options := { listing := { dialect := .colonStripped } }
    let d := 0xffffffffffffefe0
    List.Forall₂ (Line.ReadsRelocated options.listing.dialect d) lowListing highListing ∧
      ∃ u v, recover options lowListing = .ok u ∧ recover options highListing = .ok v ∧
        u.names.toList = [(⟨0x1000, by decide⟩, "MAIN")] ∧ u.Relocated d v := by
  intro options d
  have hreads : List.Forall₂ (Line.ReadsRelocated options.listing.dialect d) lowListing
      highListing := by
    decide +kernel
  have hlow : recover options lowListing = .ok
      { image? := some ⟨⟨0x1000, by decide⟩, #[0x00, 0x04, 0x4d, 0x41, 0x49, 0x4e] ++
                  Array.replicate 21 0 ++ #[0x4e, 0x80, 0x00, 0x20], by decide⟩
        names := .ofList [(⟨0x1000, by decide⟩, "MAIN")]
        stats := { candidates := 1, accepted := 1, rejected := 0 } } := by
    decide +kernel
  rcases (recover_relocated options d lowListing highListing hreads).cases with
    ⟨u, v, hu, hv, huv⟩ | ⟨e, f, he, -, -⟩
  · obtain rfl := Except.ok.inj (hlow.symm.trans hu)
    exact ⟨hreads, _, v, hu, hv, by decide +kernel, huv⟩
  · rw [hlow] at he
    cases he

end NameRecovery
