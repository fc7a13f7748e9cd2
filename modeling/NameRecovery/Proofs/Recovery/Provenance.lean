import NameRecovery.Proofs.Listing.Provenance
import NameRecovery.Proofs.Scan.Entries
import NameRecovery.Recovery

/-!
# Where names come from

A block may straddle several lines, and its null bytes may come from a zero fill. Its length byte
and its characters are never zero, so each of them comes from a line that gives it.

## Main results

* `IsBlock.getElem?_lengthByte`, `IsBlock.getElem?_name` : the bytes of a block that are not zero.
* `name_from_listing` : a zero fill never makes a name.
-/

namespace NameRecovery

variable {image : ByteImage}

/-! ### Bytes of a block -/

namespace IsBlock

variable {options : ScanOptions} {b : NameBlock}

/-- The length byte counts the characters of the name, and it is not zero. -/
theorem getElem?_lengthByte (hb : IsBlock options image b) :
    ∃ x, image.bytes[b.start + 1]? = some x ∧ x.toNat = b.name.length ∧ x ≠ 0 := by
  obtain ⟨x, hx, hlength⟩ := Option.map_eq_some_iff.mp hb.lengthByte
  refine ⟨x, hx, by rw [hlength, hb.length_name], ?_⟩
  rintro rfl
  have hpos := hb.length_pos
  rw [← hlength] at hpos
  exact absurd hpos (by decide)

/-- A character of the name is a byte of the block, and it is not zero. -/
theorem getElem?_name (hb : IsBlock options image b) {k : Nat} {c : Char}
    (hc : b.name.toList[k]? = some c) :
    ∃ x, image.bytes[b.start + 2 + k]? = some x ∧ x.toNat = c.toNat ∧ x ≠ 0 := by
  have hmap : ((bytesBetween image (b.start + 2) b.stop).map UInt8.toNat)[k]? = some c.toNat := by
    rw [← hb.name_eq, List.getElem?_map, hc]
    rfl
  rw [List.getElem?_map] at hmap
  obtain ⟨x, hx, hxc⟩ := Option.map_eq_some_iff.mp hmap
  rw [getElem?_bytesBetween hb.stop_le_size] at hx
  split at hx
  · refine ⟨x, hx, hxc, ?_⟩
    rintro rfl
    have hvisible := (hb.visible_name c (List.mem_of_getElem? hc)).1
    rw [← hxc] at hvisible
    exact absurd hvisible (by decide)
  · cases hx

end IsBlock

/-- A recovery that succeeds is the scan of the image, or it has no names. -/
theorem recover_eq_ok_cases {options : Options} {lines : List String} {v : Recovery}
    (h : recover options lines = .ok v) :
    (∃ image, reconstruct options.listing lines = .ok image ∧ v = .ofImage options.scan image) ∨
      v = {} := by
  rw [recover] at h
  cases himage : reconstruct options.listing lines with
  | ok image =>
    rw [himage] at h
    exact Or.inl ⟨image, rfl, (Except.ok.inj h).symm⟩
  | error e =>
    rw [himage] at h
    cases e with
    | empty => exact Or.inr (Except.ok.inj h).symm
    | _ => cases h

/-- Under their own blocks, the entries of a scan are those of the blocks. -/
theorem exists_isBlock_of_mem_scan {options : ScanOptions}
    (hpolicy : options.policy = .blockAddress) {e : Address × String}
    (he : e ∈ (scan options image).toList) :
    ∃ b, IsBlock options image b ∧ e.1.toNat = image.base.toNat + b.start ∧ e.2 = b.name := by
  have hsame : ({ options with policy := .blockAddress } : ScanOptions) = options := by
    rw [← hpolicy]
  have hentries : (scan { options with policy := .blockAddress } image).toList =
      (acceptedBlocks options image).map fun b => (image.addressOf b.start, b.name) :=
    toList_scan_blockAddress
  rw [hsame] at hentries
  rw [hentries] at he
  obtain ⟨b, hb, rfl⟩ := List.mem_map.mp he
  exact ⟨b, mem_acceptedBlocks_iff.mp hb,
    ByteImage.toNat_addressOf (Nat.le_of_lt (start_lt_size_of_mem hb)), rfl⟩

/-- **A zero fill never makes a name.** For every listing, and all options that file names under
their own blocks: the length byte of each name that is recovered comes from a line that is placed,
and so does each of its characters. The line covers the address of the byte and gives it there; no
other line that is placed covers that address. -/
theorem name_from_listing (options : Options) (hpolicy : options.scan.policy = .blockAddress)
    (lines : List String) (v : Recovery) (hv : recover options lines = .ok v) (a : Address)
    (name : String) (hmem : (a, name) ∈ v.names.toList) :
    (∃ x : UInt8, x.toNat = name.length ∧ Supplied options.listing lines (a.toNat + 1) x) ∧
      ∀ k c, name.toList[k]? = some c →
        ∃ x : UInt8, x.toNat = c.toNat ∧ Supplied options.listing lines (a.toNat + 2 + k) x := by
  rcases recover_eq_ok_cases hv with ⟨image, himage, rfl⟩ | rfl
  · obtain ⟨b, hb, ha, rfl⟩ := exists_isBlock_of_mem_scan hpolicy hmem
    rw [ha]
    refine ⟨?_, fun k c hc => ?_⟩
    · obtain ⟨x, hx, hlength, hne⟩ := hb.getElem?_lengthByte
      exact ⟨x, hlength, supplied_of_ne_zero himage hx hne⟩
    · obtain ⟨x, hx, hxc, hne⟩ := hb.getElem?_name hc
      have hsupplied := supplied_of_ne_zero himage hx hne
      rw [← Nat.add_assoc, ← Nat.add_assoc] at hsupplied
      exact ⟨x, hxc, hsupplied⟩
  · cases hmem

/-- A name over two lines, a line that overlaps the first one, and code behind a gap. -/
def splitListing : List String :=
  ["00001000: 00044d41", "00001002: ffff", "00001004: 494e", "0000100c: 4e800020"]

/-- The name is read over the overlap and ends in the zero fill, which gives none of its bytes. -/
theorem name_from_splitListing :
    let options : Options := { scan := { policy := .blockAddress } }
    ∃ v, recover options splitListing = .ok v ∧ v.names.toList = [(⟨0x1000, by decide⟩, "MAIN")] ∧
      (∃ x : UInt8, x.toNat = 4 ∧ Supplied options.listing splitListing 0x1001 x) ∧
      ∃ x : UInt8, x.toNat = 'N'.toNat ∧ Supplied options.listing splitListing 0x1005 x := by
  intro options
  have hv : recover options splitListing = .ok
      { image? := some ⟨⟨0x1000, by decide⟩, #[0x00, 0x04, 0x4d, 0x41, 0x49, 0x4e, 0x00, 0x00,
                  0x00, 0x00, 0x00, 0x00, 0x4e, 0x80, 0x00, 0x20], by decide⟩
        names := .ofList [(⟨0x1000, by decide⟩, "MAIN")]
        stats := { candidates := 1, accepted := 1, rejected := 0 } } := by
    decide +kernel
  obtain ⟨hlength, hcharacters⟩ := name_from_listing options rfl splitListing _ hv
    ⟨0x1000, by decide⟩ "MAIN" (by decide +kernel)
  exact ⟨_, hv, by decide +kernel, hlength, hcharacters 3 'N' (by decide +kernel)⟩

end NameRecovery
