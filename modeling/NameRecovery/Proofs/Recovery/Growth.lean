import NameRecovery.Proofs.Listing.Growth
import NameRecovery.Proofs.Scan.Growth
import NameRecovery.Recovery

/-!
# Recoveries of listings that grow

A recovery fails exactly when a line of its listing fails, so an error stays as it is when further
lines come. Without an error, further lines append bytes to the image, and the names of the
shorter listing stay.

## Main results

* `recover_eq_error_iff` : when a recovery fails.
* `recover_cases_of_feed` : what a recovery gives otherwise.
* `recover_append` : what a recovery of the first lines says about the recovery of all lines.
-/

namespace NameRecovery

open Reconstruction

variable {options : Options} {lines xs ys : List String} {e : ListingError}

/-- What a recovery gives when no line fails: the scan of the image, or nothing for lack of an
address. -/
theorem recover_cases_of_feed {r : Reconstruction}
    (h : Reconstruction.feed options.listing {} lines = .ok r) :
    (∃ image, r.base = some image.base ∧ r.bytes = image.bytes ∧
      recover options lines = .ok (.ofImage options.scan image)) ∨
      r.base = none ∧ recover options lines = .ok {} := by
  have hreconstruct : reconstruct options.listing lines = r.finish := by rw [reconstruct, h]
  cases hbase : r.base with
  | none =>
    refine Or.inr ⟨rfl, ?_⟩
    rw [recover, hreconstruct, finish_of_base_eq_none hbase]
    rfl
  | some base =>
    have hsound := sound_empty.feed h
    refine Or.inl ⟨⟨base, r.bytes, hsound.stop_lt base hbase⟩, rfl, rfl, ?_⟩
    rw [recover, hreconstruct, hsound.finish_of_base hbase]
    rfl

/-- **A recovery fails exactly when a line fails**, and with its error. -/
theorem recover_eq_error_iff :
    recover options lines = .error e ↔ Reconstruction.feed options.listing {} lines = .error e := by
  cases hfeed : Reconstruction.feed options.listing {} lines with
  | ok r =>
    rcases recover_cases_of_feed hfeed with ⟨image, -, -, hrecover⟩ | ⟨-, hrecover⟩
    · simp [hrecover]
    · simp [hrecover]
  | error f =>
    have hne : f ≠ .empty := by
      rintro rfl
      exact feed_ne_empty hfeed
    have hrecover : recover options lines = .error f := by
      rw [recover, reconstruct, hfeed]
      exact Recovery.ofListing_error _ hne
    rw [hrecover, Except.error.injEq, Except.error.injEq]

/-- A recovery succeeds exactly when no line fails. -/
theorem exists_feed_of_recover_eq_ok {v : Recovery} (h : recover options lines = .ok v) :
    ∃ r, Reconstruction.feed options.listing {} lines = .ok r := by
  cases hfeed : Reconstruction.feed options.listing {} lines with
  | ok r => exact ⟨r, rfl⟩
  | error e =>
    rw [recover_eq_error_iff.mpr hfeed] at h
    cases h

/-- Once a line has an address, both recoveries have an image, and the second one extends the
first. -/
theorem exists_extends_of_feed {r s : Reconstruction} {base : Address}
    (hxs : Reconstruction.feed options.listing {} xs = .ok r)
    (hys : r.feed options.listing ys = .ok s) (hbase : r.base = some base) :
    ∃ image image', recover options xs = .ok (.ofImage options.scan image) ∧
      recover options (xs ++ ys) = .ok (.ofImage options.scan image') ∧
      image.Extends image' := by
  have hextends := Extends.feed hys
  have hbase' := hextends.base_eq base hbase
  have hall := feed_append_eq_ok_iff.mpr ⟨r, hxs, hys⟩
  rcases recover_cases_of_feed hxs with ⟨image, himage, hbytes, hu⟩ | ⟨hnone, -⟩
  · rcases recover_cases_of_feed hall with ⟨image', himage', hbytes', hv⟩ | ⟨hnone, -⟩
    · have hsame : image.base = image'.base := by
        rw [himage, Option.some.injEq] at hbase
        rw [himage', Option.some.injEq] at hbase'
        rw [hbase, hbase']
      exact ⟨image, image', hu, hv, hsame, hbytes ▸ hbytes' ▸ hextends.prefix_bytes⟩
    · rw [hbase'] at hnone
      cases hnone
  · rw [hbase] at hnone
    cases hnone

/-- Without a base no line has an address. -/
theorem addresses_eq_nil_of_feed {r : Reconstruction}
    (h : Reconstruction.feed options.listing {} lines = .ok r) (hbase : r.base = none) :
    addresses options.listing.dialect lines = [] := by
  have hhead := (holds_empty.feed h).base_eq
  rw [hbase, List.nil_append] at hhead
  exact List.head?_eq_none_iff.mp hhead.symm

/-- **A recovery is stable when the listing grows.** For all options and all lines, if the recovery
of the first lines fails, then that of all lines fails with the same error; the error names the
position of the first line that fails, counting every line. If the recovery of all lines succeeds,
then so does that of the first lines; if one of these has an address, both have an image, with the
same base, and the bytes of the first image begin the second one. Unless names are filed under
markers, the addresses with their names begin those of the second recovery; under markers the
keys do so, and so do the addresses with their names without the last one. -/
theorem recover_append (options : Options) (xs ys : List String) :
    (∀ e, recover options xs = .error e →
      recover options (xs ++ ys) = .error e ∧
      ∃ pre line post r, xs = pre ++ line :: post ∧
        Reconstruction.feed options.listing {} pre = .ok r ∧
        (r.push options.listing line).2 = .error e ∧ e.line? = some (pre.length + 1)) ∧
    (∀ v, recover options (xs ++ ys) = .ok v →
      ∃ u, recover options xs = .ok u ∧
        (addresses options.listing.dialect xs ≠ [] →
          ∃ image image', u.image? = some image ∧ v.image? = some image' ∧
            image.base = image'.base ∧ image.bytes.toList <+: image'.bytes.toList) ∧
        (options.scan.policy.IsForward → u.names.toList <+: v.names.toList) ∧
        (∀ word, options.scan.policy = .marker word →
          u.names.keys <+: v.names.keys ∧ u.names.toList.dropLast <+: v.names.toList)) := by
  refine ⟨fun e he => ?_, fun v hv => ?_⟩
  · rw [recover_eq_error_iff] at he ⊢
    refine ⟨by rw [feed_append, he], ?_⟩
    obtain ⟨pre, line, post, r, hsplit, hpre, hfails⟩ := feed_eq_error_iff.mp he
    refine ⟨pre, line, post, r, hsplit, hpre, hfails, ?_⟩
    rw [line?_of_push_eq_error hfails, lineNo_feed hpre]
    exact congrArg (fun n => some (n + 1)) (Nat.zero_add _)
  · obtain ⟨s, hall⟩ := exists_feed_of_recover_eq_ok hv
    obtain ⟨r, hxs, hys⟩ := feed_append_eq_ok_iff.mp hall
    cases hbase : r.base with
    | some base =>
      obtain ⟨image, image', hu, hv', himage⟩ := exists_extends_of_feed hxs hys hbase
      obtain rfl := Except.ok.inj (hv'.symm.trans hv)
      exact ⟨_, hu, fun _ => ⟨image, image', rfl, rfl, himage.base_eq, himage.prefix_bytes⟩,
        fun hpolicy => prefix_toList_scan hpolicy himage,
        fun _ _ => ⟨prefix_keys_scan _ himage, prefix_dropLast_toList_scan _ himage⟩⟩
    | none =>
      have hu : recover options xs = .ok {} := by
        rcases recover_cases_of_feed hxs with ⟨image, hsome, -⟩ | ⟨-, hu⟩
        · rw [hbase] at hsome
          cases hsome
        · exact hu
      exact ⟨_, hu, fun hne => absurd (addresses_eq_nil_of_feed hxs hbase) hne,
        fun _ => List.nil_prefix, fun _ _ => ⟨List.nil_prefix, List.nil_prefix⟩⟩

/-- A marker, a name, an instruction, and the beginning of a second name. -/
def begunListing : List String :=
  ["00001000: 4ffffb82", "00001004: 00044d41 494e0000", "0000100c: 7c0802a6", "00001010: 00054d59"]

/-- The image of `begunListing`. -/
def begunImage : ByteImage :=
  ⟨twoNames.base, twoNames.bytes.take 20, by decide⟩

/-- The rest of the second name, and an instruction. -/
def begunListingRest : List String :=
  ["00001014: 46554e00", "00001018: 4e800020"]

/-- The second name appears only once it is complete. Filed under markers it replaces the first
one, which is under the last key. A line that fails fails in the same way before further lines. -/
theorem recover_begunListing :
    let marker : Options := { scan := { policy := .marker Policy.defaultMarker } }
    (∃ u v, recover {} begunListing = .ok u ∧
      recover {} (begunListing ++ begunListingRest) = .ok v ∧
      u.names.toList = [(twoNames.addressOf 4, "MAIN")] ∧ u.names.toList <+: v.names.toList) ∧
    (∃ u v, recover marker begunListing = .ok u ∧
      recover marker (begunListing ++ begunListingRest) = .ok v ∧
      v.names.toList = [(twoNames.base, "MYFUN")] ∧ u.names.keys <+: v.names.keys) ∧
    recover {} (["entry:", "00001000: 123"] ++ begunListing) =
      .error (.decode 2 "123" .oddLength) := by
  intro marker
  have hall (options : Options) (hlisting : options.listing = {}) :
      recover options (begunListing ++ begunListingRest) =
        .ok (.ofImage options.scan twoNames) := by
    have himage : reconstruct {} (begunListing ++ begunListingRest) = .ok twoNames := by rfl
    rw [recover, hlisting, himage]
    rfl
  have hbegun : recover {} begunListing = .ok (.ofImage {} begunImage) := by
    have himage : reconstruct {} begunListing = .ok begunImage := by rfl
    exact congrArg (Recovery.ofListing {}) himage
  have hfails : recover {} ["entry:", "00001000: 123"] = .error (.decode 2 "123" .oddLength) := by
    rfl
  obtain ⟨u, hu, -, hforward, -⟩ := (recover_append {} _ _).2 _ (hall {} rfl)
  obtain rfl := Except.ok.inj (hu.symm.trans hbegun)
  obtain ⟨u', hu', -, -, hmarker⟩ := (recover_append marker _ _).2 _ (hall marker rfl)
  exact ⟨⟨_, _, hu, hall {} rfl, by decide +kernel, hforward trivial⟩,
    ⟨u', _, hu', hall marker rfl, by decide +kernel, (hmarker _ rfl).1⟩,
    ((recover_append {} _ begunListing).1 _ hfails).1⟩

end NameRecovery
