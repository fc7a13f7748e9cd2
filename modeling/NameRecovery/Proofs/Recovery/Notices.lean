import NameRecovery.Proofs.Listing.Counters
import NameRecovery.Recovery

/-!
# What a recovery reports

Reports are made beside a run and never influence it. If no line fails, then what is reported while
the lines are read is what they report when they are pushed to the end. A recovery that succeeds says
last how many names it found, or that there was nothing to scan; one that fails reports nothing behind
its lines.

## Main definitions

* `Recovery.closing` : what a recovery says last.

## Main results

* `Reconstruction.feedReporting_eq_of_feed` : what is reported while lines are read.
* `recoverNotices_eq`, `ByteSource.recoverNotices_eq` : the reports of a recovery, in terms of the run
  that they describe.
* `recoverNotices_exact`, `ByteSource.recoverNotices_exact` : what is reported last.
-/

namespace NameRecovery

variable {lines : List String}

/-! ### Lines -/

/-- **What is reported while lines are read** is what they report when they are pushed to the end, if
none of them fails. -/
theorem Reconstruction.feedReporting_eq_of_feed {options : ListingOptions} {r s : Reconstruction}
    (h : r.feed options lines = .ok s) (reported : Array Notice) :
    r.feedReporting options reported lines = (reported ++ r.notices options lines, .ok s) := by
  induction lines generalizing r reported with
  | nil =>
    obtain rfl : r = s := Except.ok.inj h
    simp [feedReporting, notices]
  | cons line rest ih =>
    rw [feed] at h
    rw [feedReporting]
    split at h
    · next r' p hpush =>
      have hassoc (now later : List Notice) : reported ++ now ++ later = reported ++ (now ++ later) :=
        Array.ext' (by simp)
      simp only [hpush, ih h, notices, hassoc]
    · cases h

/-! ### Scans -/

namespace Recovery

variable {options : ScanOptions} {listing : Except ListingError ByteImage} {r : Recovery}

/-- What a recovery says last. -/
def closing (r : Recovery) : Notice :=
  ⟨.info, .program,
    if r.image?.isSome then s!"Recovered {r.names.size} names"
    else "Listing has no addressable lines, nothing to scan"⟩

/-- A recovery says last what it found, whatever was reported before. -/
theorem getLast?_listingNotices (h : ofListing options listing = .ok r) (before : List Notice) :
    (before ++ listingNotices options listing).getLast? = some r.closing := by
  cases listing with
  | ok image =>
    cases h
    simp [listingNotices, closing, ofImage]
  | error e =>
    cases e with
    | empty =>
      cases h
      simp [listingNotices, closing]
    | _ => cases h

/-- A listing that cannot be scanned is not reported on. -/
theorem listingNotices_of_error {e : ListingError} (h : ofListing options listing = .error e) :
    listingNotices options listing = [] := by
  cases listing with
  | ok image => cases h
  | error e =>
    cases e with
    | empty => cases h
    | _ => rfl

end Recovery

/-! ### Recoveries -/

/-- The reports of a recovery: first on the lines, then on the scan of their image. -/
theorem recoverNotices_eq (options : Options) (lines : List String) :
    recoverNotices options lines = (reconstructReporting options.listing lines).1 ++
      Recovery.listingNotices options.scan (reconstruct options.listing lines) := by
  rw [← reconstructReporting_snd]
  rfl

/-- The reports of a recovery of a source: first on its lines, then on the scan of their image. -/
theorem ByteSource.recoverNotices_eq (options : Options) (source : ByteSource) :
    source.recoverNotices options = (source.reconstructReporting options.listing).1 ++
      Recovery.listingNotices options.scan (source.reconstruct options.listing) := by
  rw [← reconstructReporting_snd]
  rfl

/-- **What a recovery reports.** Lines that do not fail report what they report when they are pushed to
the end, and then what they amount to. A recovery that succeeds says last what it found, and one that
fails reports nothing behind its lines. -/
theorem recoverNotices_exact (options : Options) (lines : List String) :
    (∀ s, Reconstruction.feed options.listing {} lines = .ok s →
      recoverNotices options lines = Reconstruction.notices options.listing {} lines ++
        s.finishNotice?.toList ++ Recovery.listingNotices options.scan s.finish) ∧
    (∀ r, recover options lines = .ok r →
      (recoverNotices options lines).getLast? = some r.closing) ∧
    (∀ e, recover options lines = .error e →
      recoverNotices options lines = (reconstructReporting options.listing lines).1) := by
  rw [recoverNotices_eq]
  refine ⟨fun s hfeed => ?_, fun r h => Recovery.getLast?_listingNotices h _, fun e h => ?_⟩
  · rw [reconstructReporting, reconstruct, Reconstruction.feedReporting_eq_of_feed hfeed, hfeed]
    simp
  · rw [Recovery.listingNotices_of_error h, List.append_nil]

/-- A source that ends is reported on like its lines. -/
theorem ByteSource.recoverNotices_of_end {source : ByteSource} (options : Options)
    (h : source.failure = none) :
    source.recoverNotices options = NameRecovery.recoverNotices options source.lines := by
  have hreport : source.reconstructReporting options.listing =
      NameRecovery.reconstructReporting options.listing source.lines := by
    rw [reconstructReporting, NameRecovery.reconstructReporting]
    split
    · next heq => rw [heq]
    · next heq => rw [heq, h]
  rw [recoverNotices, NameRecovery.recoverNotices, hreport]

/-- **What a recovery of a source reports**: the same as that of its lines, if the source does not
fail. -/
theorem ByteSource.recoverNotices_exact (options : Options) (source : ByteSource) :
    (source.failure = none →
      source.recoverNotices options = NameRecovery.recoverNotices options source.lines) ∧
    (∀ r, source.recover options = .ok r →
      (source.recoverNotices options).getLast? = some r.closing) ∧
    (∀ e, source.recover options = .error e →
      source.recoverNotices options = (source.reconstructReporting options.listing).1) := by
  refine ⟨recoverNotices_of_end options, fun r h => ?_, fun e h => ?_⟩
  · rw [recoverNotices_eq]
    exact Recovery.getLast?_listingNotices h _
  · rw [recoverNotices_eq, Recovery.listingNotices_of_error h, List.append_nil]

end NameRecovery
