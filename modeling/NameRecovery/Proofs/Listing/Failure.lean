import NameRecovery.Proofs.Listing.Growth
import NameRecovery.Proofs.Text.Blank
import NameRecovery.Recovery

/-!
# Sources that fail

A source may be read one line at a time: up to the next newline, or to the end of the bytes, where
it ends or fails. Each line is pushed as soon as it is read, and the first error ends the reading.
This file describes that loop, and proves that it gives what the source gives when its bytes are
cut into lines first. So a source that fails is told from one that ends: every line that ends with
a newline is read and pushed, and then the failure is met, whatever bytes are left.

## Main definitions

* `ByteSource.readLine` : the next line of a source, and what is left.
* `Reconstruction.stream` : lines pushed as they are read.
* `ByteSource.Terminated` : bytes as lines that end with a newline, and some bytes without one.

## Main results

* `ByteSource.reconstruct_eq_stream` : reading one line at a time gives the image of the source.
* `ByteSource.exists_terminated`, `ByteSource.Terminated.cut_eq` : bytes are made up of lines in
  one way.
* `ByteSource.failure_exact` : what a source that fails gives.
-/

namespace NameRecovery

namespace ByteSource

variable {bytes line tail : List UInt8} {ended : List (List UInt8)} {failure : Option String}

/-! ### Reading one line -/

/-- The next line of a source, with its newline if there is one, and what is left. A source that
fails does so when it is read to its end. -/
def readLine (source : ByteSource) : Except String (List UInt8 × ByteSource) :=
  let line := source.bytes.takeWhile (· != newline)
  match source.bytes.dropWhile (· != newline), source.failure with
  | b :: rest, _ => .ok (line ++ [b], { source with bytes := rest })
  | [], some reason => .error reason
  | [], none => .ok (line, { source with bytes := [] })

/-- The text of a line, without the newline and the carriage returns at its end. -/
def readText (line : List UInt8) : String :=
  String.ofList (Utf8.decodeLossy (line.rdropWhile fun b => b == newline || b == carriageReturn))

/-- Nothing is lost between lines. -/
theorem append_of_readLine {source rest : ByteSource} (h : source.readLine = .ok (line, rest)) :
    line ++ rest.bytes = source.bytes := by
  simp only [readLine] at h
  split at h
  · next hdrop =>
    obtain ⟨rfl, rfl⟩ := Prod.mk.inj (Except.ok.inj h)
    rw [List.append_assoc, List.singleton_append, ← hdrop, List.takeWhile_append_dropWhile]
  · cases h
  · next hdrop _ =>
    obtain ⟨rfl, rfl⟩ := Prod.mk.inj (Except.ok.inj h)
    rw [← hdrop, List.takeWhile_append_dropWhile]

theorem length_lt_of_readLine {source : ByteSource} {next : List UInt8 × ByteSource}
    (h : source.readLine = .ok next) (hne : next.1 ≠ []) :
    next.2.bytes.length < source.bytes.length := by
  have hpos := List.length_pos_of_ne_nil hne
  rw [← append_of_readLine h, List.length_append]
  omega

theorem bne_newline_of_not_mem (h : newline ∉ line) : ∀ b ∈ line, (b != newline) = true :=
  fun _ hb => bne_iff_ne.mpr (ne_of_mem_of_not_mem hb h)

/-- A line is read up to its newline. -/
theorem readLine_append_cons (hline : newline ∉ line) (rest : List UInt8) :
    readLine ⟨line ++ newline :: rest, failure⟩ = .ok (line ++ [newline], ⟨rest, failure⟩) := by
  have hpos := bne_newline_of_not_mem hline
  have htake : (line ++ newline :: rest).takeWhile (· != newline) = line := by
    rw [List.takeWhile_append_of_pos hpos, List.takeWhile_cons_of_neg (by decide),
      List.append_nil]
  have hdrop : (line ++ newline :: rest).dropWhile (· != newline) = newline :: rest := by
    rw [List.dropWhile_append_of_pos hpos, List.dropWhile_cons_of_neg (by decide)]
  simp only [readLine, htake, hdrop]

/-- Without a newline a source is read to its end. -/
theorem readLine_of_not_mem (htail : newline ∉ tail) :
    readLine ⟨tail, failure⟩ =
      match failure with
      | some reason => .error reason
      | none => .ok (tail, ⟨[], none⟩) := by
  have hpos := bne_newline_of_not_mem htail
  have htake : tail.takeWhile (· != newline) = tail := List.takeWhile_eq_self_iff.mpr hpos
  have hdrop : tail.dropWhile (· != newline) = [] := List.dropWhile_eq_nil_iff.mpr hpos
  simp only [readLine, htake, hdrop]
  cases failure <;> rfl

/-- Tests that agree on a list drop the same beginning. -/
theorem dropWhile_congr {α : Type} {p q : α → Bool} {xs : List α} (h : ∀ x ∈ xs, p x = q x) :
    xs.dropWhile p = xs.dropWhile q := by
  induction xs with
  | nil => rfl
  | cons x rest ih =>
    obtain ⟨hx, hrest⟩ := List.forall_mem_cons.mp h
    rw [List.dropWhile_cons, List.dropWhile_cons, hx, ih hrest]

/-- In front of the newline only carriage returns are dropped. -/
theorem readText_of_not_mem (hline : newline ∉ line) : readText line = lineText line := by
  have hdrop : line.reverse.dropWhile (fun b => b == newline || b == carriageReturn) =
      line.reverse.dropWhile (· == carriageReturn) := by
    refine dropWhile_congr fun b hb => ?_
    have hne : b ≠ newline := ne_of_mem_of_not_mem (List.mem_reverse.mp hb) hline
    rw [beq_eq_false_iff_ne.mpr hne, Bool.false_or]
  rw [readText, lineText, List.rdropWhile, hdrop]

theorem readText_append_newline (hline : newline ∉ line) :
    readText (line ++ [newline]) = lineText line := by
  rw [readText, List.rdropWhile_concat_pos _ _ _ rfl]
  exact readText_of_not_mem hline

end ByteSource

namespace Reconstruction

open ByteSource

variable {options : ListingOptions} {r s : Reconstruction} {line tail bytes : List UInt8}
  {ended : List (List UInt8)} {failure : Option String}

/-- Goes on after a line that is taken. -/
def andThen (pushed : Reconstruction × Except ListingError Placement)
    (next : Reconstruction → Except ListingError Reconstruction) :
    Except ListingError Reconstruction :=
  match pushed with
  | (s, .ok _) => next s
  | (_, .error e) => .error e

theorem feed_cons (line : String) (rest : List String) :
    r.feed options (line :: rest) = andThen (r.push options line) (·.feed options rest) :=
  rfl

/-- Pushes the lines of a source as they are read, up to the first error. -/
def stream (options : ListingOptions) (r : Reconstruction) (source : ByteSource) :
    Except ListingError Reconstruction :=
  match _hread : source.readLine with
  | .error reason => .error (.unreadable reason)
  | .ok next =>
    if _hend : next.1 = [] then .ok r
    else andThen (r.push options (readText next.1)) (·.stream options next.2)
termination_by source.bytes.length
decreasing_by exact length_lt_of_readLine _hread _hend

theorem stream_of_readLine_error {source : ByteSource} {reason : String}
    (h : source.readLine = .error reason) :
    r.stream options source = .error (.unreadable reason) := by
  rw [stream]
  split
  · next hread => rw [Except.error.inj (hread.symm.trans h)]
  · next hread => cases hread.symm.trans h

theorem stream_of_readLine_ok {source rest : ByteSource} (h : source.readLine = .ok (line, rest)) :
    r.stream options source =
      if line = [] then .ok r
      else andThen (r.push options (readText line)) (·.stream options rest) := by
  rw [stream]
  split
  · next hread => cases hread.symm.trans h
  · next hread =>
    obtain rfl := Except.ok.inj (hread.symm.trans h)
    rfl

/-- A line that ends with a newline is pushed as it is read. -/
theorem stream_append_cons (hline : newline ∉ line) (rest : List UInt8) :
    r.stream options ⟨line ++ newline :: rest, failure⟩ =
      andThen (r.push options (lineText line)) (·.stream options ⟨rest, failure⟩) := by
  rw [stream_of_readLine_ok (readLine_append_cons hline rest),
    if_neg (List.append_ne_nil_of_right_ne_nil _ (List.cons_ne_nil _ _)),
    readText_append_newline hline]

/-- Behind the last newline a source ends, with one more line if some bytes are left. -/
theorem stream_of_not_mem (htail : newline ∉ tail) :
    r.stream options ⟨tail, none⟩ =
      r.feed options (if tail.isEmpty then [] else [lineText tail]) := by
  have hread : r.stream options ⟨tail, none⟩ = if tail = [] then .ok r
      else andThen (r.push options (readText tail)) (·.stream options ⟨[], none⟩) :=
    stream_of_readLine_ok (readLine_of_not_mem htail)
  have hend (s : Reconstruction) : s.stream options ⟨[], none⟩ = .ok s :=
    (stream_of_readLine_ok (readLine_of_not_mem List.not_mem_nil)).trans (if_pos rfl)
  rw [hread, readText_of_not_mem htail]
  simp only [hend]
  cases tail with
  | nil => rfl
  | cons b back =>
    rw [if_neg (List.cons_ne_nil _ _), List.isEmpty_cons, if_neg Bool.false_ne_true, feed_cons]
    rfl

/-- Behind the last newline a source fails, whatever bytes are left. -/
theorem stream_of_failure (htail : newline ∉ tail) (reason : String) :
    r.stream options ⟨tail, some reason⟩ = .error (.unreadable reason) :=
  stream_of_readLine_error (readLine_of_not_mem htail)

end Reconstruction

/-! ### All lines -/

namespace ByteSource

variable {bytes line rest tail : List UInt8} {ended : List (List UInt8)}

/-- Bytes that are made up of lines which end with a newline, and of some bytes without one. -/
structure Terminated (bytes : List UInt8) (ended : List (List UInt8)) (tail : List UInt8) :
    Prop where
  bytes_eq : bytes = ended.flatMap (· ++ [newline]) ++ tail
  newline_not_mem : ∀ line ∈ ended, newline ∉ line
  newline_not_mem_tail : newline ∉ tail

/-- The bytes are cut at the first newline, and the rest is cut in the same way. -/
theorem cut_append_cons (hline : newline ∉ line) :
    cut (line ++ newline :: rest) = (line :: (cut rest).1, (cut rest).2) := by
  have hpieces := Text.pieces_ne_nil (· == newline) rest
  have hnot : ∀ b ∈ line, (b == newline) = false := fun b hb =>
    beq_eq_false_iff_ne.mpr (ne_of_mem_of_not_mem hb hline)
  obtain ⟨front, last, hparts⟩ := (List.eq_nil_or_concat' _).resolve_left hpieces
  have hall : Text.pieces (· == newline) (line ++ newline :: rest) = (line :: front) ++ [last] := by
    rw [Text.pieces_append_cons hnot (beq_self_eq_true newline), hparts, List.cons_append]
  simp only [cut, hall, hparts, List.dropLast_concat, List.getLastD_concat]

theorem cut_of_not_mem (htail : newline ∉ tail) : cut tail = ([], tail) := by
  have hnot : ∀ b ∈ tail, (b == newline) = false := fun b hb =>
    beq_eq_false_iff_ne.mpr (ne_of_mem_of_not_mem hb htail)
  rw [cut, Text.pieces_of_forall hnot]
  rfl

/-- All bytes are made up of lines that end with a newline, and of some bytes without one. -/
theorem exists_terminated (bytes : List UInt8) : ∃ ended tail, Terminated bytes ended tail := by
  induction bytes with
  | nil => exact ⟨[], [], rfl, fun _ h => absurd h List.not_mem_nil, List.not_mem_nil⟩
  | cons b rest ih =>
    obtain ⟨ended, tail, rfl, hended, htail⟩ := ih
    by_cases hb : b = newline
    · subst hb
      exact ⟨[] :: ended, tail, rfl, List.forall_mem_cons.mpr ⟨List.not_mem_nil, hended⟩, htail⟩
    · have hcons {part : List UInt8} (hpart : newline ∉ part) : newline ∉ b :: part :=
        List.not_mem_cons_of_ne_of_not_mem (Ne.symm hb) hpart
      cases ended with
      | nil => exact ⟨[], b :: tail, rfl, hended, hcons htail⟩
      | cons line more =>
        obtain ⟨hline, hmore⟩ := List.forall_mem_cons.mp hended
        exact ⟨(b :: line) :: more, tail, rfl, List.forall_mem_cons.mpr ⟨hcons hline, hmore⟩, htail⟩

namespace Terminated

theorem exists_of_cons (h : Terminated bytes (line :: ended) tail) :
    newline ∉ line ∧ ∃ rest, bytes = line ++ newline :: rest ∧ Terminated rest ended tail := by
  obtain ⟨hline, hended⟩ := List.forall_mem_cons.mp h.newline_not_mem
  refine ⟨hline, _, ?_, rfl, hended, h.newline_not_mem_tail⟩
  rw [h.bytes_eq, List.flatMap_cons]
  simp

/-- **Bytes are made up of lines in one way**, and this is how a source cuts them. -/
theorem cut_eq (h : Terminated bytes ended tail) : cut bytes = (ended, tail) := by
  induction ended generalizing bytes with
  | nil =>
    obtain rfl : bytes = tail := h.bytes_eq
    exact cut_of_not_mem h.newline_not_mem_tail
  | cons line more ih =>
    obtain ⟨hline, rest, rfl, hrest⟩ := h.exists_of_cons
    rw [cut_append_cons hline, ih hrest]

/-- Behind the bytes up to the last newline there may be others. -/
theorem with_tail (h : Terminated bytes ended tail) {tail' : List UInt8}
    (htail : newline ∉ tail') :
    Terminated (ended.flatMap (· ++ [newline]) ++ tail') ended tail' :=
  ⟨rfl, h.newline_not_mem, htail⟩

/-- The lines of a source that fails. -/
theorem lines_of_failure (h : Terminated bytes ended tail) (reason : String) :
    lines ⟨bytes, some reason⟩ = ended.map lineText := by
  simp [lines, h.cut_eq]

/-- The lines of a source that ends. -/
theorem lines_of_end (h : Terminated bytes ended tail) :
    lines ⟨bytes, none⟩ =
      ended.map lineText ++ if tail.isEmpty then [] else [lineText tail] := by
  simp only [lines, h.cut_eq, Option.isSome_none, Bool.false_or, List.map_append]
  split <;> rfl

/-- **Lines that end with a newline are pushed first**, and then what is left is read. -/
theorem stream_eq (h : Terminated bytes ended tail) (options : ListingOptions)
    (r : Reconstruction) (failure : Option String) :
    r.stream options ⟨bytes, failure⟩ =
      match r.feed options (ended.map lineText) with
      | .ok s => s.stream options ⟨tail, failure⟩
      | .error e => .error e := by
  induction ended generalizing bytes r with
  | nil =>
    obtain rfl : bytes = tail := h.bytes_eq
    rfl
  | cons line more ih =>
    obtain ⟨hline, rest, rfl, hrest⟩ := h.exists_of_cons
    rw [Reconstruction.stream_append_cons hline, List.map_cons, Reconstruction.feed_cons]
    obtain ⟨s, result⟩ := r.push options (lineText line)
    cases result with
    | ok p => exact ih hrest s
    | error e => rfl

end Terminated

/-- **Reading one line at a time gives the image of the source.** -/
theorem reconstruct_eq_stream (options : ListingOptions) (source : ByteSource) :
    source.reconstruct options =
      match Reconstruction.stream options {} source with
      | .ok r => r.finish
      | .error e => .error e := by
  obtain ⟨bytes, failure⟩ := source
  obtain ⟨ended, tail, h⟩ := exists_terminated bytes
  rw [reconstruct, h.stream_eq]
  cases failure with
  | some reason =>
    rw [h.lines_of_failure]
    cases Reconstruction.feed options {} (ended.map lineText) with
    | ok r => simp only [Reconstruction.stream_of_failure h.newline_not_mem_tail]
    | error e => rfl
  | none =>
    rw [h.lines_of_end, Reconstruction.feed_append]
    cases Reconstruction.feed options {} (ended.map lineText) with
    | ok r =>
      simp only [Reconstruction.stream_of_not_mem h.newline_not_mem_tail]
      cases r.feed options (if tail.isEmpty then [] else [lineText tail]) <;> rfl
    | error e => rfl

/-! ### Failure -/

/-- What a source that fails gives: the error of the first line that fails, and otherwise its own
failure. -/
theorem Terminated.reconstruct_of_failure (h : Terminated bytes ended tail)
    (options : ListingOptions) (reason : String) :
    reconstruct options ⟨bytes, some reason⟩ =
      match Reconstruction.feed options {} (ended.map lineText) with
      | .ok _ => .error (.unreadable reason)
      | .error e => .error e := by
  rw [reconstruct, h.lines_of_failure]
  cases Reconstruction.feed options {} (ended.map lineText) <;> rfl

/-- The first line that fails, among lines of bytes. -/
theorem exists_of_feed_eq_error {options : ListingOptions} {e : ListingError}
    (h : Reconstruction.feed options {} (ended.map lineText) = .error e) :
    ∃ pre line post r, ended = pre ++ line :: post ∧
      Reconstruction.feed options {} (pre.map lineText) = .ok r ∧
      (r.push options (lineText line)).2 = .error e ∧ e.line? = some (pre.length + 1) := by
  obtain ⟨texts, text, others, r, hsplit, hpre, hfails⟩ := Reconstruction.feed_eq_error_iff.mp h
  obtain ⟨pre, back, rfl, rfl, hback⟩ := List.map_eq_append_iff.mp hsplit
  obtain ⟨line, post, rfl, rfl, -⟩ := List.map_eq_cons_iff.mp hback
  refine ⟨pre, line, post, r, rfl, hpre, hfails, ?_⟩
  rw [Reconstruction.line?_of_push_eq_error hfails, Reconstruction.lineNo_feed hpre,
    List.length_map]
  exact congrArg (fun n => some (n + 1)) (Nat.zero_add _)

/-- **A failure never passes for a result.** For all options, all bytes and every reason, let a
source deliver the bytes and then fail for that reason. The bytes are made up, in one way, of lines
that end with a newline and of some bytes without one. The source gives an error, for its image and
for its names, and also when it is read one line at a time. This is the error of the first line
ended by a newline that fails, which names the position of that line, if there is such a line; and
otherwise it is the failure of the source. It is never the error that no line has an address, which
would pass for an empty result, and the bytes behind the last newline do not matter. -/
theorem failure_exact (options : Options) (bytes : List UInt8) (reason : String) :
    let source : ByteSource := ⟨bytes, some reason⟩
    ∃ ended tail, Terminated bytes ended tail ∧
      (∀ ended' tail', Terminated bytes ended' tail' → ended' = ended ∧ tail' = tail) ∧
      (∃ e, source.reconstruct options.listing = .error e ∧ source.recover options = .error e ∧
        Reconstruction.stream options.listing {} source = .error e ∧ e ≠ .empty ∧
        ((∃ pre line post r, ended = pre ++ line :: post ∧
            Reconstruction.feed options.listing {} (pre.map lineText) = .ok r ∧
            (r.push options.listing (lineText line)).2 = .error e ∧
            e.line? = some (pre.length + 1)) ∨
          (∃ r, Reconstruction.feed options.listing {} (ended.map lineText) = .ok r) ∧
            e = .unreadable reason)) ∧
      (∀ tail', newline ∉ tail' →
        let other : ByteSource := ⟨ended.flatMap (· ++ [newline]) ++ tail', some reason⟩
        other.reconstruct options.listing = source.reconstruct options.listing ∧
          other.recover options = source.recover options) := by
  intro source
  obtain ⟨ended, tail, h⟩ := exists_terminated bytes
  have hsource := h.reconstruct_of_failure options.listing reason
  have hstream := h.stream_eq options.listing {} (some reason)
  refine ⟨ended, tail, h, fun ended' tail' h' => Prod.mk.inj (h'.cut_eq.symm.trans h.cut_eq), ?_,
    fun tail' htail => ?_⟩
  · have hrecover {e : ListingError} (he : source.reconstruct options.listing = .error e)
        (hne : e ≠ .empty) : source.recover options = .error e := by
      rw [recover, he, Recovery.ofListing_error _ hne]
    cases hfeed : Reconstruction.feed options.listing {} (ended.map lineText) with
    | ok r =>
      rw [hfeed] at hsource hstream
      have hunread : r.stream options.listing ⟨tail, some reason⟩ = .error (.unreadable reason) :=
        Reconstruction.stream_of_failure h.newline_not_mem_tail reason
      have hne : ListingError.unreadable reason ≠ .empty := by simp
      exact ⟨_, hsource, hrecover hsource hne, hstream.trans hunread, hne, Or.inr ⟨⟨r, rfl⟩, rfl⟩⟩
    | error e =>
      rw [hfeed] at hsource hstream
      have hne : e ≠ .empty := by
        rintro rfl
        exact Reconstruction.feed_ne_empty hfeed
      exact ⟨e, hsource, hrecover hsource hne, hstream, hne, Or.inl (exists_of_feed_eq_error hfeed)⟩
  · have hsame : ByteSource.reconstruct options.listing
        ⟨ended.flatMap (· ++ [newline]) ++ tail', some reason⟩ =
        source.reconstruct options.listing :=
      ((h.with_tail htail).reconstruct_of_failure options.listing reason).trans hsource.symm
    exact ⟨hsame, congrArg (Recovery.ofListing options.scan) hsame⟩

end ByteSource

end NameRecovery
