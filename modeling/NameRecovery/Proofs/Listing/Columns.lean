import NameRecovery.Proofs.Listing.Meaning
import NameRecovery.Proofs.Text.Blank

/-!
# The columns of a line

A line counts if it reads as an address column, a colon, blanks, and a code column. The address
column may hold colons, blanks may be of any kind, and the code column may hold blanks and tabs, so
at first sight a line may be read in several ways. This file states the grammar of lines without the
reader, and proves that a line has at most one pair of columns, and that the reader finds it. It is
also the pair that a greedy match of the pattern finds, which takes the longest address column and
then as many blanks as it can: the line is trimmed, so some character behind the blanks is left for
the code.

## Main definitions

* `Line.Reading` : the ways to match a line, with a code that may begin with blanks.
* `Line.GreedyReading` : the match with the longest field and then the most blanks.
* `Line.Columns` : the grammar of lines.
* `Line.ReachesDecoding` : the lines whose code column is decoded.

## Main results

* `Line.Columns.unique` : a line has at most one pair of columns.
* `Line.split?_eq_some_iff` : the reader accepts exactly the grammar.
* `Line.greedyReading_iff_columns` : a greedy match finds the columns.
* `Line.grammar_exact` : what a line means, for every line.
-/

namespace NameRecovery.Line

variable {line field gap code field' gap' code' : List Char}

/-! ### The grammar -/

/-- A way to match a line: a field without blanks, a colon, some blanks, and some code on one line.
The code may begin with blanks. -/
structure Reading (line field gap code : List Char) : Prop where
  line_eq : line = field ++ ':' :: (gap ++ code)
  isWord_field : Text.IsWord field
  gap_ne_nil : gap ≠ []
  gap_blank : ∀ x ∈ gap, Text.isBlank x = true
  code_ne_nil : code ≠ []
  one_line : '\n' ∉ code

/-- The match with the longest field, and of those the one with the most blanks. -/
structure GreedyReading (line field gap code : List Char) : Prop extends
    Reading line field gap code where
  longest : ∀ field' gap' code', Reading line field' gap' code' →
    field'.length < field.length ∨ field' = field ∧ gap'.length ≤ gap.length

/-- **The columns of a line**: a field without blanks, a colon, some blanks, and some code on one
line, which does not begin with a blank. -/
structure Columns (line field gap code : List Char) : Prop extends
    Reading line field gap code where
  code_begins : ∀ x, code.head? = some x → Text.isBlank x = false

namespace Reading

/-- The field and its colon are the first word of the line. -/
theorem takeWhile_eq (h : Reading line field gap code) :
    line.takeWhile (!Text.isBlank ·) = field ++ [':'] := by
  obtain ⟨g, gs, rfl⟩ := List.exists_cons_of_ne_nil h.gap_ne_nil
  have hword : ∀ y ∈ field ++ [':'], (!Text.isBlank y) = true := by
    intro y hy
    rcases List.mem_append.mp hy with hy | hy
    · rw [h.isWord_field.not_blank y hy]
      rfl
    · obtain rfl := List.mem_singleton.mp hy
      rfl
  have hassoc : field ++ ':' :: (g :: gs ++ code) = (field ++ [':']) ++ g :: (gs ++ code) := by simp
  rw [h.line_eq, hassoc, List.takeWhile_append_of_pos hword, List.takeWhile_cons_of_neg,
    List.append_nil]
  rw [h.gap_blank g List.mem_cons_self]
  decide

/-- Behind the first word stand the blanks and the code. -/
theorem dropWhile_eq (h : Reading line field gap code) :
    line.dropWhile (!Text.isBlank ·) = gap ++ code := by
  have hsplit : line.takeWhile (!Text.isBlank ·) ++ line.dropWhile (!Text.isBlank ·) =
      (field ++ [':']) ++ (gap ++ code) := by
    rw [List.takeWhile_append_dropWhile, h.line_eq, List.append_assoc, List.singleton_append]
  rw [h.takeWhile_eq] at hsplit
  exact List.append_cancel_left hsplit

/-- All matches agree on the field. -/
theorem field_eq (h : Reading line field gap code) (h' : Reading line field' gap' code') :
    field = field' :=
  List.append_cancel_right (h.takeWhile_eq.symm.trans h'.takeWhile_eq)

theorem gap_append_code_eq (h : Reading line field gap code)
    (h' : Reading line field' gap' code') : gap ++ code = gap' ++ code' :=
  h.dropWhile_eq.symm.trans h'.dropWhile_eq

/-- A line that does not end with a blank has columns if it can be matched at all: the blanks at the
beginning of the code belong to the gap. -/
theorem exists_columns (h : Reading line field gap code)
    (hline : ∀ x, line.getLast? = some x → Text.isBlank x = false) :
    ∃ gap' code', Columns line field gap' code' := by
  have hsplit : code = code.takeWhile Text.isBlank ++ code.dropWhile Text.isBlank :=
    List.takeWhile_append_dropWhile.symm
  refine ⟨gap ++ code.takeWhile Text.isBlank, code.dropWhile Text.isBlank, ?_⟩
  refine ⟨⟨?_, h.isWord_field, fun hnil => ?_, fun x hx => ?_, fun hnil => ?_, fun hmem => ?_⟩,
    fun x hx => Text.eq_false_of_head?_dropWhile hx⟩
  · rw [List.append_assoc, ← hsplit]
    exact h.line_eq
  · exact h.gap_ne_nil (List.append_eq_nil_iff.mp hnil).1
  · rcases List.mem_append.mp hx with hx | hx
    · exact h.gap_blank x hx
    · exact List.mem_takeWhile_imp hx
  · -- otherwise the last character of the code, and of the line, is a blank
    obtain ⟨front, x, hcode⟩ := (List.eq_nil_or_concat' code).resolve_left h.code_ne_nil
    have hblank : Text.isBlank x = true :=
      List.dropWhile_eq_nil_iff.mp hnil x (hcode ▸ List.mem_append_right _ List.mem_cons_self)
    have hend : line.getLast? = some x := by
      have hassoc : field ++ ':' :: (gap ++ (front ++ [x])) =
          (field ++ ':' :: (gap ++ front)) ++ [x] := by simp
      rw [h.line_eq, hcode, hassoc, List.getLast?_concat]
    rw [hline x hend] at hblank
    cases hblank
  · exact h.one_line ((List.dropWhile_suffix _).subset hmem)

end Reading

/-! ### The reader -/

namespace Columns

/-- The gap holds all blanks behind the first word. -/
theorem dropWhile_gap (h : Columns line field gap code) :
    (gap ++ code).dropWhile Text.isBlank = code := by
  obtain ⟨x, rest, rfl⟩ := List.exists_cons_of_ne_nil h.code_ne_nil
  rw [List.dropWhile_append_of_pos h.gap_blank]
  exact Text.trimLeft_cons_of_not_blank (h.code_begins x rfl) rest

/-- No match has more blanks. -/
theorem length_gap_le (h : Columns line field gap code) (h' : Reading line field' gap' code') :
    gap'.length ≤ gap.length := by
  have hdrop : (gap' ++ code').dropWhile Text.isBlank = code'.dropWhile Text.isBlank :=
    List.dropWhile_append_of_pos h'.gap_blank
  rw [h'.gap_append_code_eq h.toReading, h.dropWhile_gap] at hdrop
  have hlength := congrArg List.length (h'.gap_append_code_eq h.toReading)
  have hle := (List.dropWhile_suffix Text.isBlank (l := code')).length_le
  rw [← hdrop] at hle
  rw [List.length_append, List.length_append] at hlength
  omega

/-- **A line has at most one pair of columns.** -/
theorem unique (h : Columns line field gap code) (h' : Columns line field' gap' code') :
    field = field' ∧ gap = gap' ∧ code = code' := by
  have hlength : gap.length = gap'.length :=
    Nat.le_antisymm (h'.length_gap_le h.toReading) (h.length_gap_le h'.toReading)
  obtain ⟨hgap, hcode⟩ := List.append_inj (h.gap_append_code_eq h'.toReading) hlength
  exact ⟨h.field_eq h'.toReading, hgap, hcode⟩

/-- The reader finds the columns of a line. -/
theorem split?_eq (h : Columns line field gap code) : split? line = some (field, code) := by
  rw [split?, h.takeWhile_eq, h.dropWhile_eq, h.dropWhile_gap, List.reverse_append]
  simp [h.isWord_field.ne_nil, h.code_ne_nil, h.one_line]

end Columns

/-- A line whose first word ends with a colon has columns, if there is a field before the colon and
some code on one line behind the blanks. -/
theorem columns_of_takeWhile_eq (hword : line.takeWhile (!Text.isBlank ·) = field ++ [':'])
    (hfield : field ≠ []) (hcode : (line.dropWhile (!Text.isBlank ·)).dropWhile Text.isBlank = code)
    (hne : code ≠ []) (hline : '\n' ∉ code) :
    Columns line field ((line.dropWhile (!Text.isBlank ·)).takeWhile Text.isBlank) code := by
  have hrest : (line.dropWhile (!Text.isBlank ·)).takeWhile Text.isBlank ++ code =
      line.dropWhile (!Text.isBlank ·) := by
    rw [← hcode, List.takeWhile_append_dropWhile]
  refine ⟨⟨?_, ⟨hfield, fun x hx => ?_⟩, fun hnil => ?_, fun x hx => List.mem_takeWhile_imp hx,
    hne, hline⟩, fun x hx => ?_⟩
  · rw [hrest, ← List.singleton_append, ← List.append_assoc, ← hword,
      List.takeWhile_append_dropWhile]
  · have hmem : x ∈ line.takeWhile (!Text.isBlank ·) := hword ▸ List.mem_append_left _ hx
    simpa using List.mem_takeWhile_imp hmem
  · -- without blanks the code would belong to the first word
    rw [hnil, List.nil_append] at hrest
    obtain ⟨x, rest, rfl⟩ := List.exists_cons_of_ne_nil hne
    have hnot : Text.isBlank x = false :=
      Text.eq_false_of_head?_dropWhile (congrArg List.head? hcode)
    have hblank : (!Text.isBlank x) = false :=
      Text.eq_false_of_head?_dropWhile (p := (!Text.isBlank ·)) (congrArg List.head? hrest.symm)
    rw [hnot] at hblank
    cases hblank
  · exact Text.eq_false_of_head?_dropWhile (hcode ▸ hx)

/-- **The reader accepts exactly the grammar.** -/
theorem split?_eq_some_iff :
    split? line = some (field, code) ↔ ∃ gap, Columns line field gap code := by
  constructor
  · intro h
    simp only [split?] at h
    split at h
    · next reversed hword =>
      split at h
      · cases h
      · next hcond =>
        obtain ⟨rfl, hcode⟩ := Prod.mk.inj (Option.some.inj h)
        rw [hcode] at hcond
        simp only [Bool.or_eq_true, List.isEmpty_iff, List.contains_iff_mem, not_or] at hcond
        obtain ⟨⟨hfield, hne⟩, hline⟩ := hcond
        refine ⟨_, columns_of_takeWhile_eq ?_ (List.reverse_ne_nil_iff.mpr hfield) hcode hne hline⟩
        rw [← List.reverse_cons, ← hword, List.reverse_reverse]
    · cases h
  · rintro ⟨gap, h⟩
    exact h.split?_eq

/-- **A greedy match finds the columns** of a line that does not end with a blank. -/
theorem greedyReading_iff_columns
    (hline : ∀ x, line.getLast? = some x → Text.isBlank x = false) :
    GreedyReading line field gap code ↔ Columns line field gap code := by
  constructor
  · intro h
    obtain ⟨gap', code', h'⟩ := h.toReading.exists_columns hline
    have hle : gap'.length ≤ gap.length := by
      rcases h.longest _ _ _ h'.toReading with hlt | ⟨-, hle⟩
      · exact absurd hlt (Nat.lt_irrefl _)
      · exact hle
    have hlength : gap.length = gap'.length := Nat.le_antisymm (h'.length_gap_le h.toReading) hle
    obtain ⟨rfl, rfl⟩ := List.append_inj (h.toReading.gap_append_code_eq h'.toReading) hlength
    exact h'
  · intro h
    exact ⟨h.toReading, fun field' gap' code' h' =>
      Or.inr ⟨h'.field_eq h.toReading, h.length_gap_le h'⟩⟩

/-! ### What a line means -/

section Meaning

variable {d : Dialect} {n : Nat} {s : String} {a : Address}

/-- The meaning of a line is that of its columns. -/
theorem Columns.classify_eq (h : Columns (Text.trim s.toList) field gap code) :
    classify d n s = ofColumns d n field code := by
  rw [classify, h.split?_eq]

/-- A line without columns is ignored. -/
theorem classify_of_forall_not_columns
    (h : ∀ field gap code, ¬ Columns (Text.trim s.toList) field gap code) :
    classify d n s = .ok .ignored := by
  cases hsplit : split? (Text.trim s.toList) with
  | none => rw [classify, hsplit]
  | some columns =>
    obtain ⟨gap, hcolumns⟩ := split?_eq_some_iff.mp hsplit
    exact absurd hcolumns (h _ _ _)

/-- The part of a code that is looked at ends at the first tab. -/
theorem takeWhile_code {column tail : List Char} (hcolumn : '\t' ∉ column)
    (htail : ∀ x, tail.head? = some x → x = '\t') :
    (column ++ tail).takeWhile (· ≠ '\t') = column := by
  have htab : ∀ x ∈ column, decide (x ≠ '\t') = true := fun x hx =>
    decide_eq_true (ne_of_mem_of_not_mem hx hcolumn)
  rw [List.takeWhile_append_of_pos htab]
  cases tail with
  | nil => rw [List.takeWhile_nil, List.append_nil]
  | cons x rest =>
    rw [htail x rfl, List.takeWhile_cons_of_neg (by decide), List.append_nil]

/-- **A code column is never empty**: its first character stands before any tab. -/
theorem Columns.groups_ne_nil (h : Columns line field gap code) : groups code ≠ [] := by
  obtain ⟨x, rest, rfl⟩ := List.exists_cons_of_ne_nil h.code_ne_nil
  have hx := h.code_begins x rfl
  have htab : x ≠ '\t' := by
    rintro rfl
    cases hx
  have htake : (x :: rest).takeWhile (· ≠ '\t') = x :: rest.takeWhile (· ≠ '\t') :=
    List.takeWhile_cons_of_pos (decide_eq_true htab)
  have hwords : Text.words ((x :: rest).takeWhile (· ≠ '\t')) ≠ [] := by
    rw [htake, Ne, Text.words_eq_nil_iff]
    intro hall
    rw [hall x List.mem_cons_self] at hx
    cases hx
  rw [groups]
  split
  · next hnil => exact absurd hnil hwords
  · exact List.cons_ne_nil _ _

/-- A line whose code column is decoded: its field is an address, and its code does not say that
memory could not be read. -/
structure ReachesDecoding (d : Dialect) (s : String) (a : Address) (code : List Char) : Prop where
  columns : ∃ field gap, Columns (Text.trim s.toList) field gap code ∧
    d.parseAddress? field = some a
  readable : ¬ outOfBoundsMark.toList <:+: code

namespace ReachesDecoding

theorem groups_ne_nil (h : ReachesDecoding d s a code) : groups code ≠ [] := by
  obtain ⟨field, gap, hcolumns, -⟩ := h.columns
  exact hcolumns.groups_ne_nil

/-- **The groups of the code column are decoded**; they are never missing. -/
theorem classify_eq (h : ReachesDecoding d s a code) :
    classify d n s = (decodeGroups n (groups code)).map (data a) := by
  obtain ⟨field, gap, hcolumns, haddress⟩ := h.columns
  have hholds : Text.holds outOfBoundsMark.toList code = false := by
    rw [Bool.eq_false_iff, Ne, Text.holds_iff_isInfix]
    exact h.readable
  rw [hcolumns.classify_eq, ofColumns, haddress]
  simp only [hholds, Bool.false_eq_true, if_false]
  split
  · next hnil => exact absurd hnil hcolumns.groups_ne_nil
  · rfl

/-- Such a line gives the bytes that its groups spell. -/
theorem classify_eq_data_iff {bytes : List UInt8} (h : ReachesDecoding d s a code) {a' : Address} :
    classify d n s = .ok (.data a' bytes) ↔
      a' = a ∧ decodeGroups n (groups code) = .ok bytes := by
  rw [h.classify_eq]
  cases decodeGroups n (groups code) with
  | ok decoded =>
    constructor
    · intro hdata
      obtain ⟨rfl, rfl⟩ := data.inj (Except.ok.inj hdata)
      exact ⟨rfl, rfl⟩
    · rintro ⟨rfl, hdecoded⟩
      obtain rfl := Except.ok.inj hdecoded
      rfl
  | error e => simp [Except.map]

/-- Such a line gives the reason why its groups spell nothing. -/
theorem classify_of_error {e : ListingError} (h : ReachesDecoding d s a code)
    (hdecode : decodeGroups n (groups code) = .error e) : classify d n s = .error e := by
  rw [h.classify_eq, hdecode]
  rfl

/-- Such a line gives bytes or a decode error. -/
theorem classify_cases (h : ReachesDecoding d s a code) :
    (∃ bytes, bytes ≠ [] ∧ classify d n s = .ok (.data a bytes)) ∨
      ∃ text cause, classify d n s = .error (.decode n text cause) := by
  cases hdecode : decodeGroups n (groups code) with
  | ok bytes =>
    have hdata : classify d n s = .ok (.data a bytes) :=
      h.classify_eq_data_iff.mpr ⟨rfl, hdecode⟩
    exact Or.inl ⟨bytes, bytes_ne_nil_of_classify hdata, hdata⟩
  | error e =>
    have herror : classify d n s = .error e := h.classify_of_error hdecode
    obtain ⟨text, cause, rfl⟩ := exists_eq_decode_of_classify_eq_error herror
    exact Or.inr ⟨text, cause, herror⟩

/-- Such a line means nothing else. -/
theorem classify_ne (h : ReachesDecoding d s a code) {m : Line} (hm : m.chunk? = none) :
    classify d n s ≠ .ok m := by
  intro hclassify
  rcases h.classify_cases (n := n) with ⟨bytes, -, hdata⟩ | ⟨text, cause, herror⟩
  · obtain rfl := Except.ok.inj (hdata.symm.trans hclassify)
    cases hm
  · cases herror.symm.trans hclassify

end ReachesDecoding

/-- A field that is no address makes the line one to ignore. -/
theorem Columns.classify_of_not_address (h : Columns (Text.trim s.toList) field gap code)
    (hfield : d.parseAddress? field = none) : classify d n s = .ok .ignored := by
  rw [h.classify_eq, ofColumns, hfield]

/-- Memory could not be read where the code says so. -/
theorem Columns.classify_of_unreadable (h : Columns (Text.trim s.toList) field gap code)
    (hfield : d.parseAddress? field = some a) (hmark : outOfBoundsMark.toList <:+: code) :
    classify d n s = .ok (.outOfBounds a) := by
  rw [h.classify_eq, ofColumns, hfield]
  exact if_pos (Text.holds_iff_isInfix.mpr hmark)

/-- **A line is ignored** exactly when it has no columns or its field is no address. -/
theorem classify_eq_ignored_iff :
    classify d n s = .ok .ignored ↔
      ∀ field gap code, Columns (Text.trim s.toList) field gap code →
        d.parseAddress? field = none := by
  constructor
  · intro h field gap code hcolumns
    by_contra hfield
    obtain ⟨a, ha⟩ := Option.ne_none_iff_exists'.mp hfield
    by_cases hmark : outOfBoundsMark.toList <:+: code
    · rw [hcolumns.classify_of_unreadable ha hmark] at h
      cases h
    · have hdecode : ReachesDecoding d s a code := ⟨⟨field, gap, hcolumns, ha⟩, hmark⟩
      exact hdecode.classify_ne rfl h
  · intro h
    by_cases hcolumns : ∃ field gap code, Columns (Text.trim s.toList) field gap code
    · obtain ⟨field, gap, code, hcolumns⟩ := hcolumns
      exact hcolumns.classify_of_not_address (h _ _ _ hcolumns)
    · exact classify_of_forall_not_columns fun field gap code hcols =>
        hcolumns ⟨field, gap, code, hcols⟩

/-- **What a line means.** For every line, both dialects and every line number, let the blanks
around the line be dropped. The reader finds a field and a code exactly when the line is made of the
field, a colon, some blanks and the code, where the field is not empty and holds no blanks, and the
code is not empty, does not begin with a blank and holds no newline; these are the parts that a
greedy match finds, whenever there is a match; and they are unique. The line is ignored exactly when
it has no such parts or its field is no address. Otherwise memory at this address could not be read
exactly when the code says so, and where it does not, the code has at least one group, and the line
gives some bytes at this address or a decode error. A data line always gives some bytes. -/
theorem grammar_exact (d : Dialect) (n : Nat) (s : String) :
    let line := Text.trim s.toList
    Text.IsTrimOf line s.toList ∧
    (∀ field code, split? line = some (field, code) ↔ ∃ gap, Columns line field gap code) ∧
    (∀ field gap code, GreedyReading line field gap code ↔ Columns line field gap code) ∧
    (∀ field gap code, Reading line field gap code →
      ∃ gap' code', Columns line field gap' code') ∧
    (∀ field gap code field' gap' code', Columns line field gap code →
      Columns line field' gap' code' → field = field' ∧ gap = gap' ∧ code = code') ∧
    (∀ field gap code, Columns line field gap code →
      classify d n s = ofColumns d n field code) ∧
    (classify d n s = .ok .ignored ↔
      ∀ field gap code, Columns line field gap code → d.parseAddress? field = none) ∧
    (∀ field gap code a, Columns line field gap code → d.parseAddress? field = some a →
      (classify d n s = .ok (.outOfBounds a) ↔ outOfBoundsMark.toList <:+: code) ∧
      (¬ outOfBoundsMark.toList <:+: code → groups code ≠ [] ∧
        ((∃ bytes, bytes ≠ [] ∧ classify d n s = .ok (.data a bytes)) ∨
          ∃ text cause, classify d n s = .error (.decode n text cause)))) ∧
    (∀ a bytes, classify d n s = .ok (.data a bytes) → bytes ≠ []) := by
  intro line
  have htrim : Text.IsTrimOf line s.toList := Text.isTrimOf_trim s.toList
  refine ⟨htrim, fun _ _ => split?_eq_some_iff,
    fun _ _ _ => greedyReading_iff_columns htrim.last_not_blank,
    fun _ _ _ h => h.exists_columns htrim.last_not_blank,
    fun _ _ _ _ _ _ h h' => h.unique h', fun _ _ _ h => h.classify_eq, classify_eq_ignored_iff,
    fun field gap code a h ha => ?_, fun _ _ => bytes_ne_nil_of_classify⟩
  have hdecode (hmark : ¬ outOfBoundsMark.toList <:+: code) : ReachesDecoding d s a code :=
    ⟨⟨field, gap, h, ha⟩, hmark⟩
  refine ⟨⟨fun hclassify => ?_, h.classify_of_unreadable ha⟩, fun hmark =>
    ⟨h.groups_ne_nil, (hdecode hmark).classify_cases⟩⟩
  by_contra hmark
  exact (hdecode hmark).classify_ne rfl hclassify

/-- A line with two colons, and with a wide blank and tabs between the columns. -/
def wideGapLine : String :=
  "  ffc0:0100:\u3000\t7c08 02a6\tmflr r0 "

/-- The first colon belongs to the address, and the first tab to the gap. -/
theorem grammar_wideGapLine :
    Columns (Text.trim wideGapLine.toList) "ffc0:0100".toList "\u3000\t".toList
        "7c08 02a6\tmflr r0".toList ∧
      (∀ field gap code, Columns (Text.trim wideGapLine.toList) field gap code →
        field = "ffc0:0100".toList ∧ gap = "\u3000\t".toList ∧
          code = "7c08 02a6\tmflr r0".toList) ∧
      classify .colonStripped 1 wideGapLine ≠ .ok (.outOfBounds ⟨0xffc00100, by decide⟩) ∧
      groups "7c08 02a6\tmflr r0".toList ≠ [] := by
  have hcolumns : Columns (Text.trim wideGapLine.toList) "ffc0:0100".toList "\u3000\t".toList
      "7c08 02a6\tmflr r0".toList :=
    { line_eq := by decide
      isWord_field := ⟨by decide, by simp [Text.isBlank]⟩
      gap_ne_nil := by decide
      gap_blank := List.all_eq_true.mp (by decide)
      code_ne_nil := by decide
      one_line := by decide
      code_begins := fun _ hx => Option.some.inj hx ▸ by decide }
  have haddress : Dialect.colonStripped.parseAddress? "ffc0:0100".toList =
      some ⟨0xffc00100, by decide⟩ := by decide
  have hmark : ¬ outOfBoundsMark.toList <:+: "7c08 02a6\tmflr r0".toList := by
    rw [← Text.holds_iff_isInfix]
    decide
  obtain ⟨-, -, -, -, hunique, -, -, hmeaning, -⟩ := grammar_exact .colonStripped 1 wideGapLine
  obtain ⟨hbounds, hgroups⟩ := hmeaning _ _ _ _ hcolumns haddress
  exact ⟨hcolumns, fun _ _ _ h => hunique _ _ _ _ _ _ h hcolumns, mt hbounds.mp hmark,
    (hgroups hmark).1⟩

end Meaning

end NameRecovery.Line
