import NameRecovery.Proofs.Listing.Columns
import NameRecovery.Proofs.Listing.Source

/-!
# Text that does not count

A line may spell the same bytes with other blanks, and with another text behind its code. This file
describes lines by the parts that they are made of, and proves that two lines with the same first
word and with the same words of code mean the same, whatever blanks stand between these words and
whatever text stands behind a tab. The one thing that such text can say is that memory could not be
read; the lines here do not say so.

## Main definitions

* `Line.Parts` : a first word with a colon, blanks, a column of code, and perhaps more text.

## Main results

* `Line.Parts.groups_eq_groups` : lines with the same words of code have the same byte groups.
* `Line.Parts.classify_cases` : what a line that is made of such parts can mean.
* `Line.commentary_exact` : lines with the same words mean the same.
-/

namespace NameRecovery.Line

variable {line line' field gap gap' column column' tail tail' : List Char}

/-- **The parts of a line**: a first word that ends with a colon, some blanks, a column that begins
with no blank and holds no tab, and nothing more or a tab and some text. Behind its first word the
line does not say that memory could not be read, and all behind the blanks is on one line. -/
structure Parts (line field gap column tail : List Char) : Prop where
  line_eq : line = field ++ ':' :: (gap ++ (column ++ tail))
  field_not_blank : ∀ x ∈ field, Text.isBlank x = false
  gap_ne_nil : gap ≠ []
  gap_blank : ∀ x ∈ gap, Text.isBlank x = true
  column_begins : ∃ x rest, column = x :: rest ∧ Text.isBlank x = false
  tab_not_mem : '\t' ∉ column
  tail_begins : ∀ x, tail.head? = some x → x = '\t'
  one_line : '\n' ∉ column ++ tail
  readable : ¬ outOfBoundsMark.toList <:+: gap ++ (column ++ tail)

namespace Parts

/-- With an address before the colon these are the columns of the line. -/
theorem columns (h : Parts line field gap column tail) (hfield : field ≠ []) :
    Columns line field gap (column ++ tail) := by
  obtain ⟨x, rest, rfl, hx⟩ := h.column_begins
  refine ⟨⟨h.line_eq, ⟨hfield, h.field_not_blank⟩, h.gap_ne_nil, h.gap_blank,
    List.cons_ne_nil _ _, h.one_line⟩, fun y hy => ?_⟩
  obtain rfl := Option.some.inj hy
  exact hx

/-- With nothing before the colon the line has no columns. -/
theorem not_columns (h : Parts line [] gap column tail) (field' gap' code' : List Char) :
    ¬ Columns line field' gap' code' := by
  intro hcolumns
  obtain ⟨g, gs, rfl⟩ := List.exists_cons_of_ne_nil h.gap_ne_nil
  have hg := h.gap_blank g List.mem_cons_self
  have hword : line.takeWhile (!Text.isBlank ·) = [':'] := by
    rw [h.line_eq, List.nil_append, List.cons_append, List.takeWhile_cons_of_pos (by decide),
      List.takeWhile_cons_of_neg (by simp [hg])]
  have hfield : field' ++ [':'] = [] ++ [':'] := hcolumns.takeWhile_eq.symm.trans hword
  exact hcolumns.isWord_field.ne_nil (List.append_cancel_right hfield)

theorem not_isInfix_code (h : Parts line field gap column tail) :
    ¬ outOfBoundsMark.toList <:+: column ++ tail :=
  fun hmark => h.readable (hmark.trans (List.suffix_append gap _).isInfix)

/-- **The same words of code are the same byte groups**, however they are spaced and whatever stands
behind them. -/
theorem groups_eq_groups (h : Parts line field gap column tail)
    (h' : Parts line' field gap' column' tail') (hwords : Text.words column = Text.words column') :
    groups (column ++ tail) = groups (column' ++ tail') := by
  rw [groups, groups, takeWhile_code h.tab_not_mem h.tail_begins,
    takeWhile_code h'.tab_not_mem h'.tail_begins, hwords]

section Meaning

variable {d : Dialect} {n : Nat} {s t : String}

/-- A line without anything before the colon is ignored. -/
theorem classify_of_nil (h : Parts (Text.trim s.toList) [] gap column tail) :
    classify d n s = .ok .ignored :=
  classify_of_forall_not_columns h.not_columns

/-- Lines with the same words mean the same. -/
theorem classify_eq (h : Parts (Text.trim s.toList) field gap column tail)
    (h' : Parts (Text.trim t.toList) field gap' column' tail')
    (hwords : Text.words column = Text.words column') : classify d n s = classify d n t := by
  by_cases hfield : field = []
  · subst hfield
    rw [h.classify_of_nil, h'.classify_of_nil]
  · have hholds : Text.holds outOfBoundsMark.toList (column ++ tail) =
        Text.holds outOfBoundsMark.toList (column' ++ tail') := by
      rw [Bool.eq_iff_iff, Text.holds_iff_isInfix, Text.holds_iff_isInfix]
      exact iff_of_false h.not_isInfix_code h'.not_isInfix_code
    rw [(h.columns hfield).classify_eq, (h'.columns hfield).classify_eq, ofColumns, ofColumns,
      hholds, h.groups_eq_groups h' hwords]

/-- Such a line is ignored, or gives some bytes, or its groups spell no bytes. -/
theorem classify_cases (h : Parts (Text.trim s.toList) field gap column tail) :
    classify d n s = .ok .ignored ∨ (∃ a bytes, classify d n s = .ok (.data a bytes)) ∨
      ∃ text cause, classify d n s = .error (.decode n text cause) := by
  by_cases hfield : field = []
  · subst hfield
    exact Or.inl h.classify_of_nil
  · have hcolumns := h.columns hfield
    cases haddress : d.parseAddress? field with
    | none => exact Or.inl (hcolumns.classify_of_not_address haddress)
    | some a =>
      have hdecode : ReachesDecoding d s a (column ++ tail) :=
        ⟨⟨field, gap, hcolumns, haddress⟩, h.not_isInfix_code⟩
      rcases hdecode.classify_cases (n := n) with ⟨bytes, -, hdata⟩ | herror
      · exact Or.inr (Or.inl ⟨a, bytes, hdata⟩)
      · exact Or.inr (Or.inr herror)

end Meaning

end Parts

/-- Blanks before and behind a line do not count. -/
theorem classify_ofList_of_blank {front back : List Char}
    (hfront : ∀ x ∈ front, Text.isBlank x = true) (hback : ∀ x ∈ back, Text.isBlank x = true)
    (d : Dialect) (n : Nat) (s : String) :
    classify d n (String.ofList (front ++ (s.toList ++ back))) = classify d n s := by
  refine Alike.classify ?_ d n
  rw [Alike, String.toList_ofList, Text.trim_blank_append hfront, Text.trim_append_of_blank hback]

/-- **Blanks and comments do not influence the meaning of a line.** For both dialects and every line
number, take two lines, without the blanks around them, with the same first word, which ends with a
colon, and then some blanks and a column of code, which holds no tab, and perhaps a tab and any text
on the same line, where neither line says behind its first word that memory could not be read. If
the columns have the same words, then both lines mean the same: both are ignored, or both give the
same bytes at the same address, or both fail to for the same reason. Further blanks before and
behind a line change nothing. -/
theorem commentary_exact {s t : String} (h : Parts (Text.trim s.toList) field gap column tail)
    (h' : Parts (Text.trim t.toList) field gap' column' tail')
    (hwords : Text.words column = Text.words column') (d : Dialect) (n : Nat) :
    classify d n s = classify d n t ∧
    (classify d n s = .ok .ignored ∨ (∃ a bytes, classify d n s = .ok (.data a bytes)) ∨
      ∃ text cause, classify d n s = .error (.decode n text cause)) ∧
    ∀ front back front' back' : List Char, (∀ x ∈ front, Text.isBlank x = true) →
      (∀ x ∈ back, Text.isBlank x = true) → (∀ x ∈ front', Text.isBlank x = true) →
      (∀ x ∈ back', Text.isBlank x = true) →
      classify d n (String.ofList (front ++ (s.toList ++ back))) =
        classify d n (String.ofList (front' ++ (t.toList ++ back'))) := by
  have hsame : classify d n s = classify d n t := h.classify_eq h' hwords
  refine ⟨hsame, h.classify_cases, fun front back front' back' hf hb hf' hb' => ?_⟩
  rw [classify_ofList_of_blank hf hb, classify_ofList_of_blank hf' hb', hsame]

/-- A line with a wide blank, two blanks between its groups, and an empty comment. -/
def spacedLine : String :=
  "\u00a01000:\u3000 7c08  02a6 \t "

/-- The same bytes with an instruction. -/
def commentedLine : String :=
  "1000: 7c08 02a6\tmflr r0"

/-- Trimming takes the empty comment with its tab; both lines give the same bytes. -/
theorem commentary_spacedLine :
    Parts (Text.trim spacedLine.toList) "1000".toList "\u3000 ".toList "7c08  02a6".toList [] ∧
      Parts (Text.trim commentedLine.toList) "1000".toList " ".toList "7c08 02a6".toList
        "\tmflr r0".toList ∧
      Text.words "7c08  02a6".toList = Text.words "7c08 02a6".toList ∧
      classify .colonStripped 7 spacedLine = classify .colonStripped 7 commentedLine ∧
      classify .colonStripped 7 (String.ofList ([] ++ (commentedLine.toList ++ "\r ".toList))) =
        .ok (.data ⟨0x1000, by decide⟩ [0x7c, 0x08, 0x02, 0xa6]) := by
  have hfield : ∀ x ∈ "1000".toList, Text.isBlank x = false := fun x hx =>
    eq_of_beq (List.all_eq_true.mp (by decide : "1000".toList.all (Text.isBlank · == false)) x hx)
  have hspaced : Parts (Text.trim spacedLine.toList) "1000".toList "\u3000 ".toList
      "7c08  02a6".toList [] :=
    { line_eq := by decide
      field_not_blank := hfield
      gap_ne_nil := List.cons_ne_nil _ _
      gap_blank := List.all_eq_true.mp (by decide)
      column_begins := ⟨_, _, rfl, by decide⟩
      tab_not_mem := by decide
      tail_begins := fun _ hx => by cases hx
      one_line := by decide
      readable := by
        rw [← Text.holds_iff_isInfix]
        decide }
  have hcommented : Parts (Text.trim commentedLine.toList) "1000".toList " ".toList
      "7c08 02a6".toList "\tmflr r0".toList :=
    { line_eq := by decide
      field_not_blank := hfield
      gap_ne_nil := List.cons_ne_nil _ _
      gap_blank := List.all_eq_true.mp (by decide)
      column_begins := ⟨_, _, rfl, by decide⟩
      tab_not_mem := by decide
      tail_begins := fun _ hx => (Option.some.inj hx).symm
      one_line := by decide
      readable := by
        rw [← Text.holds_iff_isInfix]
        decide }
  have hwords : Text.words "7c08  02a6".toList = Text.words "7c08 02a6".toList := by decide
  have hdata : classify .colonStripped 7 spacedLine =
      .ok (.data ⟨0x1000, by decide⟩ [0x7c, 0x08, 0x02, 0xa6]) := by decide
  obtain ⟨hsame, -, hblank⟩ := commentary_exact hspaced hcommented hwords .colonStripped 7
  refine ⟨hspaced, hcommented, hwords, hsame, ?_⟩
  rw [← hblank [] [] [] "\r ".toList (by simp) (by simp) (by simp)
      (List.all_eq_true.mp (by decide)),
    classify_ofList_of_blank (by simp) (by simp), hdata]

end NameRecovery.Line
