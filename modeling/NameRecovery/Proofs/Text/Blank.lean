import Mathlib.Data.List.DropRight
import NameRecovery.Text.Blank

/-!
# Cutting and trimming

## Main definitions

* `IsWord` : a word.
* `IsTrimOf` : what is left of a text without the blanks around it.

## Main results

* `pieces_of_forall`, `pieces_append_cons` : the pieces of a text, one separator at a time.
* `IsWord.words`, `IsWord.words_append_cons` : the words of a text, one at a time.
* `trim_append_of_blank`, `trim_blank_append` : blanks around a text do not count.
* `words_eq_nil_iff` : when a text has no words.
* `isTrimOf_trim` : trimming drops the blanks around a text, and nothing else.
* `trimRight_append_of_not_blank` : trimming stops at the last character that is no blank.
* `holds_iff_isInfix` : when a text holds a pattern.
-/

namespace NameRecovery.Text

/-! ### Pieces -/

section Pieces

variable {α : Type} {sep : α → Bool} {x : α} {xs front back : List α}

/-- There is always a last piece. -/
theorem pieces_ne_nil (sep : α → Bool) (xs : List α) : pieces sep xs ≠ [] := by
  cases xs with
  | nil => exact List.cons_ne_nil _ _
  | cons x rest =>
    rw [pieces_cons]
    cases pieces sep rest <;> simp only [cutStep] <;> split <;> exact List.cons_ne_nil _ _

/-- A separator opens a new piece. -/
theorem pieces_cons_of_sep (hx : sep x = true) : pieces sep (x :: xs) = [] :: pieces sep xs := by
  obtain ⟨p, ps, hpieces⟩ := List.exists_cons_of_ne_nil (pieces_ne_nil sep xs)
  rw [pieces_cons, hpieces, cutStep, if_pos hx]

/-- A text without separators is one piece. -/
theorem pieces_of_forall (h : ∀ x ∈ xs, sep x = false) : pieces sep xs = [xs] := by
  induction xs with
  | nil => rfl
  | cons x rest ih =>
    obtain ⟨hx, hrest⟩ := List.forall_mem_cons.mp h
    rw [pieces_cons, ih hrest, cutStep, hx]
    rfl

/-- The first piece ends at the first separator. -/
theorem pieces_append_cons (hfront : ∀ x ∈ front, sep x = false) (hx : sep x = true) :
    pieces sep (front ++ x :: back) = front :: pieces sep back := by
  induction front with
  | nil => exact pieces_cons_of_sep hx
  | cons y rest ih =>
    obtain ⟨hy, hrest⟩ := List.forall_mem_cons.mp hfront
    rw [List.cons_append, pieces_cons, ih hrest, cutStep, hy]
    rfl

end Pieces

variable {blanks cs : List Char}

/-! ### Words -/

section Words

variable {c : Char} {w : List Char}

/-- Some characters, none of them a blank. -/
structure IsWord (w : List Char) : Prop where
  ne_nil : w ≠ []
  not_blank : ∀ x ∈ w, isBlank x = false

/-- Blanks before a text are no words. -/
theorem words_blank_cons (hc : isBlank c = true) (cs : List Char) :
    words (c :: cs) = words cs := by
  rw [words, pieces_cons_of_sep hc]
  rfl

/-- A text has no words when it holds nothing but blanks. -/
theorem words_eq_nil_iff : words cs = [] ↔ ∀ c ∈ cs, isBlank c = true := by
  induction cs with
  | nil => simp [words]
  | cons c rest ih =>
    rw [List.forall_mem_cons]
    by_cases hc : isBlank c = true
    · rw [words_blank_cons hc, ih]
      exact ⟨fun h => ⟨hc, h⟩, fun h => h.2⟩
    · obtain ⟨p, ps, hpieces⟩ := List.exists_cons_of_ne_nil (pieces_ne_nil isBlank rest)
      simp [words, hpieces, cutStep, hc]

/-- A word is the only word in itself. -/
theorem IsWord.words (hw : IsWord w) : words w = [w] := by
  rw [Text.words, pieces_of_forall hw.not_blank]
  simp [hw.ne_nil]

/-- The first word ends at the first blank. -/
theorem IsWord.words_append_cons (hw : IsWord w) (hc : isBlank c = true) (cs : List Char) :
    Text.words (w ++ c :: cs) = w :: Text.words cs := by
  rw [Text.words, pieces_append_cons hw.not_blank hc, List.filter_cons_of_pos (by simp [hw.ne_nil])]
  rfl

/-- A word begins with a character that is no blank. -/
theorem IsWord.exists_eq_cons (hw : IsWord w) : ∃ x rest, w = x :: rest ∧ isBlank x = false := by
  obtain ⟨x, rest, rfl⟩ := List.exists_cons_of_ne_nil hw.ne_nil
  exact ⟨x, rest, rfl, hw.not_blank x List.mem_cons_self⟩

/-- A word ends with a character that is no blank. -/
theorem IsWord.exists_eq_append (hw : IsWord w) :
    ∃ front x, w = front ++ [x] ∧ isBlank x = false :=
  ⟨w.dropLast, w.getLast hw.ne_nil, (List.dropLast_append_getLast hw.ne_nil).symm,
    hw.not_blank _ (List.getLast_mem hw.ne_nil)⟩

end Words

/-! ### Blanks around a text -/

/-- What is left of a text when the blanks around it are dropped. -/
structure IsTrimOf (t cs : List Char) : Prop where
  exists_eq : ∃ front back, cs = front ++ (t ++ back) ∧ (∀ c ∈ front, isBlank c = true) ∧
    ∀ c ∈ back, isBlank c = true
  head_not_blank : ∀ x, t.head? = some x → isBlank x = false
  last_not_blank : ∀ x, t.getLast? = some x → isBlank x = false

theorem trimLeft_append (hblanks : ∀ c ∈ blanks, isBlank c = true) (cs : List Char) :
    trimLeft (blanks ++ cs) = trimLeft cs :=
  List.dropWhile_append_of_pos hblanks

theorem trimRight_append (hblanks : ∀ c ∈ blanks, isBlank c = true) (cs : List Char) :
    trimRight (cs ++ blanks) = trimRight cs := by
  rw [trimRight, List.reverse_append, List.dropWhile_append_of_pos, trimRight]
  exact fun c hc => hblanks c (List.mem_reverse.mp hc)

/-- **Blanks before a text do not count.** -/
theorem trim_blank_append (hblanks : ∀ c ∈ blanks, isBlank c = true) (cs : List Char) :
    trim (blanks ++ cs) = trim cs := by
  rw [trim, trimLeft_append hblanks, trim]

/-- **Blanks behind a text do not count.** -/
theorem trim_append_of_blank (hblanks : ∀ c ∈ blanks, isBlank c = true) (cs : List Char) :
    trim (cs ++ blanks) = trim cs := by
  rw [trim, trim, trimLeft, trimLeft, List.dropWhile_append]
  split
  · next hempty =>
    -- nothing but blanks
    have hnil : blanks.dropWhile isBlank = [] := List.dropWhile_eq_nil_iff.mpr hblanks
    rw [hnil, List.isEmpty_iff.mp hempty]
  · exact trimRight_append hblanks _

/-- Trimming stops at a character that is no blank. -/
theorem trimLeft_cons_of_not_blank {c : Char} (hc : isBlank c = false) (cs : List Char) :
    trimLeft (c :: cs) = c :: cs :=
  List.dropWhile_cons_of_neg (by simp [hc])

theorem trimRight_append_of_not_blank {c : Char} (hc : isBlank c = false) (front cs : List Char) :
    trimRight (front ++ c :: cs) = front ++ c :: trimRight cs := by
  have hstop : (c :: front.reverse).dropWhile isBlank = c :: front.reverse :=
    trimLeft_cons_of_not_blank hc _
  rw [trimRight, trimRight, List.reverse_append, List.reverse_cons, List.append_assoc,
    List.singleton_append, List.dropWhile_append]
  split
  · next hempty =>
    rw [hstop, List.isEmpty_iff.mp hempty]
    simp
  · simp

/-- What is left of a text is its beginning. -/
theorem prefix_trimRight (cs : List Char) : trimRight cs <+: cs :=
  List.rdropWhile_prefix _ cs

/-- What is left after dropping begins with something that is kept. -/
theorem eq_false_of_head?_dropWhile {α : Type} {p : α → Bool} {xs : List α} {x : α}
    (h : (xs.dropWhile p).head? = some x) : p x = false := by
  have hnot := List.head?_dropWhile_not p xs
  rw [h] at hnot
  exact hnot

/-- **Trimming** drops the blanks around a text, and nothing else. -/
theorem isTrimOf_trim (cs : List Char) : IsTrimOf (trim cs) cs := by
  have hleft : cs = cs.takeWhile isBlank ++ trimLeft cs := List.takeWhile_append_dropWhile.symm
  have hright : trimLeft cs = trim cs ++ ((trimLeft cs).reverse.takeWhile isBlank).reverse := by
    rw [trim, trimRight, ← List.reverse_append, List.takeWhile_append_dropWhile,
      List.reverse_reverse]
  refine ⟨⟨_, _, hright ▸ hleft, fun c hc => List.mem_takeWhile_imp hc, fun c hc => ?_⟩,
    fun x hx => ?_, fun x hx => ?_⟩
  · exact List.mem_takeWhile_imp (List.mem_reverse.mp hc)
  · have h : (cs.dropWhile isBlank).head? = some x := by
      rw [← trimLeft, hright, List.head?_append, hx]
      rfl
    exact eq_false_of_head?_dropWhile h
  · rw [trim, trimRight, List.getLast?_reverse] at hx
    exact eq_false_of_head?_dropWhile hx

/-! ### Patterns -/

/-- A text holds a pattern when the pattern is a part of it. -/
theorem holds_iff_isInfix {pattern : List Char} : holds pattern cs = true ↔ pattern <:+: cs := by
  induction cs with
  | nil => rw [holds, List.isEmpty_iff, List.infix_nil]
  | cons c rest ih =>
    rw [holds, Bool.or_eq_true, ih, List.isPrefixOf_iff_prefix, List.infix_cons_iff]

/-- A pattern does not reach over a character that is not in it. -/
theorem isInfix_of_append_cons {pattern front back : List Char} {c : Char}
    (hc : c ∉ pattern) (h : pattern <:+: front ++ c :: back) :
    pattern <:+: front ∨ pattern <:+: back := by
  have hbegins {part : List Char} (hpart : ∀ x ∈ part, x ∈ pattern) (h : part <+: c :: back) :
      part = [] := by
    rcases List.prefix_cons_iff.mp h with hnil | ⟨rest, rfl, -⟩
    · exact hnil
    · exact absurd (hpart c List.mem_cons_self) hc
  rcases List.infix_append_iff.mp h with hfront | hback | ⟨left, right, rfl, hleft, hright⟩
  · exact Or.inl hfront
  · rcases List.infix_cons_iff.mp hback with hback | hback
    · rw [hbegins (fun x hx => hx) hback]
      exact Or.inl List.nil_infix
    · exact Or.inr hback
  · rw [hbegins (fun x hx => List.mem_append_right left hx) hright, List.append_nil]
    exact Or.inl hleft.isInfix

end NameRecovery.Text
