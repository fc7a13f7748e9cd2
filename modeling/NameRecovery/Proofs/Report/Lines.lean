import NameRecovery.Proofs.Address
import NameRecovery.Proofs.NameMap
import NameRecovery.Proofs.Text.Blank
import NameRecovery.Report

/-!
# The lines of a report

A report as text has one line for each entry: the address, a blank, the name. If no name holds a
newline, then cutting the text at the newlines gives back the lines, and cutting a line at its first
blank gives back the written address and the name.

## Main definitions

* `Report.line` : the line of an entry.
* `Report.lines`, `Report.cutLine` : the lines of an output, and the two parts of a line.

## Main results

* `Report.cutLine_line` : the parts of the line of an entry.
* `Report.lines_text` : the lines of a report.
-/

namespace NameRecovery

namespace Report

/-- Whatever is read back one by one is read back in a row. -/
theorem mapM_map_of_read {α β : Type} {write : α → β} {read : β → Option α}
    (h : ∀ x, read (write x) = some x) (xs : List α) : (xs.map write).mapM read = some xs := by
  have hread : read ∘ write = some := by
    funext x
    rw [Function.comp_apply, h]
  have hpure : xs.mapM some = some (xs.map id) := List.mapM_pure
  rw [List.mapM_map, hread, hpure, List.map_id]

/-- The line of an entry, without the newline that ends it. -/
def line (entry : Address × String) : String :=
  entry.1.text ++ " " ++ entry.2

/-- The lines of an output, each without the newline that ends it. -/
def lines (output : String) : List String :=
  (Text.pieces (· == '\n') output.toList).dropLast.map String.ofList

/-- The text before the first blank of a line, and the text behind it. -/
def cutLine (l : String) : String × String :=
  (String.ofList (l.toList.takeWhile (· ≠ ' ')), String.ofList (l.toList.dropWhile (· ≠ ' ')).tail)

theorem entryLine_eq (e : Address × String) : entryLine e = line e ++ "\n" :=
  rfl

theorem toList_line (e : Address × String) :
    (line e).toList = e.1.text.toList ++ ' ' :: e.2.toList := by
  rw [line, String.toList_append, String.toList_append, List.append_assoc]
  rfl

/-! ### The parts of a line -/

/-- **The parts of the line of an entry** are the written address and the name, whatever the name. -/
theorem cutLine_line (e : Address × String) : cutLine (line e) = (e.1.text, e.2) := by
  have haddress : ∀ c ∈ e.1.text.toList, decide (c ≠ ' ') = true := by
    intro c hc
    have hblank : Text.isBlank c = false := Hex.isBlank_of_mem_text hc
    refine decide_eq_true ?_
    rintro rfl
    cases hblank
  rw [cutLine, toList_line, List.takeWhile_append_of_pos haddress,
    List.dropWhile_append_of_pos haddress]
  simp

/-- Different entries have different lines. -/
theorem line_injective : Function.Injective line := by
  intro e f h
  have hcut := congrArg cutLine h
  rw [cutLine_line, cutLine_line, Prod.mk.injEq] at hcut
  exact Prod.ext (Address.text_injective hcut.1) hcut.2

/-! ### The lines of a text -/

/-- Lines that end with a newline each are the pieces between the newlines; nothing stands behind
the last one. -/
theorem pieces_flatMap {entries : List (Address × String)}
    (h : ∀ e ∈ entries, '\n' ∉ (line e).toList) :
    Text.pieces (· == '\n') (entries.flatMap fun e => (entryLine e).toList) =
      entries.map (fun e => (line e).toList) ++ [[]] := by
  induction entries with
  | nil => rfl
  | cons e rest ih =>
    obtain ⟨he, hrest⟩ := List.forall_mem_cons.mp h
    have hline : ∀ c ∈ (line e).toList, (c == '\n') = false := fun c hc =>
      beq_eq_false_iff_ne.mpr (ne_of_mem_of_not_mem hc he)
    have hfirst : (entryLine e).toList = (line e).toList ++ ['\n'] := by
      rw [entryLine_eq, String.toList_append]
      rfl
    rw [List.flatMap_cons, hfirst, List.append_assoc, List.singleton_append,
      Text.pieces_append_cons hline rfl, ih hrest]
    rfl

theorem toList_text (names : NameMap) :
    (text names).toList = names.toList.flatMap fun e => (entryLine e).toList := by
  have hfold (entries : List (Address × String)) (s : String) :
      (entries.foldl (fun s e => s ++ entryLine e) s).toList =
        s.toList ++ entries.flatMap fun e => (entryLine e).toList := by
    induction entries generalizing s with
    | nil => simp
    | cons e rest ih => rw [List.foldl_cons, ih, String.toList_append, List.flatMap_cons,
        List.append_assoc]
  rw [text, ← Array.foldl_toList, hfold]
  rfl

/-- The line of an entry is one line, if its name holds no newline. -/
theorem newline_not_mem_line {e : Address × String} (h : '\n' ∉ e.2.toList) :
    '\n' ∉ (line e).toList := by
  rw [toList_line, List.mem_append, List.mem_cons]
  rintro (haddress | hblank | hname)
  · have hnewline : Text.isBlank '\n' = false := Hex.isBlank_of_mem_text haddress
    cases hnewline
  · cases hblank
  · exact h hname

/-- Between the newlines of a report stand the lines of the entries, in order, and nothing stands
behind the last newline. -/
theorem pieces_text {names : NameMap} (h : ∀ e ∈ names.toList, '\n' ∉ e.2.toList) :
    Text.pieces (· == '\n') (text names).toList =
      names.toList.map (fun e => (line e).toList) ++ [[]] := by
  rw [toList_text]
  exact pieces_flatMap fun e he => newline_not_mem_line (h e he)

/-- **The lines of a report** are the lines of the entries, in order, if no name holds a newline. -/
theorem lines_text {names : NameMap} (h : ∀ e ∈ names.toList, '\n' ∉ e.2.toList) :
    lines (text names) = names.toList.map line := by
  rw [lines, pieces_text h, List.dropLast_concat, List.map_map]
  exact List.map_congr_left fun e _ => String.ofList_toList

end Report

end NameRecovery
