import NameRecovery.Proofs.Report.Lines
import NameRecovery.Proofs.Scan.Completeness
import NameRecovery.Proofs.Scan.Entries

/-!
# Reading a report back

A report as text can be read back: it is cut at its newlines, each line at its first blank, and the
part before the blank is read as a typed address. This gives the entries in order, if no name holds a
newline; the names of a scan never do. So the text of a report determines its entries.

## Main definitions

* `Report.readLine?`, `Report.readEntries?` : reading a line, and all lines of an output.

## Main results

* `Report.readEntries?_text` : the entries of a report are read back.
* `Report.text_read_back` : for every map without newlines in its names, and for every scan.
-/

namespace NameRecovery.Report

variable {names names' : NameMap}

/-- Reads a line: the text before its first blank is an address, and the text behind it a name. -/
def readLine? (l : String) : Option (Address × String) :=
  (Address.parse? (cutLine l).1).map fun a => (a, (cutLine l).2)

/-- Reads an output line by line. -/
def readEntries? (output : String) : Option (List (Address × String)) :=
  (lines output).mapM readLine?

/-- The line of an entry is read back, whatever the name. -/
theorem readLine?_line (e : Address × String) : readLine? (line e) = some e := by
  rw [readLine?, cutLine_line, Address.parse?_text]
  rfl

/-- **The entries of a report are read back**, in order. -/
theorem readEntries?_text (h : ∀ e ∈ names.toList, '\n' ∉ e.2.toList) :
    readEntries? (text names) = some names.toList := by
  rw [readEntries?, lines_text h, mapM_map_of_read readLine?_line]

/-- Equal texts have the same entries. -/
theorem toList_eq_of_text_eq (h : ∀ e ∈ names.toList, '\n' ∉ e.2.toList)
    (h' : ∀ e ∈ names'.toList, '\n' ∉ e.2.toList) (htext : text names = text names') :
    names.toList = names'.toList := by
  have hread : readEntries? (text names) = readEntries? (text names') := congrArg readEntries? htext
  rwa [readEntries?_text h, readEntries?_text h', Option.some.injEq] at hread

/-- **The text of a report can be read back.** For every map in which no name holds a newline, the
text ends with a newline unless it is empty; its lines, each cut at its first blank and with the part
before the blank read as a typed address, give the entries in order; and another such map has the same
text exactly when it lists the same entries in the same order. The maps that scans give are of this
kind, for every image and all options. -/
theorem text_read_back (names : NameMap) (h : ∀ e ∈ names.toList, '\n' ∉ e.2.toList) :
    Text.pieces (· == '\n') (text names).toList = (lines (text names)).map String.toList ++ [[]] ∧
    readEntries? (text names) = some names.toList ∧
    (∀ names' : NameMap, (∀ e ∈ names'.toList, '\n' ∉ e.2.toList) →
      (text names = text names' ↔ names.toList = names'.toList)) ∧
    ∀ options image, ∀ e ∈ (scan options image).toList, '\n' ∉ e.2.toList := by
  refine ⟨?_, readEntries?_text h, fun names' h' => ⟨toList_eq_of_text_eq h h', fun hlist => ?_⟩,
    fun options image => newline_not_mem_scan⟩
  · rw [pieces_text h, lines_text h, List.map_map]
    rfl
  · rw [← String.toList_inj, toList_text, toList_text, hlist]

/-- The names of a scan as text, read back. -/
theorem text_read_back_twoNames :
    text (scan {} twoNames) = "0x1004 MAIN\n0x100c MYFUN\n" ∧
      readEntries? "0x1004 MAIN\n0x100c MYFUN\n" =
        some [(⟨0x1004, by decide⟩, "MAIN"), (⟨0x100c, by decide⟩, "MYFUN")] := by
  have hlist : (scan {} twoNames).toList =
      [(⟨0x1004, by decide⟩, "MAIN"), (⟨0x100c, by decide⟩, "MYFUN")] := by decide +kernel
  have htext : text (scan {} twoNames) = "0x1004 MAIN\n0x100c MYFUN\n" := by
    rw [← String.toList_inj, toList_text, hlist]
    decide
  obtain ⟨-, hread, -, -⟩ := text_read_back (scan {} twoNames) newline_not_mem_scan
  rw [htext, hlist] at hread
  exact ⟨htext, hread⟩

end NameRecovery.Report
