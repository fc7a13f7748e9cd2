import NameRecovery.Proofs.Text.Blank
import NameRecovery.Proofs.Text.Utf8

/-!
# The lines of a text

A text is cut at its newlines. A carriage return before a newline belongs to the newline, and there
is no line behind a final newline. Bytes that are read as text may be cut at their newlines first:
the pieces of the text are the pieces of the bytes, each read on its own.

## Main definitions

* `lines` : the lines of a text.

## Main results

* `pieces_decodeLossy` : the pieces of a text that is read from bytes.
* `lines_decodeLossy` : the lines of such a text.
-/

namespace NameRecovery.Text

/-- The text without one carriage return at its end. -/
def dropReturn (cs : List Char) : List Char :=
  if cs.getLast? = some '\r' then cs.dropLast else cs

/-- The lines of a text. A carriage return is dropped before a newline only. -/
def lines (cs : List Char) : List (List Char) :=
  let parts := pieces (· == '\n') cs
  let last := parts.getLastD []
  parts.dropLast.map dropReturn ++ if last.isEmpty then [] else [last]

/-- One carriage return goes with a newline; others stay, and so does one without a newline. -/
example : lines "a\r\r\n\nb\rc\r".toList =
    ["a\r".toList, "".toList, "b\rc\r".toList] := by
  decide

/-- A carriage return is blank, so it does not count at the end of a line. -/
theorem trim_dropReturn (cs : List Char) : trim (dropReturn cs) = trim cs := by
  rw [dropReturn]
  split
  · next hlast =>
    have hsplit : cs.dropLast ++ ['\r'] = cs := List.dropLast_append_getLast? _ hlast
    conv_rhs => rw [← hsplit]
    rw [trim_append_of_blank]
    intro c hc
    rw [List.mem_singleton.mp hc]
    rfl
  · rfl

/-- **The pieces of a text are the pieces of its bytes**, each read on its own. -/
theorem pieces_decodeLossy (bytes : List UInt8) :
    pieces (· == '\n') (Utf8.decodeLossy bytes) =
      (pieces (· == 10) bytes).map Utf8.decodeLossy := by
  by_cases h : 10 ∈ bytes
  · obtain ⟨front, back, hsplit, hfront⟩ := List.eq_append_cons_of_mem h
    have htext : Utf8.decodeLossy bytes =
        Utf8.decodeLossy front ++ '\n' :: Utf8.decodeLossy back := by
      rw [hsplit]
      exact Utf8.decodeLossy_append_ascii (by decide)
    have hnewline := Utf8.newline_not_mem_decodeLossy hfront
    rw [htext, pieces_append_cons (fun c hc => by simpa using ne_of_mem_of_not_mem hc hnewline) rfl,
      pieces_decodeLossy back, hsplit,
      pieces_append_cons (fun b hb => by simpa using ne_of_mem_of_not_mem hb hfront) rfl,
      List.map_cons]
  · have hnewline := Utf8.newline_not_mem_decodeLossy h
    rw [pieces_of_forall fun c hc => by simpa using ne_of_mem_of_not_mem hc hnewline,
      pieces_of_forall fun b hb => by simpa using ne_of_mem_of_not_mem hb h]
    rfl
termination_by bytes.length
decreasing_by
  have hlength := congrArg List.length hsplit
  rw [List.length_append, List.length_cons] at hlength
  omega

/-- The lines of a text that is read from bytes. -/
theorem lines_decodeLossy (bytes : List UInt8) :
    lines (Utf8.decodeLossy bytes) =
      ((pieces (· == 10) bytes).dropLast.map fun part => dropReturn (Utf8.decodeLossy part)) ++
        if ((pieces (· == 10) bytes).getLastD []).isEmpty then []
        else [Utf8.decodeLossy ((pieces (· == 10) bytes).getLastD [])] := by
  obtain ⟨front, last, hparts⟩ :=
    List.eq_nil_or_concat (pieces (· == 10) bytes) |>.resolve_left (pieces_ne_nil _ _)
  have hempty : (Utf8.decodeLossy last).isEmpty = last.isEmpty := by
    rw [Bool.eq_iff_iff, List.isEmpty_iff, List.isEmpty_iff, Utf8.decodeLossy_eq_nil_iff]
  simp [lines, pieces_decodeLossy, hparts, hempty]

end NameRecovery.Text
