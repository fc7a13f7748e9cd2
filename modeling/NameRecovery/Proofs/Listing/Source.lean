import Mathlib.Data.List.Forall2
import NameRecovery.Proofs.Text.Lines
import NameRecovery.Recovery

/-!
# Bytes and lines

A source cuts its bytes into lines and reads each line as text; a caller may as well read all the
bytes as text and cut that into lines. The lines differ: the source drops every carriage return
before a newline and at the end of the bytes, the text loses one before a newline. But they differ
in blanks at their ends only, and a line counts without the blanks around it.

## Main definitions

* `Line.Alike` : lines that differ in the blanks around them.
* `ByteSource.textLines` : the lines of bytes that are read as text first.

## Main results

* `Line.Alike.classify`, `Reconstruction.feed_alike` : lines that are alike mean the same.
* `ByteSource.lines_alike` : both ways to cut give lines that are alike.
* `ByteSource.recover_eq_textLines` : both ways give the same image and the same names.
-/

namespace NameRecovery

/-! ### Lines that differ in blanks -/

/-- Two lines are the same but for the blanks around them. -/
def Line.Alike (x y : String) : Prop :=
  Text.trim x.toList = Text.trim y.toList

/-- **The blanks around a line do not count**, not in its errors either. -/
theorem Line.Alike.classify {x y : String} (h : Line.Alike x y) (d : Dialect) (n : Nat) :
    Line.classify d n x = Line.classify d n y := by
  rw [Line.classify, Line.classify, h]

namespace Reconstruction

variable {options : ListingOptions} {r : Reconstruction} {x y : String} {xs ys : List String}

theorem push_alike (h : Line.Alike x y) : r.push options x = r.push options y := by
  simp only [push, h.classify]

/-- Lines that are alike do the same, one after another. -/
theorem feed_alike (h : List.Forall₂ Line.Alike xs ys) :
    r.feed options xs = r.feed options ys := by
  induction h generalizing r with
  | nil => rfl
  | cons hline _ ih =>
    rw [feed, feed, push_alike hline]
    split
    · exact ih
    · rfl

end Reconstruction

theorem reconstruct_alike {options : ListingOptions} {xs ys : List String}
    (h : List.Forall₂ Line.Alike xs ys) : reconstruct options xs = reconstruct options ys := by
  rw [reconstruct, reconstruct, Reconstruction.feed_alike h]

/-! ### Two ways to cut -/

namespace ByteSource

/-- The lines of bytes that are read as text first and cut then. -/
def textLines (bytes : List UInt8) : List String :=
  (Text.lines (Utf8.decodeLossy bytes)).map String.ofList

/-- Carriage returns at the end of a line are blanks of its text. -/
theorem trim_lineText (bytes : List UInt8) :
    Text.trim (lineText bytes).toList = Text.trim (Utf8.decodeLossy bytes) := by
  let returns := bytes.rtakeWhile (· == carriageReturn)
  have hreturns : returns = List.replicate returns.length carriageReturn := by
    refine List.eq_replicate_of_mem fun b hb => ?_
    simpa using List.mem_rtakeWhile_imp hb
  have hsplit : bytes.rdropWhile (· == carriageReturn) ++
      List.replicate returns.length carriageReturn = bytes := by
    rw [← hreturns]
    exact List.rdropWhile_append_rtakeWhile
  have htext : Utf8.decodeLossy bytes =
      (lineText bytes).toList ++ List.replicate returns.length '\r' := by
    conv_lhs => rw [← hsplit, Utf8.decodeLossy_append_replicate (by decide)]
    rw [lineText, String.toList_ofList]
    rfl
  rw [htext, Text.trim_append_of_blank]
  intro c hc
  rw [List.eq_of_mem_replicate hc]
  rfl

/-- **Both ways to cut give the same lines**, but for blanks at their ends. -/
theorem lines_alike (bytes : List UInt8) :
    List.Forall₂ Line.Alike ({ bytes := bytes } : ByteSource).lines (textLines bytes) := by
  have hpart (part : List UInt8) :
      Line.Alike (lineText part) (String.ofList (Utf8.decodeLossy part)) := by
    rw [Line.Alike, trim_lineText, String.toList_ofList]
  have hended (part : List UInt8) :
      Line.Alike (lineText part) (String.ofList (Text.dropReturn (Utf8.decodeLossy part))) := by
    rw [Line.Alike, trim_lineText, String.toList_ofList, Text.trim_dropReturn]
  simp only [lines, cut, newline, Option.isSome_none, Bool.false_or]
  rw [textLines, Text.lines_decodeLossy, List.map_append, List.map_append, List.map_map]
  refine List.rel_append ?_ ?_
  · rw [List.forall₂_map_left_iff, List.forall₂_map_right_iff]
    exact List.forall₂_same.mpr fun part _ => hended part
  · split
    · exact List.Forall₂.nil
    · exact List.Forall₂.cons (hpart _) List.Forall₂.nil

/-- **Reading bytes line by line gives the same as reading the lines of their text**: the same
image or the same error, and the same recovery. -/
theorem recover_eq_textLines (bytes : List UInt8) :
    (∀ options : ListingOptions, ({ bytes := bytes } : ByteSource).reconstruct options =
      NameRecovery.reconstruct options (textLines bytes)) ∧
    ∀ options : Options, ({ bytes := bytes } : ByteSource).recover options =
      NameRecovery.recover options (textLines bytes) := by
  have hreconstruct (options : ListingOptions) :
      ({ bytes := bytes } : ByteSource).reconstruct options =
        NameRecovery.reconstruct options (textLines bytes) := by
    rw [← reconstruct_alike (lines_alike bytes), reconstruct, NameRecovery.reconstruct]
    cases Reconstruction.feed options {} ({ bytes := bytes } : ByteSource).lines <;> rfl
  refine ⟨hreconstruct, fun options => ?_⟩
  rw [recover, hreconstruct]
  rfl

end ByteSource

end NameRecovery
