import NameRecovery.Proofs.Address
import NameRecovery.Proofs.Listing.Groups
import NameRecovery.Word

/-!
# Addresses and words as a user types them

What a user types counts without the blanks around it and without one mark. An address may then have
one plus sign and any number of digits; a word has exactly eight digits and no sign. The word that
is read is the four bytes that the digits spell, first byte first, and this is what a line of a
listing gives if these digits are its only group.

## Main definitions

* `typedPart` : the part of a typed text that counts.

## Main results

* `Word.parse?_eq_some_iff` : the word that is read.
* `Word.exists_parse?_iff` : which texts are words.
* `Word.parse?_eq_some_iff_classify` : a typed word and a line with the same digits.
* `typed_exact` : typed addresses and words, for every text.
-/

namespace NameRecovery

/-- The part of a typed text that counts: no blanks around it, and without one mark. -/
def typedPart (s : String) : List Char :=
  Hex.dropMark (Text.trim s.toList)

namespace Word

variable {w : Word} {s : String} {bytes : List UInt8}

theorem ofBytes?_eq_some_iff : ofBytes? bytes = some w ↔ bytes = w.bytes := by
  constructor
  · intro h
    unfold ofBytes? at h
    split at h
    · obtain rfl := Option.some.inj h
      rfl
    · cases h
  · rintro rfl
    rfl

/-- Four bytes make a word. -/
theorem exists_eq_bytes (h : bytes.length = 4) : ∃ w : Word, bytes = w.bytes := by
  match bytes, h with
  | [b0, b1, b2, b3], _ => exact ⟨⟨b0, b1, b2, b3⟩, rfl⟩

theorem parse?_eq_some_iff_decode :
    parse? s = some w ↔ Hex.decode (Utf8.encode (typedPart s)) = .ok w.bytes := by
  rw [parse?, ← typedPart]
  cases Hex.decode (Utf8.encode (typedPart s)) with
  | ok bytes => rw [ofBytes?_eq_some_iff, Except.ok.injEq]
  | error cause => simp

/-- **The word that is read** is the one that the text spells. -/
theorem parse?_eq_some_iff :
    parse? s = some w ↔ Hex.Spells (Hex.encode w.bytes) (typedPart s) :=
  parse?_eq_some_iff_decode.trans Hex.decode_eq_ok_iff

/-- **A text is a word** when it has exactly eight characters, all of them digits. -/
theorem exists_parse?_iff :
    (∃ w, parse? s = some w) ↔
      (typedPart s).length = 8 ∧ ∀ c ∈ typedPart s, Hex.isDigit c = true := by
  constructor
  · rintro ⟨w, hw⟩
    have hspells := parse?_eq_some_iff.mp hw
    refine ⟨?_, fun c => hspells.isDigit_of_mem⟩
    rw [← hspells.length_eq, Hex.length_encode]
    rfl
  · rintro ⟨hlength, hdigits⟩
    have heven : 2 ∣ (typedPart s).length := by
      rw [hlength]
      decide
    obtain ⟨bytes, hdecode, hbytes, -⟩ := Hex.exists_decode_of_isDigit hdigits heven
    have hfour : bytes.length = 4 := by omega
    obtain ⟨w, rfl⟩ := exists_eq_bytes hfour
    exact ⟨w, parse?_eq_some_iff_decode.mpr hdecode⟩

/-- **A word and a line.** If the only group of a line is what a user types, then the line gives the
bytes of the typed word. -/
theorem parse?_eq_some_iff_classify {d : Dialect} {n : Nat} {line : String} {a : Address}
    {code : List Char} (h : Line.ReachesDecoding d line a code)
    (hgroups : Line.groups code = [typedPart s]) :
    parse? s = some w ↔ Line.classify d n line = .ok (.data a w.bytes) := by
  rw [h.classify_eq_data_iff, Line.decodeGroups_eq_ok_iff, hgroups, List.flatten_singleton,
    parse?_eq_some_iff_decode]
  exact ⟨fun hdecode => ⟨rfl, hdecode⟩, fun hdata => hdata.2⟩

end Word

/-- **What a user types.** For every text, what counts is the text without the blanks around it and
without one mark at its beginning. It is read as an address exactly when this part is a row of
digits, perhaps with one plus sign before it, that stands for a number below `2 ^ 64`, and this
number is the address. It is read as a word exactly when this part is made of exactly eight digits,
and the word is then the four bytes that they spell in the order in which they stand; a line of a
listing whose only group is this part gives the same bytes. Every address is read back from its
written form. -/
theorem typed_exact (s : String) :
    (∃ t, Text.IsTrimOf t s.toList ∧ Hex.Unmarked t (typedPart s)) ∧
    (∀ n, (Address.parse? s).map Address.toNat = some n ↔
      (∃ ds, (typedPart s = ds ∨ typedPart s = '+' :: ds) ∧ Hex.Denotes ds n) ∧
        n < 0x10000000000000000) ∧
    ((∃ w, Word.parse? s = some w) ↔
      (typedPart s).length = 8 ∧ ∀ c ∈ typedPart s, Hex.isDigit c = true) ∧
    (∀ w, Word.parse? s = some w ↔ Hex.Spells (Hex.encode w.bytes) (typedPart s)) ∧
    (∀ w d n line a code, Line.ReachesDecoding d line a code → Line.groups code = [typedPart s] →
      (Word.parse? s = some w ↔ Line.classify d n line = .ok (.data a w.bytes))) ∧
    (∀ a : Address, Address.parse? a.text = some a) := by
  have hpart : Hex.Unmarked (Text.trim s.toList) (typedPart s) := Hex.unmarked_dropMark _
  exact ⟨⟨_, Text.isTrimOf_trim s.toList, hpart⟩, fun n => Address.map_toNat_parse?,
    Word.exists_parse?_iff, fun w => Word.parse?_eq_some_iff,
    fun w d n line a code h hgroups => Word.parse?_eq_some_iff_classify h hgroups,
    Address.parse?_text⟩

/-- The word that a line shows, typed with a mark and blanks around it. -/
theorem typed_shownWord :
    Word.parse? " 0X4fFFFB82\n" = some ⟨0x4f, 0xff, 0xfb, 0x82⟩ ∧
      Line.classify .fixedWidth 1 "00001000: 4fFFFB82\tcror 31,31,31" =
        .ok (.data ⟨0x1000, by decide⟩ [0x4f, 0xff, 0xfb, 0x82]) := by
  have hword : Word.parse? " 0X4fFFFB82\n" = some ⟨0x4f, 0xff, 0xfb, 0x82⟩ := by decide
  have hsplit : Line.split? (Text.trim "00001000: 4fFFFB82\tcror 31,31,31".toList) =
      some ("00001000".toList, "4fFFFB82\tcror 31,31,31".toList) := by decide
  obtain ⟨gap, hcolumns⟩ := Line.split?_eq_some_iff.mp hsplit
  have hmark : ¬ Line.outOfBoundsMark.toList <:+: "4fFFFB82\tcror 31,31,31".toList := by
    rw [← Text.holds_iff_isInfix]
    decide
  have hdecode : Line.ReachesDecoding .fixedWidth "00001000: 4fFFFB82\tcror 31,31,31"
      ⟨0x1000, by decide⟩ "4fFFFB82\tcror 31,31,31".toList := ⟨⟨_, gap, hcolumns, by decide⟩, hmark⟩
  obtain ⟨-, -, -, -, hline, -⟩ := typed_exact " 0X4fFFFB82\n"
  exact ⟨hword, (hline _ _ _ _ _ _ hdecode (by decide)).mp hword⟩

end NameRecovery
