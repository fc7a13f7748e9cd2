import NameRecovery.Listing.Dialect
import NameRecovery.Proofs.Address

/-!
# Address columns

A fixed-width column is cut after eight bytes, if a character ends there, and is read as a whole
otherwise. Both come to the same as reading its first eight characters: if these are of the ASCII
range, they are its first eight bytes, and if not, what is read has a character that is no digit
either way. A column with colons is read without them, at any length.

## Main results

* `Dialect.parseAddress?_fixedWidth` : a fixed-width column is read by its first eight characters.
* `Dialect.address_column_exact` : what both dialects read, for every column.
-/

namespace NameRecovery.Dialect

variable {field digits : List Char} {a : Address}

/-! ### The part that is read -/

/-- Eight characters of the ASCII range are eight bytes. -/
theorem significant_of_ascii (hascii : ∀ c ∈ field.take fixedDigits, c.toNat < 0x80) :
    fixedWidth.significant field = field.take fixedDigits := by
  rw [significant]
  by_cases hlength : fixedDigits ≤ field.length
  · have hsize : Utf8.size (field.take fixedDigits) = fixedDigits := by
      rw [Utf8.size_of_ascii hascii, List.length_take_of_le hlength]
    have hcut := Utf8.take?_eq_some_iff.mpr ⟨List.take_prefix fixedDigits field, hsize⟩
    rw [hcut, Option.getD_some]
  · have hwhole : field.take fixedDigits = field := List.take_of_length_le (by omega)
    rw [hwhole] at hascii ⊢
    cases hcut : Utf8.take? fixedDigits field with
    | none => rfl
    | some front =>
      -- the column has fewer than eight bytes
      obtain ⟨hinitial, hsize⟩ := Utf8.take?_eq_some_iff.mp hcut
      have hfront : Utf8.size front = front.length :=
        Utf8.size_of_ascii fun c hc => hascii c (hinitial.subset hc)
      have hle := hinitial.length_le
      omega

/-- A character outside the ASCII range among the first eight is among those that are read. -/
theorem exists_mem_significant (h : ∃ c ∈ field.take fixedDigits, 0x80 ≤ c.toNat) :
    ∃ c ∈ fixedWidth.significant field, 0x80 ≤ c.toNat := by
  obtain ⟨c, hc, hlarge⟩ := h
  rw [significant]
  cases hcut : Utf8.take? fixedDigits field with
  | none => exact ⟨c, List.mem_of_mem_take hc, hlarge⟩
  | some front =>
    obtain ⟨hinitial, hsize⟩ := Utf8.take?_eq_some_iff.mp hcut
    by_contra hno
    -- otherwise the eight bytes are the first eight characters
    have hascii : ∀ x ∈ front, x.toNat < 0x80 := fun x hx =>
      Nat.lt_of_not_le fun hle => hno ⟨x, hx, hle⟩
    rw [Utf8.size_of_ascii hascii] at hsize
    have hfront : field.take fixedDigits = front :=
      hsize ▸ (List.prefix_iff_eq_take.mp hinitial).symm
    exact Nat.not_lt_of_le hlarge (hascii c (hfront ▸ hc))

/-! ### What is read -/

/-- **A fixed-width column is read by its first eight characters**, also where the eighth byte does
not end a character. -/
theorem parseAddress?_fixedWidth (field : List Char) :
    fixedWidth.parseAddress? field = Address.ofDigits? (field.take fixedDigits) := by
  rw [parseAddress?]
  by_cases hascii : ∀ c ∈ field.take fixedDigits, c.toNat < 0x80
  · rw [significant_of_ascii hascii]
  · simp only [not_forall, Nat.not_lt] at hascii
    have hnone {cs : List Char} (h : ∃ c ∈ cs, 0x80 ≤ c.toNat) : Address.ofDigits? cs = none := by
      obtain ⟨c, hc, hlarge⟩ := h
      refine Address.ofDigits?_eq_none hc (Bool.eq_false_iff.mpr fun hdigit => ?_)
      exact Nat.not_lt_of_le hlarge (Hex.toNat_lt_of_isDigit hdigit)
    obtain ⟨c, hc, hlarge⟩ := hascii
    rw [hnone ⟨c, hc, hlarge⟩, hnone (exists_mem_significant ⟨c, hc, hlarge⟩)]

/-- A column with colons is read without them. -/
theorem parseAddress?_colonStripped (field : List Char) :
    colonStripped.parseAddress? field = Address.ofDigits? (field.filter (· ≠ ':')) :=
  rfl

/-- A number that is written without colons, in eight digits where the width is fixed, is read
back. -/
theorem parseAddress?_of_spellsNumber {d : Dialect} (haddress : Hex.SpellsNumber a.toNat digits)
    (hwidth : d = .fixedWidth → digits.length = 8) : d.parseAddress? digits = some a := by
  have hdigits : Address.ofDigits? digits = some a := by
    rw [Address.ofDigits?, haddress.value?]
    exact Address.ofNat?_eq_some_iff.mpr rfl
  cases d with
  | fixedWidth =>
    rwa [parseAddress?_fixedWidth, fixedDigits, List.take_of_length_le (Nat.le_of_eq (hwidth rfl))]
  | colonStripped =>
    have hfilter : digits.filter (· ≠ ':') = digits := by
      refine List.filter_eq_self.mpr fun c hc => decide_eq_true ?_
      rintro rfl
      exact absurd (haddress.isDigit_of_mem hc) (by decide)
    rwa [parseAddress?_colonStripped, hfilter]

/-- **What an address column says.** For every column, of the fixed width the number that is read is
the one that its first eight characters stand for; it is below `2 ^ 32`, and nothing behind the
eighth character matters. With colons the number that is read is the one that the column stands for
without its colons, if this number is below `2 ^ 64`, and nothing is read if it is not. A column of
at most eight characters without a colon is read in the same way by both dialects. -/
theorem address_column_exact (field : List Char) :
    (∀ n, (fixedWidth.parseAddress? field).map Address.toNat = some n ↔
      Hex.Denotes (field.take 8) n) ∧
    (∀ n, Hex.Denotes (field.take 8) n → n < 0x100000000) ∧
    (∀ tail, 8 ≤ field.length →
      fixedWidth.parseAddress? (field ++ tail) = fixedWidth.parseAddress? field) ∧
    (∀ n, (colonStripped.parseAddress? field).map Address.toNat = some n ↔
      Hex.Denotes (field.filter (· ≠ ':')) n ∧ n < 0x10000000000000000) ∧
    (field.length ≤ 8 → ':' ∉ field →
      fixedWidth.parseAddress? field = colonStripped.parseAddress? field) := by
  have hbound (n : Nat) (h : Hex.Denotes (field.take 8) n) : n < 0x100000000 :=
    calc n < 16 ^ (field.take 8).length := h.lt_pow
      _ ≤ 16 ^ 8 := Nat.pow_le_pow_right (by decide) (List.length_take_le 8 field)
      _ = 0x100000000 := by decide
  refine ⟨fun n => ?_, hbound, fun tail hlength => ?_, fun n => ?_, fun hlength hcolon => ?_⟩
  · rw [parseAddress?_fixedWidth, fixedDigits, Address.map_toNat_ofDigits?]
    refine ⟨fun h => h.1, fun h => ⟨h, ?_⟩⟩
    have := hbound n h
    omega
  · rw [parseAddress?_fixedWidth, parseAddress?_fixedWidth, fixedDigits,
      List.take_append_of_le_length hlength]
  · rw [parseAddress?_colonStripped, Address.map_toNat_ofDigits?]
  · have hfilter : field.filter (· ≠ ':') = field :=
      List.filter_eq_self.mpr fun c hc => decide_eq_true (ne_of_mem_of_not_mem hc hcolon)
    rw [parseAddress?_fixedWidth, parseAddress?_colonStripped, hfilter, fixedDigits,
      List.take_of_length_le hlength]

/-- A long column: a wide character and a colon stand behind the eighth character. -/
def longColumn : List Char :=
  "ffc00100dé:ad".toList

/-- A wide character behind the eighth one does not matter, and as the eighth one it leaves no
address. Both dialects read a short column without colons, however few digits it has. -/
theorem address_column_longColumn :
    fixedWidth.parseAddress? longColumn = some ⟨0xffc00100, by decide⟩ ∧
      fixedWidth.parseAddress? (longColumn ++ [':']) = some ⟨0xffc00100, by decide⟩ ∧
      fixedWidth.parseAddress? "1234567é".toList = none ∧
      colonStripped.parseAddress? "0000:ffc0:0100".toList = some ⟨0xffc00100, by decide⟩ ∧
      fixedWidth.parseAddress? "1000".toList = colonStripped.parseAddress? "1000".toList := by
  have hlong : fixedWidth.parseAddress? longColumn = some ⟨0xffc00100, by decide⟩ := by decide
  obtain ⟨-, -, htail, -, -⟩ := address_column_exact longColumn
  obtain ⟨-, -, -, -, hagree⟩ := address_column_exact "1000".toList
  exact ⟨hlong, (htail [':'] (by decide)).trans hlong, by decide, by decide,
    hagree (by decide) (by decide)⟩

end NameRecovery.Dialect
