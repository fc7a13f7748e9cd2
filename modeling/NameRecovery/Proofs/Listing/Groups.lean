import NameRecovery.Proofs.Hex.Decoding
import NameRecovery.Proofs.Listing.Columns

/-!
# The byte groups of a code column

The groups of a code column are its first word, whatever it is, and the longest run of further words
that are as many bytes long and made of digits. All groups together are decoded: they spell bytes
exactly when the first one is made of digits and their bytes are even in number. If not, an odd
number is reported first, and else the first byte that is no digit, which stands in the first group,
because the other groups are made of digits.

## Main definitions

* `Line.GroupLike` : a word that may follow the first group.
* `Line.LeadingGroups` : the first word and the longest run of such words.

## Main results

* `Line.exists_leadingGroups` : the groups of a code column.
* `Line.LeadingGroups.decodeGroups_of_digits`, `Line.LeadingGroups.decodeGroups_of_odd`,
  `Line.LeadingGroups.decodeGroups_of_invalid` : what the groups spell, or why they spell nothing.
* `Line.groups_exact` : all of this for every line that is decoded.
-/

namespace NameRecovery.Line

variable {words run : List (List Char)} {first code : List Char}

/-! ### The longest run -/

/-- A word that may follow the first group: as many bytes long, and made of digits. -/
def GroupLike (first w : List Char) : Prop :=
  Utf8.size w = Utf8.size first ∧ ∀ c ∈ w, Hex.isDigit c = true

/-- The first of some words, and the longest run of further words that may follow it. -/
structure LeadingGroups (words : List (List Char)) (first : List Char)
    (run : List (List Char)) : Prop where
  first_ne_nil : first ≠ []
  groupLike : ∀ w ∈ run, GroupLike first w
  longest : ∃ rest, words = first :: (run ++ rest) ∧
    ∀ w, rest.head? = some w → ¬ GroupLike first w

theorem groupLike_iff {w : List Char} :
    (Utf8.size w == Utf8.size first && w.all Hex.isDigit) = true ↔ GroupLike first w := by
  rw [Bool.and_eq_true, beq_iff_eq, List.all_eq_true]
  rfl

/-- **The groups of a code column**, unless it has no words. -/
theorem exists_leadingGroups (h : groups code ≠ []) :
    ∃ first run, groups code = first :: run ∧
      LeadingGroups (Text.words (code.takeWhile (· ≠ '\t'))) first run := by
  cases hwords : Text.words (code.takeWhile (· ≠ '\t')) with
  | nil =>
    rw [groups, hwords] at h
    exact absurd rfl h
  | cons first rest =>
    have hfirst : first ∈ Text.words (code.takeWhile (· ≠ '\t')) := hwords ▸ List.mem_cons_self
    refine ⟨first, _, by rw [groups, hwords], Text.ne_nil_of_mem_words hfirst, fun w hw => ?_, _,
      congrArg (List.cons first) List.takeWhile_append_dropWhile.symm, fun w hw hlike => ?_⟩
    · have hlike := List.mem_takeWhile_imp hw
      exact groupLike_iff.mp hlike
    · have hnot := Text.eq_false_of_head?_dropWhile hw
      cases (groupLike_iff.mpr hlike).symm.trans hnot

/-! ### What the groups spell -/

/-- Groups spell no bytes for the reason that their characters in a row do not. -/
theorem decodeGroups_eq_error {n : Nat} {groups : List (List Char)} {cause : Hex.DecodeError}
    (h : Hex.decode (Utf8.encode groups.flatten) = .error cause) :
    decodeGroups n groups =
      .error (.decode n (String.ofList (List.intercalate [' '] groups)) cause) := by
  rw [decodeGroups, h]

namespace LeadingGroups

/-- All groups have as many bytes as the first one. -/
theorem size_flatten (h : LeadingGroups words first run) :
    Utf8.size (first :: run).flatten = (run.length + 1) * Utf8.size first := by
  have hrun : Utf8.size run.flatten = run.length * Utf8.size first := by
    have hlike := h.groupLike
    clear h
    induction run with
    | nil => simp [Utf8.size]
    | cons w rest ih =>
      obtain ⟨hw, hrest⟩ := List.forall_mem_cons.mp hlike
      rw [List.flatten_cons, Utf8.size_append, ih hrest, hw.1, List.length_cons, Nat.succ_mul,
        Nat.add_comm]
  rw [List.flatten_cons, Utf8.size_append, hrun, Nat.succ_mul, Nat.add_comm]

theorem length_encode_flatten (h : LeadingGroups words first run) :
    (Utf8.encode (first :: run).flatten).length = (run.length + 1) * Utf8.size first := by
  rw [Utf8.length_encode, h.size_flatten]

/-- **Groups of digits spell bytes** if their digits are even in number. -/
theorem decodeGroups_of_digits (h : LeadingGroups words first run)
    (hfirst : ∀ c ∈ first, Hex.isDigit c = true)
    (heven : 2 ∣ (run.length + 1) * Utf8.size first) (n : Nat) :
    ∃ bytes, decodeGroups n (first :: run) = .ok bytes ∧
      2 * bytes.length = (run.length + 1) * Utf8.size first ∧
      Hex.encode bytes = (first :: run).flatten.map Char.toLower := by
  have hdigits : ∀ c ∈ (first :: run).flatten, Hex.isDigit c = true := by
    intro c hc
    obtain ⟨w, hw, hcw⟩ := List.mem_flatten.mp hc
    rcases List.mem_cons.mp hw with rfl | hw
    · exact hfirst c hcw
    · exact (h.groupLike w hw).2 c hcw
  have hlength : (first :: run).flatten.length = (run.length + 1) * Utf8.size first := by
    rw [← h.size_flatten, Utf8.size_of_ascii fun c hc => Hex.toNat_lt_of_isDigit (hdigits c hc)]
  obtain ⟨bytes, hdecode, hbytes, hencode⟩ :=
    Hex.exists_decode_of_isDigit hdigits (hlength ▸ heven)
  exact ⟨bytes, decodeGroups_eq_ok_iff.mpr hdecode, hbytes.trans hlength, hencode⟩

/-- **An odd number of bytes** is reported first. -/
theorem decodeGroups_of_odd (h : LeadingGroups words first run)
    (hodd : ¬ 2 ∣ (run.length + 1) * Utf8.size first) (n : Nat) :
    decodeGroups n (first :: run) =
      .error (.decode n (String.ofList (List.intercalate [' '] (first :: run))) .oddLength) :=
  decodeGroups_eq_error (Hex.decode_of_odd (h.length_encode_flatten ▸ hodd))

/-- **The first byte that is no digit** is reported else, and it stands in the first group. -/
theorem decodeGroups_of_invalid (h : LeadingGroups words first run)
    (hfirst : ¬ ∀ c ∈ first, Hex.isDigit c = true)
    (heven : 2 ∣ (run.length + 1) * Utf8.size first) (n : Nat) :
    ∃ index byte, Hex.FirstInvalid (Utf8.encode (first :: run).flatten) index byte ∧
      index < Utf8.size first ∧
      decodeGroups n (first :: run) =
        .error (.decode n (String.ofList (List.intercalate [' '] (first :: run)))
          (.invalidByte byte index)) := by
  have hinvalid : ∃ b ∈ Utf8.encode first, Hex.byteDigit? b = none := by
    simp only [not_forall, Bool.not_eq_true] at hfirst
    obtain ⟨c, hc, hdigit⟩ := hfirst
    exact Hex.exists_invalid_encode hc hdigit
  have hencode : Utf8.encode (first :: run).flatten =
      Utf8.encode first ++ Utf8.encode run.flatten := by
    rw [List.flatten_cons, Utf8.encode_append]
  have hinvalid' : ∃ b ∈ Utf8.encode (first :: run).flatten, Hex.byteDigit? b = none := by
    obtain ⟨b, hb, hnone⟩ := hinvalid
    exact ⟨b, hencode ▸ List.mem_append_left _ hb, hnone⟩
  obtain ⟨index, byte, hindex⟩ := Hex.exists_firstInvalid hinvalid'
  have hlt : index < (Utf8.encode first).length := (hencode ▸ hindex).lt_length hinvalid
  rw [Utf8.length_encode] at hlt
  exact ⟨index, byte, hindex, hlt,
    decodeGroups_eq_error (hindex.decode_eq (h.length_encode_flatten ▸ heven))⟩

/-- Groups spell bytes exactly when the first one is made of digits and their bytes are even in
number. -/
theorem exists_decodeGroups_iff (h : LeadingGroups words first run) (n : Nat) :
    (∃ bytes, decodeGroups n (first :: run) = .ok bytes) ↔
      (∀ c ∈ first, Hex.isDigit c = true) ∧ 2 ∣ (run.length + 1) * Utf8.size first := by
  constructor
  · rintro ⟨bytes, hbytes⟩
    have heven : 2 ∣ (run.length + 1) * Utf8.size first := by
      by_contra hodd
      cases hbytes.symm.trans (h.decodeGroups_of_odd hodd n)
    refine ⟨?_, heven⟩
    by_contra hfirst
    obtain ⟨index, byte, -, -, herror⟩ := h.decodeGroups_of_invalid hfirst heven n
    cases hbytes.symm.trans herror
  · rintro ⟨hfirst, heven⟩
    obtain ⟨bytes, hbytes, -⟩ := h.decodeGroups_of_digits hfirst heven n
    exact ⟨bytes, hbytes⟩

/-- Groups that spell no bytes are reported in a row, with a single space between two of them. -/
theorem exists_decodeGroups_error (h : LeadingGroups words first run)
    (hnot : ¬ ((∀ c ∈ first, Hex.isDigit c = true) ∧ 2 ∣ (run.length + 1) * Utf8.size first))
    (n : Nat) :
    ∃ cause, decodeGroups n (first :: run) =
        .error (.decode n (String.ofList (List.intercalate [' '] (first :: run))) cause) ∧
      (¬ 2 ∣ (run.length + 1) * Utf8.size first → cause = .oddLength) ∧
      (2 ∣ (run.length + 1) * Utf8.size first → ∃ index byte, cause = .invalidByte byte index ∧
        Hex.FirstInvalid (Utf8.encode (first :: run).flatten) index byte ∧
        index < Utf8.size first) := by
  by_cases heven : 2 ∣ (run.length + 1) * Utf8.size first
  · have hfirst : ¬ ∀ c ∈ first, Hex.isDigit c = true := fun hfirst => hnot ⟨hfirst, heven⟩
    obtain ⟨index, byte, hindex, hlt, herror⟩ := h.decodeGroups_of_invalid hfirst heven n
    exact ⟨_, herror, fun hodd => absurd heven hodd, fun _ => ⟨index, byte, rfl, hindex, hlt⟩⟩
  · exact ⟨_, h.decodeGroups_of_odd heven n, fun _ => rfl, fun h' => absurd h' heven⟩

end LeadingGroups

/-! ### Lines that are decoded -/

/-- **What the code column of a line spells.** For every line whose code column is decoded, with
both dialects and every line number, the groups are the first word of the code before its first tab,
and the longest run of further words that are as many bytes long and made of digits. The line gives
bytes exactly when the first group is made of digits and the bytes of all groups together are even
in number. Then it gives them at its address, half as many as the groups have digits, and written in
lower case they are the groups in a row. Otherwise it gives a decode error with the line number, and
the groups with a single space between two of them. An odd number of bytes is reported first; else
the first byte of the groups that is no digit is reported with its position, and it stands in the
first group. -/
theorem groups_exact {d : Dialect} {s : String} {a : Address} {code : List Char}
    (h : ReachesDecoding d s a code) (n : Nat) :
    ∃ first run, groups code = first :: run ∧
      LeadingGroups (Text.words (code.takeWhile (· ≠ '\t'))) first run ∧
      let total := (run.length + 1) * Utf8.size first
      (Utf8.encode (first :: run).flatten).length = total ∧
      ((∃ bytes, classify d n s = .ok (.data a bytes)) ↔
        (∀ c ∈ first, Hex.isDigit c = true) ∧ 2 ∣ total) ∧
      (∀ a' bytes, classify d n s = .ok (.data a' bytes) →
        a' = a ∧ 2 * bytes.length = total ∧
          Hex.encode bytes = (first :: run).flatten.map Char.toLower) ∧
      (¬ ((∀ c ∈ first, Hex.isDigit c = true) ∧ 2 ∣ total) →
        ∃ cause, classify d n s =
            .error (.decode n (String.ofList (List.intercalate [' '] (first :: run))) cause) ∧
          (¬ 2 ∣ total → cause = .oddLength) ∧
          (2 ∣ total → ∃ index byte, cause = .invalidByte byte index ∧
            Hex.FirstInvalid (Utf8.encode (first :: run).flatten) index byte ∧
            index < Utf8.size first)) := by
  obtain ⟨first, run, hgroups, hlead⟩ := exists_leadingGroups h.groups_ne_nil
  have hdata {a' : Address} {bytes : List UInt8} : classify d n s = .ok (.data a' bytes) ↔
      a' = a ∧ decodeGroups n (first :: run) = .ok bytes := by
    rw [← hgroups]
    exact h.classify_eq_data_iff
  refine ⟨first, run, hgroups, hlead, hlead.length_encode_flatten, ?_, fun a' bytes hbytes => ?_,
    fun hnot => ?_⟩
  · rw [← hlead.exists_decodeGroups_iff n]
    simp only [hdata, true_and]
  · obtain ⟨rfl, hdecode⟩ := hdata.mp hbytes
    obtain ⟨hfirst, heven⟩ := (hlead.exists_decodeGroups_iff n).mp ⟨bytes, hdecode⟩
    obtain ⟨decoded, hdecoded, hlength, hencode⟩ := hlead.decodeGroups_of_digits hfirst heven n
    obtain rfl := Except.ok.inj (hdecode.symm.trans hdecoded)
    exact ⟨rfl, hlength, hencode⟩
  · obtain ⟨cause, herror, hodd, hinvalid⟩ := hlead.exists_decodeGroups_error hnot n
    exact ⟨cause, h.classify_of_error (hgroups ▸ herror), hodd, hinvalid⟩

/-- A line whose first group has a character that is no digit, and is as many bytes long as the word
after it. -/
def accentedLine : String :=
  "1000: é7 abc nop"

/-- The groups have three bytes each, and the first byte of the first group is reported. -/
theorem groups_accentedLine :
    ReachesDecoding .colonStripped accentedLine ⟨0x1000, by decide⟩ "é7 abc nop".toList ∧
      classify .colonStripped 5 accentedLine =
        .error (.decode 5 "é7 abc" (.invalidByte 0xc3 0)) := by
  have hsplit : split? (Text.trim accentedLine.toList) =
      some ("1000".toList, "é7 abc nop".toList) := by decide
  obtain ⟨gap, hcolumns⟩ := split?_eq_some_iff.mp hsplit
  have hmark : ¬ outOfBoundsMark.toList <:+: "é7 abc nop".toList := by
    rw [← Text.holds_iff_isInfix]
    decide
  have hdecode : ReachesDecoding .colonStripped accentedLine ⟨0x1000, by decide⟩
      "é7 abc nop".toList := ⟨⟨_, gap, hcolumns, by decide⟩, hmark⟩
  obtain ⟨first, run, hgroups, -, -, -, -, herror⟩ := groups_exact hdecode 5
  obtain ⟨rfl, rfl⟩ : "é7".toList = first ∧ ["abc".toList] = run :=
    List.cons.inj (Eq.trans (by decide) hgroups)
  obtain ⟨cause, hclassify, -, heven⟩ := herror fun h => absurd (h.1 'é') (by decide)
  obtain ⟨index, byte, rfl, hindex, -⟩ := heven (by decide)
  obtain rfl : 0 = index := by
    by_contra hne
    exact hindex.valid 0 (by omega) 0xc3 (by decide) (by decide)
  obtain rfl : 0xc3 = byte := Option.some.inj hindex.getElem?_eq
  exact ⟨hdecode, hclassify⟩

end NameRecovery.Line
