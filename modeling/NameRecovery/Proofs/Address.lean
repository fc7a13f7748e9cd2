import NameRecovery.Address
import NameRecovery.Proofs.Hex.Reading
import NameRecovery.Proofs.Text.Blank

/-!
# Reading addresses

A row of digits names an address when it stands for a number below `2 ^ 64`; zeros in front do not
count, however many there are. What a user types may have blanks around it, one mark, and one plus
sign before the digits. Every address is read back from its written form.

## Main results

* `Address.ofNat?_eq_some_iff`, `Address.ofNat?_eq_none_iff` : which numbers are addresses.
* `Address.map_toNat_ofDigits?` : which texts name an address.
* `Address.map_toNat_parse?` : which texts are read as typed addresses.
* `Address.parse?_text` : a written address is read back.
* `Address.text_injective` : different addresses are written differently.
-/

namespace NameRecovery

/-- The written form begins with a mark and goes on with the numeral. -/
theorem Hex.toList_text (n : Nat) : (text n).toList = '0' :: 'x' :: numeral n := by
  simp [text]

/-- The mark and the digits of a number are no blanks. -/
theorem Hex.isBlank_of_mem_text {n : Nat} {c : Char} (hc : c ∈ (text n).toList) :
    Text.isBlank c = false := by
  rw [toList_text] at hc
  rcases List.mem_cons.mp hc with rfl | hc
  · rfl
  · rcases List.mem_cons.mp hc with rfl | hdigit
    · rfl
    · exact isBlank_of_isDigit (List.all_eq_true.mp (numeral_spec n).2.1 c hdigit)

namespace Address

variable {n : Nat} {a : Address} {cs : List Char} {s : String}

/-! ### Numbers -/

theorem ofNat?_eq_some_iff : ofNat? n = some a ↔ a.toNat = n := by
  rw [ofNat?]
  constructor
  · intro h
    split at h
    · rw [← Option.some.inj h]
    · cases h
  · rintro rfl
    rw [dif_pos a.toNat_lt]

theorem ofNat?_eq_none_iff : ofNat? n = none ↔ 0x10000000000000000 ≤ n := by
  rw [ofNat?]
  split
  · simp only [reduceCtorEq, false_iff]
    omega
  · simp only [true_iff]
    omega

/-! ### Rows of digits -/

theorem ofDigits?_eq_some_iff : ofDigits? cs = some a ↔ Hex.Denotes cs a.toNat := by
  simp only [ofDigits?, Option.bind_eq_some_iff, ofNat?_eq_some_iff, Hex.value?_eq_some_iff,
    exists_eq_right']

/-- **A text names an address** when it stands for a number below `2 ^ 64`. -/
theorem map_toNat_ofDigits? :
    (ofDigits? cs).map toNat = some n ↔ Hex.Denotes cs n ∧ n < 0x10000000000000000 := by
  rw [Option.map_eq_some_iff]
  constructor
  · rintro ⟨a, ha, rfl⟩
    exact ⟨ofDigits?_eq_some_iff.mp ha, a.toNat_lt⟩
  · rintro ⟨hcs, hlt⟩
    exact ⟨⟨n, hlt⟩, ofDigits?_eq_some_iff.mpr hcs, rfl⟩

/-- A text with a character that is no digit names no address. -/
theorem ofDigits?_eq_none {c : Char} (hc : c ∈ cs) (h : Hex.isDigit c = false) :
    ofDigits? cs = none := by
  rw [ofDigits?, Hex.value?_eq_none hc h]
  rfl

/-! ### Typed addresses -/

/-- A plus sign is no digit, so one may be dropped but not a second one. -/
theorem ofDigits?_dropPlus :
    ofDigits? (dropPlus cs) = some a ↔
      ∃ ds, (cs = ds ∨ cs = '+' :: ds) ∧ Hex.Denotes ds a.toNat := by
  rw [ofDigits?_eq_some_iff]
  constructor
  · intro h
    refine ⟨dropPlus cs, ?_, h⟩
    unfold dropPlus
    split
    · exact Or.inr rfl
    · exact Or.inl rfl
  · rintro ⟨ds, rfl | rfl, h⟩
    · have hplus : dropPlus cs = cs := by
        unfold dropPlus
        split
        · cases h.isDigit_of_mem '+' List.mem_cons_self
        · rfl
      rwa [hplus]
    · exact h

/-- **A typed address** is, without the blanks around it and without one mark, a row of digits with
at most one plus sign before it that stands for a number below `2 ^ 64`. -/
theorem map_toNat_parse? :
    (parse? s).map toNat = some n ↔
      (∃ ds, (Hex.dropMark (Text.trim s.toList) = ds ∨
        Hex.dropMark (Text.trim s.toList) = '+' :: ds) ∧ Hex.Denotes ds n) ∧
      n < 0x10000000000000000 := by
  rw [Option.map_eq_some_iff]
  constructor
  · rintro ⟨a, ha, rfl⟩
    exact ⟨ofDigits?_dropPlus.mp ha, a.toNat_lt⟩
  · rintro ⟨hds, hlt⟩
    exact ⟨⟨n, hlt⟩, ofDigits?_dropPlus.mpr hds, rfl⟩

/-! ### Written addresses -/

/-- Nothing is trimmed from a written number. -/
theorem trim_text (n : Nat) : Text.trim (Hex.text n).toList = (Hex.text n).toList := by
  obtain ⟨front, last, hlist⟩ := (List.eq_nil_or_concat' (Hex.text n).toList).resolve_left
    (by simp [Hex.toList_text])
  have hlast : Text.isBlank last = false :=
    Hex.isBlank_of_mem_text (hlist ▸ List.mem_append_right _ List.mem_cons_self)
  have hleft : Text.trimLeft (Hex.text n).toList = (Hex.text n).toList := by
    rw [Hex.toList_text]
    exact Text.trimLeft_cons_of_not_blank rfl _
  rw [Text.trim, hleft, hlist, Text.trimRight_append_of_not_blank hlast]
  rfl

/-- **A written address is read back.** -/
theorem parse?_text (a : Address) : parse? a.text = some a := by
  have hdigits : Hex.dropMark (Text.trim a.text.toList) = Hex.numeral a.toNat := by
    rw [text, trim_text, Hex.toList_text]
    rfl
  rw [parse?, hdigits, ofDigits?_dropPlus]
  exact ⟨_, Or.inl rfl, Hex.denotes_numeral a.toNat⟩

/-- Different addresses are written differently. -/
theorem text_injective : Function.Injective text := by
  intro a b h
  have hread : parse? a.text = parse? b.text := congrArg parse? h
  rwa [parse?_text, parse?_text, Option.some.injEq] at hread

/-- One sign and one mark are dropped, the sign behind the mark. -/
example : parse? " 0X+00ff\n" = some ⟨0xff, by decide⟩ ∧ parse? "+0xff" = none := by
  decide

end Address

end NameRecovery
