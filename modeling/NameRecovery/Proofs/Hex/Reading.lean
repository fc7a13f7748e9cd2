import Mathlib.Data.List.Induction
import Mathlib.Data.Nat.Digits.Defs
import NameRecovery.Proofs.Hex.Decoding

/-!
# Which texts stand for numbers, and which for bytes

A text stands for a number when it is a row of digits, one at least, and the number is the sum of
their values, where the last digit counts once, the one before it sixteen times, and so on. A text
spells bytes when it is their written form with letters of either case. This file proves that
reading a text finds exactly the number it stands for, and exactly the bytes it spells.

## Main definitions

* `Denotes` : a text that stands for a number.
* `Unmarked` : what is left of a text without one mark.

## Main results

* `value?_eq_some_iff` : the number that a text stands for.
* `Denotes.lt_pow` : a bound for it, from the number of digits.
* `denotes_numeral` : the numeral of a number stands for it.
* `decode_eq_ok_iff` : the bytes that a text spells.
* `unmarked_dropMark` : dropping the mark.
-/

namespace NameRecovery.Hex

variable {c : Char} {cs : List Char} {n : Nat} {bytes : List UInt8}

/-! ### Numbers -/

/-- A text that stands for a number: one digit at least, nothing but digits, and the number is the
sum of their values, each times the power of sixteen of its place from the right. -/
structure Denotes (cs : List Char) (n : Nat) : Prop where
  ne_nil : cs ≠ []
  isDigit_of_mem : ∀ c ∈ cs, isDigit c = true
  sum_eq : Nat.ofDigits 16 (cs.reverse.filterMap digit?) = n

/-- One more digit at the end. -/
theorem value_concat (cs : List Char) (c : Char) :
    value (cs ++ [c]) = value cs * 16 + (digit? c).getD 0 := by
  simp only [value, List.foldl_append, List.foldl_cons, List.foldl_nil]

/-- The value of a row of digits is the sum over its places. -/
theorem value_eq_ofDigits (h : ∀ c ∈ cs, isDigit c = true) :
    value cs = Nat.ofDigits 16 (cs.reverse.filterMap digit?) := by
  induction cs using List.reverseRecOn with
  | nil => rfl
  | append_singleton rest c ih =>
    obtain ⟨d, hd⟩ := Option.isSome_iff_exists.mp (h c (by simp))
    have hrest := ih fun x hx => h x (List.mem_append_left _ hx)
    rw [value_concat, hrest, List.reverse_concat, List.filterMap_cons_some hd, Nat.ofDigits_cons,
      hd, Option.getD_some]
    omega

/-- **The number that a text stands for** is the value that is read. -/
theorem value?_eq_some_iff : value? cs = some n ↔ Denotes cs n := by
  have hrow : (!cs.isEmpty && cs.all isDigit) = true ↔
      cs ≠ [] ∧ ∀ c ∈ cs, isDigit c = true := by
    simp
  rw [value?]
  constructor
  · intro h
    split_ifs at h with hcs
    obtain ⟨hne, hdigits⟩ := hrow.mp hcs
    exact ⟨hne, hdigits, (value_eq_ofDigits hdigits).symm.trans (Option.some.inj h)⟩
  · rintro ⟨hne, hdigits, hsum⟩
    rw [if_pos (hrow.mpr ⟨hne, hdigits⟩), value_eq_ofDigits hdigits, hsum]

/-- Zeros in front of digits do not count. -/
example : value? "00fF".toList = some 255 := by decide

/-- A text with a character that is no digit stands for no number. -/
theorem value?_eq_none (hc : c ∈ cs) (h : isDigit c = false) : value? cs = none := by
  by_contra hne
  obtain ⟨n, hn⟩ := Option.ne_none_iff_exists'.mp hne
  have hdigit := (value?_eq_some_iff.mp hn).isDigit_of_mem c hc
  rw [h] at hdigit
  cases hdigit

/-- `k` digits stand for a number below `16 ^ k`. -/
theorem Denotes.lt_pow (h : Denotes cs n) : n < 16 ^ cs.length := by
  have hdigits : ∀ d ∈ cs.reverse.filterMap digit?, d < 16 := by
    intro d hd
    obtain ⟨c, -, hc⟩ := List.mem_filterMap.mp hd
    exact (eitherCase_of_digit? hc).1
  have hlength : (cs.reverse.filterMap digit?).length ≤ cs.length := by
    simpa using List.length_filterMap_le digit? cs.reverse
  calc n = Nat.ofDigits 16 (cs.reverse.filterMap digit?) := h.sum_eq.symm
    _ < 16 ^ (cs.reverse.filterMap digit?).length :=
      Nat.ofDigits_lt_base_pow_length (by decide) hdigits
    _ ≤ 16 ^ cs.length := Nat.pow_le_pow_right (by decide) hlength

/-- **The numeral of a number** stands for it. -/
theorem denotes_numeral (n : Nat) : Denotes (numeral n) n := by
  obtain ⟨hne, hall, hvalue⟩ := numeral_spec n
  have hdigits := List.all_eq_true.mp hall
  exact ⟨hne, hdigits, (value_eq_ofDigits hdigits).symm.trans hvalue⟩

/-! ### Bytes -/

/-- A text that can be decoded is made of digits, and they are even in number. -/
theorem isDigit_of_decode_eq_ok (h : decode (Utf8.encode cs) = .ok bytes) :
    (∀ c ∈ cs, isDigit c = true) ∧ 2 ∣ cs.length := by
  have heven : 2 ∣ (Utf8.encode cs).length := by
    by_contra hodd
    cases h.symm.trans (decode_of_odd hodd)
  have hdigits : ∀ c ∈ cs, isDigit c = true := by
    intro c hc
    by_contra hdigit
    obtain ⟨index, byte, hfirst⟩ :=
      exists_firstInvalid (exists_invalid_encode hc (Bool.not_eq_true _ ▸ hdigit))
    cases h.symm.trans (hfirst.decode_eq heven)
  have hlength : Utf8.size cs = cs.length :=
    Utf8.size_of_ascii fun c hc => toNat_lt_of_isDigit (hdigits c hc)
  rw [Utf8.length_encode, hlength] at heven
  exact ⟨hdigits, heven⟩

/-- **The bytes that a text spells** are the bytes that are decoded. -/
theorem decode_eq_ok_iff : decode (Utf8.encode cs) = .ok bytes ↔ Spells (encode bytes) cs := by
  constructor
  · intro h
    obtain ⟨hdigits, heven⟩ := isDigit_of_decode_eq_ok h
    obtain ⟨bytes', hspells, -⟩ := exists_spells hdigits heven
    obtain rfl : bytes = bytes' := Except.ok.inj (h.symm.trans hspells.decode)
    exact hspells
  · exact Spells.decode

/-! ### Marks -/

/-- What is left of a text without one mark `0x` or `0X` at its beginning. -/
inductive Unmarked : List Char → List Char → Prop
  | marked {x : Char} (rest : List Char) (hx : x = 'x' ∨ x = 'X') : Unmarked ('0' :: x :: rest) rest
  | plain (cs : List Char) (hno : ∀ x rest, cs = '0' :: x :: rest → x ≠ 'x' ∧ x ≠ 'X') :
    Unmarked cs cs

/-- **Dropping the mark** drops one mark, if there is one, and nothing else. -/
theorem unmarked_dropMark (cs : List Char) : Unmarked cs (dropMark cs) := by
  unfold dropMark
  split
  · exact .marked _ (Or.inl rfl)
  · exact .marked _ (Or.inr rfl)
  · next hlower hupper =>
    refine .plain _ fun x rest hcs => ⟨?_, ?_⟩
    · rintro rfl
      exact hlower rest hcs
    · rintro rfl
      exact hupper rest hcs

/-- A second mark stays. -/
example : dropMark "0x0X10".toList = "0X10".toList := by decide

end NameRecovery.Hex
