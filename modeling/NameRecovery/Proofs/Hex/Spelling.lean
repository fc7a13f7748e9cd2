import Mathlib.Data.List.Forall2
import NameRecovery.Hex.Bytes
import NameRecovery.Proofs.Text.Utf8
import NameRecovery.Text.Blank

/-!
# Numbers and bytes in hexadecimal digits

A number is written as its numeral, perhaps with zeros before it, and bytes are written as two
digits each; letters may be of either case. This file proves that what is written is read back.

## Main definitions

* `Spells` : what may stand for a text of lower-case digits.
* `SpellsNumber` : the ways to write a number.

## Main results

* `SpellsNumber.value?` : a number is read back.
* `Spells.decode` : bytes are read back.
-/

namespace NameRecovery.Hex

variable {c d : Char} {cs ds : List Char} {n : Nat} {bytes : List UInt8}

/-! ### Digits -/

theorem isDigit_iff : isDigit c = true ↔
    ('0' ≤ c ∧ c ≤ '9') ∨ ('a' ≤ c ∧ c ≤ 'f') ∨ ('A' ≤ c ∧ c ≤ 'F') := by
  rw [isDigit, digit?]
  split
  · next h => simp [h]
  · next h =>
    split
    · next h' => simp [h']
    · next h' =>
      split
      · next h'' => simp [h'']
      · next h'' => simp only [Option.isSome_none, h, h', h'', or_self, reduceCtorEq]

/-- A digit is a character of the ASCII range, above the space and other than a colon. -/
theorem toNat_of_isDigit (h : isDigit c = true) : 48 ≤ c.toNat ∧ c.toNat ≤ 102 ∧ c.toNat ≠ 58 := by
  have hle {a b : Char} (h : a ≤ b) : a.toNat ≤ b.toNat := h
  rcases isDigit_iff.mp h with ⟨hlow, hhigh⟩ | ⟨hlow, hhigh⟩ | ⟨hlow, hhigh⟩
  · have hlow' : 48 ≤ c.toNat := hle hlow
    have hhigh' : c.toNat ≤ 57 := hle hhigh
    omega
  · have hlow' : 97 ≤ c.toNat := hle hlow
    have hhigh' : c.toNat ≤ 102 := hle hhigh
    omega
  · have hlow' : 65 ≤ c.toNat := hle hlow
    have hhigh' : c.toNat ≤ 70 := hle hhigh
    omega

theorem toNat_lt_of_isDigit (h : isDigit c = true) : c.toNat < 0x80 := by
  have := toNat_of_isDigit h
  omega

theorem isBlank_of_isDigit (h : isDigit c = true) : Text.isBlank c = false := by
  have := toNat_of_isDigit h
  simp only [Text.isBlank, Bool.or_eq_false_iff, Bool.and_eq_false_iff, decide_eq_false_iff_not,
    beq_eq_false_iff_ne]
  omega

theorem digit?_digitChar (h : n < 16) : digit? (digitChar n) = some n := by
  have hall : ∀ k : Fin 16, digit? (digitChar k) = some k.val := by decide
  exact hall ⟨n, h⟩

/-- The case of a letter does not change its value as a digit. -/
theorem digit?_toUpper (c : Char) : digit? c.toUpper = digit? c := by
  by_cases h : 'a'.val ≤ c.val ∧ c.val ≤ 'z'.val
  · have hascii : c.toNat < 128 := Nat.lt_of_le_of_lt h.2 (by decide)
    have hall : ∀ k : Fin 128, digit? (Char.ofNat k).toUpper = digit? (Char.ofNat k) := by decide
    have hc := hall ⟨c.toNat, hascii⟩
    rwa [Char.ofNat_toNat] at hc
  · have hsame : c.toUpper = c := dif_neg h
    rw [hsame]

/-! ### Letters of either case -/

/-- A character, or its upper-case form. -/
def EitherCase (c d : Char) : Prop :=
  d = c ∨ d = c.toUpper

instance (c d : Char) : Decidable (EitherCase c d) :=
  inferInstanceAs (Decidable (_ ∨ _))

/-- The text `ds` is the text `cs` of lower-case digits with letters of either case. -/
def Spells (cs ds : List Char) : Prop :=
  List.Forall₂ EitherCase cs ds

instance (cs ds : List Char) : Decidable (Spells cs ds) :=
  inferInstanceAs (Decidable (List.Forall₂ _ _ _))

theorem EitherCase.digit? (h : EitherCase c d) : digit? d = digit? c := by
  rcases h with rfl | rfl
  · rfl
  · exact digit?_toUpper c

theorem Spells.all_isDigit (h : Spells cs ds) : ds.all isDigit = cs.all isDigit := by
  induction h with
  | nil => rfl
  | cons hc _ ih => rw [List.all_cons, List.all_cons, ih, isDigit, isDigit, hc.digit?]

theorem Spells.value (h : Spells cs ds) : value ds = value cs := by
  have hfold (m : Nat) : ds.foldl (fun n c => n * 16 + (digit? c).getD 0) m =
      cs.foldl (fun n c => n * 16 + (digit? c).getD 0) m := by
    induction h generalizing m with
    | nil => rfl
    | cons hc _ ih => rw [List.foldl_cons, List.foldl_cons, ih, hc.digit?]
  exact hfold 0

/-! ### Numbers -/

/-- A text that stands for a number: its numeral with letters of either case, and any number of
zeros before it. -/
def SpellsNumber (n : Nat) (ds : List Char) : Prop :=
  ∃ zeros, Spells (List.replicate zeros '0' ++ numeral n) ds

/-- The numeral of a number is a row of digits with its value. -/
theorem numeral_spec (n : Nat) :
    numeral n ≠ [] ∧ (numeral n).all isDigit = true ∧ value (numeral n) = n := by
  induction n using Nat.strongRecOn with
  | ind n ih =>
    rcases Nat.lt_or_ge n 16 with hlt | hge
    · have hn : numeral n = [digitChar n] := Nat.toDigits_of_lt_base hlt
      simp [hn, isDigit, value, digit?_digitChar hlt]
    · have hn : numeral n = numeral (n / 16) ++ [digitChar (n % 16)] :=
        Nat.toDigits_of_base_le (by decide) hge
      have hlow := digit?_digitChar (Nat.mod_lt n (by decide : 0 < 16))
      obtain ⟨-, hall, hvalue⟩ := ih (n / 16) (by omega)
      refine ⟨by simp [hn], by simp [hn, hall, isDigit, hlow], ?_⟩
      rw [value] at hvalue
      rw [hn, value, List.foldl_append, hvalue, List.foldl_cons, List.foldl_nil, hlow,
        Option.getD_some]
      omega

/-- Zeros before a row of digits do not change its value. -/
theorem value_zeros (zeros : Nat) (cs : List Char) :
    value (List.replicate zeros '0' ++ cs) = value cs := by
  induction zeros with
  | zero => rfl
  | succ k ih => rw [← ih]; rfl

/-- **A number that is written is read back.** -/
theorem SpellsNumber.value? (h : SpellsNumber n ds) : value? ds = some n := by
  obtain ⟨zeros, hzeros⟩ := h
  obtain ⟨hne, hall, hvalue⟩ := numeral_spec n
  have hds : ds ≠ [] := by
    rintro rfl
    have hlength := hzeros.length_eq
    simp [hne] at hlength
  rw [Hex.value?, hzeros.all_isDigit, hzeros.value, value_zeros, hvalue, if_pos]
  simp [hds, hall, isDigit, digit?]

theorem SpellsNumber.ne_nil (h : SpellsNumber n ds) : ds ≠ [] := by
  rintro rfl
  cases h.value?

theorem SpellsNumber.isDigit_of_mem (h : SpellsNumber n ds) (hd : d ∈ ds) : isDigit d = true := by
  have hvalue := h.value?
  rw [Hex.value?] at hvalue
  split at hvalue
  · next hall => exact List.all_eq_true.mp (Bool.and_eq_true_iff.mp hall).2 d hd
  · cases hvalue

/-! ### Bytes -/

theorem length_encode (bytes : List UInt8) : (encode bytes).length = 2 * bytes.length := by
  simp [encode, List.length_flatMap, Nat.mul_comm]

/-- A byte is written as two digits. -/
theorem Spells.of_encode_cons {b : UInt8} (h : Spells (encode (b :: bytes)) ds) :
    ∃ high low rest, ds = high :: low :: rest ∧ digit? high = some (b.toNat / 16) ∧
      digit? low = some (b.toNat % 16) ∧ Spells (encode bytes) rest := by
  obtain ⟨high, _, hhigh, htail, rfl⟩ := List.forall₂_cons_left_iff.mp h
  obtain ⟨low, rest, hlow, hrest, rfl⟩ := List.forall₂_cons_left_iff.mp htail
  have hb := b.toNat_lt
  exact ⟨high, low, rest, rfl, by rw [hhigh.digit?, digit?_digitChar (by omega)],
    by rw [hlow.digit?, digit?_digitChar (by omega)], hrest⟩

theorem Spells.isDigit_of_mem (h : Spells (encode bytes) ds) (hd : d ∈ ds) : isDigit d = true := by
  induction bytes generalizing ds with
  | nil =>
    obtain rfl := List.forall₂_nil_left_iff.mp h
    cases hd
  | cons b rest ih =>
    obtain ⟨high, low, tail, rfl, hhigh, hlow, htail⟩ := h.of_encode_cons
    rcases List.mem_cons.mp hd with rfl | hd
    · rw [isDigit, hhigh]
      rfl
    · rcases List.mem_cons.mp hd with rfl | hd
      · rw [isDigit, hlow]
        rfl
      · exact ih htail hd

theorem byteDigit?_ofNat (h : c.toNat < 0x80) : byteDigit? (UInt8.ofNat c.toNat) = digit? c := by
  have hbyte : (UInt8.ofNat c.toNat).toNat = c.toNat := Nat.mod_eq_of_lt (by omega)
  rw [byteDigit?, hbyte, Char.ofNat_toNat]

/-- **Bytes that are written are read back.** -/
theorem Spells.decode (h : Spells (encode bytes) ds) : decode (Utf8.encode ds) = .ok bytes := by
  have hascii : ∀ d ∈ ds, d.toNat < 0x80 := fun d hd => toNat_lt_of_isDigit (h.isDigit_of_mem hd)
  have hpairs (index : Nat) :
      decodePairs index (ds.map fun d => UInt8.ofNat d.toNat) = .ok bytes := by
    induction bytes generalizing ds index with
    | nil =>
      obtain rfl := List.forall₂_nil_left_iff.mp h
      rfl
    | cons b rest ih =>
      obtain ⟨high, low, tail, rfl, hhigh, hlow, htail⟩ := h.of_encode_cons
      obtain ⟨hascii₁, hascii₂, hascii₃⟩ := by
        simpa only [List.forall_mem_cons] using hascii
      have hbyte : UInt8.ofNat (b.toNat / 16 * 16 + b.toNat % 16) = b := by
        rw [Nat.div_add_mod', UInt8.ofNat_toNat]
      simp only [List.map_cons, decodePairs, byteDigit?_ofNat hascii₁, byteDigit?_ofNat hascii₂,
        hhigh, hlow, ih htail hascii₃, Except.map, hbyte]
  have heven : (ds.map fun d => UInt8.ofNat d.toNat).length = 2 * bytes.length := by
    rw [List.length_map, ← h.length_eq, length_encode]
  rw [Utf8.encode_of_ascii hascii, Hex.decode, heven, Nat.mul_mod_right, if_neg (by decide),
    hpairs]

end NameRecovery.Hex
