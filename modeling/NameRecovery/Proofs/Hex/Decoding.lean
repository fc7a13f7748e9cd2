import NameRecovery.Proofs.Hex.Spelling

/-!
# Which texts spell bytes

A text spells bytes exactly when it is made of digits and its length is even. Otherwise an odd
length is reported first, and else the first byte of the text that is no digit. A character outside
the ASCII range is made of bytes that are no digits, so a text with such a character has such a
byte.

## Main definitions

* `FirstInvalid` : the first byte of a text that is no digit, and its position.

## Main results

* `exists_decode_of_isDigit` : digits of even number spell bytes, which are written with the same
  digits.
* `FirstInvalid.decode_eq` : the first byte that is no digit is reported.
* `exists_invalid_encode` : a text with a character that is no digit has such a byte.
-/

namespace NameRecovery.Hex

variable {c : Char} {cs : List Char} {text : List UInt8}

/-! ### Digits -/

/-- The value of a digit is below sixteen, and the digit is the lower-case digit of its value with
its letter in either case. -/
theorem eitherCase_of_digit? {n : Nat} (h : digit? c = some n) :
    n < 16 ∧ EitherCase (digitChar n) c := by
  have hascii : c.toNat < 128 := toNat_lt_of_isDigit (by rw [isDigit, h]; rfl)
  have hall : ∀ k : Fin 128, ∀ n ∈ digit? (Char.ofNat k),
      n < 16 ∧ EitherCase (digitChar n) (Char.ofNat k) := by decide +kernel
  have hc := hall ⟨c.toNat, hascii⟩ n
  rw [Char.ofNat_toNat] at hc
  exact hc h

/-- The lower-case form of a digit of either case. -/
theorem EitherCase.toLower {n : Nat} (hn : n < 16) (h : EitherCase (digitChar n) c) :
    c.toLower = digitChar n := by
  have hall : ∀ k : Fin 16, (digitChar k).toLower = digitChar k ∧
      (digitChar k).toUpper.toLower = digitChar k := by decide +kernel
  obtain ⟨hlower, hupper⟩ := hall ⟨n, hn⟩
  rcases h with rfl | rfl
  · exact hlower
  · exact hupper

/-! ### Texts of digits -/

/-- Two digits are the written form of a byte. -/
theorem exists_spells_pair {d : Char} (hc : isDigit c = true) (hd : isDigit d = true) :
    ∃ b : UInt8, Spells (encode [b]) [c, d] ∧ encode [b] = [c, d].map Char.toLower := by
  obtain ⟨high, hhigh⟩ := Option.isSome_iff_exists.mp hc
  obtain ⟨low, hlow⟩ := Option.isSome_iff_exists.mp hd
  obtain ⟨hhigh', hcase⟩ := eitherCase_of_digit? hhigh
  obtain ⟨hlow', hcase'⟩ := eitherCase_of_digit? hlow
  have hbyte : (UInt8.ofNat (high * 16 + low)).toNat = high * 16 + low :=
    Nat.mod_eq_of_lt (by omega)
  have hdiv : (high * 16 + low) / 16 = high := by omega
  have hmod : (high * 16 + low) % 16 = low := by omega
  have hencode : encode [UInt8.ofNat (high * 16 + low)] = [digitChar high, digitChar low] := by
    rw [encode, List.flatMap_singleton, hbyte, hdiv, hmod]
  refine ⟨UInt8.ofNat (high * 16 + low), ?_, ?_⟩
  · rw [hencode]
    exact .cons hcase (.cons hcase' .nil)
  · rw [hencode, List.map_cons, List.map_cons, List.map_nil, hcase.toLower hhigh',
      hcase'.toLower hlow']

/-- **Digits of even number are the written form of bytes**, up to the case of letters. -/
theorem exists_spells {cs : List Char} (hdigits : ∀ c ∈ cs, isDigit c = true)
    (heven : 2 ∣ cs.length) :
    ∃ bytes, Spells (encode bytes) cs ∧ encode bytes = cs.map Char.toLower := by
  match cs with
  | [] => exact ⟨[], .nil, rfl⟩
  | [_] => simp at heven
  | c :: d :: rest =>
    obtain ⟨hc, hd, hrest⟩ := by simpa only [List.forall_mem_cons] using hdigits
    obtain ⟨b, hpair, hlower⟩ := exists_spells_pair hc hd
    obtain ⟨bytes, hspells, hlowers⟩ :=
      exists_spells hrest ((Nat.dvd_add_left (Nat.dvd_refl 2)).mp heven)
    have hcons : encode (b :: bytes) = encode [b] ++ encode bytes := by
      simp [encode]
    refine ⟨b :: bytes, ?_, ?_⟩
    · rw [hcons]
      exact List.rel_append hpair hspells
    · rw [hcons, hlower, hlowers]
      rfl

/-- **Digits of even number spell bytes**: half as many as there are digits, and written with the
same digits. -/
theorem exists_decode_of_isDigit (hdigits : ∀ c ∈ cs, isDigit c = true) (heven : 2 ∣ cs.length) :
    ∃ bytes, decode (Utf8.encode cs) = .ok bytes ∧ 2 * bytes.length = cs.length ∧
      encode bytes = cs.map Char.toLower := by
  obtain ⟨bytes, hspells, hlower⟩ := exists_spells hdigits heven
  exact ⟨bytes, hspells.decode, by rw [← length_encode, hspells.length_eq], hlower⟩

/-! ### Other texts -/

/-- A text of odd length is reported before anything else. -/
theorem decode_of_odd (h : ¬ 2 ∣ text.length) : decode text = .error .oddLength := by
  rw [decode, if_pos (by omega)]

/-- The first byte of a text that is no digit, and its position. -/
structure FirstInvalid (text : List UInt8) (index : Nat) (byte : UInt8) : Prop where
  getElem?_eq : text[index]? = some byte
  invalid : byteDigit? byte = none
  valid : ∀ k < index, ∀ b, text[k]? = some b → byteDigit? b ≠ none

theorem FirstInvalid.tail {x byte : UInt8} {index : Nat}
    (h : FirstInvalid (x :: text) (index + 1) byte) : FirstInvalid text index byte where
  getElem?_eq := h.getElem?_eq
  invalid := h.invalid
  valid k hk b hb := h.valid (k + 1) (by omega) b hb

/-- A text with a byte that is no digit has a first one. -/
theorem exists_firstInvalid (h : ∃ b ∈ text, byteDigit? b = none) :
    ∃ index byte, FirstInvalid text index byte := by
  induction text with
  | nil =>
    obtain ⟨b, hb, -⟩ := h
    cases hb
  | cons x rest ih =>
    cases hx : byteDigit? x with
    | none => exact ⟨0, x, rfl, hx, fun k hk => absurd hk (Nat.not_lt_zero k)⟩
    | some n =>
      obtain ⟨b, hb, hinvalid⟩ := h
      rcases List.mem_cons.mp hb with rfl | hb
      · rw [hx] at hinvalid
        cases hinvalid
      · obtain ⟨index, byte, hfirst⟩ := ih ⟨b, hb, hinvalid⟩
        refine ⟨index + 1, byte, hfirst.getElem?_eq, hfirst.invalid, fun k hk b hb => ?_⟩
        cases k with
        | zero =>
          obtain rfl := Option.some.inj hb
          rw [hx]
          exact Option.some_ne_none n
        | succ k => exact hfirst.valid k (by omega) b hb

/-- No invalid byte stands before the first one. -/
theorem FirstInvalid.le_of_invalid {index k : Nat} {byte b : UInt8}
    (h : FirstInvalid text index byte) (hk : text[k]? = some b) (hb : byteDigit? b = none) :
    index ≤ k := by
  by_contra hlt
  exact h.valid k (by omega) b hk hb

/-- No digit is the first invalid byte. -/
theorem FirstInvalid.ne_of_digit {index k n : Nat} {byte b : UInt8}
    (h : FirstInvalid text index byte) (hk : text[k]? = some b) (hb : byteDigit? b = some n) :
    index ≠ k := by
  rintro rfl
  obtain rfl := Option.some.inj (h.getElem?_eq.symm.trans hk)
  rw [h.invalid] at hb
  cases hb

/-- The first invalid byte of a text lies in every front part that has one. -/
theorem FirstInvalid.lt_length {front back : List UInt8} {index : Nat} {byte : UInt8}
    (h : FirstInvalid (front ++ back) index byte) (hfront : ∃ b ∈ front, byteDigit? b = none) :
    index < front.length := by
  obtain ⟨b, hb, hinvalid⟩ := hfront
  obtain ⟨k, hk, rfl⟩ := List.mem_iff_getElem.mp hb
  have hget : (front ++ back)[k]? = some front[k] := by
    rw [List.getElem?_append_left hk]
    exact List.getElem?_eq_getElem hk
  exact Nat.lt_of_le_of_lt (h.le_of_invalid hget hinvalid) hk

/-- Two bytes at a time are read up to the first invalid one. -/
theorem FirstInvalid.decodePairs_eq {index : Nat} {byte : UInt8}
    (h : FirstInvalid text index byte) (heven : 2 ∣ text.length) (k : Nat) :
    decodePairs k text = .error (.invalidByte byte (k + index)) := by
  induction k, text using decodePairs.induct generalizing index with
  | case1 => cases h.getElem?_eq
  | case2 => simp at heven
  | case3 k x y rest hx =>
    obtain rfl : index = 0 := Nat.le_zero.mp (h.le_of_invalid (k := 0) rfl hx)
    obtain rfl := Option.some.inj h.getElem?_eq
    rw [decodePairs, hx]
    rfl
  | case4 k x y rest high hx hy =>
    have hzero : index ≠ 0 := h.ne_of_digit (k := 0) rfl hx
    have hone : index ≤ 1 := h.le_of_invalid (k := 1) rfl hy
    obtain rfl : index = 1 := by omega
    obtain rfl := Option.some.inj h.getElem?_eq
    rw [decodePairs, hx, hy]
  | case5 k x y rest high hx low hy ih =>
    have hzero : index ≠ 0 := h.ne_of_digit (k := 0) rfl hx
    have hone : index ≠ 1 := h.ne_of_digit (k := 1) rfl hy
    obtain ⟨j, rfl⟩ : ∃ j, index = j + 2 := ⟨index - 2, by omega⟩
    have hrest := ih h.tail.tail ((Nat.dvd_add_left (Nat.dvd_refl 2)).mp heven)
    rw [decodePairs, hx, hy, hrest, Nat.add_assoc, Nat.add_comm 2]
    rfl

/-- **The first invalid byte is reported**, unless the length is odd. -/
theorem FirstInvalid.decode_eq {index : Nat} {byte : UInt8} (h : FirstInvalid text index byte)
    (heven : 2 ∣ text.length) : decode text = .error (.invalidByte byte index) := by
  rw [decode, if_neg (by omega), h.decodePairs_eq heven 0, Nat.zero_add]

/-! ### Characters that are no digits -/

/-- Bytes outside the ASCII range are no digits. -/
theorem byteDigit?_of_le {b : UInt8} (h : 0x80 ≤ b.toNat) : byteDigit? b = none := by
  have hall : ∀ k : Fin 256, 0x80 ≤ k.val → digit? (Char.ofNat k) = none := by decide +kernel
  exact hall ⟨b.toNat, b.toNat_lt⟩ h

/-- A character that is no digit has a byte that is none: itself in the ASCII range, and otherwise
its last byte. -/
theorem exists_invalid_of_not_isDigit (h : isDigit c = false) :
    ∃ b ∈ String.utf8EncodeChar c, byteDigit? b = none := by
  have hdigit : digit? c = none := by
    rw [isDigit, Option.isSome_eq_false_iff, Option.isNone_iff_eq_none] at h
    exact h
  by_cases hascii : c.toNat < 0x80
  · have hencode := Utf8.encode_of_ascii (List.forall_mem_singleton.mpr hascii)
    rw [Utf8.encode, List.flatMap_singleton] at hencode
    refine ⟨UInt8.ofNat c.toNat, by simp [hencode], ?_⟩
    rw [byteDigit?_ofNat hascii, hdigit]
  · have hlast : UInt8.ofNat (c.val.toNat % 64 + 128) ∈ String.utf8EncodeChar c := by
      have hlarge : ¬ c.val.toNat ≤ 127 := fun hle => hascii (Nat.lt_succ_of_le hle)
      simp only [String.utf8EncodeChar, if_neg hlarge]
      split
      · simp
      · split <;> simp
    refine ⟨_, hlast, byteDigit?_of_le ?_⟩
    have hbyte : (UInt8.ofNat (c.val.toNat % 64 + 128)).toNat = c.val.toNat % 64 + 128 :=
      Nat.mod_eq_of_lt (by omega)
    omega

/-- **A text with a character that is no digit has a byte that is none.** -/
theorem exists_invalid_encode (hc : c ∈ cs) (h : isDigit c = false) :
    ∃ b ∈ Utf8.encode cs, byteDigit? b = none := by
  obtain ⟨b, hb, hinvalid⟩ := exists_invalid_of_not_isDigit h
  exact ⟨b, List.mem_flatMap.mpr ⟨c, hc, hb⟩, hinvalid⟩

end NameRecovery.Hex
