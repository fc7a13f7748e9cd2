import NameRecovery.Listing.Line

/-!
# What lines mean

The number of a line is only shown in an error; the meaning of a line does not depend on it. This
file gives the meaning without the number (`Line.meaning?`) and reads off it the address of a line
and the bytes it gives. A data line always gives some bytes.

## Main definitions

* `Line.meaning?` : the meaning of a line, unless its byte groups spell no bytes.
* `Line.address?` : the address of a line.
* `Chunk`, `Line.chunk?` : bytes at an address, and those that a line gives.
* `Chunk.stop`, `Chunk.byteAt?` : where a chunk ends, and its byte at an address.
* `addresses`, `chunks` : the addresses and the chunks of a list of lines, in order.

## Main results

* `Line.classify_eq_ok_iff` : the meaning does not depend on the number.
* `Line.exists_eq_decode_of_classify_eq_error` : a line without a meaning is a decode error.
* `Line.bytes_ne_nil_of_classify` : a data line gives some bytes.
-/

namespace NameRecovery

/-! ### Decoded bytes -/

/-- Text of which some is left spells at least one byte. -/
theorem Hex.decode_ne_nil {text : List UInt8} (htext : text ≠ []) :
    Hex.decode text ≠ .ok [] := by
  intro h
  rw [Hex.decode] at h
  split at h
  · cases h
  · match text, htext with
    | [_], _ => cases h
    | x :: y :: rest, _ =>
      rw [Hex.decodePairs] at h
      split at h
      · cases h
      · split at h
        · cases h
        · cases hrest : Hex.decodePairs (0 + 2) rest with
          | error e => rw [hrest] at h; cases h
          | ok bytes => rw [hrest] at h; cases h

theorem Utf8.encode_ne_nil {cs : List Char} (h : cs ≠ []) : Utf8.encode cs ≠ [] := by
  obtain ⟨c, rest, rfl⟩ := List.exists_cons_of_ne_nil h
  have hpos : 0 < (String.utf8EncodeChar c).length := by
    rw [String.length_utf8EncodeChar]
    exact c.utf8Size_pos
  rw [Utf8.encode, List.flatMap_cons]
  exact List.append_ne_nil_of_left_ne_nil (List.length_pos_iff.mp hpos) _

namespace Line

variable {d : Dialect} {n : Nat} {line : String}

theorem decodeGroups_eq_ok_iff {groups : List (List Char)} {bytes : List UInt8} :
    decodeGroups n groups = .ok bytes ↔
      Hex.decode (Utf8.encode groups.flatten) = .ok bytes := by
  rw [decodeGroups]
  cases Hex.decode (Utf8.encode groups.flatten) with
  | ok bytes' => simp
  | error cause => simp

/-- The first group of a code column is a word, so it is not empty. -/
theorem flatten_groups_ne_nil {code : List Char} (h : groups code ≠ []) :
    (groups code).flatten ≠ [] := by
  rw [groups] at h ⊢
  cases hwords : Text.words (code.takeWhile (· ≠ '\t')) with
  | nil =>
    rw [hwords] at h
    exact absurd rfl h
  | cons first rest =>
    have hfirst : first ∈ Text.words (code.takeWhile (· ≠ '\t')) := by
      rw [hwords]
      exact List.mem_cons_self
    rw [List.flatten_cons]
    exact List.append_ne_nil_of_left_ne_nil (Text.ne_nil_of_mem_words hfirst) _

/-! ### Meanings -/

/-- The meaning of a line, unless its byte groups spell no bytes. -/
def meaning? (d : Dialect) (line : String) : Option Line :=
  (classify d 0 line).toOption

/-- What the columns of a line mean does not depend on the number of the line. -/
theorem ofColumns_eq_ok_iff {k : Nat} {field code : List Char} {m : Line} :
    ofColumns d n field code = .ok m ↔ ofColumns d k field code = .ok m := by
  rw [ofColumns, ofColumns]
  cases d.parseAddress? field with
  | none => exact Iff.rfl
  | some address =>
    simp only
    split
    · exact Iff.rfl
    · split
      · exact Iff.rfl
      · rw [decodeGroups, decodeGroups]
        cases Hex.decode (Utf8.encode (groups code).flatten) with
        | ok bytes => exact Iff.rfl
        | error cause => simp [Except.map]

/-- **The meaning of a line does not depend on its number.** -/
theorem classify_eq_ok_iff {m : Line} : classify d n line = .ok m ↔ meaning? d line = some m := by
  have hnumber : classify d n line = .ok m ↔ classify d 0 line = .ok m := by
    rw [classify, classify]
    split
    · exact Iff.rfl
    · exact ofColumns_eq_ok_iff
  rw [hnumber, meaning?]
  cases classify d 0 line with
  | ok m' => simp [Except.toOption]
  | error e => simp [Except.toOption]

/-- The only error of a line is that its byte groups spell no bytes. -/
theorem exists_eq_decode_of_classify_eq_error {e : ListingError}
    (h : classify d n line = .error e) : ∃ text cause, e = .decode n text cause := by
  rw [classify] at h
  split at h
  · cases h
  · rw [ofColumns] at h
    split at h
    · cases h
    · split at h
      · cases h
      · split at h
        · cases h
        · rw [decodeGroups] at h
          split at h
          · cases h
          · next cause _ =>
            exact ⟨_, cause, (Except.error.inj h).symm⟩

theorem ofColumns_eq_decode_iff {k : Nat} {field code : List Char} {text : String}
    {cause : Hex.DecodeError} :
    ofColumns d n field code = .error (.decode n text cause) ↔
      ofColumns d k field code = .error (.decode k text cause) := by
  rw [ofColumns, ofColumns]
  cases d.parseAddress? field with
  | none => simp
  | some address =>
    simp only
    split
    · simp
    · split
      · simp
      · rw [decodeGroups, decodeGroups]
        cases Hex.decode (Utf8.encode (groups code).flatten) with
        | ok bytes => simp [Except.map]
        | error cause' => simp [Except.map]

/-- What is wrong with the byte groups of a line does not depend on its number. -/
theorem classify_eq_decode_iff {k : Nat} {text : String} {cause : Hex.DecodeError} :
    classify d n line = .error (.decode n text cause) ↔
      classify d k line = .error (.decode k text cause) := by
  rw [classify, classify]
  split
  · simp
  · exact ofColumns_eq_decode_iff

/-- **A data line gives some bytes.** -/
theorem bytes_ne_nil_of_classify {a : Address} {bytes : List UInt8}
    (h : classify d n line = .ok (.data a bytes)) : bytes ≠ [] := by
  rintro rfl
  rw [classify] at h
  split at h
  · cases h
  · next field code _ =>
    rw [ofColumns] at h
    split at h
    · cases h
    · split at h
      · cases h
      · split at h
        · cases h
        · next hgroups =>
          cases hdecode : decodeGroups n (groups code) with
          | error e => rw [hdecode] at h; cases h
          | ok bytes' =>
            rw [hdecode] at h
            obtain ⟨-, rfl⟩ := Line.data.inj (Except.ok.inj h)
            have hne := Utf8.encode_ne_nil (flatten_groups_ne_nil hgroups)
            exact Hex.decode_ne_nil hne (decodeGroups_eq_ok_iff.mp hdecode)

end Line

/-! ### Addresses and chunks -/

/-- Bytes at an address, as a data line gives them. -/
structure Chunk where
  address : Address
  bytes : List UInt8
deriving DecidableEq

namespace Chunk

/-- The number of the address after the last byte. -/
def stop (c : Chunk) : Nat :=
  c.address.toNat + c.bytes.length

/-- The byte at an address, if the chunk covers it. -/
def byteAt? (c : Chunk) (x : Nat) : Option UInt8 :=
  if c.address.toNat ≤ x then c.bytes[x - c.address.toNat]? else none

theorem byteAt?_eq_none_iff {c : Chunk} {x : Nat} :
    c.byteAt? x = none ↔ x < c.address.toNat ∨ c.stop ≤ x := by
  rw [byteAt?]
  split
  · rw [List.getElem?_eq_none_iff, stop]
    omega
  · simp only [true_iff]
    omega

/-- A chunk covers the addresses of its bytes only. -/
theorem lt_of_byteAt?_eq_some {c : Chunk} {x : Nat} {b : UInt8} (h : c.byteAt? x = some b) :
    c.address.toNat ≤ x ∧ x < c.stop := by
  have hne : ¬ c.byteAt? x = none := by rw [h]; exact Option.some_ne_none b
  rw [byteAt?_eq_none_iff] at hne
  omega

end Chunk

namespace Line

/-- The address of a line. -/
def address? : Line → Option Address
  | ignored => none
  | outOfBounds a => some a
  | data a _ => some a

/-- The bytes that a line gives. -/
def chunk? : Line → Option Chunk
  | data a bytes => some ⟨a, bytes⟩
  | _ => none

end Line

/-- The addresses of a list of lines, in order. -/
def addresses (d : Dialect) (lines : List String) : List Address :=
  lines.filterMap fun line => (Line.meaning? d line).bind Line.address?

/-- The chunks that a list of lines gives, in order. -/
def chunks (d : Dialect) (lines : List String) : List Chunk :=
  lines.filterMap fun line => (Line.meaning? d line).bind Line.chunk?

/-- No chunk is empty. -/
theorem bytes_ne_nil_of_mem_chunks {d : Dialect} {lines : List String} {c : Chunk}
    (h : c ∈ chunks d lines) : c.bytes ≠ [] := by
  obtain ⟨line, -, hline⟩ := List.mem_filterMap.mp h
  obtain ⟨m, hm, hc⟩ := Option.bind_eq_some_iff.mp hline
  cases m with
  | ignored => cases hc
  | outOfBounds a => cases hc
  | data a bytes =>
    obtain rfl := Option.some.inj hc
    exact Line.bytes_ne_nil_of_classify (Line.classify_eq_ok_iff (n := 0).mpr hm)

end NameRecovery
