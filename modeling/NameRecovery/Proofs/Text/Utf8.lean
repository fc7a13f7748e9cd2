import Mathlib.Data.List.Basic
import NameRecovery.Text.Utf8

/-!
# Text and its bytes

Characters of the ASCII range are one byte each. The other way round, what a byte does to the text
read so far depends on the open sequence only. This file lists the five things that a byte can do
(`Takes`) and reads off them that a byte of the ASCII range always ends the open sequence and stands
for its own character, and that a newline comes from its own byte only. So bytes may be cut at their
newlines before they are read.

## Main definitions

* `decodeFrom` : the text that further bytes give while a sequence is open.
* `Takes` : what one byte does.
* `Proper` : the open sequences that bytes lead to.

## Main results

* `take?_eq_some_iff` : cutting a text after a number of bytes.
* `encode_of_ascii`, `size_of_ascii` : text of the ASCII range.
* `takes_push` : the list is complete.
* `decodeLossy_append_ascii` : reading cut at an ASCII byte.
* `newline_not_mem_decodeLossy` : a newline comes from its own byte only.
* `decodeLossy_eq_nil_iff` : some text comes from every byte string but the empty one.
-/

namespace NameRecovery.Utf8

theorem encode_append (cs ds : List Char) : encode (cs ++ ds) = encode cs ++ encode ds :=
  List.flatMap_append

/-- The number of bytes of a text. -/
theorem length_encode (cs : List Char) : (encode cs).length = size cs := by
  induction cs with
  | nil => rfl
  | cons c rest ih =>
    rw [size, ← ih, ← String.length_utf8EncodeChar, encode, List.flatMap_cons, List.length_append]
    rfl

theorem size_eq_zero_iff {cs : List Char} : size cs = 0 ↔ cs = [] := by
  cases cs with
  | nil => simp [size]
  | cons c rest => simp [size, Nat.ne_of_gt c.utf8Size_pos]

theorem size_append (cs ds : List Char) : size (cs ++ ds) = size cs + size ds := by
  rw [← length_encode, encode_append, List.length_append, length_encode, length_encode]

/-- **Cutting after a number of bytes** gives the front part with so many bytes, if there is one. -/
theorem take?_eq_some_iff {n : Nat} {cs front : List Char} :
    take? n cs = some front ↔ front <+: cs ∧ size front = n := by
  induction n, cs using take?.induct generalizing front with
  | case1 cs =>
    rw [take?, Option.some.injEq]
    constructor
    · rintro rfl
      exact ⟨List.nil_prefix, rfl⟩
    · rintro ⟨-, hsize⟩
      exact (size_eq_zero_iff.mp hsize).symm
  | case2 n =>
    rw [take?, List.prefix_nil]
    constructor
    · intro h
      cases h
    · rintro ⟨rfl, hsize⟩
      cases hsize
  | case3 n c cs hle ih =>
    rw [take?, if_pos hle, Option.map_eq_some_iff, List.prefix_cons_iff]
    constructor
    · rintro ⟨rest, hrest, rfl⟩
      obtain ⟨hinitial, hsize⟩ := ih.mp hrest
      refine ⟨Or.inr ⟨rest, rfl, hinitial⟩, ?_⟩
      rw [size]
      omega
    · rintro ⟨rfl | ⟨rest, rfl, hinitial⟩, hsize⟩
      · cases hsize
      · rw [size] at hsize
        exact ⟨rest, ih.mpr ⟨hinitial, by omega⟩, rfl⟩
  | case4 n c cs hlt =>
    rw [take?, if_neg hlt, List.prefix_cons_iff]
    constructor
    · intro h
      cases h
    · rintro ⟨rfl | ⟨rest, rfl, -⟩, hsize⟩
      · cases hsize
      · rw [size] at hsize
        omega

/-! ### Text of the ASCII range -/

section Ascii

variable {cs : List Char}

theorem utf8Size_of_ascii {c : Char} (h : c.toNat < 0x80) : c.utf8Size = 1 :=
  Char.utf8Size_eq_one_iff.mpr (Nat.lt_succ_iff.mp h)

/-- A character of the ASCII range is its own byte. -/
theorem encode_of_ascii (h : ∀ c ∈ cs, c.toNat < 0x80) :
    encode cs = cs.map fun c => UInt8.ofNat c.toNat := by
  induction cs with
  | nil => rfl
  | cons c rest ih =>
    obtain ⟨hc, hrest⟩ := List.forall_mem_cons.mp h
    have hone : String.utf8EncodeChar c = [UInt8.ofNat c.toNat] := by
      rw [String.utf8EncodeChar]
      exact if_pos (Nat.lt_succ_iff.mp hc)
    rw [encode, List.flatMap_cons, hone, List.map_cons, ← ih hrest]
    rfl

theorem size_of_ascii (h : ∀ c ∈ cs, c.toNat < 0x80) : size cs = cs.length := by
  induction cs with
  | nil => rfl
  | cons c rest ih =>
    obtain ⟨hc, hrest⟩ := List.forall_mem_cons.mp h
    rw [size, utf8Size_of_ascii hc, ih hrest, List.length_cons, Nat.add_comm]

end Ascii

/-! ### Reading bytes -/

/-- What stands for an open sequence that is cut short. -/
def closing : Option Pending → List Char
  | none => []
  | some _ => [replacement]

/-- The text that further bytes give while a sequence is open. -/
def decodeFrom (pending : Option Pending) : List UInt8 → List Char
  | [] => closing pending
  | b :: rest =>
    (Reader.push ⟨[], pending⟩ b).output.reverse ++
      decodeFrom (Reader.push ⟨[], pending⟩ b).pending rest

theorem decodeFrom_nil (pending : Option Pending) : decodeFrom pending [] = closing pending :=
  rfl

theorem decodeFrom_cons (pending : Option Pending) (b : UInt8) (rest : List UInt8) :
    decodeFrom pending (b :: rest) = (Reader.push ⟨[], pending⟩ b).output.reverse ++
      decodeFrom (Reader.push ⟨[], pending⟩ b).pending rest :=
  rfl

variable {pending next : Option Pending} {b : UInt8} {output : List Char}
  {bytes front back : List UInt8}

/-! ### What one byte does -/

/-- What a byte does while a sequence is open: the characters that are read, and the sequence that
is open then. -/
inductive Takes : Option Pending → UInt8 → List Char → Option Pending → Prop
  | char (pending : Option Pending) {b : UInt8} (h : b.toNat < 0x80) :
      Takes pending b (closing pending ++ [Char.ofNat b.toNat]) none
  | opens (pending : Option Pending) {b : UInt8} {p : Pending} (h : Lead.ofByte b = .opens p) :
      Takes pending b (closing pending) (some p)
  | invalid (pending : Option Pending) {b : UInt8} (h : 0x80 ≤ b.toNat) :
      Takes pending b (closing pending ++ [replacement]) none
  | completes {p : Pending} {b : UInt8} (hlow : p.low ≤ b) (hmore : p.more = 0) :
      Takes (some p) b [Char.ofNat (p.value * 64 + (b.toNat - 0x80))] none
  | continues {p : Pending} {b : UInt8} {more : Nat} (hlow : p.low ≤ b)
      (hmore : p.more = more + 1) :
      Takes (some p) b [] (some ⟨p.value * 64 + (b.toNat - 0x80), 0x80, 0xbf, more⟩)

theorem toNat_lt_of_ofByte {c : Char} (h : Lead.ofByte b = .char c) :
    b.toNat < 0x80 ∧ c = Char.ofNat b.toNat := by
  simp only [Lead.ofByte, ite_eq_iff, reduceCtorEq, and_false, or_false, Lead.char.injEq] at h
  exact ⟨h.1, h.2.symm⟩

theorem le_toNat_of_ofByte (h : Lead.ofByte b = .invalid) : 0x80 ≤ b.toNat := by
  by_contra hlt
  simp only [Lead.ofByte] at h
  rw [if_pos (by omega)] at h
  cases h

/-- A byte that does not continue a sequence is read afresh. -/
theorem takes_start (pending : Option Pending) (b : UInt8) :
    Takes pending b (Reader.start (closing pending).reverse b).output.reverse
      (Reader.start (closing pending).reverse b).pending := by
  rw [Reader.start]
  cases h : Lead.ofByte b with
  | char c =>
    obtain ⟨hascii, rfl⟩ := toNat_lt_of_ofByte h
    simpa using Takes.char pending hascii
  | opens p => simpa using Takes.opens pending h
  | invalid => simpa using Takes.invalid pending (le_toNat_of_ofByte h)

/-- **A byte does one of the five things listed.** -/
theorem takes_push (pending : Option Pending) (b : UInt8) :
    Takes pending b (Reader.push ⟨[], pending⟩ b).output.reverse
      (Reader.push ⟨[], pending⟩ b).pending := by
  cases pending with
  | none => exact takes_start none b
  | some p =>
    simp only [Reader.push]
    by_cases hrange : p.low ≤ b ∧ b ≤ p.high
    · rw [if_pos hrange]
      cases hmore : p.more with
      | zero => exact Takes.completes hrange.1 hmore
      | succ more => exact Takes.continues hrange.1 hmore
    · rw [if_neg hrange]
      exact takes_start (some p) b

/-- What was read before does not matter. -/
theorem push_eq (r : Reader) (b : UInt8) :
    r.push b = ⟨(Reader.push ⟨[], r.pending⟩ b).output ++ r.output,
      (Reader.push ⟨[], r.pending⟩ b).pending⟩ := by
  have hstart (out more : List Char) : Reader.start (out ++ more) b =
      ⟨(Reader.start out b).output ++ more, (Reader.start out b).pending⟩ := by
    simp only [Reader.start]
    cases Lead.ofByte b <;> rfl
  obtain ⟨output, pending⟩ := r
  cases pending with
  | none => exact hstart [] output
  | some p =>
    simp only [Reader.push]
    by_cases hrange : p.low ≤ b ∧ b ≤ p.high
    · rw [if_pos hrange, if_pos hrange]
      cases p.more <;> rfl
    · rw [if_neg hrange, if_neg hrange]
      exact hstart [replacement] output

theorem finish_foldl_push (r : Reader) (bytes : List UInt8) :
    (bytes.foldl Reader.push r).finish = r.output.reverse ++ decodeFrom r.pending bytes := by
  induction bytes generalizing r with
  | nil =>
    obtain ⟨output, pending⟩ := r
    cases pending <;> simp [Reader.finish, decodeFrom, closing]
  | cons b rest ih =>
    rw [List.foldl_cons, ih, push_eq, decodeFrom_cons, List.reverse_append, List.append_assoc]

/-- Reading begins with no open sequence. -/
theorem decodeLossy_eq (bytes : List UInt8) : decodeLossy bytes = decodeFrom none bytes :=
  finish_foldl_push {} bytes

/-! ### Open sequences -/

/-- A sequence only goes on with bytes above the ASCII range, and it cannot end with a value that
a single ASCII byte has. -/
structure Pending.Proper (p : Pending) : Prop where
  le_low : 0x80 ≤ p.low.toNat
  of_value_eq_zero : p.value = 0 → 0x80 < p.low.toNat ∧ p.more ≠ 0

theorem Pending.proper_of_ofByte {p : Pending} (h : Lead.ofByte b = .opens p) : p.Proper := by
  simp only [Lead.ofByte, ite_eq_iff, beq_iff_eq, reduceCtorEq, and_false, false_or, or_false,
    Lead.opens.injEq] at h
  obtain ⟨-, htwo, ⟨-, rfl⟩ | ⟨hthree, ⟨-, rfl⟩ | ⟨hne, ⟨-, rfl⟩ | ⟨-, ⟨-, rfl⟩ |
    ⟨hfour, ⟨-, rfl⟩ | ⟨hne, ⟨-, rfl⟩ | ⟨-, -, rfl⟩⟩⟩⟩⟩⟩⟩ := h <;> constructor <;> simp
  all_goals omega

/-- The open sequence, if there is one, is one that bytes lead to. -/
def Proper (pending : Option Pending) : Prop :=
  ∀ p, pending = some p → p.Proper

theorem proper_none : Proper none :=
  fun _ h => by cases h

/-- What one byte keeps true. -/
theorem Takes.proper (h : Takes pending b output next) (hpending : Proper pending) :
    Proper next := by
  intro p hp
  cases h with
  | char _ hascii => cases hp
  | opens _ hlead =>
    obtain rfl := Option.some.inj hp
    exact Pending.proper_of_ofByte hlead
  | invalid _ hhigh => cases hp
  | completes hlow hmore => cases hp
  | @continues q _ more hlow hmore =>
    obtain rfl := Option.some.inj hp
    obtain ⟨hle, hzero⟩ := hpending q rfl
    refine ⟨by simp, fun hvalue => ?_⟩
    have hlow' : q.low.toNat ≤ b.toNat := hlow
    simp only at hvalue
    have hq := hzero (by omega)
    omega

/-! ### Bytes of the ASCII range -/

theorem ofByte_of_lt (h : b.toNat < 0x80) : Lead.ofByte b = .char (Char.ofNat b.toNat) := by
  rw [Lead.ofByte]
  exact if_pos h

/-- **A byte of the ASCII range ends the open sequence** and stands for its own character. -/
theorem Takes.eq_of_ascii (h : Takes pending b output next) (hpending : Proper pending)
    (hascii : b.toNat < 0x80) :
    output = closing pending ++ [Char.ofNat b.toNat] ∧ next = none := by
  have hlow {p : Pending} (hp : pending = some p) (hle : p.low ≤ b) : False := by
    have := (hpending p hp).le_low
    have hle' : p.low.toNat ≤ b.toNat := hle
    omega
  cases h with
  | char _ _ => exact ⟨rfl, rfl⟩
  | opens _ hlead =>
    rw [ofByte_of_lt hascii] at hlead
    cases hlead
  | invalid _ hhigh => omega
  | completes hle _ => exact (hlow rfl hle).elim
  | continues hle _ => exact (hlow rfl hle).elim

/-- Reading goes on afresh behind a byte of the ASCII range. -/
theorem decodeFrom_append_ascii (hpending : Proper pending) (hascii : b.toNat < 0x80) :
    decodeFrom pending (front ++ b :: back) =
      decodeFrom pending front ++ Char.ofNat b.toNat :: decodeFrom none back := by
  induction front generalizing pending with
  | nil =>
    obtain ⟨houtput, hnext⟩ := (takes_push pending b).eq_of_ascii hpending hascii
    rw [List.nil_append, decodeFrom_cons, houtput, hnext, decodeFrom_nil, List.append_assoc,
      List.singleton_append]
  | cons x rest ih =>
    rw [List.cons_append, decodeFrom_cons, ih ((takes_push pending x).proper hpending),
      decodeFrom_cons, List.append_assoc]

/-- **Reading may be cut at every byte of the ASCII range.** -/
theorem decodeLossy_append_ascii (hascii : b.toNat < 0x80) :
    decodeLossy (front ++ b :: back) =
      decodeLossy front ++ Char.ofNat b.toNat :: decodeLossy back := by
  simp only [decodeLossy_eq]
  exact decodeFrom_append_ascii proper_none hascii

theorem decodeLossy_append_replicate (hascii : b.toNat < 0x80) (front : List UInt8) (n : Nat) :
    decodeLossy (front ++ List.replicate n b) =
      decodeLossy front ++ List.replicate n (Char.ofNat b.toNat) := by
  induction n generalizing front with
  | zero => simp
  | succ n ih =>
    rw [List.replicate_succ, decodeLossy_append_ascii hascii, List.replicate_succ]
    have htail := ih []
    rw [List.nil_append] at htail
    rw [htail]
    rfl

/-! ### Newlines -/

theorem ofNat_eq_newline_iff {n : Nat} : Char.ofNat n = '\n' ↔ n = 10 := by
  constructor
  · intro h
    by_cases hvalid : n.isValidChar
    · have hvalue : (Char.ofNat n).toNat = n := by
        rw [Char.ofNat, dif_pos hvalid]
        rfl
      rw [← hvalue, h]
      rfl
    · rw [Char.ofNat, dif_neg hvalid] at h
      exact absurd h (by decide)
  · rintro rfl
    rfl

/-- A byte that is no newline gives none. -/
theorem Takes.newline_not_mem (h : Takes pending b output next) (hpending : Proper pending)
    (hb : b ≠ 10) : '\n' ∉ output := by
  have hclosing : '\n' ∉ closing pending := by
    cases pending <;> simp [closing, replacement]
  cases h with
  | char _ _ =>
    have hne : b.toNat ≠ 10 := fun hten => hb (UInt8.toNat_inj.mp hten)
    rw [List.mem_append, List.mem_singleton, not_or]
    exact ⟨hclosing, fun hnewline => hne (ofNat_eq_newline_iff.mp hnewline.symm)⟩
  | opens _ _ => exact hclosing
  | invalid _ _ => simpa [hclosing] using by decide
  | @completes p _ hlow hmore =>
    -- the value is at least 64, because the sequence was not left with a value of zero
    obtain ⟨hle, hzero⟩ := hpending p rfl
    have hlow' : p.low.toNat ≤ b.toNat := hlow
    have hne : p.value * 64 + (b.toNat - 0x80) ≠ 10 := by
      by_cases hvalue : p.value = 0
      · exact absurd hmore (hzero hvalue).2
      · omega
    rw [List.mem_singleton]
    exact fun hnewline => hne (ofNat_eq_newline_iff.mp hnewline.symm)
  | continues _ _ => exact List.not_mem_nil

/-- **A newline comes from its own byte only.** -/
theorem newline_not_mem_decodeLossy (h : 10 ∉ bytes) : '\n' ∉ decodeLossy bytes := by
  have hfrom {pending : Option Pending} (hpending : Proper pending) :
      '\n' ∉ decodeFrom pending bytes := by
    induction bytes generalizing pending with
    | nil => cases pending <;> simp [decodeFrom, closing, replacement]
    | cons b rest ih =>
      obtain ⟨hb, hrest⟩ := not_or.mp (mt List.mem_cons.mpr h)
      have htakes := takes_push pending b
      rw [decodeFrom_cons, List.mem_append, not_or]
      exact ⟨htakes.newline_not_mem hpending fun hten => hb hten.symm,
        ih hrest (htakes.proper hpending)⟩
  rw [decodeLossy_eq]
  exact hfrom proper_none

/-! ### Text of no bytes -/

/-- A byte gives a character or leaves a sequence open. -/
theorem Takes.ne_nil (h : Takes pending b output next) : output = [] → next ≠ none := by
  intro houtput
  cases h with
  | char _ _ => simp at houtput
  | opens _ _ => exact Option.some_ne_none _
  | invalid _ _ => simp at houtput
  | completes _ _ => cases houtput
  | continues _ _ => exact Option.some_ne_none _

theorem decodeFrom_eq_nil (h : decodeFrom pending bytes = []) : pending = none ∧ bytes = [] := by
  induction bytes generalizing pending with
  | nil =>
    cases pending with
    | none => exact ⟨rfl, rfl⟩
    | some p => cases h
  | cons b rest ih =>
    obtain ⟨houtput, hrest⟩ := List.append_eq_nil_iff.mp h
    exact absurd (ih hrest).1 ((takes_push pending b).ne_nil houtput)

/-- Only no bytes give no text. -/
theorem decodeLossy_eq_nil_iff : decodeLossy bytes = [] ↔ bytes = [] := by
  constructor
  · intro h
    rw [decodeLossy_eq] at h
    exact (decodeFrom_eq_nil h).2
  · rintro rfl
    rfl

end NameRecovery.Utf8
