import NameRecovery.Text.Quoted

/-!
# Bytes as pairs of hexadecimal digits

## Main definitions

* `Hex.encode` : two lower-case digits per byte.
* `Hex.decode` : the bytes that a text spells, and why a text spells none.
-/

namespace NameRecovery.Hex

/-- The lower-case digit of a value below 16. -/
def digitChar (n : Nat) : Char :=
  Nat.digitChar n

/-- Bytes as lower-case digits, two for each byte. -/
def encode (bytes : List UInt8) : List Char :=
  bytes.flatMap fun b => [digitChar (b.toNat / 16), digitChar (b.toNat % 16)]

/-- Why a text spells no bytes. -/
inductive DecodeError where
  /-- The number of bytes in the text is odd. -/
  | oddLength
  /-- The byte `byte` at position `index` of the text is no digit. -/
  | invalidByte (byte : UInt8) (index : Nat)
deriving DecidableEq

/-- The wording of a decode error. -/
def DecodeError.message : DecodeError → String
  | oddLength => "Odd number of digits"
  | invalidByte byte index =>
    s!"Invalid character {Text.quotedChar (Char.ofNat byte.toNat)} at position {index}"

/-- The value of a byte as an ASCII digit. -/
def byteDigit? (b : UInt8) : Option Nat :=
  digit? (Char.ofNat b.toNat)

/-- Reads two digits at a time; `index` is the position of the first byte of `text`. -/
def decodePairs (index : Nat) : List UInt8 → Except DecodeError (List UInt8)
  | [] => .ok []
  | [_] => .error .oddLength
  | x :: y :: rest =>
    match byteDigit? x with
    | none => .error (.invalidByte x index)
    | some high =>
      match byteDigit? y with
      | none => .error (.invalidByte y (index + 1))
      | some low => (decodePairs (index + 2) rest).map (UInt8.ofNat (high * 16 + low) :: ·)

/-- The bytes that a text spells, two digits each.  An odd length is reported before any
byte that is no digit, and of those bytes the first is reported. -/
def decode (text : List UInt8) : Except DecodeError (List UInt8) :=
  if text.length % 2 = 1 then .error .oddLength else decodePairs 0 text

end NameRecovery.Hex
