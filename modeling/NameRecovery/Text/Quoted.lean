import NameRecovery.Text.GraphemeExtend
import NameRecovery.Text.Unassigned
import NameRecovery.Hex.Digit

/-!
# Quoted text in messages

A message shows a text between quotation marks with everything unprintable escaped: a few
control characters by a letter, the others by their number in braces.  Only the mark that
encloses the text is escaped, so an apostrophe is plain inside double quotes.

## Main definitions

* `Text.isPrintable` : characters that are shown as they are.
* `Text.escape` : one character inside a given quotation mark.
* `Text.quoted`, `Text.quotedChar` : a text in double quotes, a character in single quotes.
-/

namespace NameRecovery.Text

/-- Control characters, soft hyphens and other format characters, separators other than the
space, private use, and the fillers that stand for a missing Hangul letter. -/
def isInvisible (c : Char) : Bool :=
  let n := c.toNat
  n ≤ 0x1f || (0x7f ≤ n && n ≤ 0xa0) || n == 0xad || (0x600 ≤ n && n ≤ 0x605) ||
    n == 0x61c || n == 0x6dd || n == 0x70f || (0x890 ≤ n && n ≤ 0x891) || n == 0x8e2 ||
    (0x115f ≤ n && n ≤ 0x1160) || n == 0x1680 || n == 0x180e || (0x2000 ≤ n && n ≤ 0x200f) ||
    (0x2028 ≤ n && n ≤ 0x202f) || (0x205f ≤ n && n ≤ 0x206f) || n == 0x3000 || n == 0x3164 ||
    (0xe000 ≤ n && n ≤ 0xf8ff) || n == 0xfeff || n == 0xffa0 ||
    (0xfff9 ≤ n && n ≤ 0xfffb) || n == 0x110bd || n == 0x110cd ||
    (0x13430 ≤ n && n ≤ 0x1343f) || (0x1bca0 ≤ n && n ≤ 0x1bca3) ||
    (0x1d173 ≤ n && n ≤ 0x1d17a) || (0xe0001 ≤ n && n ≤ 0xe007f) || 0xf0000 ≤ n

/-- The halfwidth katakana sound marks.  They join the letter before them, but are letters of
their own width. -/
def isSoundMark (c : Char) : Bool :=
  c.toNat == 0xff9e || c.toNat == 0xff9f

/-- Characters that are shown as they are. -/
def isPrintable (c : Char) : Bool :=
  !(isInvisible c || (isGraphemeExtend c && !isSoundMark c) || isUnassigned c)

/-- One character inside the quotation mark `mark`. -/
def escape (mark c : Char) : List Char :=
  if c = mark ∨ c = '\\' then ['\\', c]
  else match c with
    | '\x00' => ['\\', '0']
    | '\t' => ['\\', 't']
    | '\r' => ['\\', 'r']
    | '\n' => ['\\', 'n']
    | c => if isPrintable c then [c] else ['\\', 'u', '\x7b'] ++ Hex.numeral c.toNat ++ ['\x7d']

/-- A text in double quotes. -/
def quoted (s : String) : String :=
  String.ofList ('"' :: s.toList.flatMap (escape '"') ++ ['"'])

/-- A character in single quotes. -/
def quotedChar (c : Char) : String :=
  String.ofList ('\'' :: escape '\'' c ++ ['\''])

end NameRecovery.Text
