import NameRecovery.Hex.Digit

/-!
# Documents as text

A document is a tree of texts, numbers, lists and objects.  It is written over several lines:
two blanks per level, one item or field on a line, `[]` for an empty list.  Inside a text,
only the quotation mark, the backslash and the characters below U+0020 are escaped.

## Main definitions

* `Document` : documents.  The fields of an object are written in the order they are listed.
* `Document.pretty` : the text of a document.
-/

namespace NameRecovery

/-- A document.  Nothing here needs fractions, truth values or nulls. -/
inductive Document where
  | text (s : String)
  | number (n : Nat)
  | list (items : List Document)
  | object (fields : List (String × Document))

namespace Document

/-- One character inside a text.  Control characters without a letter of their own have four
digits. -/
def escape (c : Char) : List Char :=
  match c with
  | '"' => ['\\', '"']
  | '\\' => ['\\', '\\']
  | '\x08' => ['\\', 'b']
  | '\x0c' => ['\\', 'f']
  | '\n' => ['\\', 'n']
  | '\r' => ['\\', 'r']
  | '\t' => ['\\', 't']
  | c =>
    if c.toNat < 0x20 then
      ['\\', 'u', '0', '0', Nat.digitChar (c.toNat / 16), Nat.digitChar (c.toNat % 16)]
    else [c]

/-- A text between quotation marks. -/
def quote (s : String) : String :=
  String.ofList ('"' :: s.toList.flatMap escape ++ ['"'])

/-- The start of a line `depth` levels deep. -/
def newline (depth : Nat) : String :=
  String.ofList ('\n' :: List.replicate (2 * depth) ' ')

mutual

/-- The text of a document that stands `depth` levels deep. -/
def render (depth : Nat) : Document → String
  | text s => quote s
  | number n => toString n
  | list items =>
    if items.isEmpty then "[]"
    else "[" ++ renderItems (depth + 1) "" items ++ newline depth ++ "]"
  | object fields =>
    if fields.isEmpty then "\x7b\x7d"
    else "\x7b" ++ renderFields (depth + 1) "" fields ++ newline depth ++ "\x7d"

/-- The items of a list, each on its own line after `separator`. -/
def renderItems (depth : Nat) (separator : String) : List Document → String
  | [] => ""
  | item :: rest =>
    separator ++ newline depth ++ render depth item ++ renderItems depth "," rest

/-- The fields of an object, each on its own line after `separator`. -/
def renderFields (depth : Nat) (separator : String) : List (String × Document) → String
  | [] => ""
  | (key, value) :: rest =>
    separator ++ newline depth ++ quote key ++ ": " ++ render depth value ++
      renderFields depth "," rest

end

/-- The text of a document, without a newline at the end. -/
def pretty (document : Document) : String :=
  render 0 document

end Document

end NameRecovery
