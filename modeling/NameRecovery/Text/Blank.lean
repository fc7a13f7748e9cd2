/-!
# Blanks, trimming and words

Text is handled as a list of characters.  A character is *blank* when it has the Unicode
property `White_Space`; control characters such as U+001C and the zero width space are not
blank.  Words are the maximal runs of characters that are not blank.

## Main definitions

* `Text.isBlank` : the property itself.
* `Text.trim` : text without the blanks around it.
* `Text.pieces`, `Text.words` : cutting at a class of characters, and at blanks.
-/

namespace NameRecovery.Text

/-- The characters with the Unicode property `White_Space`. -/
def isBlank (c : Char) : Bool :=
  let n := c.toNat
  (9 ≤ n && n ≤ 13) || n == 0x20 || n == 0x85 || n == 0xa0 || n == 0x1680 ||
    (0x2000 ≤ n && n ≤ 0x200a) || n == 0x2028 || n == 0x2029 || n == 0x202f ||
    n == 0x205f || n == 0x3000

/-- The text without its leading blanks. -/
def trimLeft (cs : List Char) : List Char :=
  cs.dropWhile isBlank

/-- The text without its trailing blanks. -/
def trimRight (cs : List Char) : List Char :=
  (cs.reverse.dropWhile isBlank).reverse

/-- The text without the blanks around it. -/
def trim (cs : List Char) : List Char :=
  trimRight (trimLeft cs)

/-- Puts one more element in front of a text that is already cut: a separator opens an empty
piece, anything else joins the first piece. -/
def cutStep {α : Type} (sep : α → Bool) (x : α) : List (List α) → List (List α)
  | [] => if sep x then [[], []] else [[x]]
  | p :: ps => if sep x then [] :: p :: ps else (x :: p) :: ps

/-- The pieces between separators, empty ones included; there is always one more piece than
there are separators. -/
def pieces {α : Type} (sep : α → Bool) (xs : List α) : List (List α) :=
  xs.foldr (cutStep sep) [[]]

@[simp] theorem pieces_nil {α : Type} (sep : α → Bool) : pieces sep [] = [[]] :=
  rfl

@[simp] theorem pieces_cons {α : Type} (sep : α → Bool) (x : α) (xs : List α) :
    pieces sep (x :: xs) = cutStep sep x (pieces sep xs) :=
  rfl

/-- The maximal runs of characters that are not blank. -/
def words (cs : List Char) : List (List Char) :=
  (pieces isBlank cs).filter fun w => !w.isEmpty

theorem ne_nil_of_mem_words {cs w : List Char} (hw : w ∈ words cs) : w ≠ [] := by
  simpa using (List.mem_filter.mp hw).2

/-- Whether `pattern` stands somewhere in the text. -/
def holds (pattern cs : List Char) : Bool :=
  match cs with
  | [] => pattern.isEmpty
  | c :: rest => pattern.isPrefixOf (c :: rest) || holds pattern rest

end NameRecovery.Text
