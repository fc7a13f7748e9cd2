import Mathlib.Data.List.Basic
import NameRecovery.Document
import NameRecovery.Proofs.Hex.Spelling

/-!
# A document is determined by its text

The text of a document can be cut off from whatever follows it, as long as this is not a further
digit. One character of a text can be read back from its escaped form, so a text ends at the first
quotation mark that is not escaped; a number ends behind its last digit; and in a list or an object a
part ends where the line ends or a comma stands. Since the first character says which of the four a
document is, different documents have different texts, however deep they are and whatever their texts
hold.

## Main definitions

* `Document.readChar?` : reads one character of a text.
* `Document.Readable` : a thing that can be told from its text, whatever follows.
* `Document.block` : the parts of a list or an object between their brackets.
* `Document.opening` : what the first character of a document says.

## Main results

* `Document.readChar?_escape` : an escaped character is read back.
* `Document.block_append_inj` : parts that can be told from their texts can be told from a block.
* `Document.pretty_injective` : different documents have different texts.
-/

namespace NameRecovery.Document

variable {α : Type} {r r' : List Char} {depth : Nat}

/-! ### Texts -/

/-- What a letter behind a backslash stands for. -/
def unescaped : Char → Char
  | 'b' => '\x08'
  | 'f' => '\x0c'
  | 'n' => '\n'
  | 'r' => '\r'
  | 't' => '\t'
  | c => c

/-- Reads one character of a text, and says what follows it. -/
def readChar? : List Char → Option (Char × List Char)
  | '\\' :: 'u' :: _ :: _ :: high :: low :: rest => some (Char.ofNat (Hex.value [high, low]), rest)
  | '\\' :: letter :: rest => some (unescaped letter, rest)
  | c :: rest => some (c, rest)
  | [] => none

/-- A character that is no backslash stands for itself. -/
theorem readChar?_cons {c : Char} (h : c ≠ '\\') (rest : List Char) :
    readChar? (c :: rest) = some (c, rest) := by
  unfold readChar?
  split
  · next heq => exact absurd (List.cons.inj heq).1 h
  · next heq => exact absurd (List.cons.inj heq).1 h
  · next heq =>
    obtain ⟨rfl, rfl⟩ := List.cons.inj heq
    rfl
  · next heq => cases heq

/-- A control character in four digits is read back. -/
theorem readChar?_control {c : Char} (h : c.toNat < 0x20) (rest : List Char) :
    readChar? ('\\' :: 'u' :: '0' :: '0' :: Nat.digitChar (c.toNat / 16) ::
      Nat.digitChar (c.toNat % 16) :: rest) = some (c, rest) := by
  have hhigh : Hex.digit? (Nat.digitChar (c.toNat / 16)) = some (c.toNat / 16) :=
    Hex.digit?_digitChar (by omega)
  have hlow : Hex.digit? (Nat.digitChar (c.toNat % 16)) = some (c.toNat % 16) :=
    Hex.digit?_digitChar (by omega)
  simp only [readChar?, Hex.value, List.foldl_cons, List.foldl_nil, hhigh, hlow, Option.getD_some,
    Nat.zero_mul, Nat.zero_add, Nat.div_add_mod', Char.ofNat_toNat]

/-- **An escaped character is read back.** -/
theorem readChar?_escape (c : Char) (rest : List Char) :
    readChar? (escape c ++ rest) = some (c, rest) := by
  unfold escape
  split
  case h_8 _ hbackslash _ _ _ _ _ =>
    split
    · next hcontrol => exact readChar?_control hcontrol rest
    · exact readChar?_cons hbackslash rest
  all_goals rfl

/-- An escaped character does not begin with a quotation mark. -/
theorem escape_append_ne (c : Char) : escape c ++ r ≠ '"' :: r' := by
  intro h
  have hread := congrArg readChar? h
  rw [readChar?_escape] at hread
  obtain ⟨rfl, -⟩ := Prod.mk.inj (Option.some.inj hread)
  exact absurd (List.cons.inj h).1 (by decide)

/-- Escaped characters end at the first quotation mark that is not escaped. -/
theorem flatMap_escape_append_inj {s t : List Char}
    (h : s.flatMap escape ++ '"' :: r = t.flatMap escape ++ '"' :: r') : s = t ∧ r = r' := by
  induction s generalizing t with
  | nil =>
    cases t with
    | nil => exact ⟨rfl, (List.cons.inj h).2⟩
    | cons d t =>
      rw [List.flatMap_cons, List.append_assoc] at h
      exact absurd h.symm (escape_append_ne d)
  | cons c s ih =>
    cases t with
    | nil =>
      rw [List.flatMap_cons, List.append_assoc] at h
      exact absurd h (escape_append_ne c)
    | cons d t =>
      have hread := congrArg readChar? h
      rw [List.flatMap_cons, List.append_assoc, readChar?_escape, List.flatMap_cons,
        List.append_assoc, readChar?_escape, Option.some.injEq, Prod.mk.injEq] at hread
      obtain ⟨rfl, hrest⟩ := hread
      obtain ⟨rfl, hr⟩ := ih hrest
      exact ⟨rfl, hr⟩

theorem toList_quote (s : String) :
    (quote s).toList = '"' :: (s.toList.flatMap escape ++ ['"']) := by
  rw [quote, String.toList_ofList, List.cons_append]

theorem quote_append_inj {s t : String} (h : (quote s).toList ++ r = (quote t).toList ++ r') :
    s = t ∧ r = r' := by
  simp only [toList_quote, List.cons_append, List.append_assoc, List.nil_append, List.cons.injEq,
    true_and] at h
  obtain ⟨hlist, hr⟩ := flatMap_escape_append_inj h
  exact ⟨String.toList_inj.mp hlist, hr⟩

/-! ### Numbers -/

/-- A text that does not begin with a decimal digit. -/
def NoDigitNext (r : List Char) : Prop :=
  ∀ c, r.head? = some c → c.isDigit = false

theorem noDigitNext_nil : NoDigitNext [] := by
  intro c hc
  cases hc

theorem noDigitNext_cons {c : Char} (h : c.isDigit = false) : NoDigitNext (c :: r) := by
  intro x hx
  rwa [← Option.some.inj hx]

theorem toList_number (n : Nat) : (toString n).toList = Nat.toDigits 10 n := by
  rw [Nat.toString_eq_repr, Nat.toList_repr]

/-- A number ends behind its last digit. -/
theorem takeWhile_number (n : Nat) (hr : NoDigitNext r) :
    ((toString n).toList ++ r).takeWhile Char.isDigit = Nat.toDigits 10 n := by
  rw [toList_number, List.takeWhile_append_of_pos fun c =>
    Nat.isDigit_of_mem_toDigits (by decide) (by decide)]
  cases r with
  | nil => simp
  | cons c rest => simp [hr c rfl]

theorem number_append_inj {m n : Nat} (hr : NoDigitNext r) (hr' : NoDigitNext r')
    (h : (toString m).toList ++ r = (toString n).toList ++ r') : m = n ∧ r = r' := by
  have hdigits := congrArg (List.takeWhile Char.isDigit) h
  rw [takeWhile_number m hr, takeWhile_number n hr'] at hdigits
  obtain rfl : m = n := by
    have hvalues := congrArg (Nat.ofDigitChars 10 · 0) hdigits
    simpa only [Nat.ofDigitChars_toDigits (b := 10) (by decide) (by decide)] using hvalues
  exact ⟨rfl, List.append_cancel_left h⟩

/-! ### Parts between brackets -/

/-- A thing that can be told from its text, whatever follows the text, unless this is a digit. -/
def Readable (f : α → List Char) (x : α) : Prop :=
  ∀ y r r', NoDigitNext r → NoDigitNext r' → f x ++ r = f y ++ r' → x = y ∧ r = r'

/-- What stands behind a part: further parts, each behind a comma and on a line of its own, and the
closing bracket. -/
def further (depth : Nat) (closes : Char) : List (List Char) → List Char
  | [] => (newline depth).toList ++ [closes]
  | part :: rest => ',' :: ((newline (depth + 1)).toList ++ (part ++ further depth closes rest))

/-- Parts between brackets, each on a line of its own. -/
def block (depth : Nat) (opens closes : Char) : List (List Char) → List Char
  | [] => [opens, closes]
  | part :: rest => opens :: ((newline (depth + 1)).toList ++ (part ++ further depth closes rest))

theorem toList_newline (depth : Nat) :
    (newline depth).toList = '\n' :: List.replicate (2 * depth) ' ' := by
  rw [newline, String.toList_ofList]

theorem noDigitNext_further {closes : Char} {parts : List (List Char)} :
    NoDigitNext (further depth closes parts ++ r) := by
  cases parts with
  | nil =>
    rw [further, toList_newline]
    exact noDigitNext_cons (by decide)
  | cons part rest => exact noDigitNext_cons (by decide)

/-- Parts that can be told from their texts can be told from the texts in a row. -/
theorem further_append_inj {f : α → List Char} {closes : Char} {xs ys : List α}
    (hxs : ∀ x ∈ xs, Readable f x)
    (h : further depth closes (xs.map f) ++ r = further depth closes (ys.map f) ++ r') :
    xs = ys ∧ r = r' := by
  induction xs generalizing ys with
  | nil =>
    cases ys with
    | nil => exact ⟨rfl, List.append_cancel_left h⟩
    | cons y ys => simp [further, toList_newline] at h
  | cons x xs ih =>
    obtain ⟨hx, hrest⟩ := List.forall_mem_cons.mp hxs
    cases ys with
    | nil => simp [further, toList_newline] at h
    | cons y ys =>
      simp only [List.map_cons, further, List.cons_append, List.append_assoc, List.cons.injEq,
        true_and, List.append_cancel_left_eq] at h
      obtain ⟨rfl, htail⟩ := hx y _ _ noDigitNext_further noDigitNext_further h
      obtain ⟨rfl, hr⟩ := ih hrest htail
      exact ⟨rfl, hr⟩

/-- **Parts that can be told from their texts can be told from a block.** -/
theorem block_append_inj {f : α → List Char} {opens closes : Char} {xs ys : List α}
    (hcloses : closes ≠ '\n') (hxs : ∀ x ∈ xs, Readable f x)
    (h : block depth opens closes (xs.map f) ++ r = block depth opens closes (ys.map f) ++ r') :
    xs = ys ∧ r = r' := by
  cases xs with
  | nil =>
    cases ys with
    | nil => exact ⟨rfl, List.append_cancel_left h⟩
    | cons y ys => simp [block, toList_newline, hcloses] at h
  | cons x xs =>
    obtain ⟨hx, hrest⟩ := List.forall_mem_cons.mp hxs
    cases ys with
    | nil => simp [block, toList_newline, hcloses.symm] at h
    | cons y ys =>
      simp only [List.map_cons, block, List.cons_append, List.append_assoc, List.cons.injEq,
        true_and, List.append_cancel_left_eq] at h
      obtain ⟨rfl, htail⟩ := hx y _ _ noDigitNext_further noDigitNext_further h
      obtain ⟨rfl, hr⟩ := further_append_inj hrest htail
      exact ⟨rfl, hr⟩

/-! ### Lists and objects -/

/-- A field with its key. -/
def fieldText (depth : Nat) (field : String × Document) : List Char :=
  (quote field.1).toList ++ ':' :: ' ' :: (render depth field.2).toList

theorem toList_renderItems (items : List Document) :
    (renderItems (depth + 1) "," items).toList ++ ((newline depth).toList ++ [']']) =
      further depth ']' (items.map fun item => (render (depth + 1) item).toList) := by
  induction items with
  | nil => rfl
  | cons item rest ih =>
    simp only [renderItems, String.toList_append, List.append_assoc, ih, List.map_cons, further]
    rfl

/-- The text of a list. -/
theorem toList_render_list (items : List Document) :
    (render depth (list items)).toList =
      block depth '[' ']' (items.map fun item => (render (depth + 1) item).toList) := by
  cases items with
  | nil => simp [render, block]
  | cons item rest =>
    simp [render, renderItems, block, String.toList_append, ← toList_renderItems]

theorem toList_renderFields (fields : List (String × Document)) :
    (renderFields (depth + 1) "," fields).toList ++ ((newline depth).toList ++ ['\x7d']) =
      further depth '\x7d' (fields.map (fieldText (depth + 1))) := by
  induction fields with
  | nil => rfl
  | cons field rest ih =>
    simp only [renderFields, String.toList_append, List.append_assoc, ih, List.map_cons, further,
      fieldText]
    rfl

/-- The text of an object. -/
theorem toList_render_object (fields : List (String × Document)) :
    (render depth (object fields)).toList =
      block depth '\x7b' '\x7d' (fields.map (fieldText (depth + 1))) := by
  cases fields with
  | nil => simp [render, block]
  | cons field rest =>
    simp [render, renderFields, block, String.toList_append, fieldText, ← toList_renderFields]

/-! ### Documents -/

/-- Whatever holds of texts and numbers, and of lists and objects if it holds of what they hold, holds
of every document. -/
@[elab_as_elim]
theorem induction {motive : Document → Prop} (text : ∀ s, motive (.text s))
    (number : ∀ n, motive (.number n))
    (list : ∀ items, (∀ item ∈ items, motive item) → motive (.list items))
    (object : ∀ fields, (∀ field ∈ fields, motive field.2) → motive (.object fields)) :
    ∀ document, motive document
  | .text s => text s
  | .number n => number n
  | .list items => list items fun item _ => induction text number list object item
  | .object fields => object fields fun field hfield =>
    have hfields : sizeOf field < sizeOf fields := List.sizeOf_lt_of_mem hfield
    have hvalue : sizeOf field.2 < sizeOf field := by
      cases field
      simp only [Prod.mk.sizeOf_spec]
      omega
    induction text number list object field.2

/-- What the first character of a document says: which of the four it is. All digits say the same. -/
def opening : Document → Char
  | text _ => '"'
  | number _ => '0'
  | list _ => '['
  | object _ => '\x7b'

/-- What the first character of a text says. -/
def opening? (cs : List Char) : Option Char :=
  cs.head?.map fun c => if c.isDigit then '0' else c

theorem opening?_block {opens closes : Char} (h : opens.isDigit = false)
    (parts : List (List Char)) : opening? (block depth opens closes parts ++ r) = some opens := by
  cases parts <;> simp [opening?, block, h]

theorem opening?_render (document : Document) :
    opening? ((render depth document).toList ++ r) = some document.opening := by
  cases document with
  | text s =>
    rw [render, toList_quote]
    rfl
  | number n =>
    obtain ⟨c, rest, hdigits⟩ := List.exists_cons_of_ne_nil (Nat.toDigits_ne_nil (b := 10) (n := n))
    have hc : c.isDigit = true :=
      Nat.isDigit_of_mem_toDigits (by decide) (by decide) (hdigits ▸ List.mem_cons_self)
    simp [render, hdigits, opening?, hc, opening]
  | list items =>
    rw [toList_render_list]
    exact opening?_block (by decide) _
  | object fields =>
    rw [toList_render_object]
    exact opening?_block (by decide) _

/-- Documents whose texts begin alike are of the same kind. -/
theorem opening_eq {a b : Document}
    (h : (render depth a).toList ++ r = (render depth b).toList ++ r') :
    a.opening = b.opening := by
  have hopening := congrArg opening? h
  rwa [opening?_render, opening?_render, Option.some.injEq] at hopening

/-- A field can be told from its text if its value can. -/
theorem readable_fieldText {field : String × Document}
    (h : Readable (fun value => (render depth value).toList) field.2) :
    Readable (fieldText depth) field := by
  intro field' r r' hr hr' heq
  simp only [fieldText, List.append_assoc, List.cons_append] at heq
  obtain ⟨hkey, htail⟩ := quote_append_inj heq
  simp only [List.cons.injEq, true_and] at htail
  obtain ⟨hvalue, hrest⟩ := h _ _ _ hr hr' htail
  exact ⟨Prod.ext hkey hvalue, hrest⟩

/-- **A document can be told from its text**, whatever follows the text, unless this is a digit. -/
theorem readable_render (a : Document) (depth : Nat) :
    Readable (fun document => (render depth document).toList) a := by
  induction a using Document.induction generalizing depth with
  | text s =>
    intro b r r' _ _ h
    have hopening := opening_eq h
    cases b with
    | text t =>
      obtain ⟨rfl, hrest⟩ := quote_append_inj h
      exact ⟨rfl, hrest⟩
    | _ => simp [opening] at hopening
  | number m =>
    intro b r r' hr hr' h
    have hopening := opening_eq h
    cases b with
    | number n =>
      obtain ⟨rfl, hrest⟩ := number_append_inj hr hr' h
      exact ⟨rfl, hrest⟩
    | _ => simp [opening] at hopening
  | list items ih =>
    intro b r r' _ _ h
    have hopening := opening_eq h
    cases b with
    | list items' =>
      simp only [toList_render_list] at h
      obtain ⟨rfl, hrest⟩ := block_append_inj (by decide)
        (fun item hitem => ih item hitem (depth + 1)) h
      exact ⟨rfl, hrest⟩
    | _ => simp [opening] at hopening
  | object fields ih =>
    intro b r r' _ _ h
    have hopening := opening_eq h
    cases b with
    | object fields' =>
      simp only [toList_render_object] at h
      obtain ⟨rfl, hrest⟩ := block_append_inj (by decide)
        (fun field hfield => readable_fieldText (ih field hfield (depth + 1))) h
      exact ⟨rfl, hrest⟩
    | _ => simp [opening] at hopening

/-- **Different documents have different texts.** -/
theorem pretty_injective : Function.Injective pretty := by
  intro a b h
  have hlist : (render 0 a).toList ++ [] = (render 0 b).toList ++ [] :=
    congrArg (fun s : String => s.toList ++ []) h
  exact (readable_render a 0 b [] [] noDigitNext_nil noDigitNext_nil hlist).1

end NameRecovery.Document
