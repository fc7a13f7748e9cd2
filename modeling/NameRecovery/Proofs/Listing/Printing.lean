import NameRecovery.Proofs.Hex.Spelling
import NameRecovery.Proofs.Listing.AddressColumn
import NameRecovery.Proofs.Listing.Columns
import NameRecovery.Proofs.Listing.Exactness
import NameRecovery.Recovery

/-!
# Printed listings

An image may be cut into chunks that follow one another, and each chunk may be printed as a line:
its address, a colon, its bytes in groups, and perhaps a comment. There are many ways to do so. This
file describes them without the reader of lines, and proves that every one of them is read back: the
lines give the image that was printed, without any zero fill, whatever limit there is on one.

## Main definitions

* `Spaced` : words in a row with spaces between them.
* `Comment` : what may follow the bytes of a line.
* `LineForm`, `LineForm.Shows` : the parts of a line, and when they show a chunk.
* `Prints` : the lines that a chunk may be printed as.
* `Cuts` : the ways to cut an image into chunks.

## Main results

* `exists_prints` : every chunk may be printed.
* `Prints.meaning?` : a printed line means the chunk that was printed.
* `Reconstruction.feed_consecutive` : chunks that follow one another are placed without a gap.
* `reconstruct_printed` : a printed image is read back.
-/

namespace NameRecovery

/-! ### Ways to print -/

/-- Words in a row, with one or more spaces between them. -/
inductive Spaced : List (List Char) → List Char → Prop
  | last (w : List Char) : Spaced [w] w
  | cons (w : List Char) (more : Nat) {ws : List (List Char)} {cs : List Char}
      (h : Spaced ws cs) : Spaced (w :: ws) (w ++ ' ' :: (List.replicate more ' ' ++ cs))

/-- What may follow the bytes of a line: nothing, or a tab and a comment, which stays on the line
and does not say that memory could not be read. -/
inductive Comment : List Char → Prop
  | none : Comment []
  | tab {cs : List Char} (hline : '\n' ∉ cs) (hmark : ¬ Line.outOfBoundsMark.toList <:+: cs) :
      Comment ('\t' :: cs)

/-- The parts of a printed line. The groups of bytes stand in the column. -/
structure LineForm where
  indent : List Char
  digits : List Char
  gap : List Char
  groups : List (List Char)
  column : List Char
  tail : List Char

/-- The parts in a row, with a colon behind the address. -/
def LineForm.text (f : LineForm) : String :=
  String.ofList (f.indent ++ (f.digits ++ ':' :: (f.gap ++ (f.column ++ f.tail))))

/-- The parts show a chunk. The address may have zeros before it, and fills eight digits where
addresses have a fixed width. All groups of a line show equally many bytes, at least one. -/
structure LineForm.Shows (d : Dialect) (c : Chunk) (f : LineForm) : Prop where
  indent_blank : ∀ x ∈ f.indent, Text.isBlank x = true
  address : Hex.SpellsNumber c.address.toNat f.digits
  address_width : d = .fixedWidth → f.digits.length = 8
  gap_ne_nil : f.gap ≠ []
  gap_blank : ∀ x ∈ f.gap, x = ' ' ∨ x = '\t'
  spaced : Spaced f.groups f.column
  group_width : ∃ width, 0 < width ∧ ∀ g ∈ f.groups, g.length = 2 * width
  bytes : Hex.Spells (Hex.encode c.bytes) f.groups.flatten
  comment : Comment f.tail

/-- A line that a chunk may be printed as. -/
def Prints (d : Dialect) (c : Chunk) (line : String) : Prop :=
  ∃ f : LineForm, f.Shows d c ∧ line = f.text

/-- **Every chunk with some bytes may be printed**, with a fixed width if eight digits suffice. -/
theorem exists_prints {d : Dialect} {c : Chunk} (hne : c.bytes ≠ [])
    (hfixed : d = .fixedWidth → c.address.toNat < 0x100000000) : ∃ line, Prints d c line := by
  have hrefl (cs : List Char) : Hex.Spells cs cs := List.forall₂_same.mpr fun x _ => Or.inl rfl
  let digits := Hex.numeral c.address.toNat
  let f : LineForm :=
    { indent := []
      digits := List.replicate (8 - digits.length) '0' ++ digits
      gap := [' ']
      groups := [Hex.encode c.bytes]
      column := Hex.encode c.bytes
      tail := [] }
  refine ⟨f.text, f, ?_, rfl⟩
  exact
    { indent_blank := fun x hx => by cases hx
      address := ⟨_, hrefl _⟩
      address_width := fun hd => by
        have hlength : digits.length ≤ 8 :=
          (Nat.length_toDigits_le_iff (by decide) (by decide)).mpr (hfixed hd)
        rw [List.length_append, List.length_replicate, Nat.sub_add_cancel hlength]
      gap_ne_nil := List.cons_ne_nil _ _
      gap_blank := fun x hx => Or.inl (List.mem_singleton.mp hx)
      spaced := Spaced.last _
      group_width := ⟨c.bytes.length, List.length_pos_of_ne_nil hne, fun g hg => by
        rw [List.mem_singleton.mp hg, Hex.length_encode]⟩
      bytes := by simpa [f] using hrefl _
      comment := Comment.none }

/-! ### Columns -/

section Columns

variable {ws : List (List Char)} {cs tail : List Char}

theorem Spaced.ne_nil (h : Spaced ws cs) : ws ≠ [] := by
  cases h <;> exact List.cons_ne_nil _ _

/-- What holds of the space and of the characters of all words holds of all characters. -/
theorem Spaced.forall_mem {P : Char → Prop} (h : Spaced ws cs) (hspace : P ' ')
    (hws : ∀ w ∈ ws, ∀ x ∈ w, P x) : ∀ x ∈ cs, P x := by
  induction h with
  | last w => exact hws w List.mem_cons_self
  | cons w more _ ih =>
    obtain ⟨hw, hrest⟩ := List.forall_mem_cons.mp hws
    intro x hx
    rw [List.mem_append, List.mem_cons, List.mem_append, List.mem_replicate] at hx
    rcases hx with hx | rfl | ⟨-, rfl⟩ | hx
    · exact hw x hx
    · exact hspace
    · exact hspace
    · exact ih hrest x hx

/-- **The words are found again.** -/
theorem Spaced.words (h : Spaced ws cs) (hws : ∀ w ∈ ws, Text.IsWord w) : Text.words cs = ws := by
  induction h with
  | last w => exact (hws w List.mem_cons_self).words
  | @cons w more ws cs h ih =>
    obtain ⟨hw, hrest⟩ := List.forall_mem_cons.mp hws
    have hspaces : Text.words (List.replicate more ' ' ++ cs) = Text.words cs := by
      induction more with
      | zero => rfl
      | succ k hk => rw [← hk, List.replicate_succ, List.cons_append, Text.words_blank_cons rfl]
    rw [hw.words_append_cons rfl, hspaces, ih hrest]

/-- The first character is of the first word, so it is no blank. -/
theorem Spaced.exists_eq_cons (h : Spaced ws cs) (hws : ∀ w ∈ ws, Text.IsWord w) :
    ∃ x rest, cs = x :: rest ∧ Text.isBlank x = false := by
  cases h with
  | last => exact (hws cs List.mem_cons_self).exists_eq_cons
  | cons w more h =>
    obtain ⟨x, rest, rfl, hx⟩ := (hws w List.mem_cons_self).exists_eq_cons
    exact ⟨x, _, rfl, hx⟩

/-- The last character is of the last word, so it is no blank. -/
theorem Spaced.exists_eq_append (h : Spaced ws cs) (hws : ∀ w ∈ ws, Text.IsWord w) :
    ∃ front x, cs = front ++ [x] ∧ Text.isBlank x = false := by
  induction h with
  | last w => exact (hws w List.mem_cons_self).exists_eq_append
  | @cons w more ws cs h ih =>
    obtain ⟨front, x, rfl, hx⟩ := ih (List.forall_mem_cons.mp hws).2
    exact ⟨w ++ ' ' :: (List.replicate more ' ' ++ front), x, by simp, hx⟩

/-- A comment begins with a tab. -/
theorem Comment.eq_tab_of_head? (h : Comment tail) {x : Char} (hx : tail.head? = some x) :
    x = '\t' := by
  cases h with
  | none => cases hx
  | tab => exact (Option.some.inj hx).symm

/-- A comment whose trailing blanks are dropped is a comment or nothing. -/
theorem Comment.trimRight (h : Comment tail) : Comment (Text.trimRight tail) := by
  cases h with
  | none => exact Comment.none
  | @tab cs hline hmark =>
    have hbegins := Text.prefix_trimRight ('\t' :: cs)
    rcases List.prefix_cons_iff.mp hbegins with hnil | ⟨rest, hrest, hcs⟩
    · rw [hnil]
      exact Comment.none
    · rw [hrest]
      exact Comment.tab (fun hmem => hline (hcs.subset hmem))
        fun hheld => hmark (hheld.trans hcs.isInfix)

end Columns

namespace Line

variable {field gap column tail : List Char}

/-- Trimming a printed line takes the blanks before it and those at the end of its comment. -/
theorem trim_columns {indent : List Char} (hindent : ∀ x ∈ indent, Text.isBlank x = true)
    (hfield : Text.IsWord field)
    (hcolumn : ∃ front x, column = front ++ [x] ∧ Text.isBlank x = false) :
    Text.trim (indent ++ (field ++ ':' :: (gap ++ (column ++ tail)))) =
      field ++ ':' :: (gap ++ (column ++ Text.trimRight tail)) := by
  obtain ⟨first, rest, rfl, hfirst⟩ := hfield.exists_eq_cons
  obtain ⟨front, last, rfl, hlast⟩ := hcolumn
  have hassoc (back : List Char) :
      first :: rest ++ ':' :: (gap ++ (front ++ [last] ++ back)) =
        (first :: rest ++ ':' :: (gap ++ front)) ++ last :: back := by simp
  rw [Text.trim_blank_append hindent, Text.trim, List.cons_append,
    Text.trimLeft_cons_of_not_blank hfirst, ← List.cons_append, hassoc,
    Text.trimRight_append_of_not_blank hlast, ← hassoc]

end Line

/-! ### Lines that show a chunk -/

namespace LineForm.Shows

variable {d : Dialect} {c : Chunk} {f : LineForm} {tail : List Char}

theorem isDigit_of_mem (h : f.Shows d c) : ∀ g ∈ f.groups, ∀ x ∈ g, Hex.isDigit x = true :=
  fun g hg _ hx => h.bytes.isDigit_of_mem (List.mem_flatten.mpr ⟨g, hg, hx⟩)

/-- The address is a word. -/
theorem isWord_digits (h : f.Shows d c) : Text.IsWord f.digits where
  ne_nil := h.address.ne_nil
  not_blank _ hx := Hex.isBlank_of_isDigit (h.address.isDigit_of_mem hx)

/-- Groups are words. -/
theorem isWord_of_mem (h : f.Shows d c) : ∀ g ∈ f.groups, Text.IsWord g := by
  obtain ⟨width, hpos, hwidth⟩ := h.group_width
  intro g hg
  refine ⟨List.ne_nil_of_length_pos ?_, fun x hx =>
    Hex.isBlank_of_isDigit (h.isDigit_of_mem g hg x hx)⟩
  rw [hwidth g hg]
  omega

/-- The column of groups holds spaces and digits only. -/
theorem not_mem_column (h : f.Shows d c) {y : Char} (hspace : ' ' ≠ y)
    (hdigit : Hex.isDigit y = false) : y ∉ f.column := fun hmem =>
  h.spaced.forall_mem (P := (· ≠ y)) hspace (fun g hg x hx hxy => by
    rw [← hxy, h.isDigit_of_mem g hg x hx] at hdigit
    cases hdigit) y hmem rfl

/-- The code column ends at the tab before the comment, and its groups are found again. -/
theorem groups_column (h : f.Shows d c) (htail : Comment tail) :
    Line.groups (f.column ++ tail) = f.groups := by
  have hstop : (f.column ++ tail).takeWhile (· ≠ '\t') = f.column :=
    Line.takeWhile_code (h.not_mem_column (by decide) (by decide)) fun _ => htail.eq_tab_of_head?
  obtain ⟨width, -, hwidth⟩ := h.group_width
  have hsize : ∀ g ∈ f.groups, Utf8.size g = 2 * width := fun g hg => by
    rw [Utf8.size_of_ascii fun x hx => Hex.toNat_lt_of_isDigit (h.isDigit_of_mem g hg x hx),
      hwidth g hg]
  have hdigits := h.isDigit_of_mem
  rw [Line.groups, hstop, h.spaced.words h.isWord_of_mem]
  cases hgroups : f.groups with
  | nil => rfl
  | cons first rest =>
    rw [hgroups] at hsize hdigits
    refine congrArg (first :: ·) (List.takeWhile_eq_self_iff.mpr fun g hg => ?_)
    have hmem := List.mem_cons_of_mem first hg
    rw [hsize g hmem, hsize first List.mem_cons_self, beq_self_eq_true, Bool.true_and,
      List.all_eq_true]
    exact hdigits g hmem

/-- The code column does not say that memory could not be read. -/
theorem not_isInfix (h : f.Shows d c) (htail : Comment tail) :
    ¬ Line.outOfBoundsMark.toList <:+: f.column ++ tail := by
  have hpart : ¬ Line.outOfBoundsMark.toList <:+: f.column := fun hheld =>
    h.not_mem_column (y := 'o') (by decide) (by decide) (hheld.subset (by decide))
  cases htail with
  | none => rwa [List.append_nil]
  | tab hline hmark =>
    intro hheld
    -- the mark holds no tab, so it would have to stand on one side of the tab
    rcases Text.isInfix_of_append_cons (by decide) hheld with hheld | hheld
    · exact hpart hheld
    · exact hmark hheld

/-- The code column is on one line. -/
theorem newline_not_mem (h : f.Shows d c) (htail : Comment tail) : '\n' ∉ f.column ++ tail := by
  have hpart : '\n' ∉ f.column := h.not_mem_column (by decide) (by decide)
  cases htail with
  | none => rwa [List.append_nil]
  | tab hline hmark => simp [hpart, hline]

/-- The columns of the line, once the blanks around it are dropped. -/
theorem columns (h : f.Shows d c) :
    Line.Columns (Text.trim f.text.toList) f.digits f.gap (f.column ++ Text.trimRight f.tail) := by
  obtain ⟨x, rest, hx, hblank⟩ := h.spaced.exists_eq_cons h.isWord_of_mem
  refine ⟨⟨?_, h.isWord_digits, h.gap_ne_nil, fun y hy => ?_, fun hnil => ?_,
    h.newline_not_mem h.comment.trimRight⟩, fun y hy => ?_⟩
  · rw [LineForm.text, String.toList_ofList, Line.trim_columns h.indent_blank h.isWord_digits
      (h.spaced.exists_eq_append h.isWord_of_mem)]
  · rcases h.gap_blank y hy with rfl | rfl <;> rfl
  · rw [hx] at hnil
    cases hnil
  · rw [hx] at hy
    obtain rfl := Option.some.inj hy
    exact hblank

/-- The code column of the line is decoded. -/
theorem reachesDecoding (h : f.Shows d c) :
    Line.ReachesDecoding d f.text c.address (f.column ++ Text.trimRight f.tail) where
  columns := ⟨_, _, h.columns, Dialect.parseAddress?_of_spellsNumber h.address h.address_width⟩
  readable := h.not_isInfix h.comment.trimRight

/-- **A line means the chunk that it shows.** -/
theorem classify (h : f.Shows d c) (n : Nat) :
    Line.classify d n f.text = .ok (.data c.address c.bytes) := by
  refine h.reachesDecoding.classify_eq_data_iff.mpr ⟨rfl, ?_⟩
  rw [h.groups_column h.comment.trimRight]
  exact Line.decodeGroups_eq_ok_iff.mpr h.bytes.decode

end LineForm.Shows

theorem Prints.meaning? {d : Dialect} {c : Chunk} {line : String} (h : Prints d c line) :
    Line.meaning? d line = some (.data c.address c.bytes) := by
  obtain ⟨f, hshows, rfl⟩ := h
  exact Line.classify_eq_ok_iff.mp (hshows.classify 0)

/-! ### Ways to cut -/

/-- Each chunk begins where the one before ends, and the first one at `start`. -/
def Consecutive (start : Nat) : List Chunk → Prop
  | [] => True
  | c :: rest => c.address.toNat = start ∧ Consecutive c.stop rest

/-- The chunks are consecutive parts of the image and make up all of it. -/
structure Cuts (image : ByteImage) (cs : List Chunk) : Prop where
  consecutive : Consecutive image.base.toNat cs
  flatMap_bytes : cs.flatMap Chunk.bytes = image.bytes.toList

namespace Reconstruction

variable {options : ListingOptions} {r : Reconstruction} {cs : List Chunk} {lines : List String}
  {start : Nat}

/-- **Chunks that follow one another are placed one after the other**, without zeros between
them. -/
theorem feed_consecutive
    (hlines : List.Forall₂
      (fun c line => Line.meaning? options.dialect line = some (.data c.address c.bytes)) cs lines)
    (hcs : Consecutive start cs) (hstart : ∀ a : Address, a.toNat = start → r.stopFrom a = start)
    (hfits : start + (cs.flatMap Chunk.bytes).length < 0x10000000000000000) :
    ∃ s, r.feed options lines = .ok s ∧ s.base = r.base.or (cs.head?.map Chunk.address) ∧
      s.bytes.toList = r.bytes.toList ++ cs.flatMap Chunk.bytes := by
  induction hlines generalizing r start with
  | nil => exact ⟨r, rfl, by simp, by simp⟩
  | @cons c line cs lines hline _ ih =>
    obtain ⟨rfl, hrest⟩ := hcs
    rw [List.flatMap_cons, List.length_append] at hfits
    have haccepts : Accepts options r (.data c.address c.bytes) (.placed c.address 0 c.bytes) :=
      .placed (by omega) (hstart c.address rfl) (exceeded?_zero options)
    obtain ⟨next, hnext⟩ : ∃ next : Reconstruction,
        next = ({ r with lineNo := r.lineNo + 1 } : Reconstruction).apply
          (.placed c.address 0 c.bytes) := ⟨_, rfl⟩
    have hbase : next.base = some (r.base.getD c.address) := by rw [hnext]; rfl
    have hbytes : next.bytes = r.bytes ++ c.bytes := by rw [hnext]; rfl
    -- the base is fixed now, so the place of the next byte does not depend on the next address
    have hstop (a : Address) : next.stopFrom a = c.stop := by
      rw [stopFrom, hbase, hbytes, ← Array.length_toList, Array.toList_appendList,
        List.length_append, Array.length_toList, Option.getD_some, ← Nat.add_assoc, Chunk.stop]
      exact congrArg (· + c.bytes.length) (hstart c.address rfl)
    obtain ⟨s, hfeed, hsbase, hsbytes⟩ :=
      ih hrest (fun a _ => hstop a) (by rw [Chunk.stop]; omega)
    refine ⟨s, feed_cons_eq_ok_iff.mpr ⟨next, _,
      push_eq_ok_iff.mpr ⟨⟨_, hline, haccepts⟩, hnext⟩, hfeed⟩, ?_, ?_⟩
    · rw [hsbase, hbase]
      cases r.base <;> rfl
    · rw [hsbytes, hbytes, List.flatMap_cons, Array.toList_appendList, List.append_assoc]

end Reconstruction

/-! ### Printed images -/

variable {options : Options} {image : ByteImage} {cs : List Chunk} {lines : List String}

/-- **A printed image is read back.** However an image with some bytes is cut into chunks, however
they are printed, and whatever the limit on a zero fill is, the lines give the image; so the names
in the lines are those of the image. -/
theorem reconstruct_printed (hne : image.isEmpty = false) (hcut : Cuts image cs)
    (hprint : List.Forall₂ (Prints options.listing.dialect) cs lines) :
    reconstruct options.listing lines = .ok image ∧
      findNames options lines = .ok (scan options.scan image) := by
  have himage : reconstruct options.listing lines = .ok image := by
    have hfits : image.base.toNat + (cs.flatMap Chunk.bytes).length < 0x10000000000000000 := by
      rw [hcut.flatMap_bytes, Array.length_toList]
      exact image.fits
    obtain ⟨r, hfeed, hbase, hbytes⟩ := Reconstruction.feed_consecutive (r := {})
      (hprint.imp fun c line hline => hline.meaning?) hcut.consecutive (fun a ha => ha) hfits
    rw [hcut.flatMap_bytes] at hbytes
    refine reconstruct_eq_ok_iff.mpr ⟨r, hfeed, ?_, Array.toList_inj.mp hbytes⟩
    match cs, hcut with
    | [], hcut =>
      have hempty : image.bytes = #[] := Array.toList_inj.mp hcut.flatMap_bytes.symm
      rw [ByteImage.isEmpty, hempty] at hne
      cases hne
    | c :: rest, hcut =>
      rw [hbase]
      exact congrArg some (Address.ext hcut.consecutive.1)
  refine ⟨himage, ?_⟩
  rw [findNames, recover, himage]
  rfl

/-- An image that reaches up to the end of the address space. -/
def topImage : ByteImage :=
  ⟨⟨0xfffffffffffffff8, by decide⟩, #[0x7c, 0x08, 0x02, 0xa6, 0xde, 0xad, 0xbe], by decide⟩

/-- Two parts of `topImage`. -/
def topChunks : List Chunk :=
  [⟨⟨0xfffffffffffffff8, by decide⟩, [0x7c, 0x08, 0x02, 0xa6]⟩,
    ⟨⟨0xfffffffffffffffc, by decide⟩, [0xde, 0xad, 0xbe]⟩]

/-- Two lines that these parts may be printed as. -/
def topListing : List String :=
  ["  00FFfffffffffffff8: \t7C08 02a6\tmflr\tr0 ", "fffffffffffffffc:\tdE  aD be"]

/-- The forms of these lines: zeros before an address, letters of both cases, groups of one and of
two bytes, and a comment. -/
def topForms : List LineForm :=
  [{ indent := "  ".toList
     digits := "00FFfffffffffffff8".toList
     gap := " \t".toList
     groups := ["7C08".toList, "02a6".toList]
     column := "7C08 02a6".toList
     tail := "\tmflr\tr0 ".toList },
   { indent := []
     digits := "fffffffffffffffc".toList
     gap := "\t".toList
     groups := ["dE".toList, "aD".toList, "be".toList]
     column := "dE  aD be".toList
     tail := [] }]

theorem reconstruct_topListing :
    topImage.isEmpty = false ∧ Cuts topImage topChunks ∧
      List.Forall₂ (Prints .colonStripped) topChunks topListing ∧
      reconstruct ⟨.colonStripped, some 0⟩ topListing = .ok topImage ∧
      findNames ⟨⟨.colonStripped, some 0⟩, {}⟩ topListing = .ok (scan {} topImage) := by
  have hcut : Cuts topImage topChunks := ⟨⟨rfl, by decide +kernel, trivial⟩, rfl⟩
  have hcomment : ¬ Line.outOfBoundsMark.toList <:+: "mflr\tr0 ".toList := by
    rw [← Text.holds_iff_isInfix]
    decide
  have hfirst : topForms[0].Shows .colonStripped topChunks[0] :=
    { indent_blank := List.all_eq_true.mp (by decide)
      address := ⟨2, by decide +kernel⟩
      address_width := by decide
      gap_ne_nil := by decide
      gap_blank := by simp [topForms]
      spaced := .cons _ 0 (.last _)
      group_width := ⟨2, by decide⟩
      bytes := by decide
      comment := .tab (by decide) hcomment }
  have hsecond : topForms[1].Shows .colonStripped topChunks[1] :=
    { indent_blank := List.all_eq_true.mp (by decide)
      address := ⟨0, by decide +kernel⟩
      address_width := by decide
      gap_ne_nil := by decide
      gap_blank := by simp [topForms]
      spaced := .cons _ 1 (.cons _ 0 (.last _))
      group_width := ⟨1, by decide⟩
      bytes := by decide
      comment := .none }
  have hprint : List.Forall₂ (Prints .colonStripped) topChunks topListing :=
    .cons ⟨topForms[0], hfirst, by decide⟩ (.cons ⟨topForms[1], hsecond, by decide⟩ .nil)
  obtain ⟨himage, hnames⟩ := @reconstruct_printed ⟨⟨.colonStripped, some 0⟩, {}⟩ topImage topChunks
    topListing rfl hcut hprint
  exact ⟨rfl, hcut, hprint, himage, hnames⟩

end NameRecovery
