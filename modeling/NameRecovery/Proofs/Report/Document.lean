import NameRecovery.Proofs.Document
import NameRecovery.Proofs.Report.Lines

/-!
# Reading a document back

The fields of a report as a document can be looked up by their keys. The addresses among them are read
as typed addresses, and the records give the entries of the map in order, whatever the names hold. A
document is determined by its text, so the text of a report determines its entries and the extent of
its image. A missing image cannot be told from an image without bytes at zero.

## Main definitions

* `Document.field?`, `Document.textAt?`, `Document.numberAt?`, `Document.itemsAt?`,
  `Document.addressAt?` : what a field of an object holds.
* `Report.readRecord?`, `Report.readNames?` : reading a record, and all records of a report.

## Main results

* `Report.readNames?_document` : the entries of a report are read back.
* `Report.field?_of_image` : a report says of its image what the image's own document says.
* `Report.document_read_back` : for all maps and images.
-/

namespace NameRecovery

namespace Document

/-- The value of a field of an object. -/
def field? (key : String) : Document → Option Document
  | object fields => (fields.find? fun field => field.1 = key).map (·.2)
  | _ => none

/-- The text that a field holds. -/
def textAt? (key : String) (document : Document) : Option String :=
  match document.field? key with
  | some (text s) => some s
  | _ => none

/-- The number that a field holds. -/
def numberAt? (key : String) (document : Document) : Option Nat :=
  match document.field? key with
  | some (number n) => some n
  | _ => none

/-- The items of the list that a field holds. -/
def itemsAt? (key : String) (document : Document) : Option (List Document) :=
  match document.field? key with
  | some (list items) => some items
  | _ => none

/-- The address that is written in a field. -/
def addressAt? (key : String) (document : Document) : Option Address :=
  (document.textAt? key).bind Address.parse?

variable {key : String} {document : Document} {a : Address}

/-- A written address is read back from its field. -/
theorem addressAt?_eq_some (h : document.textAt? key = some a.text) :
    document.addressAt? key = some a := by
  rw [addressAt?, h, Option.bind_some, Address.parse?_text]

end Document

namespace Report

variable {names names' : NameMap} {image? image?' : Option ByteImage}

/-- Reads a record: its address and its name. -/
def readRecord? (record : Document) : Option (Address × String) :=
  (record.addressAt? "address").bind fun a => (record.textAt? "name").map fun name => (a, name)

/-- Reads the records of a report. -/
def readNames? (report : Document) : Option (List (Address × String)) :=
  (report.itemsAt? "names").bind fun records => records.mapM readRecord?

/-- The record of an entry is read back. -/
theorem readRecord?_entryObject (e : Address × String) : readRecord? (entryObject e) = some e := by
  have haddress : (entryObject e).addressAt? "address" = some e.1 :=
    Document.addressAt?_eq_some rfl
  rw [readRecord?, haddress]
  rfl

/-- **The entries of a report are read back**, in order. -/
theorem readNames?_document : readNames? (document names image?) = some names.toList := by
  have hrecords : (document names image?).itemsAt? "names" = some (names.toList.map entryObject) :=
    rfl
  rw [readNames?, hrecords, Option.bind_some, mapM_map_of_read readRecord?_entryObject]

/-- An image ends as far behind its base as it has bytes. -/
theorem base_add_size (image? : Option ByteImage) :
    (imageBase image?).toNat + imageSize image? = (imageStop image?).toNat := by
  cases image? <;> rfl

theorem addressAt?_base : (document names image?).addressAt? "base" = some (imageBase image?) :=
  Document.addressAt?_eq_some rfl

theorem addressAt?_end : (document names image?).addressAt? "end" = some (imageStop image?) :=
  Document.addressAt?_eq_some rfl

theorem numberAt?_size : (document names image?).numberAt? "size" = some (imageSize image?) :=
  rfl

/-- The fields of the document of an image are fields of the report. -/
theorem field?_of_image {image : ByteImage} {key : String} {value : Document}
    (h : image.document.field? key = some value) :
    (document names (some image)).field? key = some value := by
  obtain ⟨field, hfind, rfl⟩ := Option.map_eq_some_iff.mp h
  obtain rfl : field.1 = key := of_decide_eq_true (List.find?_some hfind :)
  have hmem := List.mem_of_find?_eq_some hfind
  simp only [List.mem_cons, List.not_mem_nil, or_false] at hmem
  rcases hmem with rfl | rfl | rfl <;> rfl

/-- Equal documents have the same entries, and images of the same extent. -/
theorem extent_eq_of_document_eq (h : document names image? = document names' image?') :
    names.toList = names'.toList ∧ imageBase image? = imageBase image?' ∧
      imageStop image? = imageStop image?' ∧ imageSize image? = imageSize image?' := by
  have hnames := congrArg readNames? h
  have hbase := congrArg (Document.addressAt? "base") h
  have hstop := congrArg (Document.addressAt? "end") h
  have hsize := congrArg (Document.numberAt? "size") h
  rw [readNames?_document, readNames?_document] at hnames
  rw [addressAt?_base, addressAt?_base] at hbase
  rw [addressAt?_end, addressAt?_end] at hstop
  rw [numberAt?_size, numberAt?_size] at hsize
  exact ⟨Option.some.inj hnames, Option.some.inj hbase, Option.some.inj hstop,
    Option.some.inj hsize⟩

/-- Maps with the same entries and images of the same extent have equal documents. -/
theorem document_eq_of_extent_eq (hnames : names.toList = names'.toList)
    (hbase : imageBase image? = imageBase image?') (hstop : imageStop image? = imageStop image?')
    (hsize : imageSize image? = imageSize image?') :
    document names image? = document names' image?' := by
  rw [document, document, NameMap.size_eq_length_toList, NameMap.size_eq_length_toList, hnames,
    hbase, hstop, hsize]

/-- **The document of a report can be read back from its text.** Two reports have the same text exactly
when their maps list the same entries in the same order and their images have the same base, end and
size. The document counts the entries, its addresses are read back as typed addresses, its size leads
from the base to the end, its records give the entries in order, and it says of an image what the
image's own document says. -/
theorem document_read_back (names : NameMap) (image? : Option ByteImage) :
    (∀ (names' : NameMap) (image?' : Option ByteImage),
      (document names image?).pretty = (document names' image?').pretty ↔
        names.toList = names'.toList ∧ imageBase image? = imageBase image?' ∧
          imageStop image? = imageStop image?' ∧ imageSize image? = imageSize image?') ∧
    (document names image?).numberAt? "count" = some names.toList.length ∧
    (document names image?).addressAt? "base" = some (imageBase image?) ∧
    (document names image?).addressAt? "end" = some (imageStop image?) ∧
    (document names image?).numberAt? "size" = some (imageSize image?) ∧
    (imageBase image?).toNat + imageSize image? = (imageStop image?).toNat ∧
    readNames? (document names image?) = some names.toList ∧
    (∀ image, image? = some image → ∀ key value, image.document.field? key = some value →
      (document names image?).field? key = some value) := by
  refine ⟨fun names' image?' => ⟨fun htext => ?_, ?_⟩, ?_, addressAt?_base, addressAt?_end,
    numberAt?_size, base_add_size image?, readNames?_document, fun image himage key value h => ?_⟩
  · exact extent_eq_of_document_eq (Document.pretty_injective htext)
  · rintro ⟨hnames, hbase, hstop, hsize⟩
    rw [document_eq_of_extent_eq hnames hbase hstop hsize]
  · rw [← NameMap.size_eq_length_toList]
    rfl
  · rw [himage]
    exact field?_of_image h

/-- A name that spells the end of its record and a further record is not taken for two records; and a
missing image counts as an image without bytes at zero. -/
theorem document_read_back_spelledRecord :
    (document (.ofList [(.zero, "A\"\n    \x7d,\n    \x7b\n      \"address\": \"0x4\",\n" ++
        "      \"name\": \"B")]) none).pretty ≠
      (document (.ofList [(.zero, "A"), (⟨4, by decide⟩, "B")]) none).pretty ∧
    (document {} none).pretty = (document {} (some ⟨.zero, #[], by decide⟩)).pretty := by
  constructor
  · intro htext
    obtain ⟨hread, -⟩ := document_read_back _ none
    obtain ⟨hnames, -⟩ := (hread _ none).mp htext
    simp [NameMap.ofList, NameMap.insert, NameMap.toList, Address.zero] at hnames
  · obtain ⟨hread, -⟩ := document_read_back {} none
    exact (hread {} _).mpr ⟨rfl, rfl, rfl, rfl⟩

end Report

end NameRecovery
