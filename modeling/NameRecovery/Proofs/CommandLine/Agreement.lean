import NameRecovery.Proofs.CommandLine.Modes
import NameRecovery.Proofs.Report.Document
import NameRecovery.Proofs.Scan.Entries

/-!
# The outputs of a run agree

All outputs are made from one recovery, so each can be read off the text with all names: the search
prints one of its lines, the look-up prints a line or derives one from the nearest line below, and
the document lists the parts of the lines. Names are visible characters, so each line can be cut into
its parts again, and no two documents have the same text, so the printed text tells what is listed. A
run fails before anything is printed, and whatever is to be printed.

## Main definitions

* `LookupAnswer` : what a look-up prints, given the lines of the text.
* `Report.lineObject` : a line as an object of the document.

## Main results

* `Recovery.coherent_names`, `Recovery.newline_not_mem_names` : recovered names.
* `Arguments.run_cases` : runs fail alike, or they have the same recovery.
* `lookupAnswer_lookupLine`, `Report.document_eq` : the outputs in terms of the lines.
* `Arguments.outcome_of_find`, `Arguments.outcome_of_lookup`, `Arguments.outcome_of_json` : what is
  printed, and that no other document has the printed text.
* `outputs_agree` : all of this for every listing and every accepted argument list.
-/

namespace NameRecovery

/-! ### Recovered names -/

namespace Recovery

variable {options : ScanOptions} {listing : Except ListingError ByteImage} {r : Recovery}

/-- The names of a recovery are those of a scan, or there are none. -/
theorem names_of_ofListing (h : ofListing options listing = .ok r) :
    r.names = {} ∨ ∃ image, r.names = scan options image := by
  cases listing with
  | ok image =>
    cases h
    exact Or.inr ⟨image, rfl⟩
  | error e =>
    cases e with
    | empty =>
      cases h
      exact Or.inl rfl
    | _ => cases h

theorem coherent_names (h : ofListing options listing = .ok r) : r.names.Coherent := by
  rcases names_of_ofListing h with hnames | ⟨image, hnames⟩
  · exact hnames ▸ NameMap.coherent_empty
  · exact hnames ▸ coherent_scan

/-- A recovered name stands on one line. -/
theorem newline_not_mem_names (h : ofListing options listing = .ok r) :
    ∀ e ∈ r.names.toList, '\n' ∉ e.2.toList := by
  rcases names_of_ofListing h with hnames | ⟨image, hnames⟩
  · rw [hnames]
    intro e he
    cases he
  · rw [hnames]
    exact newline_not_mem_scan

end Recovery

/-! ### The document and the lines -/

namespace Report

/-- A line as an object: its two parts. -/
def lineObject (l : String) : Document :=
  .object [("address", .text (cutLine l).1), ("name", .text (cutLine l).2)]

theorem lineObject_line (e : Address × String) : lineObject (line e) = entryObject e := by
  rw [lineObject, cutLine_line]
  rfl

/-- The document lists the parts of the lines. -/
theorem document_eq (names : NameMap) (image? : Option ByteImage) :
    document names image? = .object [
      ("base", .text (imageBase image?).text),
      ("count", .number (names.toList.map line).length),
      ("end", .text (imageStop image?).text),
      ("names", .list ((names.toList.map line).map lineObject)),
      ("size", .number (imageSize image?)),
      ("t", .text "names")] := by
  have hobjects : lineObject ∘ line = entryObject := funext lineObject_line
  rw [List.map_map, hobjects, List.length_map, ← NameMap.size_eq_length_toList]
  rfl

end Report

namespace CommandLine

/-! ### Looking up an address -/

/-- What a look-up of an address prints, given the lines of all names. -/
inductive LookupAnswer (lines : List String) (a : Address) : String → Prop
  /-- The line of the address itself. -/
  | here (name : String) (hline : Report.line (a, name) ∈ lines) :
    LookupAnswer lines a (Report.line (a, name) ++ "\n")
  /-- The name of the nearest line below, and the distance. -/
  | near (start : Address) (name : String) (distance : Nat)
    (hnone : ∀ name, Report.line (a, name) ∉ lines)
    (hline : Report.line (start, name) ∈ lines) (hlt : start < a)
    (hgreatest : ∀ other name, Report.line (other, name) ∈ lines → other < a → other ≤ start)
    (hdistance : start.toNat + distance = a.toNat) :
    LookupAnswer lines a (Report.line (a, name) ++ "+" ++ Hex.text distance ++ "\n")
  /-- All lines are above. -/
  | unknown (habove : ∀ start name, Report.line (start, name) ∈ lines → a < start) :
    LookupAnswer lines a (a.text ++ " <unknown>\n")

/-- **A look-up prints what the lines say.** -/
theorem lookupAnswer_lookupLine {names : NameMap} (h : names.Coherent) (a : Address) :
    LookupAnswer (names.toList.map Report.line) a (lookupLine names a) := by
  have hmem {e : Address × String} : Report.line e ∈ names.toList.map Report.line ↔
      e ∈ names.toList := List.mem_map_of_injective Report.line_injective
  cases hlookup : names.lookup? a with
  | none =>
    have habove := h.lookup?_eq_none_iff.mp hlookup
    rw [lookupLine, hlookup]
    exact .unknown fun start name hline => habove _ (hmem.mp hline)
  | some e =>
    obtain ⟨start, name⟩ := e
    obtain ⟨hline, hle, hgreatest⟩ := h.lookup?_eq_some_iff.mp hlookup
    by_cases hstart : start = a
    · subst hstart
      rw [lookupLine, hlookup]
      simp only [if_true]
      exact .here name (hmem.mpr hline)
    · have hlt := Address.lt_of_le_of_ne hle hstart
      rw [lookupLine, hlookup]
      simp only [if_neg hstart]
      refine .near start name (a.toNat - start.toNat) ?_ (hmem.mpr hline) hlt ?_ ?_
      · intro other hother
        exact Nat.lt_irrefl _ (Nat.lt_of_lt_of_le hlt
          (hgreatest _ (hmem.mp hother) (Nat.le_refl _)))
      · exact fun other name hother hlt => hgreatest _ (hmem.mp hother) (Nat.le_of_lt hlt)
      · exact Nat.add_sub_cancel' hle

namespace Arguments

variable {args : Arguments} {listing : Except String ByteSource} {logWord : Option String}
  {options : Options} {r : Recovery}

/-! ### What does not depend on the output -/

theorem options_plain : args.plain.options = args.options := by
  simp only [Arguments.options, scanPolicy, plain]
  rfl

theorem recovery_plain : args.plain.recovery options listing = args.recovery options listing :=
  rfl

theorem notices_plain : args.plain.notices listing = args.notices listing := by
  rw [notices, notices, options_plain]

/-! ### Exit code and output -/

theorem exitCode_of_ok (logWord : Option String) {output : String}
    (h : args.run listing = .ok output) :
    (args.outcome logWord listing).exitCode = 0 ∧
      (args.outcome logWord listing).stdout = output := by
  simp only [outcome, h, and_self]

/-- A run that fails prints nothing. -/
theorem exitCode_of_error (logWord : Option String) {e : Failure}
    (h : args.run listing = .error e) :
    (args.outcome logWord listing).exitCode = 1 ∧
      (args.outcome logWord listing).stdout = "" := by
  simp only [outcome, h, and_self]

/-- Two runs that fail for the same reason leave the same behind. -/
theorem outcome_eq_of_error {e : Failure} (h : args.run listing = .error e)
    (hplain : args.plain.run listing = .error e) :
    args.outcome logWord listing = args.plain.outcome logWord listing := by
  have hdebug : args.plain.debug = args.debug := rfl
  simp only [outcome, h, hplain, notices_plain, hdebug]

/-- **Runs fail alike, or they have the same recovery**, whatever is to be printed. -/
theorem run_cases (args : Arguments) (listing : Except String ByteSource) :
    (∃ e, args.run listing = .error e ∧ args.plain.run listing = .error e) ∨
      ∃ options r, args.options = .ok options ∧ args.recovery options listing = .ok r ∧
        args.run listing = args.answer r ∧ args.plain.run listing = .ok (Report.text r.names) := by
  cases hoptions : args.options with
  | error e =>
    refine Or.inl ⟨e, ?_, ?_⟩
    · rw [run, hoptions]
    · rw [run, options_plain, hoptions]
  | ok options =>
    cases hr : args.recovery options listing with
    | error e =>
      refine Or.inl ⟨e, ?_, ?_⟩
      · simp only [run, hoptions, hr]
      · simp only [run, options_plain, recovery_plain, hoptions, hr]
    | ok r =>
      refine Or.inr ⟨options, r, rfl, hr, ?_, ?_⟩
      · simp only [run, hoptions, hr]
      · simp only [run, options_plain, recovery_plain, hoptions, hr]
        rfl

/-- A recovery of arguments is that of a listing. -/
theorem exists_ofListing_of_recovery (h : args.recovery options listing = .ok r) :
    ∃ image, Recovery.ofListing options.scan image = .ok r := by
  cases listing with
  | error reason => cases h
  | ok source =>
    rw [recovery] at h
    cases hr : source.recover options with
    | error e =>
      simp only [hr] at h
      cases h
    | ok r' =>
      simp only [hr] at h
      cases h
      exact ⟨_, hr⟩

/-- **A search prints the first line with the name**, or fails if there is none. -/
theorem outcome_of_find {name : String} (hrun : args.run listing = args.answer r)
    (hlookup : args.lookup = none) (hfind : args.find = some name) :
    let first := (r.names.toList.map Report.line).find? fun l => (Report.cutLine l).2 = name
    (∀ l, first = some l → (args.outcome logWord listing).exitCode = 0 ∧
      (args.outcome logWord listing).stdout = l ++ "\n") ∧
    (first = none → (args.outcome logWord listing).exitCode = 1 ∧
      (args.outcome logWord listing).stdout = "") := by
  intro first
  have hname : (fun l => decide ((Report.cutLine l).2 = name)) ∘ Report.line =
      fun e => decide (e.2 = name) := by
    funext e
    rw [Function.comp_apply, Report.cutLine_line]
  have haddress : r.names.addressOf? name =
      (r.names.toList.find? fun e => e.2 = name).map (·.1) := by
    rw [NameMap.addressOf?, NameMap.toList, Array.find?_toList]
  have hfirst : first =
      (r.names.toList.find? fun e => decide (e.2 = name)).map Report.line := by
    rw [← hname, ← List.find?_map]
  simp only [answer, hlookup, hfind, haddress] at hrun
  refine ⟨fun l hl => ?_, fun hnone => ?_⟩
  · rw [hfirst, Option.map_eq_some_iff] at hl
    obtain ⟨e, hentry, rfl⟩ := hl
    obtain rfl : e.2 = name := by simpa using List.find?_some hentry
    rw [hentry] at hrun
    exact exitCode_of_ok logWord hrun
  · rw [hfirst, Option.map_eq_none_iff] at hnone
    rw [hnone] at hrun
    exact exitCode_of_error logWord hrun

/-- **A look-up prints what the lines say**, or fails if the address is malformed. -/
theorem outcome_of_lookup {address : String} (hrun : args.run listing = args.answer r)
    (hnames : r.names.Coherent) (hlookup : args.lookup = some address) :
    (∀ a, Address.parse? address = some a → (args.outcome logWord listing).exitCode = 0 ∧
      LookupAnswer (r.names.toList.map Report.line) a (args.outcome logWord listing).stdout) ∧
    (Address.parse? address = none → (args.outcome logWord listing).exitCode = 1 ∧
      (args.outcome logWord listing).stdout = "") := by
  simp only [answer, hlookup] at hrun
  refine ⟨fun a haddress => ?_, fun hnone => ?_⟩
  · rw [haddress] at hrun
    obtain ⟨hcode, houtput⟩ := exitCode_of_ok logWord hrun
    exact ⟨hcode, houtput ▸ lookupAnswer_lookupLine hnames a⟩
  · rw [hnone] at hrun
    exact exitCode_of_error logWord hrun

/-- **Without a look-up and a search, a run that is to print a document prints that of its recovery**,
and what it prints is the text of no other document. -/
theorem outcome_of_json (hrun : args.run listing = args.answer r) (hlookup : args.lookup = none)
    (hfind : args.find = none) (hjson : args.json = true) :
    (args.outcome logWord listing).exitCode = 0 ∧
      ∀ document : Document, (args.outcome logWord listing).stdout = document.pretty ++ "\n" ↔
        document = Report.document r.names r.image? := by
  simp only [answer, hlookup, hfind, hjson, if_true] at hrun
  obtain ⟨hcode, houtput⟩ := exitCode_of_ok logWord hrun
  refine ⟨hcode, fun document => ?_⟩
  rw [houtput, String.append_left_inj, Document.pretty_injective.eq_iff, eq_comm]

end Arguments

/-! ### The whole statement -/

/-- **The outputs of a run agree.** For every accepted argument list, the same list without the options
that choose what is printed is accepted as well. For every listing, and whatever is logged, this plain
run exits with 0 or 1. If it exits with 1, then both runs leave the same behind, and nothing is
printed. If it exits with 0, then the lines of the plain output begin with different addresses; a
search prints the first line with the name, and fails without output if there is none; a look-up
prints the line of the address, or the name and the distance of the nearest line below, or that
nothing is known, and fails without output if the address is malformed; and the document that is
printed, the only one with this text, lists the parts of the lines in order, says how many there are,
and describes the image that was scanned. -/
theorem outputs_agree (argv argv' : List String) (args' : Arguments)
    (hparse : Arguments.parse argv' = .ok args')
    (htokens : tokens none argv = (tokens none argv').filter fun token => !token.isMode)
    (logWord : Option String) (listing : Except String ByteSource) :
    ∃ args, Arguments.parse argv = .ok args ∧
      let out := args.outcome logWord listing
      let out' := args'.outcome logWord listing
      let lines := Report.lines out.stdout
      (out.exitCode = 0 ∨ out.exitCode = 1) ∧
      (out.exitCode = 1 → out' = out ∧ out'.stdout = "") ∧
      (out.exitCode = 0 →
        (lines.map fun l => (Report.cutLine l).1).Nodup ∧
        (∀ name, .option .find (some name) ∈ tokens none argv' →
          let first := lines.find? fun l => (Report.cutLine l).2 = name
          (∀ l, first = some l → out'.exitCode = 0 ∧ out'.stdout = l ++ "\n") ∧
          (first = none → out'.exitCode = 1 ∧ out'.stdout = "")) ∧
        (∀ address, .option .lookup (some address) ∈ tokens none argv' →
          (∀ a, Address.parse? address = some a →
            out'.exitCode = 0 ∧ LookupAnswer lines a out'.stdout) ∧
          (Address.parse? address = none → out'.exitCode = 1 ∧ out'.stdout = "")) ∧
        (.option .json none ∈ tokens none argv' →
          (∀ value?, .option .lookup value? ∉ tokens none argv') →
          (∀ value?, .option .find value? ∉ tokens none argv') →
          ∃ options r, args.options = .ok options ∧ args.recovery options listing = .ok r ∧
            out'.exitCode = 0 ∧
            ∀ document : Document, out'.stdout = document.pretty ++ "\n" ↔
              document = .object [
                ("base", .text (Report.imageBase r.image?).text),
                ("count", .number lines.length),
                ("end", .text (Report.imageStop r.image?).text),
                ("names", .list (lines.map Report.lineObject)),
                ("size", .number (Report.imageSize r.image?)),
                ("t", .text "names")])) := by
  refine ⟨args'.plain, Arguments.parse_plain hparse htokens, ?_⟩
  intro out out' lines
  rcases args'.run_cases listing with ⟨e, hrun', hrun⟩ | ⟨options, r, hoptions, hr, hrun', hrun⟩
  · obtain ⟨hcode, hnothing⟩ := Arguments.exitCode_of_error logWord hrun
    have hsame : out' = out := Arguments.outcome_eq_of_error hrun' hrun
    refine ⟨Or.inr hcode, fun _ => ⟨hsame, hsame ▸ hnothing⟩, fun hzero => ?_⟩
    cases hcode.symm.trans hzero
  · obtain ⟨hcode, houtput⟩ := Arguments.exitCode_of_ok logWord hrun
    obtain ⟨image, himage⟩ := Arguments.exists_ofListing_of_recovery hr
    have hcoherent := Recovery.coherent_names himage
    have hlines : lines = r.names.toList.map Report.line := by
      rw [← Report.lines_text (Recovery.newline_not_mem_names himage)]
      exact congrArg Report.lines houtput
    rw [hlines]
    refine ⟨Or.inl hcode, fun hone => ?_, fun _ => ⟨?_, fun name hname => ?_, fun address haddress => ?_,
      fun hjson hnoLookup hnoFind => ⟨options, r, Arguments.options_plain.trans hoptions,
        Arguments.recovery_plain.trans hr, ?_⟩⟩⟩
    · cases hcode.symm.trans hone
    · have hcut : (fun l => (Report.cutLine l).1) ∘ Report.line = fun e => e.1.text := by
        funext e
        rw [Function.comp_apply, Report.cutLine_line]
      have hkeys := hcoherent.nodup_keys.map Address.text_injective
      rw [NameMap.keys, List.map_map] at hkeys
      rw [List.map_map, hcut]
      exact hkeys
    · have hfind := Arguments.find_of_mem hparse hname
      have hlookup := Arguments.lookup_eq_none_of_find hparse hfind
      exact Arguments.outcome_of_find hrun' hlookup hfind
    · have hlookup := Arguments.lookup_of_mem hparse haddress
      exact Arguments.outcome_of_lookup hrun' hcoherent hlookup
    · have hlookup := Arguments.view_of_not_mem Key.owns_lookup hparse hnoLookup
      have hfind := Arguments.view_of_not_mem Key.owns_find hparse hnoFind
      rw [← Report.document_eq]
      exact Arguments.outcome_of_json hrun' hlookup hfind (Arguments.json_of_mem hparse hjson)

/-- The bytes of a listing of `twoNames`. -/
def twoNamesSource : ByteSource :=
  ⟨Utf8.encode "00001000: 4ffffb82 00044d41 494e0000 7c0802a6 00054d59 46554e00 4e800020\n".toList,
    none⟩

/-- The text of the document of `twoNamesSource`. -/
def twoNamesText : String :=
  "\x7b\n  \"base\": \"0x1000\",\n  \"count\": 2,\n  \"end\": \"0x101c\",\n  \"names\": [\n" ++
  "    \x7b\n      \"address\": \"0x1004\",\n      \"name\": \"MAIN\"\n    \x7d,\n" ++
  "    \x7b\n      \"address\": \"0x100c\",\n      \"name\": \"MYFUN\"\n    \x7d\n" ++
  "  ],\n  \"size\": 28,\n  \"t\": \"names\"\n\x7d\n"

/-- A listing whose second line cannot be decoded. -/
def brokenSource : ByteSource :=
  ⟨Utf8.encode "00001000: 4ffffb82\n00001004: 00044d4\n".toList, none⟩

/-- Two names, searched, looked up and printed as a document; a search for a third name; and a
look-up in a listing that cannot be read. -/
theorem outcome_twoNamesSource :
    let plain : Arguments := { listing := "-" }
    let found : Arguments := { listing := "-", find := some "MYFUN" }
    let missed : Arguments := { listing := "-", find := some "FUN" }
    let asked : Arguments := { listing := "-", lookup := some "0x1018" }
    let shown : Arguments := { listing := "-", json := true }
    (Arguments.parse ["-f", "MYFUN", "-"] = .ok found ∧
      (found.outcome none (.ok twoNamesSource)).exitCode = 0 ∧
      (found.outcome none (.ok twoNamesSource)).stdout = "0x100c MYFUN\n") ∧
    (Arguments.parse ["-f", "FUN", "-"] = .ok missed ∧
      (missed.outcome none (.ok twoNamesSource)).exitCode = 1 ∧
      (missed.outcome none (.ok twoNamesSource)).stdout = "") ∧
    (Arguments.parse ["-", "--lookup=0x1018"] = .ok asked ∧
      LookupAnswer (Report.lines (plain.outcome none (.ok twoNamesSource)).stdout)
        ⟨0x1018, by decide⟩ (asked.outcome none (.ok twoNamesSource)).stdout) ∧
    (Arguments.parse ["--json", "-"] = .ok shown ∧
      (shown.outcome none (.ok twoNamesSource)).exitCode = 0 ∧
      (shown.outcome none (.ok twoNamesSource)).stdout = twoNamesText ∧
      ∀ document : Document, twoNamesText = document.pretty ++ "\n" →
        document.numberAt? "count" = some 2 ∧
        Report.readNames? document =
          some [(⟨0x1004, by decide⟩, "MAIN"), (⟨0x100c, by decide⟩, "MYFUN")]) ∧
    (plain.outcome none (.ok brokenSource)).exitCode = 1 ∧
    asked.outcome none (.ok brokenSource) = plain.outcome none (.ok brokenSource) ∧
    (asked.outcome none (.ok brokenSource)).stdout = "" := by
  intro plain found missed asked shown
  have hfound : Arguments.parse ["-f", "MYFUN", "-"] = .ok found := by rfl
  have hmissed : Arguments.parse ["-f", "FUN", "-"] = .ok missed := by rfl
  have hasked : Arguments.parse ["-", "--lookup=0x1018"] = .ok asked := by rfl
  have hshown : Arguments.parse ["--json", "-"] = .ok shown := by rfl
  have hout : plain.outcome none (.ok twoNamesSource) = ⟨0, "0x1004 MAIN\n0x100c MYFUN\n", ""⟩ := by
    decide +kernel
  have hlines : Report.lines (plain.outcome none (.ok twoNamesSource)).stdout =
      ["0x1004 MAIN", "0x100c MYFUN"] := by
    rw [hout]
    decide +kernel
  have hzero : (plain.outcome none (.ok twoNamesSource)).exitCode = 0 := by rw [hout]
  refine ⟨⟨hfound, ?_⟩, ⟨hmissed, ?_⟩, ⟨hasked, ?_⟩, ⟨hshown, ?_⟩, ?_⟩
  · obtain ⟨args, hargs, -, -, hsuccess⟩ :=
      outputs_agree ["-"] _ found hfound (by decide) none (.ok twoNamesSource)
    obtain rfl : plain = args := Except.ok.inj hargs
    obtain ⟨-, hsearch, -, -⟩ := hsuccess hzero
    rw [hlines] at hsearch
    exact (hsearch "MYFUN" (by decide)).1 "0x100c MYFUN" (by decide)
  · obtain ⟨args, hargs, -, -, hsuccess⟩ :=
      outputs_agree ["-"] _ missed hmissed (by decide) none (.ok twoNamesSource)
    obtain rfl : plain = args := Except.ok.inj hargs
    obtain ⟨-, hsearch, -, -⟩ := hsuccess hzero
    rw [hlines] at hsearch
    exact (hsearch "FUN" (by decide)).2 (by decide)
  · obtain ⟨args, hargs, -, -, hsuccess⟩ :=
      outputs_agree ["-"] _ asked hasked (by decide) none (.ok twoNamesSource)
    obtain rfl : plain = args := Except.ok.inj hargs
    obtain ⟨-, -, hlookup, -⟩ := hsuccess hzero
    exact ((hlookup "0x1018" (by decide)).1 _ (by rfl)).2
  · obtain ⟨args, hargs, -, -, hsuccess⟩ :=
      outputs_agree ["-"] _ shown hshown (by decide) none (.ok twoNamesSource)
    obtain rfl : plain = args := Except.ok.inj hargs
    obtain ⟨-, -, -, hjson⟩ := hsuccess hzero
    have htokens : tokens none ["--json", "-"] = [.option .json none, .listing "-"] := by rfl
    rw [htokens] at hjson
    obtain ⟨options, r, -, -, hcode, hdocument⟩ := hjson (by simp) (by simp) (by simp)
    have htext : (shown.outcome none (.ok twoNamesSource)).stdout = twoNamesText := by
      decide +kernel
    refine ⟨hcode, htext, fun document h => ?_⟩
    have hlisted := (hdocument document).mp (htext.trans h)
    have hrecords : document.itemsAt? "names" =
        some (["0x1004 MAIN", "0x100c MYFUN"].map Report.lineObject) := by
      rw [hlisted, hlines]
      rfl
    refine ⟨?_, ?_⟩
    · rw [hlisted, hlines]
      rfl
    · rw [Report.readNames?, hrecords, Option.bind_some]
      decide +kernel
  · have hone : (plain.outcome none (.ok brokenSource)).exitCode = 1 := by decide +kernel
    obtain ⟨args, hargs, -, hfailure, -⟩ :=
      outputs_agree ["-"] _ asked hasked (by decide) none (.ok brokenSource)
    obtain rfl : plain = args := Except.ok.inj hargs
    obtain ⟨hsame, hnothing⟩ := hfailure hone
    exact ⟨hone, hsame, hnothing⟩

end CommandLine

end NameRecovery
