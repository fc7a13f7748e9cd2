import NameRecovery.CommandLine.Run

/-!
# Choosing what is printed

Three options choose what a run prints instead of all names as text: a look-up, a search, and the
document. An argument list without these options is accepted if the list with them is, and then all
other settings are the same. Every option may be given once, so the value that is used is the one
that was given.

## Main definitions

* `Key.isMode`, `Token.isMode` : the options that choose what is printed.
* `Arguments.plain` : the arguments of a run that prints all names as text.
* `Key.Owns` : what only one option has an effect on.

## Main results

* `Draft.take_listing_eq_ok_iff`, `Draft.take_option_eq_ok_iff` : which tokens are taken.
* `Arguments.parse_plain` : an argument list without the options that choose what is printed.
* `Arguments.view_of_mem`, `Arguments.view_of_not_mem` : options that are given, and options that are
  not.
* `Arguments.lookup_of_mem`, `Arguments.find_of_mem`, `Arguments.json_of_mem` : what is to be printed.
-/

namespace NameRecovery.CommandLine

/-! ### Taking tokens -/

namespace Draft

variable {d d' : Draft} {token : Token} {tokens : List Token}

/-- One listing is taken, and it has a name. -/
theorem take_listing_eq_ok_iff {path : String} :
    d.take (.listing path) = .ok d' ↔
      d.listing = none ∧ path.isEmpty = false ∧ { d with listing := some path } = d' := by
  rw [take]
  cases d.listing <;> cases path.isEmpty <;> simp

/-- An option is taken once, if its value is understood. -/
theorem take_option_eq_ok_iff {key : Key} {value? : Option String} :
    d.take (.option key value?) = .ok d' ↔
      key ∉ d.given ∧ ∃ s, d.settings.set key (value?.getD "") = .ok s ∧
        { d with settings := s, given := key :: d.given } = d' := by
  rw [take]
  by_cases hgiven : key ∈ d.given
  · simp [hgiven]
  · cases d.settings.set key (value?.getD "") <;> simp [hgiven, Except.map]

theorem takeAll_cons_eq_ok_iff :
    d.takeAll (token :: tokens) = .ok d' ↔
      ∃ e, d.take token = .ok e ∧ e.takeAll tokens = .ok d' := by
  rw [takeAll]
  cases d.take token <;> simp

end Draft

/-- An argument list is accepted if its tokens are taken and complete. -/
theorem Arguments.parse_eq_ok_iff {argv : List String} {args : Arguments} :
    Arguments.parse argv = .ok args ↔
      ∃ d, Draft.takeAll {} (tokens none argv) = .ok d ∧ d.complete = .ok args := by
  rw [Arguments.parse]
  cases Draft.takeAll {} (tokens none argv) <;> simp

/-- What is complete has a listing, and not both a look-up and a search. -/
theorem Draft.complete_eq_ok_iff {d : Draft} {args : Arguments} :
    d.complete = .ok args ↔
      (d.settings.lookup = none ∨ d.settings.find = none) ∧
        ∃ path, d.listing = some path ∧ { d.settings with listing := path } = args := by
  rw [complete]
  cases d.settings.lookup <;> cases d.settings.find <;> cases d.listing <;> simp

/-! ### Arguments without the options that choose what is printed -/

/-- Whether an option chooses what is printed. -/
def Key.isMode : Key → Bool
  | json | lookup | find => true
  | _ => false

/-- Whether a token is an option that chooses what is printed. -/
def Token.isMode : Token → Bool
  | option key _ => key.isMode
  | _ => false

/-- The settings of a run that prints all names as text. -/
def Settings.plain (s : Settings) : Settings :=
  { s with json := false, lookup := none, find := none }

/-- The arguments of a run that prints all names as text. -/
def Arguments.plain (args : Arguments) : Arguments :=
  { args with json := false, lookup := none, find := none }

/-- What the tokens read so far amount to without the options that choose what is printed. -/
def Draft.plain (d : Draft) : Draft :=
  { d with settings := d.settings.plain, given := d.given.filter fun key => !key.isMode }

section Plain

variable {s s' : Settings} {d d' : Draft} {key : Key} {value : String} {token : Token}

/-- An option that chooses what is printed changes nothing else. -/
theorem Settings.plain_of_set (hkey : key.isMode = true) (h : s.set key value = .ok s') :
    s'.plain = s.plain := by
  cases key with
  | json | lookup | find =>
    cases h
    rfl
  | _ => cases hkey

/-- Any other option has the same effect whatever is to be printed. -/
theorem Settings.set_plain (hkey : key.isMode = false) :
    s.plain.set key value = (s.set key value).map Settings.plain := by
  cases key with
  | json | lookup | find => cases hkey
  | marker | lenient | debug | help => rfl
  | dialect => simp only [Settings.set]; cases dialectOfName? value <;> rfl
  | policy => simp only [Settings.set]; cases PolicyName.ofName? value <;> rfl
  | minLen | maxLen => simp only [Settings.set]; cases parseLength? value <;> rfl
  | maxGap => simp only [Settings.set]; cases parseGap? value <;> rfl

namespace Draft

/-- A token that chooses what is printed leaves the rest as it is. -/
theorem plain_of_take (htoken : token.isMode = true) (h : d.take token = .ok d') :
    d'.plain = d.plain := by
  cases token with
  | faulty | listing => cases htoken
  | option key value? =>
    have hkey : key.isMode = true := htoken
    obtain ⟨-, s, hset, rfl⟩ := take_option_eq_ok_iff.mp h
    rw [plain, plain, Settings.plain_of_set hkey hset, List.filter_cons_of_neg (by simp [hkey])]

/-- Any other token is taken in the same way whatever is to be printed. -/
theorem take_plain (htoken : token.isMode = false) (h : d.take token = .ok d') :
    d.plain.take token = .ok d'.plain := by
  cases token with
  | faulty e => cases h
  | listing path =>
    obtain ⟨hlisting, hpath, rfl⟩ := take_listing_eq_ok_iff.mp h
    exact take_listing_eq_ok_iff.mpr ⟨hlisting, hpath, rfl⟩
  | option key value? =>
    have hkey : key.isMode = false := htoken
    obtain ⟨hgiven, s, hset, rfl⟩ := take_option_eq_ok_iff.mp h
    refine take_option_eq_ok_iff.mpr ⟨fun hmem => hgiven (List.mem_filter.mp hmem).1, s.plain, ?_, ?_⟩
    · rw [plain, Settings.set_plain hkey, hset]
      rfl
    · rw [plain, plain, List.filter_cons_of_pos (by simp [hkey])]

/-- Without the options that choose what is printed, the same tokens are taken. -/
theorem takeAll_plain {tokens : List Token} (h : d.takeAll tokens = .ok d') :
    d.plain.takeAll (tokens.filter fun token => !token.isMode) = .ok d'.plain := by
  induction tokens generalizing d with
  | nil =>
    cases h
    rfl
  | cons token rest ih =>
    obtain ⟨e, htake, hrest⟩ := takeAll_cons_eq_ok_iff.mp h
    cases hmode : token.isMode with
    | true =>
      rw [List.filter_cons_of_neg (by simp [hmode]), ← plain_of_take hmode htake]
      exact ih hrest
    | false =>
      rw [List.filter_cons_of_pos (by simp [hmode]), takeAll_cons_eq_ok_iff]
      exact ⟨e.plain, take_plain hmode htake, ih hrest⟩

theorem complete_plain {args : Arguments} (h : d.complete = .ok args) :
    d.plain.complete = .ok args.plain := by
  obtain ⟨-, path, hlisting, rfl⟩ := complete_eq_ok_iff.mp h
  exact complete_eq_ok_iff.mpr ⟨Or.inl rfl, path, hlisting, rfl⟩

end Draft

/-- **Without the options that choose what is printed** an argument list is accepted if it is with
them, and all other settings and the listing are the same. -/
theorem Arguments.parse_plain {argv argv' : List String} {args : Arguments}
    (h : Arguments.parse argv' = .ok args)
    (htokens : tokens none argv = (tokens none argv').filter fun token => !token.isMode) :
    Arguments.parse argv = .ok args.plain := by
  obtain ⟨d, htake, hcomplete⟩ := parse_eq_ok_iff.mp h
  refine parse_eq_ok_iff.mpr ⟨d.plain, ?_, Draft.complete_plain hcomplete⟩
  rw [htokens]
  exact Draft.takeAll_plain htake

end Plain

/-! ### The values that are given -/

/-- No other option has an effect on what a view of the settings shows. -/
def Key.Owns {α : Type} (key : Key) (view : Settings → α) : Prop :=
  ∀ s s' other value, other ≠ key → Settings.set s other value = .ok s' → view s' = view s

section Given

variable {α : Type} {view : Settings → α} {key : Key} {value? : Option String}

namespace Draft

variable {d d' : Draft} {token : Token} {tokens : List Token}

theorem view_of_take (hview : key.Owns view) (h : d.take token = .ok d')
    (htoken : ∀ value?, token ≠ .option key value?) : view d'.settings = view d.settings := by
  cases token with
  | faulty e => cases h
  | listing path =>
    obtain ⟨-, -, rfl⟩ := take_listing_eq_ok_iff.mp h
    rfl
  | option other value? =>
    obtain ⟨-, s, hset, rfl⟩ := take_option_eq_ok_iff.mp h
    refine hview _ _ other _ ?_ hset
    rintro rfl
    exact htoken value? rfl

/-- An option that is not given has no effect. -/
theorem view_of_not_mem (hview : key.Owns view) (h : d.takeAll tokens = .ok d')
    (hnot : ∀ value?, .option key value? ∉ tokens) : view d'.settings = view d.settings := by
  induction tokens generalizing d with
  | nil =>
    cases h
    rfl
  | cons token rest ih =>
    obtain ⟨e, htake, hrest⟩ := takeAll_cons_eq_ok_iff.mp h
    have hfirst : ∀ value?, token ≠ .option key value? := by
      rintro value? rfl
      exact hnot value? List.mem_cons_self
    rw [ih hrest fun value? hmem => hnot value? (List.mem_cons_of_mem _ hmem),
      view_of_take hview htake hfirst]

/-- What was given stays given. -/
theorem given_of_take (h : d.take token = .ok d') (hgiven : key ∈ d.given) : key ∈ d'.given := by
  cases token with
  | faulty e => cases h
  | listing path =>
    obtain ⟨-, -, rfl⟩ := take_listing_eq_ok_iff.mp h
    exact hgiven
  | option other value? =>
    obtain ⟨-, s, -, rfl⟩ := take_option_eq_ok_iff.mp h
    exact List.mem_cons_of_mem _ hgiven

/-- An option that was given is not given again. -/
theorem not_mem_of_given (h : d.takeAll tokens = .ok d') (hgiven : key ∈ d.given)
    (value? : Option String) : .option key value? ∉ tokens := by
  induction tokens generalizing d with
  | nil => exact List.not_mem_nil
  | cons token rest ih =>
    obtain ⟨e, htake, hrest⟩ := takeAll_cons_eq_ok_iff.mp h
    rw [List.mem_cons, not_or]
    refine ⟨?_, ih hrest (given_of_take htake hgiven)⟩
    rintro rfl
    exact (take_option_eq_ok_iff.mp htake).1 hgiven

/-- An option that is given has the value it is given. -/
theorem view_of_mem (hview : key.Owns view) (shown : String → α)
    (hset : ∀ s s' value, Settings.set s key value = .ok s' → view s' = shown value)
    (h : d.takeAll tokens = .ok d') (hmem : .option key value? ∈ tokens) :
    view d'.settings = shown (value?.getD "") := by
  induction tokens generalizing d with
  | nil => cases hmem
  | cons token rest ih =>
    obtain ⟨e, htake, hrest⟩ := takeAll_cons_eq_ok_iff.mp h
    rcases List.mem_cons.mp hmem with rfl | hmem
    · obtain ⟨-, s, htaken, rfl⟩ := take_option_eq_ok_iff.mp htake
      -- the rest does not give this option again, so it keeps its value
      rw [view_of_not_mem hview hrest (not_mem_of_given hrest List.mem_cons_self)]
      exact hset _ _ _ htaken
    · exact ih hrest hmem

end Draft

namespace Arguments

variable {argv : List String} {args : Arguments}

/-- **An option that is given** has the value it is given. -/
theorem view_of_mem (hview : key.Owns view) (shown : String → α)
    (hset : ∀ s s' value, Settings.set s key value = .ok s' → view s' = shown value)
    (h : Arguments.parse argv = .ok args) (hmem : .option key value? ∈ tokens none argv) :
    view args.toSettings = shown (value?.getD "") := by
  obtain ⟨d, htake, hcomplete⟩ := parse_eq_ok_iff.mp h
  obtain ⟨-, path, -, rfl⟩ := Draft.complete_eq_ok_iff.mp hcomplete
  exact Draft.view_of_mem hview shown hset htake hmem

/-- **An option that is not given** has its default. -/
theorem view_of_not_mem (hview : key.Owns view) (h : Arguments.parse argv = .ok args)
    (hnot : ∀ value?, .option key value? ∉ tokens none argv) :
    view args.toSettings = view {} := by
  obtain ⟨d, htake, hcomplete⟩ := parse_eq_ok_iff.mp h
  obtain ⟨-, path, -, rfl⟩ := Draft.complete_eq_ok_iff.mp hcomplete
  exact Draft.view_of_not_mem hview htake hnot

end Arguments

end Given

/-- What is printed is chosen by three options, each for itself. -/
theorem Settings.modes_of_set {s s' : Settings} {key : Key} {value : String}
    (h : s.set key value = .ok s') :
    (key ≠ .lookup → s'.lookup = s.lookup) ∧ (key ≠ .find → s'.find = s.find) ∧
      (key ≠ .json → s'.json = s.json) := by
  cases key with
  | help => cases h
  | lookup | find | json | marker | lenient | debug =>
    cases h
    simp
  | dialect | policy | minLen | maxLen | maxGap =>
    simp only [set] at h
    split at h
    · cases h
      exact ⟨fun _ => rfl, fun _ => rfl, fun _ => rfl⟩
    · cases h

namespace Key

theorem owns_lookup : lookup.Owns Settings.lookup :=
  fun _ _ _ _ hne h => (Settings.modes_of_set h).1 hne

theorem owns_find : find.Owns Settings.find :=
  fun _ _ _ _ hne h => (Settings.modes_of_set h).2.1 hne

theorem owns_json : json.Owns Settings.json :=
  fun _ _ _ _ hne h => (Settings.modes_of_set h).2.2 hne

end Key

namespace Arguments

variable {argv : List String} {args : Arguments}

theorem lookup_of_mem {address : String} (h : Arguments.parse argv = .ok args)
    (hmem : .option .lookup (some address) ∈ tokens none argv) : args.lookup = some address := by
  refine view_of_mem Key.owns_lookup some (fun s s' value hset => ?_) h hmem
  cases hset
  rfl

theorem find_of_mem {name : String} (h : Arguments.parse argv = .ok args)
    (hmem : .option .find (some name) ∈ tokens none argv) : args.find = some name := by
  refine view_of_mem Key.owns_find some (fun s s' value hset => ?_) h hmem
  cases hset
  rfl

theorem json_of_mem {value? : Option String} (h : Arguments.parse argv = .ok args)
    (hmem : .option .json value? ∈ tokens none argv) : args.json = true := by
  refine view_of_mem Key.owns_json (fun _ => true) (fun s s' value hset => ?_) h hmem
  cases hset
  rfl

/-- A look-up and a search exclude each other. -/
theorem lookup_eq_none_of_find {name : String} (h : Arguments.parse argv = .ok args)
    (hfind : args.find = some name) : args.lookup = none := by
  obtain ⟨d, -, hcomplete⟩ := parse_eq_ok_iff.mp h
  obtain ⟨hexclude, path, -, rfl⟩ := Draft.complete_eq_ok_iff.mp hcomplete
  refine hexclude.resolve_right fun hnone => ?_
  cases hnone.symm.trans hfind

end Arguments

end NameRecovery.CommandLine
