import NameRecovery.Proofs.Scan.Blocks

/-!
# What the scan accepts

The scan carries a cursor, jumps over the blocks it accepts, and remembers where it went on. This
file takes that history apart. What the findings show at an index is a function of the index
alone, as long as nothing is shown at the words that are jumped over (`ShownAt`); so the accepted
blocks are those that a walk over all words finds, whatever the policy. The keys are then given
by a walk over the accepted blocks, and the names are filed one after another.

## Main definitions

* `met` : what the scan meets from a cursor on.
* `wordStarts` : the word boundaries of an image from an index on.
* `ShownAt` : what findings show depends on their index alone.
* `acceptedBlocks` : the accepted blocks, in the order of the scan.
* `attributed`, `filed` : the accepted blocks with their keys, and the entries they give.

## Main results

* `advance_cases` : what one step of the scan does.
* `filterMap_findings` : what the findings show is what a walk over all words shows.
* `acceptedBlocks_eq`, `mem_acceptedBlocks_iff`, `pairwise_acceptedBlocks` : the accepted blocks
  are the blocks of the image, in ascending order.
* `acceptedBlocks_withPolicy` : they do not depend on the policy.
* `scan_eq_ofList` : the names of a scan are the filed entries.
-/

namespace NameRecovery

variable {options : ScanOptions} {image : ByteImage}

/-! ### Findings from a cursor on -/

/-- What the scan meets from a cursor on. -/
def met (options : ScanOptions) (image : ByteImage) (c : Cursor) : List Finding :=
  if c.index < image.size then
    (c.advance options image).1.toList ++ met options image (c.advance options image).2
  else []
termination_by image.size - c.index
decreasing_by
  have := c.lt_advance options image
  omega

theorem findingsFrom_eq (c : Cursor) (found : Array Finding) :
    (findingsFrom options image c found).toList = found.toList ++ met options image c := by
  fun_induction findingsFrom options image c found with
  | case1 c found hlt step ih =>
    rw [met, if_pos hlt, ih, Array.toList_appendList, List.append_assoc]
  | case2 c found hlt => rw [met, if_neg hlt, List.append_nil]

theorem findings_eq_met : findings options image = met options image {} :=
  findingsFrom_eq {} #[]

/-- A word without a candidate is passed over. -/
theorem advance_of_not_isCandidate {c : Cursor}
    (h : ¬ isCandidate options image c.index = true) :
    c.advance options image = (none, c.skipWord) := by
  rw [Cursor.advance, if_neg h]

/-- A candidate that begins no block is rejected. -/
theorem advance_of_rejected {c : Cursor} (h : isCandidate options image c.index = true)
    (hb : blockAt? options image c.index = none) :
    c.advance options image = (some (.rejected c.index), c.skipWord) := by
  rw [Cursor.advance, if_pos h, hb]

/-- A block is accepted, and the scan goes on where the policy says. -/
theorem advance_of_accepted {c : Cursor} {b : NameBlock}
    (h : isCandidate options image c.index = true)
    (hb : blockAt? options image c.index = some b) :
    c.advance options image =
      (some (.accepted b (options.policy.key? image c.previous b)),
        ⟨options.policy.resume image b, some (options.policy.resume image b)⟩) := by
  rw [Cursor.advance, if_pos h, hb]

/-- **What one step does** at a word boundary. It passes over the word, rejects a candidate there, or
accepts the block that begins there. -/
theorem advance_cases (options : ScanOptions) (image : ByteImage) {c : Cursor}
    (hc : Word.size ∣ c.index) :
    (isCandidate options image c.index = false ∧
      c.advance options image = (none, c.skipWord)) ∨
    (isCandidate options image c.index = true ∧ blockAt? options image c.index = none ∧
      c.advance options image = (some (.rejected c.index), c.skipWord)) ∨
    ∃ b, isCandidate options image c.index = true ∧ blockAt? options image c.index = some b ∧
      b.start = c.index ∧ IsBlock options image b ∧
      c.advance options image =
        (some (.accepted b (options.policy.key? image c.previous b)),
          ⟨options.policy.resume image b, some (options.policy.resume image b)⟩) := by
  cases hcand : isCandidate options image c.index with
  | false =>
    exact Or.inl ⟨rfl, advance_of_not_isCandidate (by rw [hcand]; exact Bool.false_ne_true)⟩
  | true =>
    cases hb : blockAt? options image c.index with
    | none => exact Or.inr (Or.inl ⟨rfl, rfl, advance_of_rejected hcand hb⟩)
    | some b =>
      obtain ⟨hstart, hblock⟩ :=
        (acceptedAt?_eq_some_iff hc).mp (by rw [acceptedAt?, if_pos hcand, hb])
      exact Or.inr (Or.inr ⟨b, rfl, rfl, hstart, hblock, advance_of_accepted hcand hb⟩)

/-- The scan goes on at a word boundary. -/
theorem Policy.size_dvd_resume (policy : Policy) (image : ByteImage) {b : NameBlock}
    (hb : Word.size ∣ b.start) : Word.size ∣ policy.resume image b := by
  cases policy with
  | followsPrevious => exact (isLeast_skipPadding image b.stop).1.1
  | blockAddress => exact (isLeast_skipPadding image b.stop).1.1
  | marker word => exact Nat.dvd_add hb (Nat.dvd_refl _)

/-- The scan goes on at or before the word boundary behind the padding of a block. -/
theorem Policy.resume_le_skipPadding (policy : Policy) {b : NameBlock}
    (hb : IsBlock options image b) :
    policy.resume image b ≤ skipPadding image b.stop := by
  cases policy with
  | followsPrevious => exact Nat.le_refl _
  | blockAddress => exact Nat.le_refl _
  | marker word =>
    obtain ⟨⟨hdvd, hstop, -⟩, -⟩ := isLeast_skipPadding image b.stop
    have hstart := hb.aligned
    have hlt := hb.start_lt_stop
    simp only [Policy.resume, Word.size] at hstart hdvd ⊢
    omega

/-! ### Word boundaries -/

/-- The word boundaries of an image from an index on. -/
def wordStarts (image : ByteImage) (i : Nat) : List Nat :=
  if i < image.size then i :: wordStarts image (i + Word.size) else []
termination_by image.size - i
decreasing_by simp only [Word.size]; omega

theorem wordStarts_of_lt {i : Nat} (h : i < image.size) :
    wordStarts image i = i :: wordStarts image (i + Word.size) := by
  rw [wordStarts, if_pos h]

theorem mem_wordStarts_iff {i j : Nat} (hi : Word.size ∣ i) :
    j ∈ wordStarts image i ↔ Word.size ∣ j ∧ i ≤ j ∧ j < image.size := by
  fun_induction wordStarts image i with
  | case1 i hlt ih =>
    rw [List.mem_cons, ih (Nat.dvd_add hi (Nat.dvd_refl _))]
    simp only [Word.size] at hi ⊢
    omega
  | case2 i hlt =>
    simp only [List.not_mem_nil, false_iff]
    omega

theorem pairwise_wordStarts {i : Nat} (hi : Word.size ∣ i) :
    (wordStarts image i).Pairwise (· < ·) := by
  fun_induction wordStarts image i with
  | case1 i hlt ih =>
    have hnext := Nat.dvd_add hi (Nat.dvd_refl Word.size)
    refine List.pairwise_cons.mpr ⟨fun j hj => ?_, ih hnext⟩
    obtain ⟨-, hle, -⟩ := (mem_wordStarts_iff hnext).mp hj
    simp only [Word.size] at hle
    omega
  | case2 i hlt => exact List.Pairwise.nil

/-- Words at which nothing is shown may be left out. -/
theorem filterMap_wordStarts_skip {β : Type} {f : Nat → Option β} {i k : Nat}
    (hi : Word.size ∣ i) (hk : Word.size ∣ k) (hik : i ≤ k)
    (hnone : ∀ j, Word.size ∣ j → i ≤ j → j < k → f j = none) :
    (wordStarts image i).filterMap f = (wordStarts image k).filterMap f := by
  fun_induction wordStarts image i with
  | case1 i hlt ih =>
    rcases Nat.eq_or_lt_of_le hik with rfl | hlt'
    · rw [wordStarts_of_lt hlt]
    · rw [List.filterMap_cons_none (hnone i hi (Nat.le_refl _) hlt')]
      refine ih (Nat.dvd_add hi (Nat.dvd_refl _)) ?_ fun j hj hij => hnone j hj (by omega)
      simp only [Word.size] at hi hk ⊢
      omega
  | case2 i hlt => rw [wordStarts, if_neg (by omega)]

/-! ### What findings show -/

private theorem filterMap_cons_eq_toList_append {α β : Type} (f : α → Option β) (x : α)
    (xs : List α) : (x :: xs).filterMap f = (f x).toList ++ xs.filterMap f := by
  rw [List.filterMap_cons]
  cases f x <;> rfl

/-- What `view` shows of the findings is at every index what `f` says, and `f` says nothing at
words without a candidate and at the words that the scan jumps over. -/
structure ShownAt {β : Type} (options : ScanOptions) (image : ByteImage)
    (view : Finding → Option β) (f : Nat → Option β) : Prop where
  skipped : ∀ i, ¬ isCandidate options image i = true → f i = none
  rejected : ∀ i, isCandidate options image i = true → blockAt? options image i = none →
    view (.rejected i) = f i
  accepted : ∀ i b key?, isCandidate options image i = true →
    blockAt? options image i = some b → view (.accepted b key?) = f i
  jumped : ∀ b, IsBlock options image b → ∀ j, Word.size ∣ j → b.start < j →
    j < options.policy.resume image b → f j = none

/-- What is shown of the findings from a cursor on is what a walk over all words from there on
shows. -/
theorem ShownAt.filterMap_met {β : Type} {view : Finding → Option β} {f : Nat → Option β}
    (h : ShownAt options image view f) (c : Cursor) (hc : Word.size ∣ c.index) :
    (met options image c).filterMap view = (wordStarts image c.index).filterMap f := by
  fun_induction met options image c with
  | case1 c hlt ih =>
    have hskip : Word.size ∣ c.skipWord.index := Nat.dvd_add hc (Nat.dvd_refl _)
    rw [wordStarts_of_lt hlt, List.filterMap_append, filterMap_cons_eq_toList_append f]
    rcases advance_cases options image hc with
      ⟨hcand, hadvance⟩ | ⟨hcand, hb, hadvance⟩ | ⟨b, hcand, hb, hstart, hblock, hadvance⟩
    · rw [hadvance] at ih ⊢
      rw [ih hskip, h.skipped _ (by rw [hcand]; exact Bool.false_ne_true)]
      rfl
    · rw [hadvance] at ih ⊢
      rw [ih hskip, ← h.rejected _ hcand hb, Option.toList_some,
        filterMap_cons_eq_toList_append, List.filterMap_nil, List.append_nil]
      rfl
    · have hresume := options.policy.size_dvd_resume image hblock.aligned
      have hnext := options.policy.lt_resume hb
      -- between this word and the one where the scan goes on, the walk shows nothing
      have hjump : (wordStarts image (c.index + Word.size)).filterMap f =
          (wordStarts image (options.policy.resume image b)).filterMap f := by
        refine filterMap_wordStarts_skip hskip hresume ?_ fun j hj hij hjk => ?_
        · simp only [Word.size] at hc hresume ⊢
          omega
        · exact h.jumped b hblock j hj (by simp only [Word.size] at hij; omega) hjk
      rw [hadvance] at ih ⊢
      rw [ih hresume, hjump, ← h.accepted _ b (options.policy.key? image c.previous b) hcand hb,
        Option.toList_some, filterMap_cons_eq_toList_append, List.filterMap_nil,
        List.append_nil]
  | case2 c hlt => rw [wordStarts, if_neg hlt]; rfl

/-- **The findings show what a walk over all words shows.** -/
theorem filterMap_findings {β : Type} {view : Finding → Option β} {f : Nat → Option β}
    (h : ShownAt options image view f) :
    (findings options image).filterMap view = (wordStarts image 0).filterMap f := by
  rw [findings_eq_met]
  exact h.filterMap_met {} (Nat.dvd_zero _)

/-! ### The accepted blocks -/

/-- The accepted blocks, in the order of the scan. -/
def acceptedBlocks (options : ScanOptions) (image : ByteImage) : List NameBlock :=
  (findings options image).filterMap Finding.block?

/-- No block begins at a word that the scan jumps over. -/
theorem acceptedAt?_of_jumped {b : NameBlock} (hb : IsBlock options image b) {j : Nat}
    (hj : Word.size ∣ j) (hlt : b.start < j) (hjump : j < options.policy.resume image b) :
    acceptedAt? options image j = none := by
  rw [Option.eq_none_iff_forall_ne_some]
  intro c hc
  obtain ⟨rfl, hblock⟩ := (acceptedAt?_eq_some_iff hj).mp hc
  have hskip := hb.skipPadding_le_start hblock hlt
  have hresume := options.policy.resume_le_skipPadding hb
  omega

theorem shownAt_block? :
    ShownAt options image Finding.block? (acceptedAt? options image) where
  skipped i h := by rw [acceptedAt?, if_neg h]
  rejected i h hb := by rw [acceptedAt?, if_pos h, hb]; rfl
  accepted i b key? h hb := by rw [acceptedAt?, if_pos h, hb]; rfl
  jumped _ hb _ hj hlt hjump := acceptedAt?_of_jumped hb hj hlt hjump

/-- The scan accepts what a walk over all words accepts. -/
theorem acceptedBlocks_eq :
    acceptedBlocks options image = (wordStarts image 0).filterMap (acceptedAt? options image) :=
  filterMap_findings shownAt_block?

/-- **The scan accepts exactly the blocks of the image.** -/
theorem mem_acceptedBlocks_iff {b : NameBlock} :
    b ∈ acceptedBlocks options image ↔ IsBlock options image b := by
  rw [acceptedBlocks_eq, List.mem_filterMap]
  constructor
  · rintro ⟨i, hi, hb⟩
    obtain ⟨hdvd, -⟩ := (mem_wordStarts_iff (Nat.dvd_zero _)).mp hi
    exact ((acceptedAt?_eq_some_iff hdvd).mp hb).2
  · intro hb
    have hlt : b.start < image.size := by
      have := hb.word_le
      simp only [Word.size] at this
      omega
    exact ⟨b.start, (mem_wordStarts_iff (Nat.dvd_zero _)).mpr ⟨hb.aligned, Nat.zero_le _, hlt⟩,
      (acceptedAt?_eq_some_iff hb.aligned).mpr ⟨rfl, hb⟩⟩

/-- The accepted blocks ascend. -/
theorem pairwise_acceptedBlocks :
    (acceptedBlocks options image).Pairwise fun b c => b.start < c.start := by
  rw [acceptedBlocks_eq, List.pairwise_filterMap]
  have hdvd : ∀ i ∈ wordStarts image 0, Word.size ∣ i := fun i hi =>
    ((mem_wordStarts_iff (Nat.dvd_zero _)).mp hi).1
  refine (pairwise_wordStarts (Nat.dvd_zero _)).imp_of_mem fun {i j} hi hj hij b hb c hc => ?_
  rw [((acceptedAt?_eq_some_iff (hdvd i hi)).mp hb).1,
    ((acceptedAt?_eq_some_iff (hdvd j hj)).mp hc).1]
  exact hij

/-- The accepted blocks do not depend on the policy. -/
theorem acceptedBlocks_withPolicy (policy : Policy) :
    acceptedBlocks { options with policy := policy } image = acceptedBlocks options image := by
  rw [acceptedBlocks_eq, acceptedBlocks_eq]
  rfl

/-! ### Keys and entries -/

namespace Finding

/-- The accepted block and its key. -/
def attribution? : Finding → Option (NameBlock × Option Nat)
  | accepted b key? => some (b, key?)
  | rejected _ => none

end Finding

/-- Accepted blocks with their keys; `previous` is where the scan went on after the accepted
block before. -/
def attributed (policy : Policy) (image : ByteImage) :
    Option Nat → List NameBlock → List (NameBlock × Option Nat)
  | _, [] => []
  | previous, b :: rest =>
    (b, policy.key? image previous b) ::
      attributed policy image (some (policy.resume image b)) rest

/-- Keys that do not depend on where the scan went on before. -/
theorem attributed_eq_map {policy : Policy} {key? : NameBlock → Option Nat}
    (h : ∀ previous b, policy.key? image previous b = key? b) (previous : Option Nat)
    (blocks : List NameBlock) :
    attributed policy image previous blocks = blocks.map fun b => (b, key? b) := by
  induction blocks generalizing previous with
  | nil => rfl
  | cons b rest ih => rw [attributed, h, ih, List.map_cons]

theorem filterMap_attribution?_met (c : Cursor) :
    (met options image c).filterMap Finding.attribution? =
      attributed options.policy image c.previous
        ((met options image c).filterMap Finding.block?) := by
  fun_induction met options image c with
  | case1 c hlt ih =>
    by_cases hcand : isCandidate options image c.index = true
    · cases hb : blockAt? options image c.index with
      | none =>
        rw [advance_of_rejected hcand hb] at ih ⊢
        exact ih
      | some b =>
        rw [advance_of_accepted hcand hb] at ih ⊢
        exact congrArg (List.cons _) ih
    · rw [advance_of_not_isCandidate hcand] at ih ⊢
      exact ih
  | case2 c hlt => rfl

/-- The keys are given by a walk over the accepted blocks. -/
theorem filterMap_attribution? :
    (findings options image).filterMap Finding.attribution? =
      attributed options.policy image none (acceptedBlocks options image) := by
  rw [acceptedBlocks, findings_eq_met]
  exact filterMap_attribution?_met {}

/-- The entry that an accepted block with its key gives, if it has a key. -/
def entryOf? (image : ByteImage) (p : NameBlock × Option Nat) : Option (Address × String) :=
  p.2.map fun key => (image.addressOf key, p.1.name)

/-- The entries that a scan files, in order. -/
def filed (options : ScanOptions) (image : ByteImage) : List (Address × String) :=
  (attributed options.policy image none (acceptedBlocks options image)).filterMap (entryOf? image)

/-- **The names of a scan are the filed entries.** -/
theorem scan_eq_ofList : scan options image = NameMap.ofList (filed options image) := by
  rw [filed, ← filterMap_attribution?, List.filterMap_filterMap, scan, fileNames,
    NameMap.ofList]
  generalize ({} : NameMap) = names
  induction findings options image generalizing names with
  | nil => rfl
  | cons f found ih =>
    match f with
    | .rejected _ => exact ih names
    | .accepted b none => exact ih names
    | .accepted b (some key) => exact ih (names.insert (image.addressOf key) b.name)

end NameRecovery
