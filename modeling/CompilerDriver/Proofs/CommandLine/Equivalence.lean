import CompilerDriver.Proofs.CommandLine.Precedence

/-!
# Command lines that say the same

Two command lines have the same result when their records differ in the tokens only, or their
errors are the same.  Groups may be put in another order as long as the operands and the values of
every flag keep theirs, a cluster may be taken apart, and a value may stand by itself.
-/

namespace CompilerDriver.CommandLine

/-! ## Results apart from their tokens -/

def Command.withoutTokens : Command → Command
  | compile args => compile { args with tokens := [] }
  | help => help
  | version => version

/-- The same error, or the same command read from whatever tokens. -/
def SameResult (result result' : Except UsageError Command) : Prop :=
  result.map Command.withoutTokens = result'.map Command.withoutTokens

/-- Items that are collected into the same record. -/
structure SameItems (items items' : List Item) : Prop where
  operands : operands items = operands items'
  values : ∀ flag, valuesOf flag items = valuesOf flag items'
  toggles : ∀ t, isOn t items = isOn t items'

theorem SameItems.refl (items : List Item) : SameItems items items :=
  ⟨rfl, fun _ => rfl, fun _ => rfl⟩

section

variable {tokens tokens' : List String} {items items' : List Item}

theorem SameItems.withoutTokens_collect (h : SameItems items items') (inputPath : String) :
    (Command.compile (Arguments.collect tokens inputPath items)).withoutTokens =
      (Command.compile (Arguments.collect tokens' inputPath items')).withoutTokens := by
  simp only [Command.withoutTokens, Arguments.collect, h.values, h.toggles]

theorem SameItems.sameResult (h : SameItems items items') (hscan : scan tokens = .ok items)
    (hscan' : scan tokens' = .ok items') :
    SameResult (parseTokens tokens) (parseTokens tokens') := by
  unfold SameResult parseTokens
  rw [hscan, hscan']
  simp only [Arguments.ofItems, h.operands]
  cases CommandLine.operands items' with
  | nil => rfl
  | cons input extra =>
      cases extra with
      | nil => exact congrArg Except.ok (h.withoutTokens_collect input)
      | cons _ _ => rfl

theorem sameResult_of_scan_eq (h : scan tokens = scan tokens') :
    SameResult (parseTokens tokens) (parseTokens tokens') := by
  cases hscan : scan tokens with
  | error stop =>
      unfold SameResult
      rw [parseTokens_of_stop hscan, parseTokens_of_stop (h.symm.trans hscan)]
  | ok items => exact (SameItems.refl items).sameResult hscan (h.symm.trans hscan)

end

/-! ## Groups in another order -/

/-- The same groups in another order, in which the operands stand in the order they had, and so do
the groups with a value for any one letter. -/
structure Reordered (groups groups' : List Group) : Prop where
  perm : groups.Perm groups'
  operands : groups.filter (·.operand?.isSome) = groups'.filter (·.operand?.isSome)
  values : ∀ flag ∈ valueLetters,
    groups.filter (fun g => (g.value? flag).isSome) =
      groups'.filter (fun g => (g.value? flag).isSome)

section

variable {groups groups' : List Group}

theorem filterMap_filter_isSome {α β : Type} (f : α → Option β) (xs : List α) :
    (xs.filter fun x => (f x).isSome).filterMap f = xs.filterMap f := by
  rw [List.filterMap_filter]
  congr 1
  funext x
  cases f x <;> rfl

theorem Reordered.wellFormed (h : Reordered groups groups')
    (hgroups : ∀ g ∈ groups, g.WellFormed) : ∀ g ∈ groups', g.WellFormed :=
  fun g hg => hgroups g (h.perm.mem_iff.2 hg)

theorem Reordered.operands_eq (h : Reordered groups groups') :
    Split.operands ⟨groups, none⟩ = Split.operands ⟨groups', none⟩ := by
  simp only [Split.operands]
  rw [← filterMap_filter_isSome Group.operand? groups, h.operands, filterMap_filter_isSome]

theorem Reordered.values_eq (h : Reordered groups groups') (f : ValueFlag) :
    Split.values ⟨groups, none⟩ f.letter = Split.values ⟨groups', none⟩ f.letter := by
  simp only [Split.values]
  rw [← filterMap_filter_isSome (Group.value? f.letter) groups,
    h.values f.letter (mem_valueLetters.2 ⟨f, rfl⟩), filterMap_filter_isSome]

theorem Reordered.mem_letters_iff (h : Reordered groups groups') {c : Char} :
    c ∈ Split.letters ⟨groups, none⟩ ↔ c ∈ Split.letters ⟨groups', none⟩ := by
  simp only [Split.letters]
  exact (h.perm.flatMap_right Group.letters).mem_iff

theorem Reordered.sameItems (h : Reordered groups groups')
    (hgroups : ∀ g ∈ groups, g.WellFormed) :
    SameItems (Split.items ⟨groups, none⟩) (Split.items ⟨groups', none⟩) where
  operands := by
    rw [Split.operands_items hgroups, Split.operands_items (h.wellFormed hgroups), h.operands_eq]
  values flag := by
    rw [Split.valuesOf_items hgroups, Split.valuesOf_items (h.wellFormed hgroups), h.values_eq]
  toggles t := by
    rw [Bool.eq_iff_iff, Split.isOn_items hgroups, Split.isOn_items (h.wellFormed hgroups),
      h.mem_letters_iff]

end

/-- The order of the groups matters only among the operands and among the values of one flag. -/
theorem parse_reordered (workDir : Location) (r : Reader) (groups groups' : List Group)
    (hgroups : ∀ g ∈ groups, g.WellFormed)
    (hwords : ∀ path, "@" ++ path ∉ groups.flatMap Group.tokens)
    (hreordered : Reordered groups groups') :
    SameResult (parse workDir r (groups.flatMap Group.tokens))
      (parse workDir r (groups'.flatMap Group.tokens)) := by
  have hwords' : ∀ path, "@" ++ path ∉ groups'.flatMap Group.tokens := by
    intro path hmem
    exact hwords path ((hreordered.perm.flatMap_right Group.tokens).mem_iff.2 hmem)
  have hspells : Split.Spells ⟨groups, none⟩ (groups.flatMap Group.tokens) :=
    ⟨hgroups, List.append_nil _⟩
  have hspells' : Split.Spells ⟨groups', none⟩ (groups'.flatMap Group.tokens) :=
    ⟨hreordered.wellFormed hgroups, List.append_nil _⟩
  rw [parse_words hwords, parse_words hwords']
  exact (hreordered.sameItems hgroups).sameResult (Split.scan_tokens hspells)
    (Split.scan_tokens hspells')

/-- Both values of `I`, one attached and one alone, move past the input. -/
theorem parse_reordered_values :
    Reordered [.operand "a.py", .attached ['v'] 'I' "inc", .toggles ['E'], .separate ['g'] 'I' "lib"]
        [.toggles ['E'], .attached ['v'] 'I' "inc", .separate ['g'] 'I' "lib", .operand "a.py"] ∧
      SameResult (parse [] (Reader.ofTable []) ["a.py", "-vIinc", "-E", "-gI", "lib"])
        (parse [] (Reader.ofTable []) ["-E", "-vIinc", "-gI", "lib", "a.py"]) := by
  have hgroups : ∀ g ∈ [Group.operand "a.py", .attached ['v'] 'I' "inc", .toggles ['E'],
      .separate ['g'] 'I' "lib"], g.WellFormed := by
    simp [Group.WellFormed, toggleLetters, valueLetters, OptionLike]
  have hreordered : Reordered
      [.operand "a.py", .attached ['v'] 'I' "inc", .toggles ['E'], .separate ['g'] 'I' "lib"]
      [.toggles ['E'], .attached ['v'] 'I' "inc", .separate ['g'] 'I' "lib", .operand "a.py"] :=
    { perm := by decide
      operands := rfl
      values := by simp [valueLetters, Group.value?] }
  exact ⟨hreordered, parse_reordered [] (Reader.ofTable []) _ _ hgroups
    (ResponseFile.words_iff.2 (by decide)) hreordered⟩

/-! ## Other spellings -/

section

variable {letters cs : List Char}

theorem scan_toggle_cluster (t : Toggle) (hne : cs ≠ []) (hdash : cs.head? ≠ some '-')
    (rest : List String) :
    scan (String.ofList ('-' :: t.letter :: cs) :: rest) =
      (scan (String.ofList ('-' :: cs) :: rest)).map (.toggle t :: ·) := by
  have ht : t.letter ≠ '-' ∧ t.letter ≠ 'h' := by cases t <;> decide
  have hform := form_cluster hne hdash
  have hform' := form_cluster (List.cons_ne_nil t.letter cs) (by simpa using ht.1)
  have hread : Cluster.read (t.letter :: cs) = (Cluster.read cs).cons t := by
    simp [Cluster.read, ht.2]
  simp only [scan, hform, hform', hread]
  cases Cluster.read cs with
  | help => rfl
  | unknown letter => rfl
  | toggles ts => cases scan rest <;> rfl
  | valued ts flag value =>
      cases value with
      | cons c value => cases scan rest <;> rfl
      | nil =>
          cases rest with
          | nil => rfl
          | cons next rest =>
              simp only [Cluster.cons]
              split
              · rfl
              · cases scan rest <;> rfl

theorem scan_cluster_apart (hletters : letters ⊆ toggleLetters) (hne : cs ≠ [])
    (hdash : cs.head? ≠ some '-') (rest : List String) :
    scan (String.ofList ('-' :: (letters ++ cs)) :: rest) =
      scan (letters.map (fun c => String.ofList ['-', c]) ++ String.ofList ('-' :: cs) :: rest) := by
  induction letters with
  | nil => rfl
  | cons c letters ih =>
      have hc := hletters (List.mem_cons_self ..)
      have hletters' : letters ⊆ toggleLetters := fun d hd => hletters (List.mem_cons_of_mem _ hd)
      obtain ⟨t, rfl⟩ := mem_toggleLetters.1 hc
      have htail : (letters ++ cs).head? ≠ some '-' := by
        cases letters with
        | nil => exact hdash
        | cons d letters => simpa using head?_toggles_ne_dash hletters'
      have hg : (Group.toggles [t.letter]).WellFormed := ⟨by simpa using hc, by simp⟩
      have hsplit := scan_toggle_cluster t (by simp [hne]) htail rest
      have hfirst := Group.scan_tokens hg
        (letters.map (fun c => String.ofList ['-', c]) ++ String.ofList ('-' :: cs) :: rest)
      rw [List.cons_append, hsplit, ih hletters', List.map_cons, List.cons_append]
      simpa [Group.tokens, Group.items, togglesOf, toggleItems] using hfirst.symm

end

/-- Two lists of tokens that each start with an option and that a scan reads alike, whatever
follows. -/
structure Respells (tokens tokens' : List String) : Prop where
  start : ∃ next behind, tokens = next :: behind ∧ OptionLike next
  start' : ∃ next behind, tokens' = next :: behind ∧ OptionLike next
  words : ∀ path, "@" ++ path ∉ tokens
  words' : ∀ path, "@" ++ path ∉ tokens'
  scan_eq : ∀ rest, scan (tokens ++ rest) = scan (tokens' ++ rest)

theorem Respells.sameResult {workDir : Location} {r : Reader}
    {before tokens tokens' after : List String} (h : Respells tokens tokens')
    (hbefore : ∀ path, "@" ++ path ∉ before) (hafter : ∀ path, "@" ++ path ∉ after)
    (hend : "--" ∉ before) :
    SameResult (parse workDir r (before ++ tokens ++ after))
      (parse workDir r (before ++ tokens' ++ after)) := by
  obtain ⟨next, behind, rfl, hnext⟩ := h.start
  obtain ⟨next', behind', rfl, hnext'⟩ := h.start'
  rw [parse_words (words_append (words_append hbefore h.words) hafter),
    parse_words (words_append (words_append hbefore h.words') hafter), List.append_assoc,
    List.append_assoc]
  exact sameResult_of_scan_eq (scan_append_congr hend (by simpa using hnext)
    (by simpa using hnext') (h.scan_eq after))

theorem optionLike_ofList {cs : List Char} (hne : cs ≠ []) :
    OptionLike (String.ofList ('-' :: cs)) := by
  obtain ⟨c, cs, rfl⟩ := List.exists_cons_of_ne_nil hne
  exact ⟨c, cs, String.toList_ofList⟩

theorem respells_cluster {letters cs : List Char} (hletters : letters ⊆ toggleLetters)
    (hne : cs ≠ []) (hdash : cs.head? ≠ some '-') :
    Respells [String.ofList ('-' :: (letters ++ cs))]
      (letters.map (fun c => String.ofList ['-', c]) ++ [String.ofList ('-' :: cs)]) where
  start := ⟨_, _, rfl, optionLike_ofList (by simp [hne])⟩
  start' := by
    cases letters with
    | nil => exact ⟨_, _, rfl, optionLike_ofList hne⟩
    | cons c letters => exact ⟨_, _, rfl, optionLike_ofList (by simp)⟩
  words path := List.mem_singleton.not.2 (reference_ne_dashed path _)
  words' path := by
    simp only [List.mem_append, List.mem_map, List.mem_singleton, not_or, not_exists, not_and]
    exact ⟨fun c _ => (reference_ne_dashed path _).symm, reference_ne_dashed path _⟩
  scan_eq rest := by simpa using scan_cluster_apart hletters hne hdash rest

theorem respells_value {letters : List Char} {flag : Char} {value : String}
    (hg : (Group.attached letters flag value).WellFormed) (hvalue : ¬ OptionLike value)
    (hword : ∀ path, value ≠ "@" ++ path) :
    Respells (Group.attached letters flag value).tokens
      (Group.separate letters flag value).tokens where
  start := ⟨_, _, rfl, optionLike_ofList (by simp)⟩
  start' := ⟨_, _, rfl, optionLike_ofList (by simp)⟩
  words path := List.mem_singleton.not.2 (reference_ne_dashed path _)
  words' path := by
    simp only [Group.tokens, List.mem_cons, List.not_mem_nil, or_false, not_or]
    exact ⟨reference_ne_dashed path _, (hword path).symm⟩
  scan_eq rest := by
    have hseparate : (Group.separate letters flag value).WellFormed := ⟨hg.1, hg.2.1, hvalue⟩
    rw [Group.scan_tokens hg, Group.scan_tokens hseparate]
    rfl

/-- A cluster may be taken apart, and an attached value may stand by itself, whatever stands around
them. -/
theorem parse_respelled (workDir : Location) (r : Reader) (before after : List String)
    (hbefore : ∀ path, "@" ++ path ∉ before) (hafter : ∀ path, "@" ++ path ∉ after)
    (hend : "--" ∉ before) :
    (∀ letters cs : List Char, letters ⊆ toggleLetters → cs ≠ [] → cs.head? ≠ some '-' →
      SameResult (parse workDir r (before ++ [String.ofList ('-' :: (letters ++ cs))] ++ after))
        (parse workDir r (before ++
          (letters.map (fun c => String.ofList ['-', c]) ++ [String.ofList ('-' :: cs)]) ++
            after))) ∧
    ∀ (letters : List Char) (flag : Char) (value : String),
      (Group.attached letters flag value).WellFormed → ¬ OptionLike value →
      (∀ path, value ≠ "@" ++ path) →
      SameResult (parse workDir r (before ++ (Group.attached letters flag value).tokens ++ after))
        (parse workDir r (before ++ (Group.separate letters flag value).tokens ++ after)) := by
  constructor
  · intro letters cs hletters hne hdash
    exact (respells_cluster hletters hne hdash).sameResult hbefore hafter hend
  · intro letters flag value hg hvalue hword
    exact (respells_value hg hvalue hword).sameResult hbefore hafter hend

/-- A cluster up to an unknown letter, and a dash as a value, behind a flag that waits for a value
and in front of a request for help. -/
theorem parse_respelled_behind_flag :
    SameResult (parse [] (Reader.ofTable []) ["-vI", "-gEZ", "--help"])
      (parse [] (Reader.ofTable []) ["-vI", "-g", "-E", "-Z", "--help"]) ∧
    SameResult (parse [] (Reader.ofTable []) ["-vI", "-eo-", "--help"])
      (parse [] (Reader.ofTable []) ["-vI", "-eo", "-", "--help"]) := by
  have hsame := parse_respelled [] (Reader.ofTable []) ["-vI"] ["--help"]
    (ResponseFile.words_iff.2 (by decide)) (ResponseFile.words_iff.2 (by decide)) (by decide)
  have hvalue : ∀ path, "-" ≠ "@" ++ path := ResponseFile.reference?_eq_none_iff.1 (by decide)
  refine ⟨hsame.1 ['g', 'E'] ['Z'] (by decide) (by decide) (by decide), ?_⟩
  exact hsame.2 ['e'] 'o' "-" ⟨by decide, by decide, by decide⟩ (by simp [OptionLike]) hvalue

end CompilerDriver.CommandLine
