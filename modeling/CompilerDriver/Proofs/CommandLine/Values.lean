import CompilerDriver.Proofs.CommandLine.Rendering

/-!
# Empty values

The rest of a cluster is a value only if there is some of it, and no word of a response file is
empty.  So a value is empty only where an empty argument stands right behind the cluster of its
flag, and then the compiler is given a switch that ends where the value should start.
-/

namespace CompilerDriver

namespace ResponseFile

variable {r : Reader} {tokens words : List String}

theorem ne_empty_of_mem_tokenize {content word : String} (h : word ∈ tokenize content) :
    word ≠ "" := by
  obtain ⟨piece, hpiece, rfl⟩ := List.mem_map.1 h
  obtain ⟨-, hne⟩ := Text.mem_fields.1 hpiece
  simpa using hne

/-- Files add no empty word. -/
theorem Inlines.empty_mem (h : Inlines r tokens words) (hempty : "" ∈ words) : "" ∈ tokens := by
  induction h with
  | nil => exact hempty
  | word _ _ ih =>
      rcases List.mem_cons.1 hempty with hhere | hlater
      · exact List.mem_cons.2 (.inl hhere)
      · exact List.mem_cons_of_mem _ (ih hlater)
  | file _ _ _ _ ih ihrest =>
      rcases List.mem_append.1 hempty with hinside | hlater
      · exact absurd rfl (ne_empty_of_mem_tokenize (ih hinside))
      · exact List.mem_cons_of_mem _ (ihrest hlater)

end ResponseFile

/-- The switches that the compiler is given, from all of the categories that it has a use for. -/
def CompilerOptions.allSwitches (options : CompilerOptions) : List String :=
  options.preprocessor.getD [] ++ options.codegen.getD [] ++ options.linker.getD []

namespace CommandLine

variable {s : Split} {tokens : List String} {a : Arguments} {flag : ValueFlag} {switch : String}

/-! ## Empty values of a split -/

/-- A cluster ends in the flag, and the token behind it is empty. -/
def Split.HasEmptyValue (s : Split) (flag : ValueFlag) : Prop :=
  ∃ letters, Group.separate letters flag.letter "" ∈ s.groups

theorem Group.WellFormed.value?_eq_empty_iff {g : Group} (hg : g.WellFormed) {c : Char} :
    g.value? c = some "" ↔ ∃ letters, g = .separate letters c "" := by
  cases g with
  | operand token | toggles letters => simp [value?]
  | attached letters flag value =>
      have hvalue : value ≠ "" := hg.2.2
      simp [value?, hvalue]
  | separate letters flag value => simp [value?]

theorem Split.Spells.empty_mem_values_iff (h : s.Spells tokens) :
    "" ∈ s.values flag.letter ↔ s.HasEmptyValue flag := by
  rw [Split.values, List.mem_filterMap]
  constructor
  · rintro ⟨g, hg, hvalue⟩
    obtain ⟨letters, rfl⟩ := (h.wellFormed g hg).value?_eq_empty_iff.1 hvalue
    exact ⟨letters, hg⟩
  · rintro ⟨letters, hg⟩
    exact ⟨_, hg, (h.wellFormed _ hg).value?_eq_empty_iff.2 ⟨letters, rfl⟩⟩

theorem Split.HasEmptyValue.empty_mem (hempty : s.HasEmptyValue flag) (h : s.Spells tokens) :
    "" ∈ tokens := by
  obtain ⟨letters, hg⟩ := hempty
  rw [← h.tokens_eq]
  refine List.mem_append_left _ (List.mem_flatMap.2 ⟨_, hg, ?_⟩)
  simp [Group.tokens]

/-! ## Empty values of a record -/

theorem Split.Describes.empty_mem_values_iff (h : s.Describes tokens a) (hs : s.Spells tokens)
    (hflag : flag ≠ .output) : "" ∈ a.values flag ↔ s.HasEmptyValue flag := by
  rw [← hs.empty_mem_values_iff]
  cases flag with
  | output => exact absurd rfl hflag
  | optLevel =>
      -- the level that is put in for none is not empty
      have hlevels : a.values .optLevel =
          if s.values 'O' = [] then ["2"] else s.values 'O' := h.optLevels
      rw [hlevels]
      by_cases hnone : s.values 'O' = []
      · simp [hnone, ValueFlag.letter]
      · rw [if_neg hnone]
        rfl
  | compilerSwitch => rw [Arguments.values, h.compilerSwitches]; rfl
  | pass => rw [Arguments.values, h.passes]; rfl
  | machineSwitch => rw [Arguments.values, h.machineSwitches]; rfl
  | includeDir => rw [Arguments.values, h.includeDirs]; rfl
  | libraryDir => rw [Arguments.values, h.libraryDirs]; rfl
  | define => rw [Arguments.values, h.defines]; rfl

/-- Only the last output counts, so an empty one may stand before it. -/
theorem Split.Describes.hasEmptyValue_output (h : s.Describes tokens a) (hs : s.Spells tokens)
    (hempty : a.outputPath = some "") : s.HasEmptyValue .output := by
  rw [h.outputPath] at hempty
  exact hs.empty_mem_values_iff.1 (List.mem_of_getLast? hempty)

/-! ## Bare switches -/

namespace ValueFlag

/-- What the compiler finds before a value of the flag.  Passes are for the translator, and the
output has an argument of its own. -/
def lead? : ValueFlag → Option String
  | compilerSwitch | libraryDir => some "-f"
  | machineSwitch => some "-m"
  | includeDir => some "-I"
  | define => some "-D"
  | optLevel => some "-O"
  | pass | output => none

variable {flag : ValueFlag} {lead : String}

theorem length_lead (h : flag.lead? = some lead) : lead.length = 2 := by
  cases flag <;> cases h <;> rfl

theorem lead_ne_debug (h : flag.lead? = some lead) : lead ≠ "-g" := by
  cases flag <;> cases h <;> decide

end ValueFlag

theorem eq_of_lead_eq_append {flag flag' : ValueFlag} {lead lead' value : String}
    (h : flag.lead? = some lead) (h' : flag'.lead? = some lead') (heq : lead' ++ value = lead) :
    lead' = lead ∧ value = "" := by
  have hlength : lead.length = lead'.length + value.length := by
    rw [← heq, String.length_append]
  have htwo : lead.length = 2 := ValueFlag.length_lead h
  have htwo' : lead'.length = 2 := ValueFlag.length_lead h'
  have hvalue : value = "" := by
    rw [← String.length_eq_zero_iff]
    omega
  subst hvalue
  exact ⟨by simpa using heq, rfl⟩

theorem allSwitches_assemble :
    (CompilerOptions.assemble a).allSwitches =
      CompilerOptions.preprocessorSwitches a ++ CompilerOptions.codegenSwitches a ++
        CompilerOptions.linkerSwitches a := by
  simp only [CompilerOptions.allSwitches, CompilerOptions.assemble, CompilerOptions.getD_present]

/-- Every switch but that for debugging is the value of a flag behind its lead. -/
theorem mem_allSwitches_iff :
    switch ∈ (CompilerOptions.assemble a).allSwitches ↔
      (switch = "-g" ∧ a.debug = true) ∨
        ∃ flag lead, ValueFlag.lead? flag = some lead ∧
          ∃ value ∈ a.values flag, lead ++ value = switch := by
  rw [allSwitches_assemble]
  simp only [CompilerOptions.preprocessorSwitches, CompilerOptions.codegenSwitches,
    CompilerOptions.linkerSwitches, CompilerOptions.switches, List.mem_append, List.mem_map]
  constructor
  · rintro (((h | h) | ((h | h) | h) | h) | h)
    · exact .inr ⟨.includeDir, "-I", rfl, h⟩
    · exact .inr ⟨.define, "-D", rfl, h⟩
    · exact .inr ⟨.optLevel, "-O", rfl, h⟩
    · exact .inr ⟨.machineSwitch, "-m", rfl, h⟩
    · exact .inr ⟨.compilerSwitch, "-f", rfl, h⟩
    · left
      split at h
      · exact ⟨List.mem_singleton.1 h, by assumption⟩
      · cases h
    · exact .inr ⟨.libraryDir, "-f", rfl, h⟩
  · rintro (⟨rfl, hdebug⟩ | ⟨flag, lead, hlead, h⟩)
    · simp [hdebug]
    · cases flag <;> cases hlead <;> simp only [Arguments.values] at h <;> simp [h]

/-- Every value of the record has something to it, and so has every switch that is made from
one. -/
structure Arguments.KeepsValues (a : Arguments) : Prop where
  values : ∀ flag, "" ∉ a.values flag
  switches : ∀ switch ∈ (CompilerOptions.assemble a).allSwitches,
    (switch = "-g" ∧ a.debug = true) ∨ 2 < switch.length

theorem Arguments.keepsValues_of_values (h : ∀ flag, "" ∉ a.values flag) : a.KeepsValues where
  values := h
  switches := by
    intro switch hswitch
    rcases mem_allSwitches_iff.1 hswitch with hdebug | ⟨flag, lead, hlead, value, hvalue, rfl⟩
    · exact .inl hdebug
    · refine .inr ?_
      have hne : value ≠ "" := by
        rintro rfl
        exact h flag hvalue
      have hlength : value.length ≠ 0 := mt String.length_eq_zero_iff.1 hne
      have htwo : lead.length = 2 := ValueFlag.length_lead hlead
      rw [String.length_append]
      omega

theorem bare_mem_allSwitches_iff {lead : String} (hlead : flag.lead? = some lead) :
    lead ∈ (CompilerOptions.assemble a).allSwitches ↔
      ∃ other : ValueFlag, other.lead? = some lead ∧ "" ∈ a.values other := by
  rw [mem_allSwitches_iff]
  constructor
  · rintro (⟨rfl, -⟩ | ⟨other, lead', hlead', value, hvalue, heq⟩)
    · exact absurd rfl (ValueFlag.lead_ne_debug hlead)
    · obtain ⟨rfl, rfl⟩ := eq_of_lead_eq_append hlead hlead' heq
      exact ⟨other, hlead', hvalue⟩
  · rintro ⟨other, hother, hempty⟩
    exact .inr ⟨other, lead, hother, "", hempty, by simp⟩

/-! ## Parsed records -/

/-- A value of a parsed record is empty exactly where an empty argument follows the cluster of its
flag.  The lead of a switch reaches the compiler by itself exactly when a flag with this lead has
such a value, so without an empty argument no switch loses its value. -/
theorem parse_empty_values (workDir : Location) (r : Reader) (args : List String) (a : Arguments)
    (h : parse workDir r args = .ok (.compile a)) :
    ∃ s : Split, s.Spells a.tokens ∧ s.Describes a.tokens a ∧
      (∀ flag, s.HasEmptyValue flag → "" ∈ args) ∧
      (∀ flag, flag ≠ .output → ("" ∈ a.values flag ↔ s.HasEmptyValue flag)) ∧
      (a.outputPath = some "" → s.HasEmptyValue .output) ∧
      (∀ (flag : ValueFlag) (lead : String), flag.lead? = some lead →
        (lead ∈ (CompilerOptions.assemble a).allSwitches ↔
          ∃ other : ValueFlag, other.lead? = some lead ∧ s.HasEmptyValue other)) ∧
      ("" ∉ args → a.KeepsValues) := by
  obtain ⟨tokens, hexpand, s, hs, hdesc⟩ := parse_compile_iff.1 h
  obtain rfl := hdesc.tokens
  have hinlines : ResponseFile.Inlines r args a.tokens :=
    (ResponseFile.expands_expandWithin workDir r [] args).inlines _ hexpand
  have hargs : ∀ flag, s.HasEmptyValue flag → "" ∈ args := fun flag hempty =>
    hinlines.empty_mem (hempty.empty_mem hs)
  have hvalues : ∀ flag, flag ≠ .output → ("" ∈ a.values flag ↔ s.HasEmptyValue flag) :=
    fun flag => hdesc.empty_mem_values_iff hs
  have houtput : a.outputPath = some "" → s.HasEmptyValue .output := hdesc.hasEmptyValue_output hs
  refine ⟨s, hs, hdesc, hargs, hvalues, houtput, ?_, ?_⟩
  · intro flag lead hlead
    rw [bare_mem_allSwitches_iff hlead]
    refine exists_congr fun other => and_congr_right fun hother => hvalues other ?_
    rintro rfl
    cases hother
  · intro hnone
    refine Arguments.keepsValues_of_values fun flag hempty => hnone (hargs flag ?_)
    by_cases hflag : flag = .output
    · subst hflag
      exact houtput (Option.mem_toList.1 hempty)
    · exact (hvalues flag hflag).1 hempty

/-- A value in a cluster, and one that stands by itself. -/
theorem parse_keeps_values :
    ∃ a, parse [] (Reader.ofTable []) ["-vDX", "-m", "32", "a.py"] = .ok (.compile a) ∧
      a.KeepsValues := by
  have hwords : ∀ path, "@" ++ path ∉ ["-vDX", "-m", "32", "a.py"] :=
    ResponseFile.words_iff.2 (by decide)
  obtain ⟨a, ha⟩ :
      ∃ a, parse [] (Reader.ofTable []) ["-vDX", "-m", "32", "a.py"] = .ok (.compile a) := by
    rw [parse_words hwords]
    exact ⟨_, rfl⟩
  obtain ⟨s, -, -, -, -, -, -, hkeeps⟩ := parse_empty_values [] (Reader.ofTable []) _ a ha
  exact ⟨a, ha, hkeeps (by decide)⟩

/-- An empty directory is accepted, and the compiler takes the next switch for it. -/
theorem parse_bare_lead :
    ∃ a, parse [] (Reader.ofTable []) ["-I", "", "-DX", "a.py"] = .ok (.compile a) ∧
      "" ∈ a.values .includeDir ∧
      (CompilerOptions.assemble a).preprocessor = some ["-I", "-DX"] ∧ ¬ a.KeepsValues := by
  have hwords : ∀ path, "@" ++ path ∉ ["-I", "", "-DX", "a.py"] :=
    ResponseFile.words_iff.2 (by decide)
  rw [parse_words hwords]
  refine ⟨_, rfl, by decide, by decide, ?_⟩
  intro hkeeps
  exact hkeeps.values .includeDir (by decide)

end CommandLine

end CompilerDriver
