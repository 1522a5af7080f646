import CompilerDriver.CommandLine.Printer
import CompilerDriver.Proofs.CommandLine.Grammar

/-!
# Rendered command lines

The tokens of a record split into one group for every value and every toggle of the record, with
the input behind `--`.  The split says what the record says, so parsing gives the record back.
-/

namespace CompilerDriver.CommandLine

namespace Arguments

variable {args : Arguments}

/-! ## The split of a record -/

/-- The values that the record has for a flag. -/
def values (args : Arguments) : ValueFlag → List String
  | .compilerSwitch => args.compilerSwitches
  | .pass => args.passes
  | .machineSwitch => args.machineSwitches
  | .includeDir => args.includeDirs
  | .libraryDir => args.libraryDirs
  | .define => args.defines
  | .optLevel => args.optLevels
  | .output => args.outputPath.toList

def toggled (args : Arguments) : Toggle → Bool
  | .translateOnly => args.translateOnly
  | .rawTranslateOnly => args.rawTranslateOnly
  | .verbose => args.verbose
  | .debug => args.debug

/-- A record that a command line can say.  No flag has an empty value, and the levels of
optimization are there, since others are put in for none. -/
structure Renderable (args : Arguments) : Prop where
  translateOnly : args.rawTranslateOnly = true → args.translateOnly = true
  optLevels : args.optLevels ≠ []
  values : ∀ flag, "" ∉ args.values flag
  inputPath : ∀ path, args.inputPath ≠ "@" ++ path

def valueGroups (args : Arguments) (flag : ValueFlag) : List Group :=
  (args.values flag).map (.attached [] flag.letter)

def toggleGroups (args : Arguments) (t : Toggle) : List Group :=
  if args.toggled t then [.toggles [t.letter]] else []

/-- The groups of the values and toggles, in the order in which they are rendered. -/
def split (args : Arguments) : Split where
  groups :=
    [.includeDir, .define, .optLevel, .machineSwitch, .compilerSwitch].flatMap args.valueGroups ++
      args.toggleGroups .debug ++ [.libraryDir, .pass, .output].flatMap args.valueGroups ++
      [.translateOnly, .rawTranslateOnly, .verbose].flatMap args.toggleGroups
  rest := some [args.inputPath]

theorem tokens_attached (flag : ValueFlag) (value : String) :
    (Group.attached [] flag.letter value).tokens = [attached flag value] := by
  have htext : String.ofList ('-' :: flag.letter :: value.toList) = attached flag value := by
    rw [← String.toList_inj]
    simp [attached]
  simp [Group.tokens, htext]

theorem tokens_valueGroups (flag : ValueFlag) :
    (args.valueGroups flag).flatMap Group.tokens = (args.values flag).map (attached flag) := by
  simp only [valueGroups, List.flatMap_map, tokens_attached]
  exact List.map_eq_flatMap.symm

theorem tokens_toggleGroups (t : Toggle) :
    (args.toggleGroups t).flatMap Group.tokens =
      if args.toggled t then [toggleToken t] else [] := by
  unfold toggleGroups
  cases args.toggled t <;> rfl

theorem preprocessor_assemble :
    (CompilerOptions.assemble args).preprocessor.getD [] =
      (args.values .includeDir).map (attached .includeDir) ++
        (args.values .define).map (attached .define) :=
  CompilerOptions.getD_present _

theorem codegen_assemble :
    (CompilerOptions.assemble args).codegen.getD [] =
      (args.values .optLevel).map (attached .optLevel) ++
        (args.values .machineSwitch).map (attached .machineSwitch) ++
        (args.values .compilerSwitch).map (attached .compilerSwitch) ++
        if args.debug then [toggleToken .debug] else [] :=
  CompilerOptions.getD_present _

theorem tokens_split :
    args.split.groups.flatMap Group.tokens ++ Split.ending args.split.rest = args.render := by
  have houtput : (args.outputPath.map (attached .output)).toList =
      (args.values .output).map (attached .output) := Option.toList_map
  simp only [split, Split.ending, List.flatMap_append, List.flatMap_cons, List.flatMap_nil,
    tokens_valueGroups, tokens_toggleGroups, render, preprocessor_assemble, codegen_assemble,
    houtput, List.append_assoc, List.append_nil]
  rfl

theorem eq_of_mem_split {g : Group} (hg : g ∈ args.split.groups) :
    (∃ flag, ∃ value ∈ args.values flag, g = .attached [] flag.letter value) ∨
      ∃ t : Toggle, g = .toggles [t.letter] := by
  have hvalue {flag : ValueFlag} (hmem : g ∈ args.valueGroups flag) :
      ∃ flag, ∃ value ∈ args.values flag, g = .attached [] flag.letter value := by
    obtain ⟨value, hvalue, rfl⟩ := List.mem_map.1 hmem
    exact ⟨flag, value, hvalue, rfl⟩
  have htoggle {t : Toggle} (hmem : g ∈ args.toggleGroups t) :
      ∃ t : Toggle, g = .toggles [t.letter] := by
    unfold toggleGroups at hmem
    split at hmem
    · exact ⟨t, List.mem_singleton.1 hmem⟩
    · cases hmem
  simp only [split, List.mem_append, List.mem_flatMap] at hg
  rcases hg with ((⟨flag, -, hmem⟩ | hmem) | ⟨flag, -, hmem⟩) | ⟨t, -, hmem⟩
  · exact .inl (hvalue hmem)
  · exact .inr (htoggle hmem)
  · exact .inl (hvalue hmem)
  · exact .inr (htoggle hmem)

theorem Renderable.spells (h : args.Renderable) : args.split.Spells args.render where
  wellFormed := by
    intro g hg
    obtain ⟨flag, value, hvalue, rfl⟩ | ⟨t, rfl⟩ := eq_of_mem_split hg
    · have hne : value ≠ "" := by
        rintro rfl
        exact h.values flag hvalue
      exact ⟨by simp, mem_valueLetters.2 ⟨flag, rfl⟩, hne⟩
    · exact ⟨by simpa using mem_toggleLetters.2 ⟨t, rfl⟩, by simp⟩
  tokens_eq := tokens_split

theorem Renderable.words (h : args.Renderable) : ∀ path, "@" ++ path ∉ args.render := by
  intro path hmem
  rw [← tokens_split, List.mem_append, List.mem_flatMap] at hmem
  rcases hmem with ⟨g, hg, htoken⟩ | hending
  · obtain ⟨flag, value, -, rfl⟩ | ⟨t, rfl⟩ := eq_of_mem_split hg
    · exact reference_ne_dashed path _ (List.mem_singleton.1 htoken)
    · exact reference_ne_dashed path _ (List.mem_singleton.1 htoken)
  · rcases List.mem_cons.1 hending with hend | hinput
    · exact reference_ne_dashed path ['-'] hend
    · exact h.inputPath path (List.mem_singleton.1 hinput).symm

/-! ## What the split says -/

theorem operands_split : args.split.operands = [args.inputPath] := by
  have hvalue (flag : ValueFlag) : (args.valueGroups flag).filterMap Group.operand? = [] := by
    simp [valueGroups, Group.operand?]
  have htoggle (t : Toggle) : (args.toggleGroups t).filterMap Group.operand? = [] := by
    unfold toggleGroups
    cases args.toggled t <;> rfl
  simp [Split.operands, split, hvalue, htoggle]

theorem value_valueGroups (flag flag' : ValueFlag) :
    (args.valueGroups flag).filterMap (Group.value? flag'.letter) =
      if flag = flag' then args.values flag else [] := by
  by_cases hflag : flag = flag' <;>
    simp [valueGroups, List.filterMap_map, Function.comp_def, Group.value?, ValueFlag.letter_inj,
      hflag]

theorem value_toggleGroups (t : Toggle) (c : Char) :
    (args.toggleGroups t).filterMap (Group.value? c) = [] := by
  unfold toggleGroups
  cases args.toggled t <;> rfl

theorem values_split (flag : ValueFlag) : args.split.values flag.letter = args.values flag := by
  simp only [Split.values, split, List.flatMap_cons, List.flatMap_nil, List.filterMap_append,
    List.filterMap_nil, value_valueGroups, value_toggleGroups]
  cases flag <;> simp

theorem letters_valueGroups (flag : ValueFlag) :
    (args.valueGroups flag).flatMap Group.letters = [] := by
  simp [valueGroups, Group.letters]

theorem letter_mem_toggleGroups {t t' : Toggle} :
    t.letter ∈ (args.toggleGroups t').flatMap Group.letters ↔
      t = t' ∧ args.toggled t' = true := by
  cases hon : args.toggled t' <;> simp [toggleGroups, hon, Group.letters, Toggle.letter_inj]

theorem letter_mem_split (t : Toggle) :
    t.letter ∈ args.split.letters ↔ args.toggled t = true := by
  simp only [Split.letters, split, List.flatMap_cons, List.flatMap_nil, List.flatMap_append,
    List.mem_append, letters_valueGroups, letter_mem_toggleGroups]
  cases t <;> simp

theorem Renderable.describes (h : args.Renderable) :
    args.split.Describes args.render { args with tokens := args.render } where
  tokens := rfl
  inputPath := operands_split
  outputPath := by
    have hvalues : args.split.values 'o' = args.outputPath.toList := values_split .output
    rw [hvalues]
    cases args.outputPath <;> rfl
  translateOnly := by
    have honly : 'E' ∈ args.split.letters ↔ args.translateOnly = true :=
      letter_mem_split .translateOnly
    have hraw : 'e' ∈ args.split.letters ↔ args.rawTranslateOnly = true :=
      letter_mem_split .rawTranslateOnly
    rw [honly, hraw]
    exact ⟨Or.inl, fun hon => hon.elim id h.translateOnly⟩
  rawTranslateOnly := (letter_mem_split .rawTranslateOnly).symm
  verbose := (letter_mem_split .verbose).symm
  debug := (letter_mem_split .debug).symm
  passes := (values_split .pass).symm
  compilerSwitches := (values_split .compilerSwitch).symm
  machineSwitches := (values_split .machineSwitch).symm
  includeDirs := (values_split .includeDir).symm
  libraryDirs := (values_split .libraryDir).symm
  defines := (values_split .define).symm
  optLevels := by
    have hvalues : args.split.values 'O' = args.optLevels := values_split .optLevel
    rw [hvalues, if_neg h.optLevels]

end Arguments

/-- Parsing gives back the record that was rendered, but for the tokens, and so the same options. -/
theorem parse_render (workDir : Location) (r : Reader) (args : Arguments) (h : args.Renderable) :
    parse workDir r args.render = .ok (.compile { args with tokens := args.render }) ∧
      CompilerOptions.assemble { args with tokens := args.render } =
        CompilerOptions.assemble args := by
  refine ⟨?_, rfl⟩
  rw [parse_words h.words]
  exact parseTokens_compile_iff_describes.2 ⟨args.split, h.spells, h.describes⟩

/-- Values that look like options, references and flags, or hold a blank, in front of an input that
looks like the end of options. -/
theorem parse_render_odd_values :
    ∃ args : Arguments, args.Renderable ∧
      args.render = ["-I-", "-Ia b", "-D--", "-DA=-D", "-O-h", "-ff", "-f=", "-LL", "-p@p", "-p-p",
        "-o-o", "-E", "-e", "-v", "--", "--"] ∧
      parse [] (Reader.ofTable []) args.render =
        .ok (.compile { args with tokens := args.render }) := by
  let args : Arguments :=
    { tokens := [], inputPath := "--", outputPath := some "-o", translateOnly := true,
      rawTranslateOnly := true, verbose := true, debug := false, passes := ["@p", "-p"],
      compilerSwitches := ["f", "="], machineSwitches := [], includeDirs := ["-", "a b"],
      libraryDirs := ["L"], defines := ["--", "A=-D"], optLevels := ["-h"] }
  have hvalues : ∀ flag, "" ∉ args.values flag := by
    intro flag
    cases flag <;> decide
  have hinput : ∀ path, args.inputPath ≠ "@" ++ path :=
    ResponseFile.reference?_eq_none_iff.1 (by decide)
  have hargs : args.Renderable := ⟨fun _ => rfl, by decide, hvalues, hinput⟩
  exact ⟨args, hargs, by decide, (parse_render [] (Reader.ofTable []) args hargs).1⟩

end CompilerDriver.CommandLine
