import CompilerDriver.Proofs.CommandLine.Grammar
import CompilerDriver.Proofs.Compilation

/-!
# Coherent requests

A request's mode and the name of its output are settled apart, from two toggles that only the
parser keeps in step.  On a parsed command line they agree, and an output that is named after the
module is never the input.
-/

namespace CompilerDriver.CompilationRequest

open CommandLine (Arguments Split)

/-! ## What is checked and what is settled -/

/-- How the checks of an input come out.  The first one that fails is reported; `translates` says
that the translator runs alone. -/
structure Checked (files : FileSystem) (inputPath : String) (translates : Prop)
    (result : Except RequestError CompilationRequest) : Prop where
  accepted : (∃ request, result = .ok request) ↔
    files.isFile inputPath = true ∧
      (Path.extension inputPath = ".py" ∨ Path.extension inputPath = ".cpp" ∧ ¬ translates)
  notFound : result = .error (.inputNotFound inputPath) ↔ files.isFile inputPath = false
  unsupported :
    result = .error (.unsupportedExtension inputPath (Path.extension inputPath)) ↔
      files.isFile inputPath = true ∧
        Path.extension inputPath ≠ ".py" ∧ Path.extension inputPath ≠ ".cpp"
  alreadyTranslated : result = .error (.alreadyTranslated inputPath) ↔
    files.isFile inputPath = true ∧ Path.extension inputPath = ".cpp" ∧ translates

/-- The output is named after the module, by the mode; it lies in the working directory, and it is
not the input. -/
structure NamedAfterModule (request : CompilationRequest) (nativeSuffix : String) : Prop where
  cpp_iff : request.outputPath = request.moduleName ++ ".cpp" ↔ request.mode ≠ .fullCompile
  native : request.mode = .fullCompile →
    request.outputPath = request.moduleName ++ "." ++ nativeSuffix
  ordinary : Path.IsOrdinary request.outputPath
  ne_input : ∀ here,
    Path.resolve here request.outputPath ≠ Path.resolve here request.inputPath

/-- The parts of a request fit together and fit the record that it was made from. -/
structure Coherent (args : Arguments) (nativeSuffix : String) (translates : Prop)
    (request : CompilationRequest) : Prop where
  inputPath : request.inputPath = args.inputPath
  extension : Path.extension args.inputPath = request.kind.extension
  moduleName : Path.IsName request.moduleName
  lastComponent : (Path.components args.inputPath).getLast? =
    some (request.moduleName ++ request.kind.extension)
  fullCompile_iff : request.mode = .fullCompile ↔ ¬ translates
  fullCompile_of_cxx : request.kind = .cxx → request.mode = .fullCompile
  output_ne : request.outputPath ≠ ""
  given : ∀ output, args.outputPath = some output → output ≠ "" → request.outputPath = output
  derived : (∀ output, args.outputPath = some output → output = "") →
    request.NamedAfterModule nativeSuffix

section

variable {files : FileSystem} {args : Arguments} {options : CompilerOptions}
  {nativeSuffix : String} {request : CompilationRequest} {kind : SourceKind}

/-! ## The checks -/

theorem ofExtension?_eq_none_iff {extension : String} :
    SourceKind.ofExtension? extension = none ↔ extension ≠ ".py" ∧ extension ≠ ".cpp" := by
  unfold SourceKind.ofExtension?
  by_cases hpy : extension = ".py"
  · simp [hpy, SourceKind.extension]
  · by_cases hcpp : extension = ".cpp" <;> simp [hpy, hcpp, SourceKind.extension]

theorem checked_build (files : FileSystem) (args : Arguments) (options : CompilerOptions)
    (nativeSuffix : String) :
    Checked files args.inputPath (args.translateOnly = true)
      (build files args options nativeSuffix) := by
  unfold build
  cases hfile : files.isFile args.inputPath with
  | false => constructor <;> simp [hfile]
  | true =>
      simp only
      rw [if_pos hfile]
      cases hkind : SourceKind.ofExtension? (Path.extension args.inputPath) with
      | none =>
          obtain ⟨hpy, hcpp⟩ := ofExtension?_eq_none_iff.1 hkind
          constructor <;> simp [hfile, hpy, hcpp]
      | some kind =>
          have hextension := SourceKind.ofExtension?_eq_some hkind
          cases kind with
          | python =>
              have hpy : Path.extension args.inputPath = ".py" := hextension
              constructor <;> simp [hfile, hpy]
          | cxx =>
              have hcpp : Path.extension args.inputPath = ".cpp" := hextension
              cases htranslate : args.translateOnly <;>
                constructor <;> simp [hfile, hcpp]

/-! ## Names -/

theorem isName_stem (hextension : Path.extension args.inputPath = kind.extension) :
    Path.IsName (Path.stem args.inputPath) where
  ne_empty := by
    refine Path.stem_ne_empty ?_
    rw [hextension]
    cases kind <;> decide
  no_slash := Path.stem_no_slash args.inputPath

theorem lastComponent_of_extension (hextension : Path.extension args.inputPath = kind.extension) :
    (Path.components args.inputPath).getLast? =
      some (Path.stem args.inputPath ++ kind.extension) := by
  have hbase : Path.baseName args.inputPath = Path.stem args.inputPath ++ kind.extension := by
    rw [← hextension, Path.stem_append_extension]
  have hne : Path.baseName args.inputPath ≠ "" := by
    rw [hbase]
    cases kind <;> simp [SourceKind.extension]
  rw [Path.getLast?_components hne, hbase]

theorem isOrdinary_append {name ending : String} (hname : Path.IsName name)
    (hslash : '/' ∉ ending.toList) (hlength : 2 ≤ ending.toList.length) :
    Path.IsOrdinary (name ++ ending) := by
  have hpos : 0 < name.toList.length := hname.length_pos
  exact Path.isOrdinary_append hname.no_slash hslash (by omega)

/-- Behind the same name, another ending makes another file. -/
theorem resolve_stem_append_ne {ending : String}
    (hextension : Path.extension args.inputPath = kind.extension)
    (hordinary : Path.IsOrdinary (Path.stem args.inputPath ++ ending))
    (hne : ending ≠ kind.extension) (here : Location) :
    Path.resolve here (Path.stem args.inputPath ++ ending) ≠ Path.resolve here args.inputPath := by
  have hlast : (Path.components (Path.stem args.inputPath ++ ending)).getLast? =
      some (Path.stem args.inputPath ++ ending) := by
    rw [Path.components_of_isName hordinary.toIsName]
    rfl
  have hinput : Path.IsOrdinary (Path.stem args.inputPath ++ kind.extension) := by
    have hname : Path.IsName (Path.stem args.inputPath) := isName_stem hextension
    cases kind with
    | python => exact isOrdinary_append hname (by decide) (by decide)
    | cxx => exact isOrdinary_append hname (by decide) (by decide)
  refine Path.resolve_ne_of_last hlast hordinary (lastComponent_of_extension hextension) hinput
    ?_ here
  intro heq
  exact hne ((String.append_right_inj _).1 heq)

/-! ## The output -/

/-- What is put behind the module's name. -/
def ending (args : Arguments) (nativeSuffix : String) : String :=
  "." ++ if args.translateOnly = true then "cpp" else nativeSuffix

theorem defaultOutput_eq_append (moduleName : String) :
    defaultOutput moduleName nativeSuffix args.translateOnly =
      moduleName ++ ending args nativeSuffix := by
  rw [defaultOutput, ending, String.append_assoc]

theorem isOrdinary_ending {name : String} (hname : Path.IsName name)
    (hsuffix : Path.IsName nativeSuffix) :
    Path.IsOrdinary (name ++ ending args nativeSuffix) := by
  unfold ending
  cases args.translateOnly with
  | true =>
      rw [if_pos rfl]
      exact isOrdinary_append hname (by decide) (by decide)
  | false =>
      refine isOrdinary_append hname ?_ ?_
      · simpa using hsuffix.no_slash
      · have hpos : 0 < nativeSuffix.toList.length := hsuffix.length_pos
        have hdot : ".".toList.length = 1 := by decide
        simp only [Bool.false_eq_true, if_false, String.toList_append, List.length_append]
        omega

/-- No input has the ending that its output is given. -/
theorem ending_ne_extension (hpy : nativeSuffix ≠ "py") (hcpp : nativeSuffix ≠ "cpp")
    (hcxx : ¬ (kind = .cxx ∧ args.translateOnly = true)) :
    ending args nativeSuffix ≠ kind.extension := by
  unfold ending
  cases htranslate : args.translateOnly with
  | true =>
      rw [if_pos rfl]
      cases kind with
      | python => decide
      | cxx => exact absurd ⟨rfl, htranslate⟩ hcxx
  | false =>
      intro heq
      cases kind with
      | python => exact hpy ((String.append_right_inj ".").1 heq)
      | cxx => exact hcpp ((String.append_right_inj ".").1 heq)

theorem ending_eq_cpp_iff (hcpp : nativeSuffix ≠ "cpp") :
    ending args nativeSuffix = ".cpp" ↔ args.translateOnly = true := by
  unfold ending
  cases args.translateOnly with
  | true => simp
  | false =>
      have hne : "." ++ nativeSuffix ≠ ".cpp" := fun heq =>
        hcpp ((String.append_right_inj ".").1 heq)
      simpa using hne

theorem mode_eq_fullCompile_iff
    (hraw : args.rawTranslateOnly = true → args.translateOnly = true) :
    Mode.of args = .fullCompile ↔ args.translateOnly = false := by
  rw [Mode.of_eq_fullCompile_iff]
  constructor
  · exact And.right
  · intro htranslate
    refine ⟨Bool.eq_false_iff.2 fun h => ?_, htranslate⟩
    rw [hraw h] at htranslate
    cases htranslate

theorem namedAfterModule_of_build (h : build files args options nativeSuffix = .ok request)
    (hraw : args.rawTranslateOnly = true → args.translateOnly = true)
    (hsuffix : Path.IsName nativeSuffix) (hpy : nativeSuffix ≠ "py") (hcpp : nativeSuffix ≠ "cpp")
    (hnone : ∀ output, args.outputPath = some output → output = "") :
    request.NamedAfterModule nativeSuffix := by
  obtain ⟨-, kind, hkind, hcxx, rfl⟩ := build_eq_ok_iff.1 h
  have hextension : Path.extension args.inputPath = kind.extension :=
    SourceKind.ofExtension?_eq_some hkind
  have hname : Path.IsName (Path.stem args.inputPath) := isName_stem hextension
  have hmode : Mode.of args = .fullCompile ↔ args.translateOnly = false :=
    mode_eq_fullCompile_iff hraw
  have houtput : settleOutput args (Path.stem args.inputPath) nativeSuffix =
      Path.stem args.inputPath ++ ending args nativeSuffix := by
    rw [settleOutput_of_none hnone, defaultOutput_eq_append]
  have hordinary : Path.IsOrdinary (Path.stem args.inputPath ++ ending args nativeSuffix) :=
    isOrdinary_ending hname hsuffix
  constructor <;> simp only [ofKind, houtput]
  case cpp_iff =>
    rw [String.append_right_inj, ending_eq_cpp_iff hcpp, Ne, hmode, Bool.not_eq_false]
  case native =>
    intro hfull
    rw [ending, hmode.1 hfull, String.append_assoc]
    rfl
  case ordinary => exact hordinary
  case ne_input =>
    exact resolve_stem_append_ne hextension hordinary (ending_ne_extension hpy hcpp hcxx)

theorem coherent_of_build (h : build files args options nativeSuffix = .ok request)
    (hraw : args.rawTranslateOnly = true → args.translateOnly = true)
    (hsuffix : Path.IsName nativeSuffix) (hpy : nativeSuffix ≠ "py")
    (hcpp : nativeSuffix ≠ "cpp") :
    request.Coherent args nativeSuffix (args.translateOnly = true) := by
  have hnamed := namedAfterModule_of_build h hraw hsuffix hpy hcpp
  obtain ⟨-, kind, hkind, hcxx, rfl⟩ := build_eq_ok_iff.1 h
  have hextension : Path.extension args.inputPath = kind.extension :=
    SourceKind.ofExtension?_eq_some hkind
  have hmode : Mode.of args = .fullCompile ↔ ¬ args.translateOnly = true := by
    rw [mode_eq_fullCompile_iff hraw, Bool.not_eq_true]
  have hgiven : ∀ output, args.outputPath = some output → output ≠ "" →
      settleOutput args (Path.stem args.inputPath) nativeSuffix = output :=
    fun output houtput hne => settleOutput_of_some houtput hne _ _
  exact {
    inputPath := rfl
    extension := hextension
    moduleName := isName_stem hextension
    lastComponent := lastComponent_of_extension hextension
    fullCompile_iff := hmode
    fullCompile_of_cxx := fun hkind => hmode.2 fun htranslate => hcxx ⟨hkind, htranslate⟩
    output_ne := by
      by_cases hnone : ∀ output, args.outputPath = some output → output = ""
      · exact (hnamed hnone).ordinary.ne_empty
      · obtain ⟨output, houtput, hne⟩ :
            ∃ output, args.outputPath = some output ∧ output ≠ "" := by simpa using hnone
        exact (hgiven output houtput hne).trans_ne hne
    given := hgiven
    derived := hnamed }

end

/-! ## Requests for parsed command lines -/

/-- The request for a parsed command line is checked and settled by its input, its output and the
toggles among its letters. -/
theorem build_coherent (workDir : Location) (r : Reader) (argv : List String) (args : Arguments)
    (files : FileSystem) (options : CompilerOptions) (nativeSuffix : String)
    (hparse : CommandLine.parse workDir r argv = .ok (.compile args))
    (hsuffix : Path.IsName nativeSuffix) (hpy : nativeSuffix ≠ "py")
    (hcpp : nativeSuffix ≠ "cpp") :
    ∃ s : Split, s.Spells args.tokens ∧ s.Describes args.tokens args ∧
      let translates := 'E' ∈ s.letters ∨ 'e' ∈ s.letters
      Checked files args.inputPath translates (build files args options nativeSuffix) ∧
        ∀ request, build files args options nativeSuffix = .ok request →
          request.Coherent args nativeSuffix translates := by
  obtain ⟨tokens, -, s, hspells, hdesc⟩ := CommandLine.parse_compile_iff.1 hparse
  obtain rfl := hdesc.tokens
  refine ⟨s, hspells, hdesc, ?_⟩
  simp only [← hdesc.translateOnly]
  exact ⟨checked_build files args options nativeSuffix,
    fun request hbuild => coherent_of_build hbuild hdesc.translateOnly_of_raw hsuffix hpy hcpp⟩

/-- A file whose name starts with two dots. -/
theorem build_coherent_dots :
    let files : FileSystem := ⟨[(["..py"], .file [] false)], [], "/tmp"⟩
    Path.IsName "so" ∧
      ∃ args request, CommandLine.parse [] (Reader.ofTable []) ["-g", ".//..py"] =
          .ok (.compile args) ∧
        build files args {} "so" = .ok request ∧ request.outputPath = "..so" ∧
        ∀ here, Path.resolve here request.outputPath ≠ Path.resolve here ".//..py" := by
  intro files
  have hsuffix : Path.IsName "so" := ⟨by decide, by decide⟩
  have hwords : ∀ path, "@" ++ path ∉ ["-g", ".//..py"] := ResponseFile.words_iff.2 (by decide)
  let args : Arguments :=
    .collect ["-g", ".//..py"] ".//..py" [.toggle .debug, .operand ".//..py"]
  have hparse : CommandLine.parse [] (Reader.ofTable []) ["-g", ".//..py"] =
      .ok (.compile args) := by
    rw [CommandLine.parse_words hwords]
    decide
  have hbuild : build files args {} "so" = .ok (ofKind args {} "so" .python) :=
    build_of_extension (by decide +kernel) (by decide +kernel) nofun
  obtain ⟨s, -, -, -, hcoherent⟩ := build_coherent [] (Reader.ofTable []) _ args files {} "so"
    hparse hsuffix (by decide) (by decide)
  have hderived := (hcoherent _ hbuild).derived nofun
  exact ⟨hsuffix, args, _, hparse, hbuild, by decide +kernel, hderived.ne_input⟩

end CompilerDriver.CompilationRequest
