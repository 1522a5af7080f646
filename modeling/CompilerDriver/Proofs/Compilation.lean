import CompilerDriver.Backend
import CompilerDriver.Proofs.FileSystem.Lookup
import CompilerDriver.Proofs.Path

/-!
# Validated requests

Which command lines give a request, and which backend call the request stands for.  The extension
of an input decides its kind, and since a file's path does not end in a slash, the extension stands
at the end of the path's text.
-/

namespace CompilerDriver

open CommandLine (Arguments)

/-- No text ends in the extensions of two kinds. -/
theorem SourceKind.eq_of_suffix {kind kind' : SourceKind} {path : List Char}
    (h : kind.extension.toList <:+ path) (h' : kind'.extension.toList <:+ path) : kind = kind' := by
  rcases List.suffix_or_suffix_of_suffix h h' with h | h <;>
    revert h <;> cases kind <;> cases kind' <;> decide

theorem Mode.of_eq_fullCompile_iff {a : Arguments} :
    Mode.of a = .fullCompile ↔ a.rawTranslateOnly = false ∧ a.translateOnly = false := by
  unfold Mode.of
  cases a.rawTranslateOnly <;> cases a.translateOnly <;> simp

namespace CompilationRequest

section

variable {files : FileSystem} {args : Arguments} {options : CompilerOptions}
  {nativeSuffix : String} {request : CompilationRequest}

/-- The request for an input of this kind. -/
def ofKind (args : Arguments) (options : CompilerOptions) (nativeSuffix : String)
    (kind : SourceKind) : CompilationRequest where
  inputPath := args.inputPath
  outputPath := settleOutput args (Path.stem args.inputPath) nativeSuffix
  moduleName := Path.stem args.inputPath
  kind := kind
  mode := Mode.of args
  options := options

theorem build_eq_ok_iff :
    build files args options nativeSuffix = .ok request ↔
      files.isFile args.inputPath = true ∧
        ∃ kind, SourceKind.ofExtension? (Path.extension args.inputPath) = some kind ∧
          ¬ (kind = .cxx ∧ args.translateOnly = true) ∧
          request = ofKind args options nativeSuffix kind := by
  unfold build
  by_cases hfile : files.isFile args.inputPath = true
  · simp only [hfile, if_true, true_and]
    cases hkind : SourceKind.ofExtension? (Path.extension args.inputPath) with
    | none => simp
    | some kind =>
        by_cases hcxx : kind = .cxx ∧ args.translateOnly = true
        · simp [hcxx]
        · simp only [hcxx, if_false, Except.ok.injEq, Option.some.injEq, exists_eq_left',
            not_false_eq_true, true_and]
          exact eq_comm
  · simp [hfile]

theorem settleOutput_of_some {output : String} (h : args.outputPath = some output)
    (hne : output ≠ "") (moduleName nativeSuffix : String) :
    settleOutput args moduleName nativeSuffix = output := by
  simp [settleOutput, h, hne]

theorem settleOutput_of_none (h : ∀ output, args.outputPath = some output → output = "")
    (moduleName nativeSuffix : String) :
    settleOutput args moduleName nativeSuffix =
      defaultOutput moduleName nativeSuffix args.translateOnly := by
  unfold settleOutput
  cases houtput : args.outputPath with
  | none => rfl
  | some output => simp [h output houtput]

/-- A file is accepted under its extension. -/
theorem build_of_extension {kind : SourceKind} (hfile : files.isFile args.inputPath = true)
    (hextension : Path.extension args.inputPath = kind.extension)
    (hcxx : kind = .cxx → args.translateOnly = false) :
    build files args options nativeSuffix = .ok (ofKind args options nativeSuffix kind) := by
  have hkind : SourceKind.ofExtension? (Path.extension args.inputPath) = some kind := by
    rw [hextension, SourceKind.ofExtension?_extension]
  refine build_eq_ok_iff.2 ⟨hfile, kind, hkind, ?_, rfl⟩
  rintro ⟨hkind, htranslate⟩
  rw [hcxx hkind] at htranslate
  cases htranslate

/-- What a request is made from, its options apart. -/
theorem build_congr {a b : Arguments} (hinput : b.inputPath = a.inputPath)
    (houtput : b.outputPath = a.outputPath) (htranslate : b.translateOnly = a.translateOnly)
    (hraw : b.rawTranslateOnly = a.rawTranslateOnly) (options : CompilerOptions) :
    build files b options nativeSuffix = build files a options nativeSuffix := by
  simp only [build, settleOutput, Mode.of, hinput, houtput, htranslate, hraw]

/-- The path of a request's input ends in the extension of its kind. -/
theorem suffix_of_build (h : build files args options nativeSuffix = .ok request) :
    request.kind.extension.toList <:+ args.inputPath.toList := by
  obtain ⟨hfile, kind, hkind, -, rfl⟩ := build_eq_ok_iff.1 h
  have hextension : Path.extension args.inputPath = kind.extension :=
    SourceKind.ofExtension?_eq_some hkind
  have hsuffix := Path.extension_suffix (FileSystem.endsInSlash_of_isFile hfile)
  rwa [hextension] at hsuffix

theorem kind_iff_suffix (h : build files args options nativeSuffix = .ok request)
    (kind : SourceKind) :
    request.kind = kind ↔ kind.extension.toList <:+ args.inputPath.toList := by
  have hsuffix := suffix_of_build h
  constructor
  · rintro rfl
    exact hsuffix
  · exact SourceKind.eq_of_suffix hsuffix

/-- The call of a request, by the end of its input path. -/
theorem call_of_build (h : build files args options nativeSuffix = .ok request)
    (hraw : args.rawTranslateOnly = true → args.translateOnly = true) :
    request.call =
      let output := settleOutput args (Path.stem args.inputPath) nativeSuffix
      if ".cpp".toList <:+ args.inputPath.toList then .compileCxx args.inputPath output options
      else
        .compileModule args.inputPath output ⟨args.translateOnly, args.rawTranslateOnly⟩
          options := by
  have hcxx : request.kind = .cxx ↔ ".cpp".toList <:+ args.inputPath.toList :=
    kind_iff_suffix h .cxx
  obtain ⟨-, kind, -, -, rfl⟩ := build_eq_ok_iff.1 h
  have hmode : TranslationMode.of (Mode.of args) =
      ⟨args.translateOnly, args.rawTranslateOnly⟩ := by
    unfold Mode.of
    cases hr : args.rawTranslateOnly with
    | true => simp [hraw hr, TranslationMode.of]
    | false => cases args.translateOnly <;> rfl
  simp only [← hcxx]
  cases kind with
  | cxx => simp [call, ofKind]
  | python => simp [call, ofKind, hmode]

end

end CompilationRequest

end CompilerDriver
