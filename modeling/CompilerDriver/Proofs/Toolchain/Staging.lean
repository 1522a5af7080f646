import CompilerDriver.Proofs.Toolchain.Cleanup
import CompilerDriver.Proofs.Toolchain.Plan

/-!
# Builds in stages

A native extension may be built in one run, or in two: the first one only translates, to a file of
the caller's choice, and the second one compiles that file.  When the tools end alike, so do both
ways, with the same log and the same processes up to the path of the intermediate file, unless the
tools made it impossible to remove the scratch directory of the one run.  Tools that only write
files do not.
-/

namespace CompilerDriver

open CommandLine (Arguments)

/-- A run that is not verbose shows nothing but how its one call ended. -/
theorem run_of_quiet {σ : Type} {around : Surroundings} {backend : Backend σ} {args : List String}
    {a : Arguments} {request : CompilationRequest}
    (hparse : CommandLine.parse around.files.workDir around.reader args = .ok (.compile a))
    (hquiet : a.verbose = false)
    (hbuild : CompilationRequest.build around.files a (CompilerOptions.assemble a)
      around.nativeSuffix = .ok request) (s : σ) :
    run around backend args s =
      (.ofReply around.format [] "" (backend request.call s).1, (backend request.call s).2) := by
  have hletters : a.verbose = decide ('v' ∈ ([] : List Char)) := hquiet
  have hevent : a.verbose = true → request.successEvent = ⟨.info, finishedNote [] ""⟩ := by
    simp [hquiet]
  simp only [run_of_request hparse hbuild, ofReply_eq hletters hevent]

namespace Toolchain

open FileSystem (Scratch)

section Stages

variable {ρ : Type}

/-! ## Two runs -/

/-- How a module is translated to this C++ file. -/
def translation (config : ToolConfig) (a : Arguments) (path : String) : ToolCall :=
  ⟨config.translator, translatorCommand a a.inputPath path []⟩

/-- How this C++ file is compiled for a module. -/
def compilation (config : ToolConfig) (a : Arguments) (output path : String) : ToolCall :=
  ⟨config.compiler, compilerCommand a path output⟩

def processes (config : ToolConfig) (a : Arguments) (output path : String) : List ToolCall :=
  [translation config a path, compilation config a output path]

/-- How the two tools of a build at once end, and what they leave before the build cleans up. -/
def toolsAtOnce (runner : Runner ρ) (config : ToolConfig) (state : ρ) (a : Arguments)
    (output path : String) (files : FileSystem) : Except Raised Unit × World ρ :=
  translateAndCompile runner config a.inputPath path output true (CompilerOptions.assemble a)
    ⟨files, state, []⟩

/-- The second of two runs, once the translation went well: it reads as the compilation of what was
translated, and the compiler ends as in the build at once. -/
structure SecondStage (runner : Runner ρ) (config : ToolConfig) (reader : Reader)
    (args : List String) (a : Arguments) (output stage path : String) (direct staged : World ρ) :
    Prop where
  written : staged.files.isFile stage = true
  directory : HasDirectory staged.files output
  reads : ∃ tokens, CommandLine.parse staged.files.workDir reader args =
    .ok (.compile { a with tokens := tokens, inputPath := stage })
  same_result : (direct.reply runner (compilation config a output path)).result =
    (staged.reply runner (compilation config a output stage)).result

/-- A command line for a native extension of a module, and two command lines that build it in
stages, by way of the file at `stage`. -/
structure Stages (around : Surroundings) (runner : Runner ρ) (config : ToolConfig) (state : ρ)
    (reader : Reader) (args translateArgs compileArgs : List String) (a : Arguments)
    (output stage path : String) (scratch : Scratch) (files : FileSystem) : Prop where
  reads : CommandLine.parse around.files.workDir around.reader args = .ok (.compile a)
  quiet : a.verbose = false
  fullCompile : Mode.of a = .fullCompile
  output_eq : a.outputPath = some output
  output_ne : output ≠ ""
  python : Path.extension a.inputPath = ".py"
  input : around.files.isFile a.inputPath = true
  directory : HasDirectory around.files output
  created : around.files.makeScratch (scratchStem around.files) = .ok (scratch, files)
  path_eq : path = intermediatePath scratch.path a.inputPath
  stage_cxx : Path.extension stage = ".cpp"
  stage_directory : HasDirectory around.files stage
  reads_translate : ∃ tokens, CommandLine.parse around.files.workDir around.reader translateArgs =
    .ok (.compile { a with tokens := tokens, translateOnly := true, outputPath := some stage })
  same_result :
    (World.reply runner (translation config a path) ⟨files, state, []⟩).result =
      (World.reply runner (translation config a stage) ⟨around.files, state, []⟩).result
  second : (World.reply runner (translation config a stage) ⟨around.files, state, []⟩).Succeeded →
    SecondStage runner config reader compileArgs a output stage path
      (World.after runner (translation config a path) ⟨files, state, []⟩)
      (World.after runner (translation config a stage) ⟨around.files, state, []⟩)

section

variable {runner : Runner ρ} {config : ToolConfig} {output path : String} {a : Arguments}
  {w : World ρ}

theorem runCompiler_assemble :
    runCompiler runner config path output (CompilerOptions.assemble a) w =
      (judged .compiler config.compiler path
        (w.reply runner (compilation config a output path)).result,
        w.after runner (compilation config a output path)) := by
  rw [runCompiler, runTool_eq, compilerArguments_assemble]
  rfl

end

section

variable {around : Surroundings} {runner : Runner ρ} {config : ToolConfig} {state : ρ}
  {reader : Reader} {args translateArgs compileArgs : List String} {a : Arguments}
  {output stage path : String} {scratch : Scratch} {files : FileSystem}

/-- A build at once runs the two tools in its scratch directory, and cleans up. -/
theorem Stages.run_eq
    (h : Stages around runner config state reader args translateArgs compileArgs a output stage path
      scratch files) :
    run around (backend runner config) args ⟨around.files, state, []⟩ =
      (.ofReply around.format [] ""
          (cleanUp scratch (toolsAtOnce runner config state a output path files)).1,
        (cleanUp scratch (toolsAtOnce runner config state a output path files)).2) := by
  have hbuild : CompilationRequest.build around.files a (CompilerOptions.assemble a)
      around.nativeSuffix = .ok (.ofKind a (CompilerOptions.assemble a) around.nativeSuffix
        .python) :=
    CompilationRequest.build_of_extension h.input h.python nofun
  have hcheck : checkPaths around.files a.inputPath output = .ok () :=
    checkPaths_eq_ok_iff.2 ⟨FileSystem.pathExists_of_isFile h.input, h.directory⟩
  have hcall : (CompilationRequest.ofKind a (CompilerOptions.assemble a) around.nativeSuffix
      .python).call = .compileModule a.inputPath output {} (CompilerOptions.assemble a) := by
    simp only [CompilationRequest.call, CompilationRequest.ofKind, h.fullCompile,
      CompilationRequest.settleOutput_of_some h.output_eq h.output_ne]
    rfl
  rw [run_of_quiet h.reads h.quiet hbuild, hcall]
  simp only [backend, hcheck, withScratch, h.created, ← h.path_eq, toolsAtOnce,
    Bool.false_eq_true, if_false, Bool.not_false]

/-- The second stage ends as the compiler ends. -/
theorem SecondStage.run_eq {around : Surroundings} {direct staged : World ρ}
    (h : SecondStage runner config reader compileArgs a output stage path direct staged)
    (hquiet : a.verbose = false) (hmode : Mode.of a = .fullCompile)
    (houtput : a.outputPath = some output) (hne : output ≠ "")
    (hstage : Path.extension stage = ".cpp") :
    run { around with files := staged.files, reader := reader } (backend runner config)
        compileArgs staged =
      (.ofReply around.format [] "" (judged .compiler config.compiler stage
          (staged.reply runner (compilation config a output stage)).result),
        staged.after runner (compilation config a output stage)) := by
  obtain ⟨tokens, hreads⟩ := h.reads
  obtain ⟨-, htranslate⟩ := Mode.of_eq_fullCompile_iff.1 hmode
  let b : Arguments := { a with tokens := tokens, inputPath := stage }
  let later : Surroundings := { around with files := staged.files, reader := reader }
  have hreads : CommandLine.parse later.files.workDir later.reader compileArgs =
    .ok (.compile b) := hreads
  have hquiet : b.verbose = false := hquiet
  have houtput : b.outputPath = some output := houtput
  have hbuild : CompilationRequest.build later.files b (CompilerOptions.assemble b)
      later.nativeSuffix = .ok (.ofKind b (CompilerOptions.assemble b) around.nativeSuffix
        .cxx) :=
    CompilationRequest.build_of_extension h.written hstage fun _ => htranslate
  have hcheck : checkPaths staged.files stage output = .ok () :=
    checkPaths_eq_ok_iff.2 ⟨FileSystem.pathExists_of_isFile h.written, h.directory⟩
  have hcall : (CompilationRequest.ofKind b (CompilerOptions.assemble b) around.nativeSuffix
      .cxx).call = .compileCxx stage output (CompilerOptions.assemble a) := by
    simp only [CompilationRequest.call, CompilationRequest.ofKind,
      CompilationRequest.settleOutput_of_some houtput hne]
    rfl
  have hrun : run later (backend runner config) compileArgs staged = _ :=
    run_of_quiet hreads hquiet hbuild staged
  rw [hrun, hcall]
  simp only [backend, hcheck]
  rw [runCompiler_assemble]

end

end Stages

end Toolchain

end CompilerDriver
