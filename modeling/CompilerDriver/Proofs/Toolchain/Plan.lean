import CompilerDriver.Proofs.Session
import CompilerDriver.Proofs.Toolchain.Scratch
import CompilerDriver.Proofs.Toolchain.Tool

/-!
# The process plan of a run

Which processes a run with the toolchain backend starts, in order, for every command line and every
outcome of the tools: none, one tool, or the translator and then the compiler on what it wrote.
-/

namespace CompilerDriver.Toolchain

open CommandLine (Arguments Split)
open FileSystem (Scratch)

section Plans

variable {ρ : Type}

/-! ## Plans -/

/-- The processes that a run starts, in order. -/
def spawned (around : Surroundings) (runner : Runner ρ) (config : ToolConfig) (args : List String)
    (state : ρ) : List ToolCall :=
  (run around (backend runner config) args ⟨around.files, state, []⟩).2.calls.map Prod.fst

/-- The output path: the last one that is given, unless it is empty, and else one in the working
directory that is named after the module. -/
inductive OutputOf (split : Split) (module nativeSuffix : String) : String → Prop
  | given {output : String} (hlast : (split.values 'o').getLast? = some output)
      (hne : output ≠ "") : OutputOf split module nativeSuffix output
  | translated (hnone : ∀ output, (split.values 'o').getLast? = some output → output = "")
      (hletters : 'E' ∈ split.letters ∨ 'e' ∈ split.letters) :
      OutputOf split module nativeSuffix (module ++ ".cpp")
  | native (hnone : ∀ output, (split.values 'o').getLast? = some output → output = "")
      (hletters : ¬ ('E' ∈ split.letters ∨ 'e' ∈ split.letters)) :
      OutputOf split module nativeSuffix (module ++ "." ++ nativeSuffix)

/-- The command line asks for an output from the file of a module, in one of the two languages.
What is C++ already is not translated. -/
structure Accepted (around : Surroundings) (args : List String) (split : Split) (a : Arguments)
    (module extension output : String) : Prop where
  reads : Reads around args split a
  isFile : around.files.isFile a.inputPath = true
  names : Path.Names a.inputPath module extension
  language : extension = ".py" ∨
    extension = ".cpp" ∧ ¬ ('E' ∈ split.letters ∨ 'e' ∈ split.letters)
  output_of : OutputOf split module around.nativeSuffix output

/-- There is a directory for the output. -/
def HasDirectory (fs : FileSystem) (output : String) : Prop :=
  fs.isDirectory (Location.text (Path.resolve fs.workDir output).dropLast) = true

/-- A request for a native extension of a module, with a scratch directory and the path of the
intermediate file in it. -/
structure Staged (around : Surroundings) (args : List String) (split : Split) (a : Arguments)
    (module output : String) (scratch : Scratch) (files : FileSystem) (path : String) : Prop where
  accepted : Accepted around args split a module ".py" output
  directory : HasDirectory around.files output
  fullCompile : ¬ ('E' ∈ split.letters ∨ 'e' ∈ split.letters)
  created : around.files.makeScratch (scratchStem around.files) = .ok (scratch, files)
  fresh : around.files.IsFree scratch.location
  path_eq : path = scratch.path ++ "/" ++ (module ++ ".cpp")

/-- The processes that a run is to start. -/
inductive Plan (around : Surroundings) (runner : Runner ρ) (config : ToolConfig)
    (args : List String) (state : ρ) : List ToolCall → Prop
  | silent
      (hparse : ∀ a, CommandLine.parse around.files.workDir around.reader args ≠
        .ok (.compile a)) :
      Plan around runner config args state []
  | rejected {split : Split} {a : Arguments} (hreads : Reads around args split a)
      (hrejected : ∀ module extension output,
        ¬ Accepted around args split a module extension output) :
      Plan around runner config args state []
  | noDirectory {split : Split} {a : Arguments} {module extension output : String}
      (haccepted : Accepted around args split a module extension output)
      (hdirectory : ¬ HasDirectory around.files output) :
      Plan around runner config args state []
  | native {split : Split} {a : Arguments} {module output : String}
      (haccepted : Accepted around args split a module ".cpp" output)
      (hdirectory : HasDirectory around.files output) :
      Plan around runner config args state
        [⟨config.compiler, compilerCommand a a.inputPath output⟩]
  | translation {split : Split} {a : Arguments} {module output : String}
      (haccepted : Accepted around args split a module ".py" output)
      (hdirectory : HasDirectory around.files output)
      (hletters : 'E' ∈ split.letters ∨ 'e' ∈ split.letters) :
      Plan around runner config args state
        [⟨config.translator, translatorCommand a a.inputPath output
          (if 'e' ∈ split.letters then ["--no-glue"] else [])⟩]
  | noScratch {split : Split} {a : Arguments} {module output : String} {cause : FileError}
      (haccepted : Accepted around args split a module ".py" output)
      (hdirectory : HasDirectory around.files output)
      (hletters : ¬ ('E' ∈ split.letters ∨ 'e' ∈ split.letters))
      (hscratch : around.files.makeScratch (scratchStem around.files) = .error cause) :
      Plan around runner config args state []
  | halted {split : Split} {a : Arguments} {module output path : String} {scratch : Scratch}
      {files : FileSystem} {call : ToolCall}
      (hstaged : Staged around args split a module output scratch files path)
      (hcall : call = ⟨config.translator, translatorCommand a a.inputPath path []⟩)
      (hfailed : ¬ (runner call files state).1.Succeeded) :
      Plan around runner config args state [call]
  | full {split : Split} {a : Arguments} {module output path : String} {scratch : Scratch}
      {files : FileSystem} {call : ToolCall}
      (hstaged : Staged around args split a module output scratch files path)
      (hcall : call = ⟨config.translator, translatorCommand a a.inputPath path []⟩)
      (hsucceeded : (runner call files state).1.Succeeded) :
      Plan around runner config args state
        [call, ⟨config.compiler, compilerCommand a path output⟩]

/-! ## Accepted command lines -/

theorem exists_outputOf (split : Split) (module nativeSuffix : String) :
    ∃ output, OutputOf split module nativeSuffix output := by
  by_cases hgiven : ∃ output, (split.values 'o').getLast? = some output ∧ output ≠ ""
  · obtain ⟨output, hlast, hne⟩ := hgiven
    exact ⟨output, .given hlast hne⟩
  · have hnone : ∀ output, (split.values 'o').getLast? = some output → output = "" :=
      fun output hlast => Classical.byContradiction fun hne => hgiven ⟨output, hlast, hne⟩
    by_cases hletters : 'E' ∈ split.letters ∨ 'e' ∈ split.letters
    · exact ⟨_, .translated hnone hletters⟩
    · exact ⟨_, .native hnone hletters⟩

section

variable {around : Surroundings} {args tokens : List String} {split : Split} {a : Arguments}
  {module extension output nativeSuffix : String}

theorem settleOutput_of_outputOf (hdescribes : split.Describes tokens a)
    (h : OutputOf split module nativeSuffix output) :
    CompilationRequest.settleOutput a module nativeSuffix = output := by
  cases h with
  | given hlast hne =>
      exact CompilationRequest.settleOutput_of_some (hdescribes.outputPath.trans hlast) hne ..
  | translated hnone hletters =>
      rw [← hdescribes.outputPath] at hnone
      rw [CompilationRequest.settleOutput_of_none hnone, CompilationRequest.defaultOutput,
        hdescribes.translateOnly.2 hletters, if_pos rfl, String.append_assoc]
      rfl
  | native hnone hletters =>
      rw [← hdescribes.outputPath] at hnone
      have htranslate : a.translateOnly = false :=
        Bool.eq_false_iff.2 (mt hdescribes.translateOnly.1 hletters)
      rw [CompilationRequest.settleOutput_of_none hnone, CompilationRequest.defaultOutput,
        htranslate]
      rfl

/-- The language of an accepted input, and the record's word on whether it is only translated. -/
theorem Accepted.exists_kind (h : Accepted around args split a module extension output) :
    ∃ kind : SourceKind, extension = kind.extension ∧
      (kind = .cxx → a.translateOnly = false) := by
  obtain ⟨tokens, -, -, hdescribes⟩ := h.reads
  rcases h.language with hextension | ⟨hextension, hletters⟩
  · exact ⟨.python, hextension, nofun⟩
  · exact ⟨.cxx, hextension, fun _ =>
      Bool.eq_false_iff.2 (mt hdescribes.translateOnly.1 hletters)⟩

theorem Accepted.stem_eq_and_extension_eq
    (h : Accepted around args split a module extension output) :
    Path.stem a.inputPath = module ∧ Path.extension a.inputPath = extension := by
  rcases h.language with rfl | ⟨rfl, -⟩
  · exact h.names.stem_eq_and_extension_eq rfl (by decide) (by decide) (by decide)
  · exact h.names.stem_eq_and_extension_eq rfl (by decide) (by decide) (by decide)

theorem Accepted.exists_request (h : Accepted around args split a module extension output) :
    ∃ request, CompilationRequest.build around.files a (CompilerOptions.assemble a)
      around.nativeSuffix = .ok request := by
  obtain ⟨kind, hextension, hcxx⟩ := h.exists_kind
  exact ⟨_, CompilationRequest.build_of_extension h.isFile
    (h.stem_eq_and_extension_eq.2.trans hextension) hcxx⟩

theorem Accepted.output_eq (h : Accepted around args split a module extension output) :
    output = CompilationRequest.settleOutput a (Path.stem a.inputPath) around.nativeSuffix := by
  obtain ⟨tokens, -, -, hdescribes⟩ := h.reads
  rw [h.stem_eq_and_extension_eq.1, settleOutput_of_outputOf hdescribes h.output_of]

/-- A path that is named after a module ends in its extension. -/
theorem Accepted.suffix (h : Accepted around args split a module extension output) :
    extension.toList <:+ a.inputPath.toList := by
  rcases h.names.path_eq with hpath | ⟨directory, hpath⟩
  · rw [hpath, String.toList_append]
    exact List.suffix_append ..
  · rw [hpath, String.toList_append]
    exact List.suffix_append ..

/-- A request that is made is for what an accepted command line asks for. -/
theorem exists_accepted {request : CompilationRequest} (hreads : Reads around args split a)
    (hbuild : CompilationRequest.build around.files a (CompilerOptions.assemble a)
      around.nativeSuffix = .ok request) :
    ∃ module extension output, Accepted around args split a module extension output := by
  obtain ⟨hfile, kind, hkind, hcxx, -⟩ := CompilationRequest.build_eq_ok_iff.1 hbuild
  obtain ⟨tokens, -, -, hdescribes⟩ := id hreads
  obtain ⟨output, houtput⟩ :=
    exists_outputOf split (Path.stem a.inputPath) around.nativeSuffix
  have hextension : Path.extension a.inputPath = kind.extension :=
    SourceKind.ofExtension?_eq_some hkind
  have hne : Path.extension a.inputPath ≠ "" := by
    rw [hextension]
    cases kind <;> decide
  refine ⟨_, _, output, hreads, hfile,
    Path.names_stem hne (FileSystem.endsInSlash_of_isFile hfile), ?_, houtput⟩
  rw [hextension]
  cases kind with
  | python => exact .inl rfl
  | cxx =>
      exact .inr ⟨rfl, fun hletters => hcxx ⟨rfl, hdescribes.translateOnly.2 hletters⟩⟩

end

/-! ## What the backend starts -/

theorem checkPaths_eq_ok_iff {fs : FileSystem} {input output : String} :
    checkPaths fs input output = .ok () ↔ fs.pathExists input = true ∧ HasDirectory fs output := by
  unfold checkPaths HasDirectory
  cases fs.pathExists input with
  | false => simp
  | true =>
      cases hdirectory :
        fs.isDirectory (Location.text (Path.resolve fs.workDir output).dropLast) <;>
        simp [hdirectory]

section

variable {run : Runner ρ} {config : ToolConfig} {input intermediate output : String}
  {options : CompilerOptions} {mode : TranslationMode} {emitGlue : Bool} {w : World ρ}

theorem world_compileCxx_of_error {e : ToolError} (w : World ρ)
    (h : checkPaths w.files input output = .error e) :
    (backend run config (.compileCxx input output options) w).2 = w := by
  simp only [backend, h]

theorem world_compileModule_of_error {e : ToolError} (w : World ρ)
    (h : checkPaths w.files input output = .error e) :
    (backend run config (.compileModule input output mode options) w).2 = w := by
  simp only [backend, h]

theorem calls_compileCxx (w : World ρ) (h : checkPaths w.files input output = .ok ()) :
    (backend run config (.compileCxx input output options) w).2.calls =
      w.calls ++ [(⟨config.compiler, compilerArguments input output options⟩, w.files)] := by
  simp only [backend, h]
  exact calls_runTool

theorem calls_translation (w : World ρ) (h : checkPaths w.files input output = .ok ())
    (hmode : mode.cppOnly = true) :
    (backend run config (.compileModule input output mode options) w).2.calls =
      w.calls ++
        [(⟨config.translator, translatorArguments input output (!mode.withoutGlue) options⟩,
          w.files)] := by
  simp only [backend, h, hmode, if_true]
  exact calls_runTool

theorem calls_runTranslator :
    (runTranslator run config input output emitGlue options w).2.calls =
      w.calls ++
        [(⟨config.translator, translatorArguments input output emitGlue options⟩, w.files)] :=
  calls_runTool

theorem runTranslator_eq_ok_iff :
    (runTranslator run config input output emitGlue options w).1 = .ok () ↔
      (run ⟨config.translator, translatorArguments input output emitGlue options⟩ w.files
        w.runner).1.Succeeded :=
  runTool_eq_ok_iff

section

variable {scratch : Scratch} {files : FileSystem} {call : ToolCall}

/-- After a translation that went wrong nothing else is started. -/
theorem calls_translateAndCompile_of_failed
    (hcall : call = ⟨config.translator, translatorArguments input intermediate emitGlue options⟩)
    (h : ¬ (run call w.files w.runner).1.Succeeded) :
    (translateAndCompile run config input intermediate output emitGlue options w).2.calls =
      w.calls ++ [(call, w.files)] := by
  subst hcall
  rw [← runTranslator_eq_ok_iff] at h
  rw [← calls_runTranslator]
  unfold translateAndCompile
  rcases hrun : runTranslator run config input intermediate emitGlue options w with ⟨result, w'⟩
  rw [hrun] at h
  -- a tool that did not succeed ends the build with an error
  cases result with
  | error e => rfl
  | ok u => exact absurd rfl h

/-- A translation that went well is compiled, on the files that it leaves. -/
theorem calls_translateAndCompile_of_succeeded
    (hcall : call = ⟨config.translator, translatorArguments input intermediate emitGlue options⟩)
    (h : (run call w.files w.runner).1.Succeeded) :
    (translateAndCompile run config input intermediate output emitGlue options w).2.calls =
      w.calls ++ [(call, w.files),
        (⟨config.compiler, compilerArguments intermediate output options⟩,
          w.files.applyChanges (run call w.files w.runner).1.changes)] := by
  subst hcall
  rw [← runTranslator_eq_ok_iff] at h
  unfold translateAndCompile
  rcases hrun : runTranslator run config input intermediate emitGlue options w with ⟨result, w'⟩
  have hafter : w' = w.after run
      ⟨config.translator, translatorArguments input intermediate emitGlue options⟩ := by
    rw [runTranslator, runTool_eq] at hrun
    exact (Prod.mk.inj hrun).2.symm
  rw [hrun] at h
  cases result with
  | error e => cases h
  | ok u =>
      simp only [runCompiler, calls_runTool, hafter, World.after, List.append_assoc]
      rfl

theorem world_noScratch {cause : FileError} (w : World ρ)
    (h : checkPaths w.files input output = .ok ()) (hmode : mode.cppOnly = false)
    (hscratch : w.files.makeScratch (scratchStem w.files) = .error cause) :
    (backend run config (.compileModule input output mode options) w).2 = w := by
  simp [backend, h, hmode, withScratch, hscratch]

/-- A full build is recorded as the two tools are run in the scratch directory. -/
theorem calls_full (w : World ρ)
    (h : checkPaths w.files input output = .ok ()) (hmode : mode.cppOnly = false)
    (hscratch : w.files.makeScratch (scratchStem w.files) = .ok (scratch, files)) :
    (backend run config (.compileModule input output mode options) w).2.calls =
      (translateAndCompile run config input (intermediatePath scratch.path input) output
        (!mode.withoutGlue) options { w with files := files }).2.calls := by
  simp [backend, h, hmode, withScratch, hscratch, cleanUp]

end

end

/-! ## What a run starts -/

section

variable {around : Surroundings} {runner : Runner ρ} {config : ToolConfig} {args : List String}
  {state : ρ} {split : Split} {a : Arguments} {module extension output : String}

theorem Accepted.checkPaths_eq_ok_iff (h : Accepted around args split a module extension output) :
    checkPaths around.files a.inputPath output = .ok () ↔ HasDirectory around.files output := by
  rw [Toolchain.checkPaths_eq_ok_iff]
  simp [FileSystem.pathExists_of_isFile h.isFile]

theorem Accepted.spawned_eq (h : Accepted around args split a module extension output) :
    spawned around runner config args state =
      (backend runner config (callFor split.letters a output)
        ⟨around.files, state, []⟩).2.calls.map Prod.fst := by
  obtain ⟨request, hbuild⟩ := h.exists_request
  rw [spawned, state_run_of_ok h.reads hbuild h.output_eq]

theorem spawned_of_silent
    (h : ∀ a, CommandLine.parse around.files.workDir around.reader args ≠ .ok (.compile a)) :
    spawned around runner config args state = [] := by
  unfold spawned CompilerDriver.run
  split
  · rfl
  · rfl
  · rfl
  · rename_i a hparse
    exact absurd hparse (h a)

theorem spawned_of_rejected (hreads : Reads around args split a)
    (hrejected : ∀ module extension output,
      ¬ Accepted around args split a module extension output) :
    spawned around runner config args state = [] := by
  cases hbuild : CompilationRequest.build around.files a (CompilerOptions.assemble a)
    around.nativeSuffix with
  | error e =>
      simp only [spawned, CompilerDriver.run, parse_eq_compile_iff.2 ⟨split, hreads⟩,
        compile_of_error hbuild, List.map_nil]
  | ok request =>
      obtain ⟨module, extension, output, haccepted⟩ := exists_accepted hreads hbuild
      exact absurd haccepted (hrejected module extension output)

theorem Accepted.spawned_of_noDirectory (h : Accepted around args split a module extension output)
    (hdirectory : ¬ HasDirectory around.files output) :
    spawned around runner config args state = [] := by
  rw [← h.checkPaths_eq_ok_iff] at hdirectory
  cases hcheck : checkPaths around.files a.inputPath output with
  | ok u => exact absurd hcheck hdirectory
  | error e =>
      rw [h.spawned_eq, callFor]
      split
      · rw [world_compileCxx_of_error ⟨around.files, state, []⟩ hcheck]
        rfl
      · rw [world_compileModule_of_error ⟨around.files, state, []⟩ hcheck]
        rfl

theorem Accepted.spawned_of_cxx (h : Accepted around args split a module ".cpp" output)
    (hdirectory : HasDirectory around.files output) :
    spawned around runner config args state =
      [⟨config.compiler, compilerCommand a a.inputPath output⟩] := by
  rw [h.spawned_eq, callFor_of_cxx h.suffix,
    calls_compileCxx ⟨around.files, state, []⟩ (h.checkPaths_eq_ok_iff.2 hdirectory),
    compilerArguments_assemble]
  rfl

theorem Accepted.spawned_of_translation (h : Accepted around args split a module ".py" output)
    (hdirectory : HasDirectory around.files output)
    (hletters : 'E' ∈ split.letters ∨ 'e' ∈ split.letters) :
    spawned around runner config args state =
      [⟨config.translator, translatorCommand a a.inputPath output
        (if 'e' ∈ split.letters then ["--no-glue"] else [])⟩] := by
  rw [h.spawned_eq, callFor_of_python h.suffix,
    calls_translation ⟨around.files, state, []⟩ (h.checkPaths_eq_ok_iff.2 hdirectory)
      (decide_eq_true hletters),
    translatorArguments_assemble]
  by_cases he : 'e' ∈ split.letters <;> simp [he]

theorem Accepted.spawned_of_noScratch {cause : FileError}
    (h : Accepted around args split a module ".py" output)
    (hdirectory : HasDirectory around.files output)
    (hletters : ¬ ('E' ∈ split.letters ∨ 'e' ∈ split.letters))
    (hscratch : around.files.makeScratch (scratchStem around.files) = .error cause) :
    spawned around runner config args state = [] := by
  rw [h.spawned_eq, callFor_of_python h.suffix,
    world_noScratch ⟨around.files, state, []⟩ (h.checkPaths_eq_ok_iff.2 hdirectory)
      (decide_eq_false hletters) hscratch]
  rfl

variable {scratch : Scratch} {files : FileSystem} {path : String} {call : ToolCall}

/-- A full build translates to the intermediate file, with the glue, and compiles from there. -/
theorem Staged.spawned_eq (h : Staged around args split a module output scratch files path) :
    spawned around runner config args state =
      (translateAndCompile runner config a.inputPath path output true
        (CompilerOptions.assemble a) ⟨files, state, []⟩).2.calls.map Prod.fst := by
  have hcheck := h.accepted.checkPaths_eq_ok_iff.2 h.directory
  have he : 'e' ∉ split.letters := fun he => h.fullCompile (Or.inr he)
  rw [h.accepted.spawned_eq, callFor_of_python h.accepted.suffix,
    calls_full ⟨around.files, state, []⟩ hcheck (decide_eq_false h.fullCompile) h.created,
    intermediatePath_of_makeScratch h.created, h.accepted.stem_eq_and_extension_eq.1, ← h.path_eq]
  simp [he]

theorem translatorCall_eq
    (hcall : call = ⟨config.translator, translatorCommand a a.inputPath path []⟩) :
    call = ⟨config.translator,
      translatorArguments a.inputPath path true (CompilerOptions.assemble a)⟩ := by
  rw [hcall, translatorArguments_assemble]
  rfl

theorem Staged.spawned_of_failed (h : Staged around args split a module output scratch files path)
    (hcall : call = ⟨config.translator, translatorCommand a a.inputPath path []⟩)
    (hfailed : ¬ (runner call files state).1.Succeeded) :
    spawned around runner config args state = [call] := by
  rw [h.spawned_eq, calls_translateAndCompile_of_failed (translatorCall_eq hcall) hfailed]
  rfl

theorem Staged.spawned_of_succeeded (h : Staged around args split a module output scratch files path)
    (hcall : call = ⟨config.translator, translatorCommand a a.inputPath path []⟩)
    (hsucceeded : (runner call files state).1.Succeeded) :
    spawned around runner config args state =
      [call, ⟨config.compiler, compilerCommand a path output⟩] := by
  rw [h.spawned_eq, calls_translateAndCompile_of_succeeded (translatorCall_eq hcall) hsucceeded,
    compilerArguments_assemble]
  rfl

/-- A run starts what is planned. -/
theorem Plan.spawned_eq {plan : List ToolCall} (h : Plan around runner config args state plan) :
    spawned around runner config args state = plan := by
  cases h with
  | silent hparse => exact spawned_of_silent hparse
  | rejected hreads hrejected => exact spawned_of_rejected hreads hrejected
  | noDirectory haccepted hdirectory => exact haccepted.spawned_of_noDirectory hdirectory
  | native haccepted hdirectory => exact haccepted.spawned_of_cxx hdirectory
  | translation haccepted hdirectory hletters =>
      exact haccepted.spawned_of_translation hdirectory hletters
  | noScratch haccepted hdirectory hletters hscratch =>
      exact haccepted.spawned_of_noScratch hdirectory hletters hscratch
  | halted hstaged hcall hfailed => exact hstaged.spawned_of_failed hcall hfailed
  | full hstaged hcall hsucceeded => exact hstaged.spawned_of_succeeded hcall hsucceeded

theorem Accepted.exists_plan (h : Accepted around args split a module extension output) :
    ∃ plan, Plan around runner config args state plan := by
  by_cases hdirectory : HasDirectory around.files output
  · rcases h.language with rfl | ⟨rfl, -⟩
    · by_cases hletters : 'E' ∈ split.letters ∨ 'e' ∈ split.letters
      · exact ⟨_, .translation h hdirectory hletters⟩
      · cases hscratch : around.files.makeScratch (scratchStem around.files) with
        | error cause => exact ⟨_, .noScratch h hdirectory hletters hscratch⟩
        | ok made =>
            obtain ⟨scratch, files⟩ := made
            have hstaged : Staged around args split a module output scratch files _ :=
              ⟨h, hdirectory, hletters, hscratch,
                (FileSystem.makeScratch_eq_ok hscratch).1, rfl⟩
            by_cases hsucceeded : (runner ⟨config.translator, translatorCommand a a.inputPath
                (scratch.path ++ "/" ++ (module ++ ".cpp")) []⟩ files state).1.Succeeded
            · exact ⟨_, .full hstaged rfl hsucceeded⟩
            · exact ⟨_, .halted hstaged rfl hsucceeded⟩
    · exact ⟨_, .native h hdirectory⟩
  · exact ⟨_, .noDirectory h hdirectory⟩

variable (around runner config args state)

/-- There is a plan for every command line and every outcome of the tools. -/
theorem exists_plan : ∃ plan, Plan around runner config args state plan := by
  by_cases hparse : ∃ a, CommandLine.parse around.files.workDir around.reader args =
      .ok (.compile a)
  · obtain ⟨a, hparse⟩ := hparse
    obtain ⟨split, hreads⟩ := parse_eq_compile_iff.1 hparse
    by_cases haccepted : ∃ module extension output,
        Accepted around args split a module extension output
    · obtain ⟨module, extension, output, haccepted⟩ := haccepted
      exact haccepted.exists_plan
    · exact ⟨_, .rejected hreads fun module extension output h =>
        haccepted ⟨module, extension, output, h⟩⟩
  · exact ⟨_, .silent fun a ha => hparse ⟨a, ha⟩⟩

/-- A run starts exactly the planned processes, in their order and nothing else. -/
theorem spawned_eq_iff_plan (plan : List ToolCall) :
    spawned around runner config args state = plan ↔
      Plan around runner config args state plan := by
  constructor
  · rintro rfl
    obtain ⟨plan, hplan⟩ := exists_plan around runner config args state
    rwa [hplan.spawned_eq]
  · exact Plan.spawned_eq

end

end Plans

end CompilerDriver.Toolchain
