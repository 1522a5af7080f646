import CompilerDriver.Proofs.Toolchain.Plan
import CompilerDriver.Proofs.Toolchain.Reading
import CompilerDriver.Toolchain.Scripted

/-!
# Switches and their tools

Two command lines that tell a tool the same run it alike, whatever they tell the other tool.  The
translator runs first, so this holds of it for every runner.  The compiler finds what the translator
left, so it has to be left the same.
-/

namespace CompilerDriver

open CommandLine (Arguments Item)

/-! ## What a tool is told -/

namespace CommandLine.Arguments

/-- The record without its tokens and without the switches of the compiler. -/
def forTranslator (a : Arguments) : Arguments :=
  { a with
    tokens := [], includeDirs := [], defines := [], optLevels := [], machineSwitches := []
    compilerSwitches := [], libraryDirs := [], debug := false }

/-- The record without its tokens and without the passes of the translator. -/
def forCompiler (a : Arguments) : Arguments :=
  { a with tokens := [], passes := [] }

end CommandLine.Arguments

theorem CompilationRequest.build_with_options (files : FileSystem) (a : Arguments)
    (options options' : CompilerOptions) (nativeSuffix : String) :
    build files a options' nativeSuffix =
      (build files a options nativeSuffix).map ({ · with options := options' }) := by
  by_cases hfile : files.isFile a.inputPath = true
  · cases hkind : SourceKind.ofExtension? (Path.extension a.inputPath) with
    | none => simp [build, hfile, hkind, Except.map]
    | some kind =>
        by_cases hcxx : kind = .cxx ∧ a.translateOnly = true <;>
          simp [build, hfile, hkind, hcxx, Except.map]
  · simp [build, hfile, Except.map]

namespace Toolchain

section Separation

variable {ρ : Type}

/-! ## The processes of a tool -/

/-- The process runs this tool.  Both tools may have one name, but only the translator is told of
its output right behind the first argument. -/
def IsRunOf (config : ToolConfig) (tool : Tool) (call : ToolCall) : Prop :=
  call.program = config.program tool ∧ (tool = .translator ↔ call.arguments[1]? = some "-o")

instance (config : ToolConfig) (tool : Tool) : DecidablePred (IsRunOf config tool) := fun call =>
  inferInstanceAs (Decidable (call.program = config.program tool ∧
    (tool = .translator ↔ call.arguments[1]? = some "-o")))

/-- Those processes that run this tool, in order. -/
def runsOf (config : ToolConfig) (tool : Tool) (calls : List ToolCall) : List ToolCall :=
  calls.filter (IsRunOf config tool)

/-- A runner that looks at no argument but the output path, as one that follows a script does. -/
def Runner.IgnoresSwitches (run : Runner ρ) : Prop :=
  ∀ call call' fs state, call.program = call'.program →
    outputArgument? call.arguments = outputArgument? call'.arguments →
      run call fs state = run call' fs state

theorem scripted_ignoresSwitches : Runner.IgnoresSwitches scripted := by
  intro call call' fs replies _ houtput
  have hplay (reply : ScriptedReply) : reply.play call fs = reply.play call' fs := by
    simp only [ScriptedReply.play, houtput]
  cases replies with
  | nil => simp only [scripted, hplay]
  | cons reply replies => simp only [scripted, hplay]

section

variable {run : Runner ρ} {config : ToolConfig} {tool : Tool} {a b : Arguments}
  {input intermediate output : String} {emitGlue : Bool} {options options' : CompilerOptions}
  {w w' : World ρ}

theorem isRunOf_translator_iff {arguments : List String} (h : arguments[1]? = some "-o") :
    IsRunOf config tool ⟨config.translator, arguments⟩ ↔ tool = .translator := by
  constructor
  · rintro ⟨-, htool⟩
    exact htool.2 h
  · rintro rfl
    exact ⟨rfl, by simp [h]⟩

/-- The compiler's second argument is `-fPIC`, `-shared` or a switch, but not `-o`. -/
theorem isRunOf_compiler_iff :
    IsRunOf config tool ⟨config.compiler, compilerCommand a input output⟩ ↔ tool = .compiler := by
  have hfront : ∀ switch ∈ frontSwitches a, switch ≠ "-o" :=
    fun switch => ne_of_mem_frontSwitches 'o' (by decide) (by decide)
  have hsecond : (compilerCommand a input output)[1]? ≠ some "-o" := by
    rw [compilerCommand_eq]
    rcases hswitches : frontSwitches a with _ | ⟨first, _ | ⟨second, more⟩⟩
    · simp
    · simp
    · simpa using hfront second (by simp [hswitches])
  constructor
  · rintro ⟨-, htool⟩
    cases tool with
    | translator => exact absurd (htool.1 rfl) hsecond
    | compiler => rfl
  · rintro rfl
    exact ⟨rfl, by simp [hsecond]⟩

/-- Every process of a run runs one of the tools, and only that one. -/
theorem existsUnique_isRunOf {around : Surroundings} {args : List String} {state : ρ}
    {call : ToolCall} (h : call ∈ spawned around run config args state) :
    ∃! tool, IsRunOf config tool call := by
  obtain ⟨plan, hplan⟩ := exists_plan around run config args state
  rw [hplan.spawned_eq] at h
  cases hplan with
  | silent | rejected | noDirectory | noScratch => cases h
  | native =>
      rw [List.mem_singleton.1 h]
      simp [isRunOf_compiler_iff]
  | translation =>
      rw [List.mem_singleton.1 h]
      simp [isRunOf_translator_iff, translatorCommand]
  | halted hstaged hcall =>
      rw [List.mem_singleton.1 h, hcall]
      simp [isRunOf_translator_iff, translatorCommand]
  | full hstaged hcall =>
      rcases List.mem_pair.1 h with rfl | rfl
      · rw [hcall]
        simp [isRunOf_translator_iff, translatorCommand]
      · simp [isRunOf_compiler_iff]

theorem runsOf_append (calls calls' : List ToolCall) :
    runsOf config tool (calls ++ calls') = runsOf config tool calls ++ runsOf config tool calls' :=
  List.filter_append ..

theorem runsOf_translator :
    runsOf config .compiler
      [⟨config.translator, translatorArguments input output emitGlue options⟩] = [] := by
  simp [runsOf, isRunOf_translator_iff, translatorArguments]

theorem runsOf_compiler :
    runsOf config .translator
      [⟨config.compiler, compilerArguments input output (CompilerOptions.assemble a)⟩] = [] := by
  simp [runsOf, compilerArguments_assemble, isRunOf_compiler_iff]

/-! ## Runs of the translator -/

theorem translatorArguments_congr (h : a.passes = b.passes) (input output : String)
    (emitGlue : Bool) :
    translatorArguments input output emitGlue (.assemble a) =
      translatorArguments input output emitGlue (.assemble b) := by
  simp only [translatorArguments, CompilerOptions.assemble, h]

theorem runsOf_translateAndCompile (w : World ρ) :
    runsOf config .translator ((translateAndCompile run config input intermediate output emitGlue
        (CompilerOptions.assemble a) w).2.calls.map Prod.fst) =
      runsOf config .translator (w.calls.map Prod.fst ++ [⟨config.translator,
        translatorArguments input intermediate emitGlue (CompilerOptions.assemble a)⟩]) := by
  by_cases hsucceeded : (run ⟨config.translator,
      translatorArguments input intermediate emitGlue (CompilerOptions.assemble a)⟩ w.files
      w.runner).1.Succeeded
  · rw [calls_translateAndCompile_of_succeeded rfl hsucceeded, List.map_append, List.map_cons,
      List.map_singleton, List.append_cons, runsOf_append, runsOf_compiler, List.append_nil]
  · rw [calls_translateAndCompile_of_failed rfl hsucceeded, List.map_append]
    rfl

/-- The translator is run alike for records that tell it the same. -/
theorem runsOf_backend_translator (request : CompilationRequest) (w : World ρ)
    (h : a.passes = b.passes) :
    runsOf config .translator ((backend run config
        ({ request with options := .assemble a } : CompilationRequest).call w).2.calls.map
          Prod.fst) =
      runsOf config .translator ((backend run config
        ({ request with options := .assemble b } : CompilationRequest).call w).2.calls.map
          Prod.fst) := by
  have harguments := translatorArguments_congr h
  unfold CompilationRequest.call
  cases hcheck : checkPaths w.files request.inputPath request.outputPath with
  | error e =>
      cases request.kind with
      | cxx => simp only [world_compileCxx_of_error w hcheck]
      | python => simp only [world_compileModule_of_error w hcheck]
  | ok u =>
      cases request.kind with
      | cxx => simp only [calls_compileCxx w hcheck, List.map_append, List.map_cons, List.map_nil,
          runsOf_append, runsOf_compiler]
      | python =>
          cases hmode : (TranslationMode.of request.mode).cppOnly with
          | true => simp only [calls_translation w hcheck hmode, harguments]
          | false =>
              cases hscratch : w.files.makeScratch (scratchStem w.files) with
              | error cause => simp only [world_noScratch w hcheck hmode hscratch]
              | ok made =>
                  obtain ⟨scratch, files⟩ := made
                  simp only [calls_full w hcheck hmode hscratch, runsOf_translateAndCompile,
                    harguments]

/-- A translation ends alike for records that tell the translator the same. -/
theorem backend_of_translation (request : CompilationRequest) (w : World ρ)
    (h : a.passes = b.passes) (hkind : request.kind = .python)
    (hmode : request.mode ≠ .fullCompile) :
    backend run config ({ request with options := .assemble a } : CompilationRequest).call w =
      backend run config ({ request with options := .assemble b } : CompilationRequest).call w := by
  have hcppOnly : (TranslationMode.of request.mode).cppOnly = true := by
    simpa [TranslationMode.of] using hmode
  simp only [CompilationRequest.call, hkind, backend, hcppOnly, if_true, runTranslator,
    translatorArguments_congr h]

/-! ## Runs of the compiler -/

/-- The worlds differ at most in the recorded runs of the translator. -/
structure World.Alike (config : ToolConfig) (w w' : World ρ) : Prop where
  files : w.files = w'.files
  runner : w.runner = w'.runner
  compilations :
    runsOf config .compiler (w.calls.map Prod.fst) = runsOf config .compiler (w'.calls.map Prod.fst)

/-- Two actions end alike and leave worlds that are alike. -/
structure EndAlike (config : ToolConfig) (ended ended' : Except Raised Unit × World ρ) : Prop where
  result : ended.1 = ended'.1
  world : ended.2.Alike config ended'.2

/-- The options hold the same switches of the compiler. -/
structure SameSwitches (options options' : CompilerOptions) : Prop where
  preprocessor : options.preprocessor = options'.preprocessor
  codegen : options.codegen = options'.codegen
  linker : options.linker = options'.linker

theorem compilerArguments_congr (h : SameSwitches options options') :
    compilerArguments input output options = compilerArguments input output options' := by
  simp only [compilerArguments, h.preprocessor, h.codegen, h.linker]

theorem World.Alike.refl (config : ToolConfig) (w : World ρ) : w.Alike config w := ⟨rfl, rfl, rfl⟩

/-- Processes that the runner does not tell apart end alike. -/
theorem World.Alike.runTool (h : w.Alike config w') (tool : Tool)
    {arguments arguments' : List String}
    (hrun : ∀ fs state, run ⟨config.program tool, arguments⟩ fs state =
      run ⟨config.program tool, arguments'⟩ fs state)
    (hcompilations : runsOf config .compiler [⟨config.program tool, arguments⟩] =
      runsOf config .compiler [⟨config.program tool, arguments'⟩]) :
    EndAlike config (Toolchain.runTool run config tool input arguments w)
      (Toolchain.runTool run config tool input arguments' w') := by
  have hreply : w.reply run ⟨config.program tool, arguments⟩ =
      w'.reply run ⟨config.program tool, arguments'⟩ := by
    rw [World.reply, World.reply, hrun, h.files, h.runner]
  rw [runTool_eq, runTool_eq]
  refine ⟨by rw [hreply], ?_, ?_, ?_⟩
  · simp only [World.after, hreply, h.files]
  · simp only [World.after, hrun, h.files, h.runner]
  · simp only [World.after, List.map_append, runsOf_append, h.compilations, List.map_cons,
      List.map_nil, hcompilations]

theorem World.Alike.runCompiler (h : w.Alike config w') (hoptions : SameSwitches options options') :
    EndAlike config (Toolchain.runCompiler run config input output options w)
      (Toolchain.runCompiler run config input output options' w') := by
  rw [Toolchain.runCompiler, Toolchain.runCompiler, compilerArguments_congr hoptions]
  exact h.runTool .compiler (fun _ _ => rfl) rfl

/-- The passes stand behind the output path, so the runner does not see them. -/
theorem World.Alike.runTranslator (h : w.Alike config w') (hignores : run.IgnoresSwitches)
    (input output : String) (emitGlue : Bool) (options options' : CompilerOptions) :
    EndAlike config (Toolchain.runTranslator run config input output emitGlue options w)
      (Toolchain.runTranslator run config input output emitGlue options' w') := by
  refine h.runTool .translator (fun fs state => hignores _ _ fs state rfl ?_) ?_
  · simp only [translatorArguments, List.cons_append]
    by_cases hinput : input = "-o" <;> simp [hinput, outputArgument?]
  · exact runsOf_translator.trans runsOf_translator.symm

theorem World.Alike.translateAndCompile (h : w.Alike config w') (hignores : run.IgnoresSwitches)
    (hoptions : SameSwitches options options') :
    EndAlike config
      (Toolchain.translateAndCompile run config input intermediate output emitGlue options w)
      (Toolchain.translateAndCompile run config input intermediate output emitGlue options'
        w') := by
  have htranslated := h.runTranslator hignores input intermediate emitGlue options options'
  unfold Toolchain.translateAndCompile
  rcases hfirst : Toolchain.runTranslator run config input intermediate emitGlue options w with
    ⟨result, v⟩
  rcases hfirst' : Toolchain.runTranslator run config input intermediate emitGlue options' w' with
    ⟨result', v'⟩
  rw [hfirst, hfirst'] at htranslated
  obtain ⟨rfl, hworld⟩ := htranslated
  cases result with
  | error e => exact ⟨rfl, hworld⟩
  | ok u => exact hworld.runCompiler hoptions

theorem EndAlike.cleanUp {ended ended' : Except Raised Unit × World ρ}
    (h : EndAlike config ended ended') (scratch : FileSystem.Scratch) :
    EndAlike config (Toolchain.cleanUp scratch ended) (Toolchain.cleanUp scratch ended') := by
  simp only [Toolchain.cleanUp, h.result, h.world.files]
  exact ⟨rfl, rfl, h.world.runner, h.world.compilations⟩

theorem World.Alike.withScratch (h : w.Alike config w')
    {action action' : FileSystem.Scratch → World ρ → Except Raised Unit × World ρ}
    (haction : ∀ scratch (v v' : World ρ), v.Alike config v' →
      EndAlike config (action scratch v) (action' scratch v')) :
    EndAlike config (Toolchain.withScratch action w) (Toolchain.withScratch action' w') := by
  unfold Toolchain.withScratch
  rw [← h.files]
  cases w.files.makeScratch (scratchStem w.files) with
  | error cause => exact ⟨rfl, h⟩
  | ok made =>
      obtain ⟨scratch, files⟩ := made
      have hended := haction scratch { w with files := files } { w' with files := files }
        ⟨rfl, h.runner, h.compilations⟩
      exact hended.cleanUp scratch

/-- The backend does alike for options with the same switches of the compiler. -/
theorem World.Alike.backend (h : w.Alike config w') (hignores : run.IgnoresSwitches)
    (request : CompilationRequest) (hoptions : SameSwitches options options') :
    EndAlike config
      (Toolchain.backend run config
        ({ request with options := options } : CompilationRequest).call w)
      (Toolchain.backend run config
        ({ request with options := options' } : CompilationRequest).call w') := by
  unfold CompilationRequest.call
  cases request.kind with
  | cxx =>
      simp only [Toolchain.backend, ← h.files]
      cases checkPaths w.files request.inputPath request.outputPath with
      | error e => exact ⟨rfl, h⟩
      | ok u => exact h.runCompiler hoptions
  | python =>
      simp only [Toolchain.backend, ← h.files]
      cases checkPaths w.files request.inputPath request.outputPath with
      | error e => exact ⟨rfl, h⟩
      | ok u =>
          dsimp only
          split
          · exact h.runTranslator hignores _ _ _ options options'
          · exact h.withScratch fun _ _ _ hworld =>
              hworld.translateAndCompile hignores hoptions

theorem backend_of_cxx (request : CompilationRequest) (w : World ρ)
    (h : SameSwitches options options') (hkind : request.kind = .cxx) :
    backend run config ({ request with options := options } : CompilationRequest).call w =
      backend run config ({ request with options := options' } : CompilationRequest).call w := by
  simp only [CompilationRequest.call, hkind, backend, runCompiler, compilerArguments_congr h]

end

/-! ## Two runs -/

/-- Two command lines stand for requests that differ in their options only. -/
structure Twins (around : Surroundings) (args args' : List String) (a b : Arguments)
    (request : CompilationRequest) : Prop where
  reads : CommandLine.parse around.files.workDir around.reader args = .ok (.compile a)
  reads' : CommandLine.parse around.files.workDir around.reader args' = .ok (.compile b)
  builds : CompilationRequest.build around.files a (CompilerOptions.assemble a)
    around.nativeSuffix = .ok { request with options := .assemble a }
  builds' : CompilationRequest.build around.files b (CompilerOptions.assemble b)
    around.nativeSuffix = .ok { request with options := .assemble b }
  verbose : b.verbose = a.verbose

section

variable {σ : Type} {around : Surroundings} {args args' : List String} {a b : Arguments}
  {request : CompilationRequest} {s : σ}

/-- Command lines that differ in their switches only are refused alike, if at all. -/
theorem run_eq_or_twins
    (hparse : CommandLine.parse around.files.workDir around.reader args = .ok (.compile a))
    (hparse' : CommandLine.parse around.files.workDir around.reader args' = .ok (.compile b))
    (hsame : a.forTranslator.forCompiler = b.forTranslator.forCompiler) :
    (∀ {σ : Type} (backend : Backend σ) (s : σ),
      run around backend args s = run around backend args' s) ∨
    ∃ request, Twins around args args' a b request := by
  have hbuild' : CompilationRequest.build around.files b (CompilerOptions.assemble b)
      around.nativeSuffix =
        (CompilationRequest.build around.files a (CompilerOptions.assemble a)
          around.nativeSuffix).map ({ · with options := .assemble b }) := by
    rw [← CompilationRequest.build_with_options]
    exact CompilationRequest.build_congr (a := a) (b := b)
      (congrArg Arguments.inputPath hsame).symm (congrArg Arguments.outputPath hsame).symm
      (congrArg Arguments.translateOnly hsame).symm (congrArg Arguments.rawTranslateOnly hsame).symm
      (CompilerOptions.assemble b)
  cases hbuild : CompilationRequest.build around.files a (CompilerOptions.assemble a)
    around.nativeSuffix with
  | error e =>
      rw [hbuild] at hbuild'
      refine .inl fun backend s => ?_
      rw [run_of_rejected hparse hbuild, run_of_rejected hparse' hbuild']
  | ok request =>
      rw [hbuild] at hbuild'
      have hoptions : { request with options := .assemble a } = request := by
        obtain ⟨-, kind, -, -, rfl⟩ := CompilationRequest.build_eq_ok_iff.1 hbuild
        rfl
      exact .inr ⟨request, hparse, hparse', hbuild.trans (by rw [hoptions]), hbuild',
        (congrArg Arguments.verbose hsame).symm⟩

theorem Twins.outcome_eq {backend : Backend σ} (h : Twins around args args' a b request)
    (hresult :
      (backend ({ request with options := .assemble a } : CompilationRequest).call s).1 =
        (backend ({ request with options := .assemble b } : CompilationRequest).call s).1) :
    (run around backend args s).1 = (run around backend args' s).1 := by
  simp only [run_of_request h.reads h.builds, run_of_request h.reads' h.builds', hresult, h.verbose]
  rfl

theorem Twins.run_eq {backend : Backend σ} (h : Twins around args args' a b request)
    (hcall : backend ({ request with options := .assemble a } : CompilationRequest).call s =
      backend ({ request with options := .assemble b } : CompilationRequest).call s) :
    run around backend args s = run around backend args' s := by
  refine Prod.ext (h.outcome_eq (congrArg Prod.fst hcall)) ?_
  simp only [run_of_request h.reads h.builds, run_of_request h.reads' h.builds', hcall]

theorem Twins.spawned_eq (h : Twins around args args' a b request) (runner : Runner ρ)
    (config : ToolConfig) (state : ρ) :
    spawned around runner config args state =
        (backend runner config ({ request with options := .assemble a } : CompilationRequest).call
          ⟨around.files, state, []⟩).2.calls.map Prod.fst ∧
      spawned around runner config args' state =
        (backend runner config ({ request with options := .assemble b } : CompilationRequest).call
          ⟨around.files, state, []⟩).2.calls.map Prod.fst := by
  simp only [spawned, run_of_request h.reads h.builds, run_of_request h.reads' h.builds', and_self]

theorem Twins.translation (h : Twins around args args' a b request)
    (htranslate : a.translateOnly = true) :
    request.kind = .python ∧ request.mode ≠ .fullCompile := by
  obtain ⟨-, kind, -, hcxx, hrequest⟩ := CompilationRequest.build_eq_ok_iff.1 h.builds
  have hkind : request.kind = kind := congrArg CompilationRequest.kind hrequest
  have hmode : request.mode = Mode.of a := congrArg CompilationRequest.mode hrequest
  constructor
  · rw [hkind]
    cases kind with
    | cxx => exact absurd ⟨rfl, htranslate⟩ hcxx
    | python => rfl
  · rw [hmode, Mode.of, htranslate]
    split <;> simp

theorem sameSwitches_of_forCompiler (h : a.forCompiler = b.forCompiler) :
    SameSwitches (.assemble a) (.assemble b) := by
  obtain ⟨-, -, -, -, -, -, hg, -, hf, hm, hI, hL, hD, hO⟩ := (Arguments.mk.injEq ..).mp h
  constructor
  · simp only [CompilerOptions.assemble, CompilerOptions.preprocessorSwitches, hI, hD]
  · simp only [CompilerOptions.assemble, CompilerOptions.codegenSwitches, hO, hm, hf, hg]
  · simp only [CompilerOptions.assemble, CompilerOptions.linkerSwitches, hL]

end

/-- Every process of a run runs one of the tools.  Two command lines that tell the translator the
same run it alike, and if they only translate, the runs are the same.  Two command lines that tell
the compiler the same run it alike and show the same, as long as the runner looks at no argument but
the output path; on a C++ source file the runs are the same for every runner. -/
theorem switches_separated {around : Surroundings} {args args' : List String} {a b : Arguments}
    (runner : Runner ρ) (config : ToolConfig) (state : ρ)
    (hparse : CommandLine.parse around.files.workDir around.reader args = .ok (.compile a))
    (hparse' : CommandLine.parse around.files.workDir around.reader args' = .ok (.compile b)) :
    let w : World ρ := ⟨around.files, state, []⟩
    let ended := run around (backend runner config) args w
    let ended' := run around (backend runner config) args' w
    let started := spawned around runner config args state
    let started' := spawned around runner config args' state
    (∀ call ∈ started, ∃! tool, IsRunOf config tool call) ∧
    (a.forTranslator = b.forTranslator →
      runsOf config .translator started = runsOf config .translator started' ∧
        (a.translateOnly = true → ended = ended')) ∧
    (a.forCompiler = b.forCompiler →
      (runner.IgnoresSwitches →
        runsOf config .compiler started = runsOf config .compiler started' ∧
          ended.1 = ended'.1) ∧
        (".cpp".toList <:+ a.inputPath.toList → ended = ended' ∧ started = started')) := by
  intro w ended ended' started started'
  refine ⟨fun call => existsUnique_isRunOf, ?_, ?_⟩
  · intro hview
    rcases run_eq_or_twins hparse hparse' (congrArg Arguments.forCompiler hview) with
      hsame | ⟨request, htwins⟩
    · have hended : ended = ended' := hsame ..
      have hstarted : started = started' := congrArg (·.2.calls.map Prod.fst) hended
      exact ⟨by rw [hstarted], fun _ => hended⟩
    · have hpasses : a.passes = b.passes := (congrArg Arguments.passes hview :)
      obtain ⟨hstarted, hstarted'⟩ := htwins.spawned_eq runner config state
      constructor
      · simp only [started, started', hstarted, hstarted']
        exact runsOf_backend_translator request w hpasses
      · intro htranslate
        obtain ⟨hkind, hmode⟩ := htwins.translation htranslate
        exact htwins.run_eq (backend_of_translation request w hpasses hkind hmode)
  · intro hview
    rcases run_eq_or_twins hparse hparse' (congrArg Arguments.forTranslator hview) with
      hsame | ⟨request, htwins⟩
    · have hended : ended = ended' := hsame ..
      have hstarted : started = started' := congrArg (·.2.calls.map Prod.fst) hended
      exact ⟨fun _ => ⟨by rw [hstarted], by rw [hended]⟩, fun _ => ⟨hended, hstarted⟩⟩
    · have hswitches := sameSwitches_of_forCompiler hview
      constructor
      · intro hignores
        have halike := (World.Alike.refl config w).backend hignores request hswitches
        obtain ⟨hstarted, hstarted'⟩ := htwins.spawned_eq runner config state
        simp only [started, started', hstarted, hstarted']
        exact ⟨halike.world.compilations, htwins.outcome_eq halike.result⟩
      · intro hcxx
        have hkind : request.kind = .cxx :=
          (CompilationRequest.kind_iff_suffix htwins.builds .cxx).2 hcxx
        have hended : ended = ended' :=
          htwins.run_eq (backend_of_cxx request w hswitches hkind)
        exact ⟨hended, congrArg (·.2.calls.map Prod.fst) hended⟩

/-- Include directories next to debug information for a translation, and two passes for a build
that the compiler rejects. -/
theorem switches_separated_rejected :
    let around : Surroundings :=
      ⟨⟨[(["tmp"], .directory), (["a.py"], .file [] false)], [], "/tmp"⟩, .ofTable [],
        LogFormat.plain, "so"⟩
    let config : ToolConfig := ⟨"c++", "tr"⟩
    let state : List ScriptedReply :=
      [{ output := some "x" }, { result := { status := some 1, stderr := "bad" } }]
    let ended (args : List String) :=
      run around (backend scripted config) args ⟨around.files, state, []⟩
    let compiled (args : List String) :=
      runsOf config .compiler (spawned around scripted config args state)
    let call : ToolCall :=
      ⟨"c++", ["-O2", "-shared", "-fPIC", "/tmp/pyxc-build-000000/a.cpp", "-o", "a.so"]⟩
    ended ["-E", "-Iinc", "a.py"] = ended ["-E", "-g", "a.py"] ∧
      (ended ["-p", "dce", "a.py"]).1 = (ended ["-p", "inline", "a.py"]).1 ∧
      compiled ["-p", "dce", "a.py"] = [call] ∧ compiled ["-p", "inline", "a.py"] = [call] := by
  intro around config state ended compiled call
  have hparse (tokens : List String) (items : List Item)
      (hwords : ∀ token ∈ tokens, ResponseFile.reference? token = none)
      (htokens : CommandLine.parseTokens tokens = .ok (.compile (.collect tokens "a.py" items))) :
      CommandLine.parse around.files.workDir around.reader tokens =
        .ok (.compile (.collect tokens "a.py" items)) :=
    (CommandLine.parse_words (ResponseFile.words_iff.2 hwords)).trans htokens
  have hincludes := hparse ["-E", "-Iinc", "a.py"]
    [.toggle .translateOnly, .value .includeDir "inc", .operand "a.py"] (by decide) (by decide)
  have hdebug := hparse ["-E", "-g", "a.py"]
    [.toggle .translateOnly, .toggle .debug, .operand "a.py"] (by decide) (by decide)
  have hdce := hparse ["-p", "dce", "a.py"]
    [.value .pass "dce", .operand "a.py"] (by decide) (by decide)
  have hinline := hparse ["-p", "inline", "a.py"]
    [.value .pass "inline", .operand "a.py"] (by decide) (by decide)
  obtain ⟨-, htranslation, -⟩ := switches_separated scripted config state hincludes hdebug
  obtain ⟨-, -, hcompilation⟩ := switches_separated scripted config state hdce hinline
  obtain ⟨hcompiled, hended⟩ := (hcompilation (by decide)).1 scripted_ignoresSwitches
  have hcall : compiled ["-p", "dce", "a.py"] = [call] := by
    simp only [compiled, spawned, run, hdce]
    decide +kernel
  exact ⟨(htranslation (by decide)).2 rfl, hended, hcall, hcompiled.symm.trans hcall⟩

end Separation

end Toolchain

end CompilerDriver
