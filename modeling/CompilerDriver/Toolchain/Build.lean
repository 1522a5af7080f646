import CompilerDriver.Backend
import CompilerDriver.Toolchain.Tool

/-!
# The toolchain backend

Builds by running the translator and the C++ compiler.  A full build translates into a scratch
directory, compiles from there, and however the tools end removes what the path of the directory
leads to by then.
-/

namespace CompilerDriver.Toolchain

/-- What a build changes: the files, the runner's own state, and the record of the tools that
were started, each with the files that it found. -/
structure World (ρ : Type) where
  files : FileSystem
  runner : ρ
  calls : List (ToolCall × FileSystem) := []

/-- The input has to exist, and the lexical parent of the output has to be a directory. -/
def checkPaths (fs : FileSystem) (input output : String) : Except ToolError Unit :=
  let outputDirectory : Location := (Path.resolve fs.workDir output).dropLast
  if !fs.pathExists input then .error (.inputMissing input)
  else if !fs.isDirectory outputDirectory.text then
    .error (.outputDirectoryMissing outputDirectory)
  else .ok ()

section Running

variable {ρ : Type} (run : Runner ρ) (config : ToolConfig)

/-- Runs one tool and judges how it ended. -/
def runTool (tool : Tool) (input : String) (arguments : List String) (w : World ρ) :
    Except Raised Unit × World ρ :=
  let call : ToolCall := ⟨config.program tool, arguments⟩
  let (reply, state) := run call w.files w.runner
  let after : World ρ := {
    files := w.files.applyChanges reply.changes
    runner := state
    calls := w.calls ++ [(call, w.files)] }
  match reply.result with
  | .error fault => (.error (.fault fault), after)
  | .ok result => ((tool.verdict call.program input result).mapError ToolError.raised, after)

def runCompiler (input output : String) (options : CompilerOptions) :
    World ρ → Except Raised Unit × World ρ :=
  runTool run config .compiler input (compilerArguments input output options)

def runTranslator (input output : String) (emitGlue : Bool) (options : CompilerOptions) :
    World ρ → Except Raised Unit × World ρ :=
  runTool run config .translator input (translatorArguments input output emitGlue options)

/-- Translates to an intermediate file and, if that went well, compiles it. -/
def translateAndCompile (input intermediate output : String) (emitGlue : Bool)
    (options : CompilerOptions) (w : World ρ) : Except Raised Unit × World ρ :=
  match runTranslator run config input intermediate emitGlue options w with
  | (.error e, w') => (.error e, w')
  | (.ok (), w') => runCompiler run config intermediate output options w'

/-- The path text from which the names of scratch directories are made. -/
def scratchStem (fs : FileSystem) : String :=
  Path.join fs.tempDir "pyxc-build-"

/-- The intermediate C++ file of an input. -/
def intermediatePath (scratch input : String) : String :=
  Path.join scratch (Path.stem input ++ ".cpp")

/-- Removes the scratch directory, by its path, from the files that an action left.  The error of a
removal that fails takes the place of how the action ended. -/
def cleanUp (scratch : FileSystem.Scratch) (ended : Except Raised Unit × World ρ) :
    Except Raised Unit × World ρ :=
  let (removal, files) := ended.2.files.removePath scratch.path
  let result :=
    match removal with
    | .ok () => ended.1
    | .error e => .error (.fault (.ofFileError e))
  (result, { ended.2 with files := files })

/-- Runs an action in a fresh scratch directory, and cleans up however it ends. -/
def withScratch (action : FileSystem.Scratch → World ρ → Except Raised Unit × World ρ)
    (w : World ρ) : Except Raised Unit × World ρ :=
  match w.files.makeScratch (scratchStem w.files) with
  | .error cause => (.error (ToolError.scratchUnavailable cause).raised, w)
  | .ok (scratch, files) => cleanUp scratch (action scratch { w with files := files })

def backend : Backend (World ρ)
  | .compileCxx input output options, w =>
      match checkPaths w.files input output with
      | .error e => (.error e.raised, w)
      | .ok () => runCompiler run config input output options w
  | .compileModule input output mode options, w =>
      match checkPaths w.files input output with
      | .error e => (.error e.raised, w)
      | .ok () =>
          let emitGlue := !mode.withoutGlue
          if mode.cppOnly then runTranslator run config input output emitGlue options w
          else
            withScratch (fun scratch =>
              translateAndCompile run config input (intermediatePath scratch.path input) output
                emitGlue options) w

end Running

end CompilerDriver.Toolchain
