import CompilerDriver.Toolchain.Process

/-!
# The two tools

The command line of each tool, and the verdict on each outcome.  Both tools are judged by the
same rules, but only the translator has a status for source that it cannot translate.
-/

namespace CompilerDriver.Toolchain

inductive Tool where
  | translator
  | compiler
  deriving DecidableEq, Repr

structure ToolConfig where
  compiler : String
  translator : String
  deriving DecidableEq, Repr

namespace ToolConfig

/-- The value of the first variable that is set to more than the empty text. -/
def firstSet (environment : String → Option String) (names : List String) : Option String :=
  names.findSome? fun name => (environment name).filter (· ≠ "")

def ofEnvironment (environment : String → Option String) : ToolConfig where
  compiler := (firstSet environment ["PYXC_CXX", "CXX"]).getD "c++"
  translator := (firstSet environment ["PYXC_TRANSLATOR"]).getD "pyxc-translate"

def program (config : ToolConfig) : Tool → String
  | .translator => config.translator
  | .compiler => config.compiler

end ToolConfig

/-- The suffix of loadable extensions on a platform. -/
def nativeSuffix (platform : String) : String :=
  if platform = "win32" then "pyd" else "so"

/-! ## Command lines -/

/-- Preprocessor and code generation switches stand before the input, and linker switches after
the output, so that libraries are searched for what the input needs. -/
def compilerArguments (input output : String) (options : CompilerOptions) : List String :=
  options.preprocessor.getD [] ++ options.codegen.getD [] ++
    ["-shared", "-fPIC", input, "-o", output] ++ options.linker.getD []

def translatorArguments (input output : String) (emitGlue : Bool) (options : CompilerOptions) :
    List String :=
  [input, "-o", output] ++ (if emitGlue then [] else ["--no-glue"]) ++
    (options.passes.getD []).flatMap fun pass => ["-p", pass]

/-! ## Failures -/

inductive ToolError where
  | inputMissing (path : String)
  | outputDirectoryMissing (directory : Location)
  | scratchUnavailable (cause : FileError)
  | notInstalled (tool : Tool) (program : String)
  | notLaunched (program : String) (reason : String)
  | unsupported (input : String) (stderr : String)
  | rejected (program : String) (result : ProcessResult)
  deriving DecidableEq, Repr

namespace ToolError

def kind : ToolError → BackendFailureKind
  | inputMissing _ | outputDirectoryMissing _ | scratchUnavailable _ | notLaunched _ _ =>
      .inputOutput
  | notInstalled _ _ => .environment
  | unsupported _ _ => .unimplemented
  | rejected _ _ => .compilation

def message : ToolError → String
  | inputMissing path => "Input file not found: " ++ path
  | outputDirectoryMissing directory => "Output directory does not exist: " ++ directory.text
  | scratchUnavailable cause => "Failed to create build directory: " ++ cause.message
  | notInstalled .compiler program =>
      "C++ compiler '" ++ program ++ "' not found; set PYXC_CXX or CXX"
  | notInstalled .translator program =>
      "Translator '" ++ program ++ "' not found; set PYXC_TRANSLATOR"
  | notLaunched program reason => "Failed to execute " ++ program ++ ": " ++ reason
  | unsupported input stderr =>
      let said := Text.trim stderr
      if said = "" then input ++ " uses an unsupported construct" else said
  | rejected program result =>
      program ++ " " ++ result.ending ++ ":\n" ++ Text.trimEnd result.diagnostics

def failure (e : ToolError) : BackendFailure :=
  ⟨e.kind, e.message⟩

def raised (e : ToolError) : Raised :=
  .failure e.failure

end ToolError

/-- The translator's status for a construct that it cannot translate. -/
def unsupportedStatus : Int := 3

/-- The verdict on the outcome of a tool that was run for an input. -/
def Tool.verdict (tool : Tool) (program input : String) (r : ProcessResult) :
    Except ToolError Unit :=
  match r.launchError? with
  | some e =>
      if e.code = some "ENOENT" then .error (.notInstalled tool program)
      else .error (.notLaunched program e.message)
  | none =>
      if tool = .translator ∧ r.status = some unsupportedStatus then
        .error (.unsupported input r.stderr)
      else if r.status = some 0 then .ok ()
      else .error (.rejected program r)

end CompilerDriver.Toolchain
