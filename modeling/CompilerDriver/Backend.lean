import CompilerDriver.Failure

/-!
# The backend contract

A backend has two entry points.  Each of them changes the backend's world and either returns or
raises an error.
-/

namespace CompilerDriver

/-- What the translator is asked to write. -/
structure TranslationMode where
  /-- Stop after the C++ source file. -/
  cppOnly : Bool := false
  /-- Leave out the code that makes the translated module loadable. -/
  withoutGlue : Bool := false
  deriving DecidableEq, Repr

/-- The two entry points with their arguments. -/
inductive BackendCall where
  | compileCxx (input output : String) (options : CompilerOptions)
  | compileModule (input output : String) (mode : TranslationMode) (options : CompilerOptions)
  deriving DecidableEq, Repr

namespace BackendCall

def inputPath : BackendCall → String
  | compileCxx input _ _ | compileModule input _ _ _ => input

def outputPath : BackendCall → String
  | compileCxx _ output _ | compileModule _ output _ _ => output

end BackendCall

/-- A backend over worlds of type `σ`. -/
abbrev Backend (σ : Type) := BackendCall → σ → Except Raised Unit × σ

def TranslationMode.of (mode : Mode) : TranslationMode where
  cppOnly := mode != .fullCompile
  withoutGlue := mode == .translateOnlyRaw

/-- The one call that a request stands for. -/
def CompilationRequest.call (request : CompilationRequest) : BackendCall :=
  match request.kind with
  | .cxx => .compileCxx request.inputPath request.outputPath request.options
  | .python =>
      .compileModule request.inputPath request.outputPath (TranslationMode.of request.mode)
        request.options

end CompilerDriver
