import CompilerDriver.Compilation
import CompilerDriver.Help
import CompilerDriver.Log

/-!
# Failures and how they are reported

A run can fail in its command line, in its request or in the backend.  Each failure is logged in
one event and settles how the run ends.  A feature that the translator lacks ends it with the
backend's own error, so that the trace can go into a bug report.
-/

namespace CompilerDriver

/-! ## What a backend raises -/

/-- What went wrong in a backend: the compilation itself, the tools, the file system, or a feature
that the translator lacks. -/
inductive BackendFailureKind where
  | compilation
  | environment
  | inputOutput
  | unimplemented
  deriving DecidableEq, Repr

/-- An error by which a backend says what went wrong. -/
structure BackendFailure where
  kind : BackendFailureKind
  message : String
  deriving DecidableEq, Repr

/-- An error that is none of the backend's failures. -/
structure Fault where
  name : String
  message : String
  deriving DecidableEq, Repr

/-- The fault of an operation on files that fails where nothing is made of it. -/
def Fault.ofFileError (e : FileError) : Fault where
  name :=
    match e with
    | .refused _ _ _ => "Error"
    | .nullIn _ _ => "TypeError"
  message := e.message

/-- What a backend can raise. -/
inductive Raised where
  | failure (f : BackendFailure)
  | fault (f : Fault)
  deriving DecidableEq, Repr

/-! ## Failures of a run -/

/-- Why a run ends without a result. -/
inductive Failure where
  | usage (message : String)
  | request (e : RequestError)
  | compilation (message : String)
  | environment (message : String)
  | inputOutput (message : String)
  | unimplemented (message : String) (cause : Raised)
  deriving DecidableEq, Repr

def Failure.ofBackend (f : BackendFailure) : Failure :=
  match f.kind with
  | .compilation => .compilation f.message
  | .environment => .environment f.message
  | .inputOutput => .inputOutput f.message
  | .unimplemented => .unimplemented f.message (.failure f)

/-- How a run ends: with a code, or with an error that nothing handles. -/
inductive Ending where
  | exit (code : Nat)
  | escaped (error : Raised)
  deriving DecidableEq, Repr

def exitSuccess : Nat := 0
def exitFailure : Nat := 1
def exitUsage : Nat := 2

namespace RequestError

def message : RequestError → String
  | inputNotFound inputPath => "Input file '" ++ inputPath ++ "' not found"
  | unsupportedExtension inputPath extension =>
      "Unsupported file extension '" ++ extension ++ "' for '" ++ inputPath ++
        "': expected .py or .cpp"
  | alreadyTranslated inputPath =>
      "'" ++ inputPath ++ "' is already C++; -E and -e only apply to .py input"

end RequestError

namespace Failure

/-- The one event by which a failure is logged. -/
def event : Failure → LogEvent
  | usage message => ⟨.error, message ++ "\n" ++ CompilerDriver.usage⟩
  | request e => ⟨.critical, e.message⟩
  | compilation message => ⟨.critical, "Native compilation failed\n" ++ message⟩
  | environment message => ⟨.critical, "The toolchain is incomplete\n" ++ message⟩
  | inputOutput message => ⟨.critical, "I/O failure\n" ++ message⟩
  | unimplemented message _ =>
      ⟨.critical, "The translator reached a feature it does not implement yet; " ++
        "please report it with the trace below\n" ++ message⟩

def ending : Failure → Ending
  | usage _ => .exit exitUsage
  | request _ | compilation _ | environment _ | inputOutput _ => .exit exitFailure
  | unimplemented _ cause => .escaped cause

/-- The lines and the ending of a failed run. -/
def report (f : Failure) (logger : Logger) : List String × Ending :=
  (logger.lines f.event, f.ending)

end Failure

end CompilerDriver
