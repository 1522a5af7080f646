import CompilerDriver.Backend
import CompilerDriver.ResponseFile.Reader

/-!
# One run of the command

A run parses its arguments, prints help or the version, or validates a request and hands it to
the backend in one call.  How it ends and what it logs is settled by the first failure, if any.
-/

namespace CompilerDriver

open CommandLine (Arguments)

/-- What a run finds around it. -/
structure Surroundings where
  files : FileSystem
  reader : Reader
  format : LogFormat
  nativeSuffix : String

/-- What a run shows. -/
structure Outcome where
  ending : Ending
  printed : List String := []
  lines : List String := []
  deriving DecidableEq, Repr

/-- The note on a request that is about to be handed over. -/
def CompilationRequest.startEvent (request : CompilationRequest) : LogEvent :=
  ⟨.debug, "Compiling " ++ request.inputPath ++ " (" ++ request.mode.name ++ ") with " ++
    request.options.json⟩

/-- The note on a finished build. -/
def CompilationRequest.successEvent (request : CompilationRequest) : LogEvent :=
  match request.mode with
  | .fullCompile => ⟨.info, "Generated native extension: " ++ request.outputPath⟩
  | _ => ⟨.info, "Generated C++ source file: " ++ request.outputPath⟩

/-- How a dispatched request ends: well, in one of the backend's failures, or in an error that
is not for the run to interpret. -/
inductive DispatchResult where
  | finished
  | failed (f : Failure)
  | escaped (fault : Fault)
  deriving DecidableEq, Repr

/-- Hands a request to the backend and logs a finished build. -/
def CompilationRequest.dispatch {σ : Type} (request : CompilationRequest) (backend : Backend σ)
    (logger : Logger) (s : σ) : (DispatchResult × List String) × σ :=
  match backend request.call s with
  | (.ok (), s') => ((.finished, logger.lines request.successEvent), s')
  | (.error (.failure f), s') => ((.failed (.ofBackend f), []), s')
  | (.error (.fault fault), s') => ((.escaped fault, []), s')

/-- The outcome of a failed run. -/
def Failure.outcome (f : Failure) (logger : Logger) : Outcome where
  ending := f.ending
  lines := logger.lines f.event

section Running

variable {σ : Type}

def compile (around : Surroundings) (backend : Backend σ) (args : Arguments) (s : σ) :
    Outcome × σ :=
  let logger : Logger := ⟨Severity.thresholdFor args.verbose, around.format⟩
  match CompilationRequest.build around.files args (CompilerOptions.assemble args)
      around.nativeSuffix with
  | .error e => ((Failure.request e).outcome logger, s)
  | .ok request =>
      let started := logger.lines request.startEvent
      match request.dispatch backend logger s with
      | ((.finished, lines), s') =>
          ({ ending := .exit exitSuccess, lines := started ++ lines }, s')
      | ((.failed f, lines), s') =>
          let outcome := f.outcome logger
          ({ outcome with lines := started ++ lines ++ outcome.lines }, s')
      | ((.escaped fault, lines), s') =>
          ({ ending := .escaped (.fault fault), lines := started ++ lines }, s')

/-- Runs the command on its arguments. -/
def run (around : Surroundings) (backend : Backend σ) (args : List String) (s : σ) :
    Outcome × σ :=
  match CommandLine.parse around.files.workDir around.reader args with
  | .error e => ((Failure.usage e.message).outcome { format := around.format }, s)
  | .ok .help => ({ ending := .exit exitSuccess, printed := [helpText] }, s)
  | .ok .version => ({ ending := .exit exitSuccess, printed := [versionText] }, s)
  | .ok (.compile args) => compile around backend args s

end Running

end CompilerDriver
