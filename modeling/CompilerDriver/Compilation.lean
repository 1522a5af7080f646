import CompilerDriver.CompilerOptions

/-!
# Compilation requests

A request is made for an input that is a regular file with a known extension.  It fixes the mode
and the output path: without one on the command line the output lands in the working directory
under the name of the module.
-/

namespace CompilerDriver

open CommandLine (Arguments)

/-- The languages that an input can be written in. -/
inductive SourceKind where
  | python
  | cxx
  deriving DecidableEq, Repr

namespace SourceKind

def extension : SourceKind → String
  | python => ".py"
  | cxx => ".cpp"

def ofExtension? (extension : String) : Option SourceKind :=
  if extension = python.extension then some python
  else if extension = cxx.extension then some cxx
  else none

@[simp] theorem ofExtension?_extension (kind : SourceKind) :
    ofExtension? kind.extension = some kind := by
  cases kind <;> decide

theorem ofExtension?_eq_some {extension : String} {kind : SourceKind}
    (h : ofExtension? extension = some kind) : extension = kind.extension := by
  unfold ofExtension? at h
  split at h
  · cases h
    assumption
  · split at h
    · cases h
      assumption
    · cases h

end SourceKind

/-- How far a compilation goes. -/
inductive Mode where
  | translateOnly
  | translateOnlyRaw
  | fullCompile
  deriving DecidableEq, Repr

def Mode.name : Mode → String
  | translateOnly => "translate-only"
  | translateOnlyRaw => "translate-only-raw"
  | fullCompile => "full-compile"

/-- Leaving out the glue implies that only the translator runs. -/
def Mode.of (args : Arguments) : Mode :=
  if args.rawTranslateOnly then .translateOnlyRaw
  else if args.translateOnly then .translateOnly
  else .fullCompile

/-- A validated request for one backend call. -/
structure CompilationRequest where
  inputPath : String
  outputPath : String
  moduleName : String
  kind : SourceKind
  mode : Mode
  options : CompilerOptions
  deriving DecidableEq, Repr

/-- Why there is no request: the first check that the input does not pass, in this order. -/
inductive RequestError where
  | inputNotFound (inputPath : String)
  | unsupportedExtension (inputPath extension : String)
  | alreadyTranslated (inputPath : String)
  deriving DecidableEq, Repr

namespace CompilationRequest

/-- The output path when the command line names none, or an empty one. -/
def defaultOutput (moduleName nativeSuffix : String) (translateOnly : Bool) : String :=
  moduleName ++ "." ++ if translateOnly then "cpp" else nativeSuffix

def settleOutput (args : Arguments) (moduleName nativeSuffix : String) : String :=
  match args.outputPath with
  | some path =>
      if path = "" then defaultOutput moduleName nativeSuffix args.translateOnly else path
  | none => defaultOutput moduleName nativeSuffix args.translateOnly

/-- The request that a command line stands for. -/
def build (files : FileSystem) (args : Arguments) (options : CompilerOptions)
    (nativeSuffix : String) : Except RequestError CompilationRequest :=
  let inputPath := args.inputPath
  if files.isFile inputPath then
    match SourceKind.ofExtension? (Path.extension inputPath) with
    | none => .error (.unsupportedExtension inputPath (Path.extension inputPath))
    | some kind =>
        if kind = .cxx ∧ args.translateOnly then .error (.alreadyTranslated inputPath)
        else
          .ok {
            inputPath := inputPath
            outputPath := settleOutput args (Path.stem inputPath) nativeSuffix
            moduleName := Path.stem inputPath
            kind := kind
            mode := Mode.of args
            options := options }
  else .error (.inputNotFound inputPath)

end CompilationRequest

end CompilerDriver
