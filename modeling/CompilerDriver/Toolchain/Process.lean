import CompilerDriver.Failure

/-!
# Running a tool

A runner starts a program on the files as they are and tells how the process ended and what it
wrote.  It may also fail itself, before or after the process.
-/

namespace CompilerDriver.Toolchain

structure ToolCall where
  program : String
  arguments : List String
  deriving DecidableEq, Repr

/-- Why a process could not be started or had to be stopped. -/
structure ProcessError where
  code : Option String
  message : String
  deriving DecidableEq, Repr

structure ProcessResult where
  status : Option Int := some 0
  signal : Option String := none
  stdout : String := ""
  stderr : String := ""
  error : Option ProcessError := none
  deriving DecidableEq, Repr

/-- What a run of a tool leaves behind: its changes in order, and how it ended. -/
structure Reply where
  changes : List FileSystem.Change
  result : Except Fault ProcessResult

/-- A runner with a state of its own. -/
abbrev Runner (ρ : Type) := ToolCall → FileSystem → ρ → Reply × ρ

/-! ## How a process ended -/

/-- The most output that is kept, in bytes. -/
def maxOutputBytes : Nat := 64 * 1024 * 1024

namespace ProcessResult

/-- The process was stopped for printing too much. -/
def overflowed (r : ProcessResult) : Bool :=
  match r.error with
  | some e => e.code == some "ENOBUFS"
  | none => false

/-- The process never ran.  One that printed too much did run. -/
def launchError? (r : ProcessResult) : Option ProcessError :=
  if r.overflowed then none else r.error

def ending (r : ProcessResult) : String :=
  let how :=
    match r.status with
    | some code => "failed with code " ++ toString code
    | none => "was terminated by " ++ r.signal.getD "an unknown signal"
  if r.overflowed then how ++ " (output exceeded " ++ toString maxOutputBytes ++ " bytes)"
  else how

/-- The first stream with text in it, blank or not. -/
def diagnostics (r : ProcessResult) : String :=
  if r.stderr ≠ "" then r.stderr
  else if r.stdout ≠ "" then r.stdout
  else "Unknown error"

end ProcessResult

end CompilerDriver.Toolchain
