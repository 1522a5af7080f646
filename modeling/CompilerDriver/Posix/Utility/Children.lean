import CompilerDriver.Posix.Utility.Basic

/-!
# Programs that utilities run

A utility can run a program in its own place or in a child, and read what a command prints.
-/

namespace CompilerDriver.Utility

open Kernel

/-- The path on which programs are looked for when the environment gives none. -/
def barePath : String := "/bin:/usr/bin"

def searchPath (environment : List (String × String)) : String :=
  (environment.lookup "PATH").getD barePath

/-- Finds the program that some words call. -/
def findProgram (environment : List (String × String)) (words : List String) :
    Op (Except SystemError (String × Call)) :=
  Program.find environment (searchPath environment) (words.headD "") (words.drop 1)

section

variable (programs : Programs)

/-- Goes on with a program in place of what runs. -/
def enter {ε σ α : Type} (environment : List (String × String)) (found : String × Call) :
    Kernel.Act ε σ α := do
  let _ ← Act.flush
  Op.enterProgram
  Act.become (programs found.1 found.2 environment)

/-- Starts a program in a child, which prepares itself first; gives its identity. -/
def startChild (environment : List (String × String)) (prepare : Op Unit)
    (found : String × Call) : Act Nat := do
  let _ ← Act.flush
  Act.fork (do
    prepare
    enter programs environment found)

/-- What a command of the shell prints. -/
def captureCommand (command : String) : Act (Except SystemError String) := do
  let environment ← Act.environment
  match ← Program.startScript environment Program.fallbackShell ⟨"sh", ["-c", command]⟩ with
  | .error e => return .error e
  | .ok found =>
      let (reading, writing) ← Op.newPipe
      let prepare : Op Unit := do
        let _ ← Op.duplicate writing 1
        Op.close reading
        Op.close writing
      let pid ← startChild programs environment prepare found
      Op.close writing
      let text ← Act.readAll reading
      Op.close reading
      let _ ← Act.waitFor (· == pid)
      return text

end

end CompilerDriver.Utility
