import CompilerDriver.Posix.Shell.Evaluation
import CompilerDriver.Posix.Shell.Startup
import CompilerDriver.Posix.Utility.Table

/-!
# The interpreter

Evaluation, scripts and programs refer to each other.  Here they are tied together, level by level.
-/

namespace CompilerDriver.Shell

open Kernel

/-- The names of images that are shells. -/
def shellNames : List String := ["dash"]

mutual

def performTo : Nat → Perform
  | 0, _ => Act.conclude (.signal Signal.kill)
  | n + 1, .evaluate flags c => evaluate (performTo n) flags c
  | n + 1, .text flags s => runText (performTo n) flags s
  | n + 1, .program name call environment => do
      Op.enterProgram
      Act.become (programsTo n name call environment)

def programsTo : Nat → Programs
  | 0, _, _, _ => .ended (.signal Signal.kill)
  | n + 1, name, call, environment =>
      if shellNames.contains name then shellThread (performTo n) call environment
      else
        match Utility.installed? (programsTo n) name with
        | some i => Utility.thread i.failure i.utility call environment
        | none => .ended (.exit 127)

end

/-- The deepest nesting of commands, scripts and programs. -/
def maxLevels : Nat := 1 <<< 40

/-- What the installed programs do. -/
def programs : Programs := programsTo maxLevels

end CompilerDriver.Shell
