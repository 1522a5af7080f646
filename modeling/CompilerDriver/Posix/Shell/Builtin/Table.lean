import CompilerDriver.Posix.Shell.Builtin.Control
import CompilerDriver.Posix.Shell.Builtin.Directory
import CompilerDriver.Posix.Shell.Builtin.Marking
import CompilerDriver.Posix.Shell.Builtin.Naming
import CompilerDriver.Posix.Shell.Builtin.Parameters
import CompilerDriver.Posix.Shell.Builtin.Printing
import CompilerDriver.Posix.Shell.Builtin.Reading
import CompilerDriver.Posix.Shell.Builtin.Signals
import CompilerDriver.Posix.Shell.Builtin.Test

/-!
# The utilities of the shell

Each utility by its name.
-/

namespace CompilerDriver.Shell

open Kernel

section

variable (perform : Perform)

namespace Builtin

/-- The utilities of the shell by their names. -/
def ofName (flags : Flags) (name : String) : Builtin :=
  match name with
  | "." => source perform
  | ":" | "true" => fun _ => return 0
  | "false" => fun _ => return 1
  | "[" | "test" => test
  | "alias" => setAlias
  | "bg" | "fg" => continueJob
  | "jobs" => jobs
  | "break" => jump .break
  | "continue" => jump .continue
  | "cd" | "chdir" => cd
  | "command" => command
  | "echo" => echo
  | "eval" => fun arguments =>
      perform (.text { tested := flags.tested } (" ".intercalate arguments))
  | "exec" => replace perform
  | "exit" => exit
  | "export" => exportVariables
  | "getopts" => getopts
  | "hash" => hash
  | "kill" => kill
  | "local" => localVariables
  | "printf" => printf
  | "pwd" => pwd
  | "read" => read
  | "readonly" => protectVariables
  | "return" => returnFrom
  | "set" => set
  | "shift" => shift
  | "times" => times
  | "trap" => trap
  | "type" => type
  | "ulimit" => ulimit
  | "umask" => umask
  | "unalias" => unalias
  | "unset" => unsetNames
  | "wait" => wait
  | _ => fun _ => return 0

end Builtin

end

end CompilerDriver.Shell
