import CompilerDriver.Posix.Utility.Batching
import CompilerDriver.Posix.Utility.Characters
import CompilerDriver.Posix.Utility.Columns
import CompilerDriver.Posix.Utility.Common
import CompilerDriver.Posix.Utility.Condition
import CompilerDriver.Posix.Utility.Copying
import CompilerDriver.Posix.Utility.Counting
import CompilerDriver.Posix.Utility.Dumping
import CompilerDriver.Posix.Utility.Edit
import CompilerDriver.Posix.Utility.Ends
import CompilerDriver.Posix.Utility.Expression
import CompilerDriver.Posix.Utility.Finding
import CompilerDriver.Posix.Utility.Folding
import CompilerDriver.Posix.Utility.Launching
import CompilerDriver.Posix.Utility.Linking
import CompilerDriver.Posix.Utility.Listing
import CompilerDriver.Posix.Utility.Making
import CompilerDriver.Posix.Utility.Moving
import CompilerDriver.Posix.Utility.Names
import CompilerDriver.Posix.Utility.Numbering
import CompilerDriver.Posix.Utility.Permissions
import CompilerDriver.Posix.Utility.Printing
import CompilerDriver.Posix.Utility.Removing
import CompilerDriver.Posix.Utility.Runs
import CompilerDriver.Posix.Utility.Searching
import CompilerDriver.Posix.Utility.Sequence
import CompilerDriver.Posix.Utility.Sorting
import CompilerDriver.Posix.Utility.Stream

/-!
# The installed utilities

Each utility by the name in its image.
-/

namespace CompilerDriver.Utility

open Kernel

/-- A utility, and the status with which it ends when its output cannot be written. -/
structure Installed where
  utility : Utility
  failure : Nat := 1

/-- The utilities that run no programs. -/
def plainUtilities : List (String × Installed) := [
  ("[", ⟨testProgram true, 2⟩), ("basename", ⟨basename, 1⟩), ("cat", ⟨cat, 1⟩),
  ("chmod", ⟨chmod, 1⟩), ("comm", ⟨comm, 1⟩), ("cp", ⟨cp, 1⟩), ("cut", ⟨cut, 1⟩),
  ("dirname", ⟨dirname, 1⟩), ("echo", ⟨echo, 1⟩),
  ("egrep", ⟨fun call => grepWith .extended { call with name := "grep" }, 2⟩),
  ("expr", ⟨expr, 3⟩), ("false", ⟨fun _ => return 1, 1⟩),
  ("fgrep", ⟨fun call => grepWith .fixed { call with name := "grep" }, 2⟩), ("fold", ⟨fold, 1⟩),
  ("grep", ⟨grep, 2⟩), ("head", ⟨head, 1⟩), ("link", ⟨link, 1⟩), ("ln", ⟨ln, 1⟩), ("ls", ⟨ls, 2⟩),
  ("mkdir", ⟨mkdir, 1⟩), ("mkfifo", ⟨mkfifo, 1⟩), ("mktemp", ⟨mktemp, 1⟩), ("mv", ⟨mv, 1⟩),
  ("nl", ⟨nl, 1⟩), ("od", ⟨od, 1⟩), ("paste", ⟨paste, 1⟩), ("printenv", ⟨printenv, 2⟩), ("printf", ⟨printf, 1⟩),
  ("pwd", ⟨pwd, 1⟩), ("readlink", ⟨readlink, 1⟩), ("realpath", ⟨realpath, 1⟩), ("rev", ⟨rev, 1⟩),
  ("rm", ⟨rm, 1⟩), ("rmdir", ⟨rmdir, 1⟩), ("seq", ⟨seq, 1⟩), ("sleep", ⟨sleep, 1⟩),
  ("sort", ⟨sort, 2⟩), ("tac", ⟨tac, 1⟩), ("tail", ⟨tail, 1⟩), ("tee", ⟨tee, 1⟩),
  ("test", ⟨testProgram false, 2⟩), ("touch", ⟨touch, 1⟩), ("tr", ⟨tr, 1⟩),
  ("true", ⟨fun _ => return 0, 1⟩), ("uniq", ⟨uniq, 1⟩), ("unlink", ⟨unlink, 1⟩), ("wc", ⟨wc, 1⟩),
  ("which", ⟨which, 1⟩), ("yes", ⟨yes, 1⟩)]

/-- The utilities that run programs. -/
def launchingUtilities : List (String × (Programs → Installed)) := [
  ("env", fun programs => ⟨env programs, 125⟩),
  ("find", fun programs => ⟨find programs, 1⟩), ("nice", fun programs => ⟨nice programs, 125⟩),
  ("nohup", fun programs => ⟨nohup programs, 125⟩), ("sed", fun programs => ⟨sed programs, 4⟩),
  ("timeout", fun programs => ⟨timeout programs, 125⟩),
  ("xargs", fun programs => ⟨xargs programs, 1⟩)]

def names : List String := plainUtilities.map (·.1) ++ launchingUtilities.map (·.1)

def installed? (programs : Programs) (name : String) : Option Installed :=
  (plainUtilities.lookup name).orElse fun _ =>
    (launchingUtilities.lookup name).map fun utility => utility programs

end CompilerDriver.Utility
