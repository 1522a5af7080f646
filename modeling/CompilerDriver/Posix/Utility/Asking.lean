import CompilerDriver.Posix.Utility.Basic

/-!
# Questions

A question is printed on the standard error.  The answer is a line of the standard input, of which
no more is read than that line.
-/

namespace CompilerDriver.Utility

open Kernel

/-- The octets of the next line of the standard input, read one by one. -/
def readAnswer : Nat → List Char → Act (List Char)
  | 0, line => return line.reverse
  | n + 1, line => do
      match ← Act.readBytes 0 1 with
      | .error _ => return line.reverse
      | .ok bytes =>
          match (Text.octetsOfArray bytes).toList with
          | [c] => if c = '\n' then return line.reverse else readAnswer n (c :: line)
          | _ => return line.reverse

def isYes (answer : List Char) : Bool :=
  match answer with
  | 'y' :: _ | 'Y' :: _ => true
  | _ => false

/-- Asks, and tells whether the answer is yes. -/
def agrees (question : String) : Act Bool := do
  Act.printError question
  return isYes (← readAnswer Act.maxTurns [])

/-- What kind of file it is, in words. -/
def kindInWords (status : Status) : String :=
  match status.kind with
  | .file => if status.size = 0 then "regular empty file" else "regular file"
  | .directory => "directory"
  | .link => "symbolic link"
  | .characters => "character special file"
  | .queue => "fifo"
  | .socket => "socket"

end CompilerDriver.Utility
