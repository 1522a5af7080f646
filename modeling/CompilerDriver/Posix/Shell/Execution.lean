import CompilerDriver.Posix.Shell.Builtin.Naming
import CompilerDriver.Posix.Shell.Child

/-!
# Running programs

A program runs in a child of the shell or, if nothing comes after it, in place of it.
-/

namespace CompilerDriver.Shell

open Kernel

section

variable (perform : Perform)

/-- The place of a name in the table of variables, in which programs are given them. -/
def variableBucket (name : String) : Nat :=
  (name.toList.foldl (fun n c => n + c.toNat) ((name.toList.headD '\x00').toNat * 16)) % 39

def programEnvironment (s : State) : List (String × String) :=
  s.exports.mergeSort fun a b => decide (variableBucket a.1 ≤ variableBucket b.1)

/-! ## Scripts without an interpreter -/

/-- How much of a file is looked at to tell whether it is a script. -/
def scriptHead : Nat := 128

def isControl (b : UInt8) : Bool := b < 9 || (b > 15 && b < 32 && b != 27) || b == 127

/-- The first line of a file holds no control characters. -/
def isScript (path : String) : Op Bool := do
  match ← Op.status? path with
  | some { node := some n, .. } =>
      let head := ((← get).volume.bytes n).extract 0 scriptHead
      return !(head.data.toList.takeWhile (· != 10)).any isControl
  | _ => return false

/-- Starts what is at a path.  A script that names no interpreter is handed to the shell. -/
def startAt (environment : List (String × String)) (path : String) (call : Call) :
    Op (Except SystemError (String × Call)) := do
  match ← Program.start environment path call with
  | .error .unknownFormat =>
      if ← isScript path then
        Program.start environment Program.fallbackShell
          ⟨Program.fallbackShell, path :: call.arguments⟩
      else return .error .unknownFormat
  | result => return result

/-- Starts the first of some paths that can be started; otherwise gives the last reason that is
not that there is nothing. -/
def startFirst (environment : List (String × String)) (call : Call) :
    List String → SystemError → Op (Except SystemError (String × Call))
  | [], reason => return .error reason
  | path :: rest, reason => do
      match ← startAt environment path call with
      | .ok found => return .ok found
      | .error e =>
          let isAbsent := e == .notFound || e == .notDirectory
          startFirst environment call rest (if isAbsent then reason else e)

def findStart (environment : List (String × String)) (path : String) (call : Call) :
    Op (Except SystemError (String × Call)) :=
  if call.name.toList.contains '/' then startAt environment call.name call
  else startFirst environment call (Program.candidates path call.name) .notFound

/-! ## Running -/

/-- Runs a program in place of the shell, which does not come back. -/
def replaceBy (path : String) (words : List String) : Act Nat := do
  let file := words.headD ""
  let environment := programEnvironment (← state)
  match ← findStart environment path ⟨file, words.drop 1⟩ with
  | .error e =>
      let isMissing := [.notFound, .notDirectory, .tooManyLinks, .nameTooLong].contains e
      setStatus (if isMissing then 127 else 126)
      warn (file ++ ": " ++ noticeOf e "not found")
      throw .finished
  | .ok (image, call) =>
      let _ ← Act.flush
      perform (.program image call environment)

/-- Runs a program in a child, or in place of the shell if nothing comes after it. -/
def evaluateProgram (flags : Flags) (path : Option String) (words : List String) : Act Nat := do
  let name := words.headD ""
  let usual ← searchPath
  match ← findProgram (path.getD usual) name with
  | .error e =>
      warn (name ++ ": " ++ noticeOf e "not found")
      return 127
  | .ok place =>
      if path.isNone ∧ !name.toList.contains '/' then
        modifyState fun s => { s with found := State.updated name place s.found }
      if flags.exit ∧ !(← state).hasTraps then replaceBy perform (path.getD usual) words
      else
        inChild perform do
          let _ ← replaceBy perform (path.getD usual) words

end

end CompilerDriver.Shell
