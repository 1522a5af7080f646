import CompilerDriver.Posix.Shell.Parser
import CompilerDriver.Posix.Shell.Redirect
import CompilerDriver.Posix.Shell.Task

/-!
# Scripts

A script is read and evaluated one complete command at a time.
-/

namespace CompilerDriver.Shell

open Kernel

section

variable (perform : Perform)

/-- Evaluates the commands of a script one by one; gives the status of the last one. -/
def runCommands (flags : Flags) : Nat → ParserState → Nat → Act Nat
  | 0, _, status => return status
  | n + 1, parser, status => do
      Act.tick
      let s ← state
      let parser := { parser with
        aliases := s.aliases, nextDocument := s.nextDocument, documents := [] }
      match Parser.next.run parser with
      | .error e _ =>
          modifyState fun s => { s with line := e.line }
          fail e.message
      | .ok found parser =>
          modifyState fun s => { s with
            documents := parser.documents ++ s.documents, nextDocument := parser.nextDocument }
          let ended := parser.pushedBack && parser.token == .endOfFile
          match found with
          | none => if ended then return status else runCommands flags n parser status
          | some c =>
              let inner := if ended then flags else { flags with exit := false }
              let status ← perform (.evaluate inner c)
              if ended ∨ (← state).skip ≠ .none then return status
              runCommands flags n parser status

def runText (flags : Flags) (text : String) : Act Nat := do
  let parser : ParserState := { text := text.toList, line := 1 }
  runCommands perform flags Act.maxTurns parser 0

/-- Runs a script to its end or to a return. -/
def runScript (text : String) : Act Nat := do
  let status ← runText perform {} text
  modifyState fun s => { s with skip := if s.skip = .return then .none else s.skip }
  return status

/-- The text of a script that is open. -/
def scriptText (descriptor : Nat) : Act String := do
  match ← Act.readAllBytes descriptor with
  | .ok bytes => return Text.octetsOfBytes (bytes.data.toList.filter (· != 0))
  | .error _ => return ""

def openScript (path : String) : Act String := do
  match ← Act.openPath path { readable := true } with
  | .ok descriptor =>
      let text ← scriptText descriptor
      Op.close descriptor
      return text
  | .error e => cannot "open" path (noticeOf e "No such file")

end

end CompilerDriver.Shell
