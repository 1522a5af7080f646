import CompilerDriver.Posix.Kernel.Program
import CompilerDriver.Posix.Utility.Quoting

/-!
# Utilities

A utility is a program that comes with the system: it gets the name that it is called by and its
arguments, and gives its status.  What it prints is written when it ends or complains.
-/

namespace CompilerDriver

open Kernel

/-- What a utility does when it is called.  It ends with a status, perhaps early. -/
abbrev Utility := Call → Kernel.Act Nat Unit Nat

namespace Utility

abbrev Act := Kernel.Act Nat Unit

/-! ## Locales -/

/-- The names of the locale in which texts are encoded characters. -/
def isUnicodeLocale (name : String) : Bool :=
  let codeset := (name.toList.dropWhile (· != '.')).drop 1
  let bare := (codeset.filter Char.isAlphanum).map Char.toLower
  (name.startsWith "C." || name.startsWith "POSIX.") && String.ofList bare == "utf8"

/-- Texts are encoded characters, and not octets. -/
def readsUnicode : Act Bool := do
  let environment ← Act.environment
  let given := ["LC_ALL", "LC_CTYPE", "LANG"].filterMap fun name =>
    (environment.lookup name).filter (· != "")
  return (given.head?.map isUnicodeLocale).getD false

/-! ## Messages -/

/-- Prints a message, in which quotes are as the locale has them. -/
def explain (message : String) : Act Unit := do
  Act.printError (if ← readsUnicode then message else inPlainText message)

def complain (call : Call) (message : String) : Act Unit := do
  let _ ← Act.flush
  explain (call.name ++ ": " ++ message ++ "\n")

/-- A complaint about something that the system has refused. -/
def complainOf (call : Call) (what : String) (cause : SystemError) : Act Unit :=
  complain call (what ++ ": " ++ cause.notice)

/-- Ends the utility. -/
def stop {α : Type} (status : Nat) : Act α := throw status

def giveUp {α : Type} (call : Call) (status : Nat) (message : String) : Act α := do
  complain call message
  stop status

def hint (call : Call) : String := "Try '" ++ call.name ++ " --help' for more information."

/-- Ends the utility with a message about how it is called. -/
def misuse {α : Type} (call : Call) (status : Nat) (message : String) : Act α := do
  complain call message
  Act.printError (hint call ++ "\n")
  stop status

/-! ## Options -/

/-- The options of a utility: letters without and with an argument, and names that stand for
letters.  Letters of the last kind have an argument only with a name and an equals sign. -/
structure OptionTable where
  flags : String := ""
  valued : String := ""
  named : List (String × Char) := []
  optional : String := ""
  /-- Letters with an argument that stand for names only. -/
  valuedNames : String := ""
  /-- Letters whose argument, if there is one, stands right behind them. -/
  attached : String := ""
  /-- The status of a call with an option that there is not. -/
  failure : Nat := 1
  /-- Options end at the first argument that is none. -/
  stopsEarly : Bool := false
  /-- How the utility is called, for a message. -/
  usage : String := ""
  /-- There is a hint about how to get help. -/
  hints : Bool := true

structure Parsed where
  options : List (Char × String) := []
  operands : List String := []
  deriving Inhabited

/-- Ends the utility with a message about its options. -/
def OptionTable.misuse {α : Type} (s : OptionTable) (call : Call) (message : String) : Act α := do
  complain call message
  explain (s.usage ++ if s.hints then hint call ++ "\n" else "")
  stop s.failure

namespace Parsed

def has (p : Parsed) (c : Char) : Bool := p.options.any fun o => o.1 == c

/-- The value of the last option with a letter. -/
def value? (p : Parsed) (c : Char) : Option String :=
  (p.options.reverse.find? fun o => o.1 == c).map (·.2)

/-- The last of some letters. -/
def last? (p : Parsed) (letters : String) : Option Char :=
  (p.options.reverse.find? fun o => letters.toList.contains o.1).map (·.1)

end Parsed

def OptionTable.letters (s : OptionTable) (call : Call) :
    List Char → List String → Act (List (Char × String) × List String)
  | [], rest => return ([], rest)
  | c :: more, rest => do
      if s.valued.toList.contains c then
        match more, rest with
        | [], [] =>
            s.misuse call ("option requires an argument -- '" ++ String.singleton c ++ "'")
        | [], value :: rest => return ([(c, value)], rest)
        | more, rest => return ([(c, String.ofList more)], rest)
      else if s.attached.toList.contains c then return ([(c, String.ofList more)], rest)
      else if s.flags.toList.contains c then
        let (found, rest) ← s.letters call more rest
        return ((c, "") :: found, rest)
      else s.misuse call ("invalid option -- '" ++ String.singleton c ++ "'")

def OptionTable.name (s : OptionTable) (call : Call) (text : String) (rest : List String) :
    Act ((Char × String) × List String) := do
  let name := String.ofList (text.toList.takeWhile (· != '='))
  let value := if name.length < text.length
    then some (String.ofList (text.toList.drop (name.length + 1))) else none
  let exact := s.named.filter fun n => n.1 == name
  let candidates := if exact.isEmpty then s.named.filter fun n => n.1.startsWith name else exact
  match candidates with
  | [] => s.misuse call ("unrecognized option '--" ++ text ++ "'")
  | (full, c) :: others =>
      if others.any fun o => o.2 != c then
        let names := candidates.map fun n => " '--" ++ n.1 ++ "'"
        s.misuse call
          ("option '--" ++ text ++ "' is ambiguous; possibilities:" ++ String.join names)
      else if (s.valued ++ s.valuedNames).toList.contains c then
        match value, rest with
        | some value, rest => return ((c, value), rest)
        | none, value :: rest => return ((c, value), rest)
        | none, [] => s.misuse call ("option '--" ++ full ++ "' requires an argument")
      else
        if value.isSome ∧ !s.optional.toList.contains c then
          s.misuse call ("option '--" ++ full ++ "' doesn't allow an argument")
        return ((c, value.getD ""), rest)

def OptionTable.parseUpTo (s : OptionTable) (call : Call) : Nat → List String → Act Parsed
  | 0, arguments => return ⟨[], arguments⟩
  | _ + 1, [] => return ⟨[], []⟩
  | n + 1, argument :: rest =>
      match argument.toList with
      | ['-', '-'] => return ⟨[], rest⟩
      | '-' :: '-' :: text => do
          let (found, rest) ← s.name call (String.ofList text) rest
          let parsed ← s.parseUpTo call n rest
          return { parsed with options := found :: parsed.options }
      | '-' :: c :: cs => do
          let (found, rest) ← s.letters call (c :: cs) rest
          let parsed ← s.parseUpTo call n rest
          return { parsed with options := found ++ parsed.options }
      | _ => do
          if s.stopsEarly then return ⟨[], argument :: rest⟩
          let parsed ← s.parseUpTo call n rest
          return { parsed with operands := argument :: parsed.operands }

/-- Reads the options among the arguments, which may stand anywhere. -/
def OptionTable.parse (s : OptionTable) (call : Call) : Act Parsed := do
  let isStrict := (← Act.setting? "POSIXLY_CORRECT").isSome
  let s := { s with stopsEarly := s.stopsEarly || isStrict }
  s.parseUpTo call call.arguments.length call.arguments

def missingOperand {α : Type} (call : Call) (status : Nat) : Act α :=
  misuse call status "missing operand"

def missingAfter {α : Type} (call : Call) (status : Nat) (operand : String) : Act α :=
  misuse call status ("missing operand after " ++ quoteText operand)

def extraOperand {α : Type} (call : Call) (status : Nat) (operand : String) : Act α :=
  misuse call status ("extra operand " ++ quoteText operand)

/-! ## Results -/

/-- The worst of the statuses of a utility on each of its operands. -/
def onEach {α : Type} (operands : List α) (f : α → Act Nat) : Act Nat :=
  operands.foldlM (fun status operand => do return max status (← f operand)) 0

/-- The status of a utility when what it has printed cannot be written. -/
def finish (call : Call) (failure status : Nat) : Kernel.Act Empty Unit Nat := do
  let _ ← Act.flush
  match (← Act.localState).outputError with
  | none => return status
  | some e =>
      Act.printError (call.name ++ ": write error: " ++ e.notice ++ "\n")
      return failure

/-- What a process does that runs a utility.  `failure` is the status for a failed write. -/
def thread (failure : Nat) (utility : Utility) (call : Call)
    (environment : List (String × String)) : Thread :=
  let act : Kernel.Act Empty Unit Termination := do
    let status ← match ← Act.attempt (utility call) with
      | .ok status | .error status => pure status
    return .exit ((← finish call failure status) % 256)
  act { environment := environment, own := () } (fun how _ => .ended how) fun e _ => nomatch e

end Utility

end CompilerDriver
