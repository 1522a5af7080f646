import CompilerDriver.Posix.Text.Magnitude
import CompilerDriver.Posix.Utility.Environment

/-!
# Launching programs

Utilities that run another program: `nohup` without hang-ups, `nice` with another priority and
`timeout` for a limited time.  `which` tells where programs are, and `sleep` only waits.
-/

namespace CompilerDriver.Utility

open Kernel

section

variable (programs : Programs)

/-- Runs a program in place of the utility, or tells why it cannot be run. -/
def replaceBy (call : Call) (what : String) (words : List String) : Act Nat := do
  let environment ← Act.environment
  match ← findProgram environment words with
  | .ok found => enter programs environment found
  | .error e =>
      complainOf call what e
      return launchStatus e

def nohup : Utility := fun call => do
  let parsed ← ({ stopsEarly := true, failure := 125 } : OptionTable).parse call
  if parsed.operands.isEmpty then missingOperand call 125
  Op.setDisposition Signal.hangUp .ignore
  replaceBy programs call ("failed to run command " ++ quoteAlways (parsed.operands.headD ""))
    parsed.operands

/-! ## Priorities -/

/-- An argument that is an adjustment by itself. -/
def bareAdjustment? (argument : String) : Option String :=
  match argument.toList with
  | '-' :: cs =>
      let digits := if cs.head? = some '-' ∨ cs.head? = some '+' then cs.drop 1 else cs
      if digits.head?.any Char.isDigit then some (String.ofList cs) else none
  | _ => none

/-- The adjustment that the first arguments ask for, and the other arguments. -/
def niceArguments (call : Call) :
    Nat → List String → Option String → Act (Option String × List String)
  | 0, arguments, given => return (given, arguments)
  | n + 1, arguments, given => do
      match arguments with
      | [] => return (given, [])
      | argument :: rest =>
          match bareAdjustment? argument with
          | some text => niceArguments call n rest (some text)
          | none => do
              let table : OptionTable := {
                valued := "n", stopsEarly := true, failure := 125
                named := [("adjustment", 'n')] }
              let takesNext := argument = "-n" || ["--adjustment", "--adj"].contains argument
              let here := argument :: rest.take (if takesNext then 1 else 0)
              let parsed ← table.parse { call with arguments := here }
              if argument = "--" then return (given, rest)
              match parsed.value? 'n' with
              | some text => niceArguments call n (arguments.drop here.length) (some text)
              | none => return (given, arguments)

/-- How far priorities go in either direction. -/
def maxNiceness : Int := 19

def nice : Utility := fun call => do
  let (given, words) ← niceArguments call call.arguments.length call.arguments none
  let adjustment ← match given with
    | none => pure 10
    | some text => do
        let cs := text.toList
        let digits := if cs.head? = some '-' ∨ cs.head? = some '+' then cs.drop 1 else cs
        if digits.isEmpty ∨ !digits.all Char.isDigit then
          giveUp call 125 ("invalid adjustment " ++ quoteText text)
        let value := (digits.foldl (fun n c => n * 10 + (c.toNat - 48)) 0 : Nat)
        pure (if cs.head? = some '-' then -(value : Int) else value)
  let present := (← Op.self).niceness
  if words.isEmpty then
    if given.isSome then misuse call 125 "a command must be given with an adjustment"
    Act.printLine (toString present)
    return 0
  let wanted := max (-maxNiceness - 1) (min maxNiceness (present + adjustment))
  Op.modifySelf fun p => { p with niceness := wanted }
  replaceBy programs call (quoteText (words.headD "")) words

/-! ## Time -/

/-- A span of time in microseconds; without a bound there is none. -/
inductive Span where
  | finite (microseconds : Nat)
  | endless
  deriving DecidableEq, Repr, Inhabited

/-- The seconds in a unit of time. -/
def unitSeconds? : List Char → Option Nat
  | [] | ['s'] => some 1
  | ['m'] => some 60
  | ['h'] => some 3600
  | ['d'] => some 86400
  | _ => none

/-- A span of time, rounded up. -/
def Span.ofText? (text : String) : Option Span := do
  let number ← Text.numberAhead? (text.toList.dropWhile Text.isWhiteSpace)
  let unit ← unitSeconds? number.rest
  match number.magnitude with
  | .undefined => none
  | .infinite => if number.negative then none else some .endless
  | .quotient a b =>
      if number.negative && a != 0 then none
      else some (.finite ((a * unit * 1000000 + b - 1) / b))

def Span.plus : Span → Span → Span
  | .finite a, .finite b => .finite (a + b)
  | _, _ => .endless

/-- The longest wait. -/
def endlessTime : Nat := 1 <<< 60

def sleep : Utility := fun call => do
  let parsed ← ({} : OptionTable).parse call
  if parsed.operands.isEmpty then missingOperand call 1
  let wrong := parsed.operands.filter fun text => (Span.ofText? text).isNone
  for text in wrong.dropLast do
    complain call ("invalid time interval " ++ quoteText text)
  if let some text := wrong.getLast? then misuse call 1 ("invalid time interval " ++ quoteText text)
  let _ ← match (parsed.operands.filterMap Span.ofText?).foldl Span.plus (.finite 0) with
    | .finite time => Act.sleep time
    | .endless => Act.sleep endlessTime
  return 0

/-- What a program that runs for a limited time comes to next. -/
inductive TimeoutEvent where
  | ended (how : Termination)
  | late
  | signal (n : Signal)
  deriving Inhabited

/-- Waits for a child, for a time or for a signal. -/
def tryTimeout (pid : Nat) (due : Option Nat) : Op (Option TimeoutEvent) := do
  Op.modifySelf fun p => { p with wake := none }
  match ← Op.tryReap (· == pid) with
  | .ok (some (_, how)) => return some (.ended how)
  | _ =>
      match ← Op.takeArrived with
      | n :: _ => return some (.signal n)
      | [] =>
          if due.any (· ≤ (← get).now) then return some .late
          Op.modifySelf fun p => { p with wake := due }
          return none

structure Limit where
  signal : Signal
  killAfter : Option Span
  foreground : Bool
  keepsStatus : Bool
  verbose : Bool
  command : String

/-- When a span that starts now is over; a span of nothing is never over. -/
def dueAfter : Span → Op (Option Nat)
  | .finite 0 | .endless => return none
  | .finite time => return some ((← get).now + time)

/-- Sends a signal to the child and to all processes of the group. -/
def sendLimit (limit : Limit) (pid : Nat) (n : Signal) : Op Unit := do
  let _ ← Op.kill pid n
  if !limit.foreground then
    Op.setDisposition n .ignore
    let _ ← Op.kill 0 n
  if n ≠ Signal.kill ∧ n ≠ Signal.continued then
    let _ ← Op.kill pid Signal.continued
    if !limit.foreground then let _ ← Op.kill 0 Signal.continued

/-- Waits for the child, which gets a signal when its time is over. -/
def watch (call : Call) (limit : Limit) (pid : Nat) :
    Nat → Option Nat → Signal → Option Span → Bool → Act Nat
  | 0, _, _, _, _ => return 125
  | n + 1, due, signal, killAfter, isLate => do
      let send (signal : Signal) : Act Unit := do
        if limit.verbose then
          complain call ("sending signal " ++ Signal.name signal ++ " to command " ++
            quoteText limit.command)
        sendLimit limit pid signal
      /- Sends a signal; if that does not help, the child is killed later. -/
      let interrupt (signal : Signal) (isLate : Bool) : Act Nat := do
        send signal
        match killAfter with
        | none => watch call limit pid n none signal none isLate
        | some span => do
            let due ← dueAfter span
            watch call limit pid n due Signal.kill none isLate
      match ← Act.await (tryTimeout pid due) with
      | .late => interrupt signal true
      | .signal n => interrupt n isLate
      | .ended (.exit status) =>
          return if isLate ∧ !limit.keepsStatus then 124 else status
      | .ended (.signal n) =>
          if !isLate then
            let _ ← Act.flush
            Act.conclude (.signal n)
          return if limit.keepsStatus ∨ n = Signal.kill then 128 + n else 124

def timeoutTable : OptionTable := {
  flags := "v", valued := "ks", stopsEarly := true, failure := 125
  named := [("signal", 's'), ("kill-after", 'k'), ("preserve-status", 'p'), ("foreground", 'f'),
    ("verbose", 'v')] }

def timeout : Utility := fun call => do
  let parsed ← timeoutTable.parse call
  let span (text : String) : Act Span := do
    match Span.ofText? text with
    | some span => return span
    | none => misuse call 125 ("invalid time interval " ++ quoteText text)
  let killAfter ← (parsed.value? 'k').mapM span
  let signal ← match parsed.value? 's' with
    | none => pure Signal.terminate
    | some text =>
        match if text = "0" then some 0 else Environment.signalOf? text with
        | some n => pure n
        | none => misuse call 125 (quoteText text ++ ": invalid signal")
  match parsed.operands with
  | [] | [_] =>
      explain (hint call ++ "\n")
      return 125
  | duration :: words => do
      let time ← span duration
      let limit : Limit := {
        signal, killAfter, foreground := parsed.has 'f', keepsStatus := parsed.has 'p'
        verbose := parsed.has 'v', command := words.headD "" }
      let environment ← Act.environment
      match ← findProgram environment words with
      | .error e =>
          complainOf call ("failed to run command " ++ quoteText limit.command) e
          return launchStatus e
      | .ok found =>
          let pid ← Op.pid
          if !limit.foreground then Op.setGroup pid pid
          for n in [Signal.terminate, Signal.interrupt, Signal.hangUp, Signal.quit, signal] do
            if n ≠ 0 ∧ !Signal.isAbsolute n then Op.setDisposition n .catch
          let child ← startChild programs environment (pure ()) found
          let due ← dueAfter time
          watch call limit child Act.maxTurns due signal killAfter false

end

/-! ## Places -/

/-- The paths of the programs of a name, in the order in which they are looked for. -/
def programsOf (path name : String) : Act (List String) := do
  let candidates := if name.toList.contains '/' then [name]
    else (Program.candidates path name).map fun p => if p = name then "./" ++ name else p
  candidates.filterM fun candidate => do
    let status? ← Op.status? candidate
    return status?.any fun s => s.isFile && s.isExecutable

def which : Utility := fun call => do
  let letters := (call.arguments.takeWhile fun a => a.startsWith "-" && a != "--" && a != "-")
  if let some wrong := (letters.flatMap fun a => a.toList.drop 1).find?
      fun c => c != 'a' && c != 's' then
    let name := if call.name.contains '/' then call.name else "/usr/bin/which"
    Act.printError ("Illegal option -" ++ String.singleton wrong ++ "\n")
    Act.printLine ("Usage: " ++ name ++ " [-as] args")
    return 2
  let has (c : Char) : Bool := letters.any fun a => a.contains c
  let rest := call.arguments.drop letters.length
  let names := if rest.head? = some "--" then rest.drop 1 else rest
  if names.isEmpty then return 1
  let path := ((← Act.setting? "PATH").getD "")
  onEach names fun name => do
    let found ← programsOf path name
    for place in if has 'a' then found else found.take 1 do
      if !has 's' then Act.printLine place
    return if found.isEmpty then 1 else 0

end CompilerDriver.Utility
