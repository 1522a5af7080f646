/-!
# Signals

A signal is a number from 1 to 64.  Each has a name on the command line, a name under which the
starter of a process learns of its death, a notice for the shell to print, and a default action.
-/

namespace CompilerDriver.Kernel

abbrev Signal := Nat

namespace Signal

def count : Nat := 64

structure Description where
  number : Nat
  name : String
  notice : String
  deriving DecidableEq, Repr

/-- The signals below 32, except the one that the command line knows by its number only. -/
def table : List Description := [
  ⟨1, "HUP", "Hangup"⟩, ⟨2, "INT", "Interrupt"⟩, ⟨3, "QUIT", "Quit"⟩,
  ⟨4, "ILL", "Illegal instruction"⟩, ⟨5, "TRAP", "Trace/breakpoint trap"⟩, ⟨6, "ABRT", "Aborted"⟩,
  ⟨7, "BUS", "Bus error"⟩, ⟨8, "FPE", "Floating point exception"⟩, ⟨9, "KILL", "Killed"⟩,
  ⟨10, "USR1", "User defined signal 1"⟩, ⟨11, "SEGV", "Segmentation fault"⟩,
  ⟨12, "USR2", "User defined signal 2"⟩, ⟨13, "PIPE", "Broken pipe"⟩, ⟨14, "ALRM", "Alarm clock"⟩,
  ⟨15, "TERM", "Terminated"⟩, ⟨16, "STKFLT", "Stack fault"⟩, ⟨17, "CHLD", "Child exited"⟩,
  ⟨18, "CONT", "Continued"⟩, ⟨19, "STOP", "Stopped (signal)"⟩, ⟨20, "TSTP", "Stopped"⟩,
  ⟨21, "TTIN", "Stopped (tty input)"⟩, ⟨22, "TTOU", "Stopped (tty output)"⟩,
  ⟨23, "URG", "Urgent I/O condition"⟩, ⟨24, "XCPU", "CPU time limit exceeded"⟩,
  ⟨25, "XFSZ", "File size limit exceeded"⟩, ⟨26, "VTALRM", "Virtual timer expired"⟩,
  ⟨27, "PROF", "Profiling timer expired"⟩, ⟨28, "WINCH", "Window changed"⟩,
  ⟨29, "IO", "I/O possible"⟩, ⟨30, "PWR", "Power failure"⟩, ⟨31, "SYS", "Bad system call"⟩]

def hangUp : Nat := 1
def interrupt : Nat := 2
def quit : Nat := 3
def arithmetic : Nat := 8
def kill : Nat := 9
def pipe : Nat := 13
def alarm : Nat := 14
def terminate : Nat := 15
def stackFault : Nat := 16
def childEnded : Nat := 17
def continued : Nat := 18
def stop : Nat := 19
def firstRealTime : Nat := 34

def description? (n : Signal) : Option Description :=
  table.find? fun d => d.number == n

/-- The name on the command line. -/
def name (n : Signal) : String :=
  if n = 0 then "EXIT"
  else if n < 32 ∧ n ≠ stackFault then ((description? n).map Description.name).getD (toString n)
  else if n < firstRealTime then toString n
  else if n = firstRealTime then "RTMIN"
  else if n < 50 then "RTMIN+" ++ toString (n - firstRealTime)
  else if n < count then "RTMAX-" ++ toString (count - n)
  else "RTMAX"

/-- The name under which the starter of a process learns of its death; the real-time signals have
none. -/
def reportName (n : Signal) : String :=
  ((description? n).map fun d => "SIG" ++ d.name).getD ""

def notice (n : Signal) : String :=
  match description? n with
  | some d => d.notice
  | none =>
      if n < firstRealTime then "Unknown signal " ++ toString n
      else "Real-time signal " ++ toString (n - firstRealTime)

/-- A signal by its number or, in either case, by its name. -/
def ofText? (smallest : Nat) (s : String) : Option Signal :=
  if !s.isEmpty && s.toList.all Char.isDigit then
    (s.toNat?).filter fun n => n ≤ count
  else
    ((List.range (count + 1)).drop smallest).find? fun n => name n == s.map Char.toUpper

/-- The signals that leave a process as it is unless it handles them. -/
def isHarmless (n : Signal) : Bool :=
  [0, childEnded, continued, 23, 28].contains n

/-- The signals that stop a process until it is continued. -/
def isStopping (n : Signal) : Bool :=
  [stop, 20, 21, 22].contains n

/-- The signals that no process can handle or ignore. -/
def isAbsolute (n : Signal) : Bool :=
  n == kill || n == stop

end Signal

/-- How a process ended. -/
inductive Termination where
  | exit (status : Nat)
  | signal (n : Signal)
  deriving DecidableEq, Repr, Inhabited

/-- The status by which a shell knows an ending. -/
def Termination.status : Termination → Nat
  | exit status => status
  | signal n => 128 + n

/-- What a shell prints about a child that a signal ended. -/
def Termination.notice? : Termination → Option String
  | exit _ => none
  | signal n => if n = Signal.interrupt ∨ n = Signal.pipe then none else some (Signal.notice n)

end CompilerDriver.Kernel
