import CompilerDriver.Posix.Kernel.Mode
import CompilerDriver.Posix.Shell.Builtin.Jobs
import CompilerDriver.Posix.Shell.Builtin.Marking

/-!
# Signals and process state

`kill`, `trap`, `umask`, `ulimit` and `times`.
-/

namespace CompilerDriver.Shell.Builtin

open Kernel

/-! ## Sending signals -/

def killUsage : String :=
  "Usage: kill [-s sigspec | -signum | -sigspec] [pid | job]... or\nkill -l [exitstatus]"

/-- What a call of `kill` asks for. -/
structure KillRequest where
  signal : Option Signal := none
  isList : Bool := false
  targets : List String

def killRequest (arguments : List String) : Act KillRequest := do
  match arguments with
  | [] => fail killUsage
  | first :: rest =>
      match first.toList with
      | '-' :: cs =>
          match Signal.ofText? 1 (String.ofList cs) with
          | some n => return { signal := some n, targets := rest }
          | none =>
              let parsed ← parse "l" "s" arguments
              let signal ← match parsed.options.lookup 's' with
                | none => pure none
                | some name =>
                    match Signal.ofText? 1 name with
                    | some n => pure (some n)
                    | none => fail ("invalid signal number or name: " ++ name)
              return ⟨signal, parsed.has 'l', parsed.operands⟩
      | _ => return { targets := arguments }

def listSignal (operands : List String) : Act Nat := do
  match operands with
  | [] =>
      Act.printLine "0"
      for n in (List.range (Signal.count + 1)).drop 1 do
        Act.printLine (Signal.name n)
  | operand :: _ =>
      let n ← number operand
      let n := if n > 128 then n - 128 else n
      if 0 < n ∧ n ≤ Signal.count then Act.printLine (Signal.name n)
      else fail ("invalid signal number or exit status: " ++ operand)
  return 0

def kill : Builtin := fun arguments => do
  let request ← killRequest arguments
  if request.isList then
    if request.signal.isSome then fail killUsage
    listSignal request.targets
  else
    if request.targets.isEmpty then fail killUsage
    let mut status := 0
    for target in request.targets do
      let pid : Int ←
        if target.startsWith "%" then do
          let job ← findJob target
          pure (-(((job.members.head?).map (·.1)).getD 0 : Int))
        else if target.startsWith "-" then do
          pure (-(← number (String.ofList (target.toList.drop 1)) : Int))
        else pure (← number target : Int)
      if let .error e ← Op.kill pid (request.signal.getD Signal.terminate) then
        warn (SystemError.notice e ++ "\n")
        status := 1
    return status

/-! ## Traps -/

def setTrap (n : Signal) (action : Option String) : Act Unit := do
  let s ← state
  let others := s.traps.filter fun t => t.1 != n
  modifyState fun s => { s with
    traps := match action with
      | some a => (n, a) :: others
      | none => others }
  if n ≠ 0 ∧ !s.protectedSignals.contains n then
    Op.setDisposition n
      (match action with
      | some "" => .ignore
      | some _ => .catch
      | none => .default)

def trap : Builtin := fun arguments => do
  let operands := (← parse "" "" arguments).operands
  match operands with
  | [] =>
      for (n, action) in (← state).traps.mergeSort fun a b => decide (a.1 ≤ b.1) do
        Act.printLine ("trap -- " ++ singleQuoted action ++ " " ++ Signal.name n)
      return 0
  | first :: rest =>
      let isNumber := (number? first).any fun n => n ≤ Signal.count && !first.isEmpty
      let (action, names) :=
        if rest.isEmpty ∨ isNumber then (none, operands)
        else (if first = "-" then none else some first, rest)
      for name in names do
        match Signal.ofText? 0 name with
        | some n => setTrap n action
        | none =>
            Act.printError ("trap: " ++ name ++ ": bad trap\n")
            return 1
      return 0

/-! ## Process state -/

def octalText (n : Nat) : String :=
  let digits := String.ofList (Nat.toDigits 8 n)
  String.ofList (List.replicate (4 - digits.length) '0') ++ digits

/-- The permissions that a mask leaves, by their letters. -/
def symbolicMask (mask : Nat) : String :=
  let letters (shift : Nat) : String :=
    let kept := 7 - mask / shift % 8
    (if kept / 4 % 2 = 1 then "r" else "") ++ (if kept / 2 % 2 = 1 then "w" else "") ++
      (if kept % 2 = 1 then "x" else "")
  "u=" ++ letters 64 ++ ",g=" ++ letters 8 ++ ",o=" ++ letters 1

def umask : Builtin := fun arguments => do
  let parsed ← parse "S" "" arguments
  match parsed.operands with
  | [] =>
      let mask := (← Op.self).mask
      Act.printLine (if parsed.has 'S' then symbolicMask mask else octalText mask)
  | operand :: _ =>
      if (operand.toList.head?.map Char.isDigit).getD false then
        if operand.toList.any fun c => !('0' ≤ c && c ≤ '7') then
          fail ("Illegal number: " ++ operand)
        let mask := operand.toList.foldl (fun n c => n * 8 + (c.toNat - 48)) 0 % 512
        Op.modifySelf fun p => { p with mask := mask }
      else
        let mask := (← Op.self).mask
        let clauses := if operand.endsWith "," then operand.toList.dropLast else operand.toList
        let strange := clauses.any fun c => c == 't' || c.isDigit
        match if strange then none else Kernel.Mode.changes? (String.ofList clauses) with
        | some changes =>
            let kept := Kernel.Mode.adjusted changes false 0 (Kernel.Mode.permissions - mask)
            Op.modifySelf fun p =>
              { p with mask := Kernel.Mode.permissions - kept % (Kernel.Mode.permissions + 1) }
        | none => fail ("Illegal mode: " ++ operand)
  return 0

def ulimit : Builtin := fun arguments => do
  let parsed ← parse "HSatfdscmlpnvwr" "" arguments
  if parsed.operands.isEmpty then
    Act.printLine (if parsed.has 'c' then "0" else if parsed.has 's' then "8192" else "unlimited")
  return 0

def times : Builtin := fun _ => do
  Act.printLine "0m0.000000s 0m0.000000s"
  Act.printLine "0m0.000000s 0m0.000000s"
  return 0

end CompilerDriver.Shell.Builtin
