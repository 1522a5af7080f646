import CompilerDriver.Posix.Shell.Builtin.Options

/-!
# Marking variables

`export`, `readonly`, `local` and `unset`.
-/

namespace CompilerDriver.Shell

open Kernel

/-- A text between single quotes, as the shell prints values; single quotes stand between double
quotes. -/
def singleQuoted (s : String) : String :=
  String.join ((s.toList.splitBy fun a b => (a == '\'') == (b == '\'')).map fun run =>
    if run.head? = some '\'' then "\"" ++ String.ofList run ++ "\""
    else "'" ++ String.ofList run ++ "'") |> fun quoted =>
      if s.isEmpty ∨ s.startsWith "'" then "''" ++ quoted else quoted

namespace Builtin

/-- Prints variables in the order of their names, each behind the given word. -/
def listVariables (word : String) (p : Variable → Bool) : Act Unit := do
  let rows := (← state).bindings.filter fun row => p row.2
  for (name, v) in rows.mergeSort fun a b => decide (a.1 ≤ b.1) do
    let value :=
      match v.value with
      | some value => "=" ++ singleQuoted value
      | none => ""
    Act.printLine (word ++ name ++ value)

/-- The two sides of an assignment. -/
def splitAssignment (s : String) : String × Option String :=
  let name := s.toList.takeWhile (· != '=')
  let rest := s.toList.drop name.length
  (String.ofList name, if rest.isEmpty then none else some (String.ofList (rest.drop 1)))

def markAll (word : String) (f : Variable → Variable) (p : Variable → Bool) : Builtin :=
  fun arguments => do
    let parsed ← parse "p" "" arguments
    if parsed.has 'p' ∨ parsed.operands.isEmpty then listVariables (word ++ " ") p
    else
      for operand in parsed.operands do
        let (name, value) := splitAssignment operand
        if let some value := value then assign name value
        mark name f
    return 0

def exportVariables : Builtin :=
  markAll "export" (fun v => { v with exported := true }) Variable.exported

def protectVariables : Builtin :=
  markAll "readonly" (fun v => { v with readonly := true }) Variable.readonly

def localVariables : Builtin := fun arguments => do
  if (← state).functionDepth = 0 then fail "not in a function"
  for operand in (← parse "" "" arguments).operands do
    if operand = "-" then saveOptions
    else
      let (name, value) := splitAssignment operand
      if !isName name then fail (name ++ ": bad variable name")
      saveVariable name
      if let some value := value then assign name value
  return 0

def unsetNames : Builtin := fun arguments => do
  let parsed ← parse "vf" "" arguments
  for name in parsed.operands do
    if parsed.has 'f' then
      modifyState fun s => { s with functions := s.functions.filter fun f => f.1 != name }
    else unset name
  return 0

end Builtin

end CompilerDriver.Shell
