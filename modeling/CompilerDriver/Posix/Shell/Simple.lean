import CompilerDriver.Posix.Shell.Builtin.Table
import CompilerDriver.Posix.Shell.PathExpansion

/-!
# Simple commands

The words are expanded, the name is looked up, redirections and assignments are performed, and what
the name stands for is run.
-/

namespace CompilerDriver.Shell

open Kernel

section

variable (perform : Perform)

/-- What the name of a command stands for. -/
inductive Meaning where
  | nothing
  | function (body : Command)
  | utility (name : String)
  | program
  deriving Inhabited

/-- The words of a command, of which the first ones have been expanded. -/
structure Words where
  /-- The fields before the name. -/
  passed : List String := []
  fields : List String := []
  rest : List Word
  deriving Inhabited

/-- Expands words until there is a field. -/
def Words.fill (w : Words) : List Word → Act Words
  | [] => return { w with rest := [] }
  | word :: rest => do
      if !w.fields.isEmpty then return { w with rest := word :: rest }
      Words.fill { w with fields := ← expandFields (capture perform) word } rest

def Words.pass (w : Words) : Act Words := do
  let next : Words :=
    { w with passed := w.passed ++ w.fields.take 1, fields := w.fields.drop 1 }
  next.fill perform next.rest

/-- A command whose name has been looked up. -/
structure Head where
  words : Words
  meaning : Meaning
  path : Option String := none
  /-- The first utility of the shell that has been named is one whose errors end the shell. -/
  isSpecial : Option Bool := none
  /-- Some function or program is run, or a regular utility. -/
  isLocal : Bool := true

/-- Passes over `command` and its options.  There is nothing to run if it has others. -/
def passCommand (path : Option String) : Nat → Words → Act (Option (Words × Option String))
  | 0, _ => return none
  | n + 1, w => do
      match w.fields with
      | [] => return none
      | field :: _ =>
          match field.toList with
          | ['-', '-'] => do
              let w ← w.pass perform
              return if w.fields.isEmpty then none else some (w, path)
          | '-' :: c :: cs =>
              if (c :: cs).all (· == 'p') then
                passCommand (some Program.defaultPath) n (← w.pass perform)
              else return none
          | _ => return some (w, path)

def meaningOf (skipFunctions : Bool) (name : String) : Act Meaning := do
  let s ← state
  match if skipFunctions then none else s.functions.lookup name with
  | some body => return .function body
  | none => return if isUtility name then .utility name else .program

/-- Looks up the name of a command, behind any `command` in front of it. -/
def resolveHead : Nat → Bool → Head → Act Head
  | 0, _, head => return head
  | n + 1, skipFunctions, head => do
      match head.words.fields with
      | [] => return { head with meaning := .nothing, isLocal := false }
      | name :: _ =>
          let meaning ← meaningOf skipFunctions name
          match meaning with
          | .utility utility =>
              let isSpecial := head.isSpecial.getD (isSpecialUtility utility)
              let isLocal := head.isSpecial.isSome || !isSpecial
              let found := { head with
                meaning := meaning, isSpecial := some isSpecial, isLocal := isLocal }
              if utility ≠ "command" then return found
              let before := head.words
              let after ← before.pass perform
              match ← passCommand perform head.path (after.fields.length + after.rest.length + 64)
                  after with
              | some (words, path) =>
                  resolveHead n true { found with words := words, path := path }
              | none =>
                  -- All that has been expanded are arguments of the utility.
                  let fields := before.fields.take 1 ++ after.fields
                  let words := { after with passed := before.passed, fields := fields }
                  return { found with words := words }
          | _ => return { head with meaning := meaning, isLocal := true }

def declares : Meaning → Bool
  | .utility name => ["alias", "export", "local", "readonly"].contains name
  | _ => false

/-- Prints what is run. -/
def trace (descriptor : Nat) (assignments words : List String) : Act Unit := do
  let mark := ((← state).lookup "PS4").getD ""
  let text ←
    match Parser.quotedText.run { text := mark.toList, line := 1 } with
    | .ok word _ => do
        modifyState fun s => s.setOption 'x' false
        let text ← expandDocument (capture perform) word
        modifyState fun s => s.setOption 'x' true
        pure text
    | .error _ _ => pure mark
  let _ ← Act.write descriptor (text ++ " ".intercalate (assignments ++ words) ++ "\n")

/-- Runs a utility of the shell.  Unless it is a special one, its errors are only a status. -/
def runUtility (flags : Flags) (isSpecial : Bool) (name : String) (arguments : List String) :
    Act Nat := do
  let before := (← state).utility
  modifyState fun s => { s with utility := some name }
  let leave : Act Unit := modifyState fun s => { s with utility := before }
  let run : Act Nat := do
    let status ← Builtin.ofName perform flags name arguments
    match ← Act.flush with
    | .ok () => return status
    | .error _ =>
        warn (name ++ ": I/O error")
        return status ||| 1
  let status ← tryCatch run fun stop => do
    let _ ← Act.flush
    if stop = .failed ∧ !isSpecial then return errorStatus
    leave
    throw stop
  leave
  return status

/-- The deepest nesting of functions. -/
def maxFunctionDepth : Nat := 1000

def callFunction (flags : Flags) (body : Command) (arguments : List String) : Act Nat := do
  let before ← state
  if before.functionDepth ≥ maxFunctionDepth then
    fail ("Maximum function recursion depth (" ++ toString maxFunctionDepth ++ ") reached")
  modifyState fun s => { s with
    parameters := arguments
    optionIndex := 1
    optionOffset := none
    loopDepth := 0
    functionDepth := before.functionDepth + 1 }
  afterwards (perform (.evaluate { tested := flags.tested } body)) (modifyState fun s => { s with
    parameters := before.parameters
    optionIndex := before.optionIndex
    optionOffset := before.optionOffset
    loopDepth := before.loopDepth
    functionDepth := before.functionDepth
    skip := if s.skip = .return then .none else s.skip })

/-- Performs the assignments in front of a command; gives their texts. -/
def performAssignments (isLocal exports : Bool) (assignments : List Word) :
    Act (List String) :=
  assignments.mapM fun word => do
    let text ← expandAssignment (capture perform) word
    let (name, value) := Builtin.splitAssignment text
    if isLocal then saveVariable name
    assign name (value.getD "")
    if isLocal ∨ exports then mark name fun v => { v with exported := true }
    return text

def evaluateSimple (flags : Flags) (line : Nat) (assignments words : List Word)
    (redirections : List Redirection) : Act Nat := do
  modifyState fun s => { s with line := line, substitutionStatus := 0 }
  let filled ← ({ rest := words } : Words).fill perform words
  let head ← resolveHead perform (words.length + 64) false { words := filled, meaning := .nothing }
  let more ← head.words.rest.mapM fun word => do
    if declares head.meaning ∧ (assignmentName? word).isSome then
      return [← expandAssignment (capture perform) word]
    else expandFields (capture perform) word
  let fields := head.words.fields ++ more.flatten
  let isExec :=
    match head.meaning with
    | .utility "exec" => true
    | _ => false
  if head.isLocal then openScope
  let redirects ← redirections.mapM (Redirection.expand (capture perform))
  let (saved, ok) ← redirect redirects
  let run : Act Nat := do
    if !ok then
      setStatus errorStatus
      if head.isSpecial = some true then throw .failed
      return errorStatus
    let texts ← performAssignments perform head.isLocal (isExec && fields.length > 1) assignments
    if (← state).hasOption 'x' ∧ !(texts.isEmpty ∧ fields.isEmpty) then
      trace perform (traceDescriptor saved) texts (head.words.passed ++ fields)
    match head.meaning with
    | .nothing => return (← state).substitutionStatus
    | .function body => callFunction perform flags body (fields.drop 1)
    | .utility name =>
        runUtility perform flags (head.isSpecial.getD false) name (fields.drop 1)
    | .program => evaluateProgram perform flags head.path fields
  let keeps := isExec && ok
  let status ← tryCatch run fun stop => do
    restore saved
    throw stop
  if keeps then forget saved else restore saved
  if head.isLocal then closeScope
  return status

end

end CompilerDriver.Shell
