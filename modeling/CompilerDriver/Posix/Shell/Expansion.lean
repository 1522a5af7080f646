import CompilerDriver.Posix.Shell.Arithmetic
import CompilerDriver.Posix.Shell.Fields
import CompilerDriver.Posix.Shell.Pattern
import CompilerDriver.Posix.Shell.Variables

/-!
# Expansions

A word is expanded piece by piece into items, from which fields, a text or a pattern is made.
Running a command for its output is left to a parameter.
-/

namespace CompilerDriver.Shell

open Kernel

/-- How a word is expanded. -/
structure Manner where
  /-- The result is cut into fields. -/
  split : Bool := false
  /-- A tilde at the start stands for a directory. -/
  tilde : Bool := false
  /-- So does one behind the first equals sign and behind colons. -/
  assignment : Bool := false
  /-- The word is an operand of an unquoted parameter expansion. -/
  operand : Bool := false
  quoted : Bool := false
  deriving Inhabited

/-- Runs a command and gives what it printed. -/
abbrev Capture := Command → Act String

section Parameters

/-- What separates the parameters when they are expanded together. -/
def parameterSeparator (name : String) (manner : Manner) : Act (Option Char) := do
  let separators ← separators?
  if name = "@" ∧ manner.quoted ∧ manner.split then return some '\x00'
  match separators with
  | none => return some ' '
  | some s => return if manner.split && !manner.quoted then some '\x00' else s.toList.head?

/-- The letters of the options that are set, in the order of the shell. -/
def optionLetters (s : State) : String :=
  String.ofList ("ubaCEVvxsnmiIfe".toList.filter s.options.contains)

/-- The value of a parameter, if it is set. -/
def parameterItems (name : String) (manner : Manner) : Act (Option (List Item)) := do
  let s ← state
  let value (text : String) : Option (List Item) := some (Item.ofText text manner.quoted)
  match name with
  | "$" => return value (toString s.rootPid)
  | "?" => return value (toString s.status)
  | "#" => return value (toString s.parameters.length)
  | "!" => return (s.lastBackground).bind fun pid => value (toString pid)
  | "-" => return value (optionLetters s)
  | "@" | "*" =>
      let separator ← parameterSeparator name manner
      let between : List Item :=
        match separator with
        | some c => [.char c false]
        | none => []
      return some
        ((s.parameters.map fun p => Item.ofText p manner.quoted).intersperse between).flatten
  | _ =>
      match number? name with
      | some 0 => return value s.name
      | some n => return (s.parameters[n - 1]?).bind value
      | none => return (← lookup name).bind value

end Parameters

/-! ## Tildes -/

/-- The home directory of a user. -/
def homeOf? (user : String) : Option String :=
  match user with
  | "root" => some "/root"
  | "daemon" => some "/usr/sbin"
  | "bin" => some "/bin"
  | "nobody" => some "/nonexistent"
  | _ => none

/-- The user that a tilde names, and the pieces behind the name. -/
def tildeUser? (assignment : Bool) : Word → Option (List Char × Word)
  | [] => some ([], [])
  | .char c false :: rest =>
      if c = '/' ∨ (assignment ∧ c = ':') then some ([], .char c false :: rest)
      else (tildeUser? assignment rest).map fun (user, after) => (c :: user, after)
  | _ => none

/-- The items of a tilde at the start of a word, and the pieces behind it. -/
def expandTilde (assignment : Bool) (word : Word) : Act (Option (List Item × Word)) := do
  match word with
  | .char '~' false :: rest =>
      match tildeUser? assignment rest with
      | none => return none
      | some (user, after) =>
          let home ← if user.isEmpty then lookup "HOME" else pure (homeOf? (String.ofList user))
          return home.map fun h => (Item.ofText h true, after)
  | _ => return none

/-! ## Pieces -/

section Pieces

variable (capture : Capture) (nested : Manner → Word → Act (List Item))

def region (items : List Item) : List Item :=
  .openRegion false :: items ++ [.closeRegion]

/-- Items of a value: a region if it is not quoted, and also if it holds the parameters. -/
def valueItems (manner : Manner) (name : String) (items : List Item) : Act (List Item) := do
  if !manner.quoted then return region items
  else if name = "@" ∧ (← state).parameters ≠ [] then
    return .openRegion true :: items ++ [.closeRegion]
  else return items

/-- The items of a value as they are measured and trimmed. -/
def plainText (items : List Item) : List Char := Item.text items

def notSet {α : Type} (name : String) (message : String) : Act α :=
  fail (name ++ ": " ++ message)

/-- What is left of a value when an operand has been expanded. -/
def expandParameter (name : String) (op : ParameterOp) (word : Word) (manner : Manner) :
    Act (List Item) := do
  let value ← parameterItems name manner
  let usable (orEmpty : Bool) : Bool :=
    match value with
    | some items => !(orEmpty && items.isEmpty)
    | none => false
  let strict := (← state).hasOption 'u'
  let required : Act (List Item) := do
    match value with
    | some items => return items
    | none => if strict then notSet name "parameter not set" else return []
  let operand : Manner := { manner with tilde := true, operand := true }
  match op with
  | .malformed => fail "Bad substitution"
  | .plain =>
      let items ← required
      if value.isNone then return [] else valueItems manner name items
  | .length =>
      let items ← required
      valueItems manner "" (Item.ofText (toString (plainText items).length) manner.quoted)
  | .default orEmpty =>
      if usable orEmpty then valueItems manner name (value.getD []) else nested operand word
  | .alternative orEmpty =>
      if usable orEmpty then nested operand word else return []
  | .assign orEmpty =>
      if usable orEmpty then valueItems manner name (value.getD [])
      else
        let text := Item.toText (← nested { tilde := true } word)
        assign name text
        valueItems manner name (Item.ofText text manner.quoted)
  | .complain orEmpty =>
      if usable orEmpty then valueItems manner name (value.getD [])
      else if word.isEmpty then
        notSet name ("parameter not set" ++ if orEmpty then " or null" else "")
      else notSet name (Item.toText (← nested { tilde := true } word))
  | .trimStart longest =>
      let items ← required
      let pattern := Pattern.compile (Item.marked (← nested { tilde := true } word))
      let left := Pattern.trimStart pattern longest (plainText items)
      if value.isNone then return []
      valueItems manner name (Item.ofText (String.ofList left) manner.quoted)
  | .trimEnd longest =>
      let items ← required
      let pattern := Pattern.compile (Item.marked (← nested { tilde := true } word))
      let left := Pattern.trimEnd pattern longest (plainText items)
      if value.isNone then return []
      valueItems manner name (Item.ofText (String.ofList left) manner.quoted)

/-- The variables as arithmetic sees them. -/
def arithmeticStore : Arithmetic.Store State where
  read s name :=
    let text := (s.lookup name).getD ""
    match Arithmetic.integerOf? text with
    | some n => .ok n
    | none => .error (.message ("Illegal number: " ++ text))
  write s name n :=
    let v := (s.bindings.lookup name).getD { value := none }
    if v.readonly then .error (.message (name ++ ": is read only"))
    else
      .ok { s with
        bindings := State.updated name { v with value := some (toString n) } s.bindings }

def compute (expression : List Char) : Act Int := do
  match Arithmetic.evaluate arithmeticStore (← state) expression with
  | .ok (n, s) =>
      modifyState fun _ => s
      return n
  | .error (.message text) => fail text
  | .error .overflow => Act.conclude (.signal Signal.arithmetic)
  | .error (.expression reason) =>
      fail ("arithmetic expression: " ++ reason ++ ": \"" ++ String.ofList expression ++ "\"")

/-- The output of a command without the newlines at its end. -/
def trimmedOutput (s : String) : String :=
  String.ofList
    ((s.toList.filter (· != '\x00')).reverse.dropWhile (· == '\n')).reverse

/-- The pieces that are exactly all parameters between quotes, at the end of a word. -/
def isAllParameters : Word → Bool
  | [.quoteMark, .parameter "@" .plain [], .quoteMark] => true
  | _ => false

/-- Expands the pieces of a word from left to right.  `inQuotes` tells whether they stand between
quotes, `behindEquals` whether the first equals sign has been passed. -/
def expandPieces (manner : Manner) :
    Nat → Bool → Bool → Word → List Item → Act (List Item)
  | 0, _, _, _, done => return done.reverse
  | _ + 1, _, _, [], done => return done.reverse
  | n + 1, inQuotes, behindEquals, piece :: rest, done => do
      let here : Manner :=
        { manner with quoted := manner.quoted || inQuotes, tilde := false, assignment := false }
      let goOn (items : List Item) : Act (List Item) :=
        expandPieces manner n inQuotes behindEquals rest (items.reverse ++ done)
      match piece with
      | .quoteMark =>
          if !inQuotes ∧ isAllParameters (piece :: rest) then
            let items ← expandParameter nested "@" .plain [] { here with quoted := true }
            return (items.reverse ++ done).reverse
          else expandPieces manner n (!inQuotes) behindEquals rest (.quoteMark :: done)
      | .char c escaped =>
          let loose := manner.operand && !manner.quoted && !inQuotes && !escaped
          let item : List Item :=
            if loose then region [.char c false] else [.char c (escaped || inQuotes)]
          let opens := manner.assignment && !escaped && (c == ':' || (c == '=' && !behindEquals))
          let behindEquals := behindEquals || (c == '=' && !escaped)
          let done := item.reverse ++ done
          if opens then
            match ← expandTilde true rest with
            | some (home, rest) =>
                expandPieces manner n inQuotes behindEquals rest (home.reverse ++ done)
            | none => expandPieces manner n inQuotes behindEquals rest done
          else expandPieces manner n inQuotes behindEquals rest done
      | .parameter name op word => goOn (← expandParameter nested name op word here)
      | .substitution none => goOn (if here.quoted then [] else region [])
      | .substitution (some body) =>
          let items := Item.ofText (trimmedOutput (← capture body)) here.quoted
          goOn (if here.quoted then items else region items)
      | .arithmetic expression =>
          let text ← nested {} expression
          let items := Item.ofText (toString (← compute (Item.text text))) here.quoted
          goOn (if here.quoted then items else region items)

end Pieces

/-- Expands a word, with a bound on the depth of operands in operands. -/
def expandTo (capture : Capture) : Nat → Manner → Word → Act (List Item)
  | 0, _, _ => return []
  | n + 1, manner, word => do
      let expand := expandPieces capture (expandTo capture n) manner
      if manner.tilde then
        match ← expandTilde manner.assignment word with
        | some (home, rest) => expand (rest.length + 1) false false rest home.reverse
        | none => expand (word.length + 1) false false word []
      else expand (word.length + 1) false false word []

def maxOperandDepth : Nat := 100

def expand (capture : Capture) (manner : Manner) (word : Word) : Act (List Item) :=
  expandTo capture maxOperandDepth manner word

/-- The text of a word that is not cut into fields. -/
def expandText (capture : Capture) (word : Word) : Act String :=
  return Item.toText (← expand capture { tilde := true } word)

/-- The text of the right side of an assignment, with its left side in front. -/
def expandAssignment (capture : Capture) (word : Word) : Act String :=
  return Item.toText (← expand capture { assignment := true } word)

def expandPattern (capture : Capture) (word : Word) : Act Pattern :=
  return Pattern.compile (Item.marked (← expand capture { tilde := true } word))

/-- The text of a here-document. -/
def expandDocument (capture : Capture) (word : Word) : Act String :=
  return Item.toText (← expand capture { quoted := true } word)

end CompilerDriver.Shell
