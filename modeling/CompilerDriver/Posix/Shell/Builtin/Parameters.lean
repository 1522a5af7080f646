import CompilerDriver.Posix.Shell.Builtin.Marking

/-!
# Options and positional parameters

`set`, `shift` and `getopts`.
-/

namespace CompilerDriver.Shell

open Kernel

/-- The options of a shell by their names; some have a letter. -/
def optionNames : List (String × Option Char) := [
  ("errexit", some 'e'), ("noglob", some 'f'), ("ignoreeof", some 'I'), ("interactive", some 'i'),
  ("monitor", some 'm'), ("noexec", some 'n'), ("stdin", some 's'), ("xtrace", some 'x'),
  ("verbose", some 'v'), ("vi", some 'V'), ("emacs", some 'E'), ("noclobber", some 'C'),
  ("allexport", some 'a'), ("notify", some 'b'), ("nounset", some 'u'), ("privileged", some 'p'),
  ("nolog", none), ("debug", none)]

/-- Stands for an option without a letter. -/
def letterOf (name : String) (letter : Option Char) : Char :=
  letter.getD (if name = "nolog" then '\x01' else '\x02')

def setLetter (c : Char) (on : Bool) : Act Unit := do
  if optionNames.any fun o => o.2 == some c then modifyState fun s => s.setOption c on
  else fail ("Illegal option -" ++ String.singleton c)

def setNamed (name : String) (on : Bool) : Act Unit := do
  match optionNames.find? fun o => o.1 == name with
  | some (name, letter) => modifyState fun s => s.setOption (letterOf name letter) on
  | none => fail ("Illegal option -o " ++ name)

/-- Prints all options: as a table, or as commands that set them. -/
def listOptions (table : Bool) : Act Unit := do
  let s ← state
  if table then Act.printLine "Current option settings"
  for (name, letter) in optionNames do
    let on := s.hasOption (letterOf name letter)
    if table then
      let blanks := String.ofList (List.replicate (16 - name.length) ' ')
      Act.printLine (name ++ blanks ++ if on then "on" else "off")
    else Act.printLine ("set " ++ (if on then "-o " else "+o ") ++ name)

/-- What the options in front of some words have said about the words. -/
structure OptionWords where
  operands : List String
  /-- The words replace the parameters, even if there are none. -/
  replaces : Bool := false
  /-- A letter that only a starting shell knows. -/
  isCommand : Bool := false
  deriving Inhabited

/-- Reads options.  When the shell starts, a dash only ends them, and there is one more letter. -/
def readOptions (starting : Bool) : Nat → List String → Bool → Act OptionWords
  | 0, words, c => return ⟨words, false, c⟩
  | _ + 1, [], c => return ⟨[], false, c⟩
  | n + 1, word :: rest, c => do
      let letters (on : Bool) (cs : List Char) : Act OptionWords := do
        let mut rest := rest
        let mut isCommand := c
        for letter in cs do
          if letter = 'c' ∧ starting then isCommand := true
          else if letter = 'l' ∧ starting then pure ()
          else if letter = 'o' then
            match rest with
            | [] => listOptions on
            | name :: more => do
                setNamed name on
                rest := more
          else setLetter letter on
        readOptions starting n rest isCommand
      match word.toList with
      | ['-'] => do
          if !starting then modifyState fun s => (s.setOption 'x' false).setOption 'v' false
          return ⟨rest, false, c⟩
      | ['-', '-'] => return ⟨rest, true, c⟩
      | '-' :: cs => letters true cs
      | '+' :: cs => letters false cs
      | _ => return ⟨word :: rest, false, c⟩

namespace Builtin

def set : Builtin := fun arguments => do
  if arguments.isEmpty then listVariables "" fun v => v.value.isSome
  else
    let words ← readOptions false arguments.length arguments false
    if words.replaces ∨ !words.operands.isEmpty then
      modifyState fun s => { s with
        parameters := words.operands, optionIndex := 1, optionOffset := none }
  return 0

def shift : Builtin := fun arguments => do
  let n ← match arguments with
    | [] => pure 1
    | a :: _ => number a
  if (← state).parameters.length < n then fail "can't shift that many"
  modifyState fun s => { s with
    parameters := s.parameters.drop n, optionIndex := 1, optionOffset := none }
  return 0

/-- What `getopts` has found: the letter for the variable, the value of its argument, whether it
can go on, and its place. -/
structure Found where
  letter : Char := '?'
  value : Option String := none
  complaint : Option String := none
  isDone : Bool := false
  index : Nat
  offset : Option Nat := none

/-- The next option among some words, from a place on. -/
def nextOption (letters : String) (words : List String) (index : Nat) (offset : Option Nat) :
    Found :=
  let silent := letters.startsWith ":"
  let started : Option (List Char) := do
    let offset ← offset
    if index ≤ 1 then none
    let word ← words[index - 2]?
    if word.length ≤ offset then none else some (word.toList.drop offset)
  let found (index : Nat) (cs : List Char) : Found :=
    match cs with
    | [] => { isDone := true, index := index }
    | c :: rest =>
        let here := fun (rest : List Char) =>
          some (((words[index - 2]?).getD "").length - rest.length)
        let known := (letters.toList.dropWhile (· == ':')).dropWhile (· != c)
        if c = ':' ∨ known.isEmpty then
          { letter := '?', index := index, offset := here rest
            value := if silent then some (String.singleton c) else none
            complaint := if silent then none else some ("Illegal option -" ++ String.singleton c) }
        else if known[1]? = some ':' then
          match rest, words[index - 1]? with
          | [], none =>
              { letter := if silent then ':' else '?', index := index, offset := here rest
                value := if silent then some (String.singleton c) else none
                complaint :=
                  if silent then none
                  else some ("No arg for -" ++ String.singleton c ++ " option") }
          | [], some value => { letter := c, value := some value, index := index + 1 }
          | rest, _ => { letter := c, value := some (String.ofList rest), index := index }
        else { letter := c, value := some "", index := index, offset := here rest }
  match started with
  | some cs => found index cs
  | none =>
      match (words[index - 1]?).map String.toList with
      | some ['-', '-'] => { isDone := true, index := index + 1 }
      | some ('-' :: c :: cs) => found (index + 1) (c :: cs)
      | _ => { isDone := true, index := index }

def getopts : Builtin := fun arguments => do
  match arguments with
  | letters :: name :: given => do
      let s ← state
      let words := if given.isEmpty then s.parameters else given
      let isPast := s.optionIndex > words.length + 1
      let found := nextOption letters words (if isPast then 1 else s.optionIndex)
        (if isPast then none else s.optionOffset)
      if let some complaint := found.complaint then Act.printError (complaint ++ "\n")
      if !found.isDone then
        match found.value with
        | some value => assign "OPTARG" value
        | none => unset "OPTARG"
      assign "OPTIND" (toString found.index)
      assign name (String.singleton found.letter)
      modifyState fun s => { s with optionIndex := found.index, optionOffset := found.offset }
      return if found.isDone then 1 else 0
  | _ => fail "Usage: getopts optstring var [arg...]"

end Builtin

end CompilerDriver.Shell
