import CompilerDriver.Posix.Text.Regex.Reading
import CompilerDriver.Posix.Text.Version
import CompilerDriver.Posix.Utility.Edit.Command
import CompilerDriver.Posix.Utility.Locale
import CompilerDriver.Posix.Utility.Printing

/-!
# Reading editing scripts

A script comes in parts, from arguments and from files.  A message about it tells the part and how
much of it has been read, or the line.
-/

namespace CompilerDriver.Utility.Edit

open Text (Regex)

/-- Where a part of a script comes from. -/
inductive Origin where
  | argument (number : Nat)
  | file (path : String)
  deriving DecidableEq, Repr, Inhabited

structure Source where
  rest : List Char := []
  origin : Origin := .argument 1
  place : Nat := 0
  line : Nat := 1
  manner : Regex.Manner
  unicode : Bool
  /-- What ends a text. -/
  delimiter : Char
  /-- Commands that reach files or run programs are not allowed. -/
  sandboxed : Bool
  isFirst : Bool := true
  /-- The script asks for lines not to be printed by themselves. -/
  quiet : Bool := false
  /-- Where the blocks that are open have started. -/
  blocks : List Origin := []

/-- Why a script cannot be read. -/
inductive ScriptError where
  | misplaced (message : String)
  /-- Wrong wherever it stands. -/
  | plain (message : String)

abbrev Reading := StateT Source (Except ScriptError)

def whereText (origin : Origin) (place line : Nat) : String :=
  match origin with
  | .argument n => "-e expression #" ++ toString n ++ ", char " ++ toString place ++ ": "
  | .file path => "file " ++ path ++ " line " ++ toString line ++ ": "

def refuse {α : Type} (message : String) : Reading α := do
  let s ← get
  throw (.misplaced (whereText s.origin s.place s.line ++ message))

/-! ## Characters -/

/-- How many octets a character takes. -/
def octetCount (c : Char) : Nat := if c.toNat < 128 then 1 else (Text.octetsOfCharacter c).length

def octets (cs : List Char) : Reading String := return octetsIf (← get).unicode cs

def take? : Reading (Option Char) := do
  let s ← get
  match s.rest with
  | [] => return none
  | c :: rest =>
      set { s with
        rest := rest
        place := s.place + octetCount c
        line := if c = '\n' then s.line + 1 else s.line }
      return some c

def peek? : Reading (Option Char) := return (← get).rest.head?

/-- Goes on at what is left of the text. -/
def goTo (rest : List Char) : Reading Unit :=
  modify fun s =>
    let passed := s.rest.take (s.rest.length - rest.length)
    { s with
      rest := rest
      place := passed.foldl (fun n c => n + octetCount c) s.place
      line := s.line + passed.count '\n' }

def takeWhile (p : Char → Bool) : Reading (List Char) := do
  let cs := (← get).rest.takeWhile p
  goTo ((← get).rest.drop cs.length)
  return cs

def isBlank (c : Char) : Bool := c == ' ' || c == '\t'

def skipBlanks : Reading Unit := do let _ ← takeWhile isBlank

def takeNonBlank? : Reading (Option Char) := do
  skipBlanks
  take?

/-- The number ahead, or zero. -/
def takeNumber : Reading Nat := do
  let digits ← takeWhile Char.isDigit
  return (String.ofList digits).toNat?.getD 0

def endCommand : Reading Unit := do
  skipBlanks
  match ← peek? with
  | none | some '\x7d' | some '#' => return
  | some c =>
      let _ ← take?
      if c ≠ '\n' ∧ c ≠ ';' then refuse "extra characters after command"

/-! ## Patterns -/

/-- A bracket expression behind its opening, up to and with its end, and what follows. -/
def bracketText (cs : List Char) : List Char × List Char :=
  let (opening, rest) :=
    match cs with
    | '^' :: ']' :: rest => (['^', ']'], rest)
    | '^' :: rest => (['^'], rest)
    | ']' :: rest => ([']'], rest)
    | cs => ([], cs)
  let rec go : Nat → List Char → List Char → List Char × List Char
    | 0, cs, done => (done.reverse, cs)
    | _ + 1, [], done => (done.reverse, [])
    | _ + 1, ']' :: rest, done => ((']' :: done).reverse, rest)
    | n + 1, '[' :: ':' :: rest, done =>
        let name := rest.takeWhile fun c => c != ']'
        go n (rest.drop (name.length + 1)) (']' :: name.reverse ++ ':' :: '[' :: done)
    | n + 1, '\\' :: 'n' :: rest, done => go n rest ('\n' :: done)
    | n + 1, c :: rest, done => go n rest (c :: done)
  let (body, rest) := go (rest.length + 1) rest []
  (opening ++ body, rest)

/-- The text up to a delimiter, if there is one, and what follows it. -/
def delimitedText (slash : Char) (isPattern : Bool) :
    Nat → List Char → List Char → Option (List Char) × List Char
  | 0, cs, _ => (none, cs)
  | _ + 1, [], _ => (none, [])
  | n + 1, c :: rest, done =>
      if c = slash then (some done.reverse, rest)
      else if c = '\n' then (none, c :: rest)
      else if c = '\\' then
        match rest with
        | [] => (none, [])
        | d :: more =>
            if d = 'n' ∧ isPattern ∧ slash ≠ 'n' then
              delimitedText slash isPattern n more ('\n' :: done)
            else if d = slash ∧ (isPattern ∨ d ≠ '&') then
              delimitedText slash isPattern n more (d :: done)
            else delimitedText slash isPattern n more (d :: '\\' :: done)
      else if c = '[' ∧ isPattern then
        let (inside, more) := bracketText rest
        delimitedText slash isPattern n more (inside.reverse ++ '[' :: done)
      else delimitedText slash isPattern n rest (c :: done)

def takeDelimited? (slash : Char) (isPattern : Bool) : Reading (Option (List Char)) := do
  let cs := (← get).rest
  let (found, rest) := delimitedText slash isPattern (cs.length + 1) cs []
  goTo rest
  return found

/-! ### Escapes -/

/-- The character of an escape by its number, behind the letter for the base. -/
def numbered? (letter : Char) (cs : List Char) : Option (Nat × List Char) :=
  let digits (base most : Nat) : Option (Nat × List Char) :=
    let (n, count) := digitsAhead base most cs
    if count = 0 then none else some (n % 256, cs.drop count)
  match letter with
  | 'd' => digits 10 3
  | 'o' => digits 8 3
  | 'x' => digits 16 2
  | _ => none

def control? (letter : Char) : Option Char :=
  match letter with
  | 'a' => some '\x07'
  | 'f' => some '\x0c'
  | 'n' => some '\n'
  | 'r' => some '\r'
  | 't' => some '\t'
  | 'v' => some '\x0b'
  | _ => none

/-- The character that an escape stands for, behind its backslash, and what follows it. -/
def escape? (cs : List Char) : Reading (Option (Char × List Char)) := do
  match cs with
  | [] => return none
  | 'c' :: '\\' :: rest =>
      if rest.head? ≠ some '\\' then refuse "recursive escaping after \\c not allowed"
      return some ('\x1c', rest.drop 1)
  | 'c' :: d :: rest => return some (Char.ofNat (d.toUpper.toNat ^^^ 64), rest)
  | c :: rest =>
      match control? c, numbered? c rest with
      | some d, _ => return some (d, rest)
      | none, some (n, rest) =>
          let d := Char.ofNat n
          let unicode := (← get).unicode
          return some (if unicode && 128 ≤ n then Text.stray d else d, rest)
      | none, none => return none

/-- Characters that have been put together from octets. -/
def recoded (cs : List Char) : Reading (List Char) := do
  let unicode := (← get).unicode
  return charactersIf unicode (octetsIf unicode cs).toList

/-- A text with its escapes for single characters replaced; other escapes are left, without their
backslash if that is asked for. -/
def unescaped (keepsOthers : Bool) : Nat → List Char → List Char → Reading (List Char)
  | 0, cs, done => return done.reverse ++ cs
  | _ + 1, [], done => return done.reverse
  | n + 1, '\\' :: c :: rest, done => do
      match ← escape? (c :: rest) with
      | some (d, rest) => unescaped keepsOthers n rest (d :: done)
      | none => unescaped keepsOthers n rest (if keepsOthers then c :: '\\' :: done else c :: done)
  | n + 1, c :: rest, done => unescaped keepsOthers n rest (c :: done)

def compilePattern (cs : List Char) (ignoreCase multiline : Bool) : Reading (Option Pattern) := do
  if cs.isEmpty then
    if ignoreCase ∨ multiline then refuse "cannot specify modifiers on empty regexp"
    return none
  let text ← recoded (← unescaped true cs.length cs [])
  let s ← get
  match Regex.ofText s.manner text with
  | .ok r =>
      let program := Regex.compile r { ignoreCase, multiline, wide := s.unicode }
      return some { text, ignoreCase, multiline, program }
  | .error .classSyntax => throw (.plain (Regex.ReadError.message .classSyntax))
  | .error e => refuse e.message

/-! ## Addresses -/

def patternFlags : Nat → Bool → Bool → Reading (Bool × Bool)
  | 0, i, m => return (i, m)
  | n + 1, i, m => do
      skipBlanks
      match ← peek? with
      | some 'I' =>
          let _ ← take?
          patternFlags n true m
      | some 'M' =>
          let _ ← take?
          patternFlags n i true
      | _ => return (i, m)

/-- The address that starts with a character, which has been read. -/
def addressFrom? (c : Char) : Reading (Option RangeEnd) := do
  if c = '/' ∨ c = '\\' then
    let slash ←
      if c = '/' then pure c
      else
        match ← take? with
        | some d => pure d
        | none => refuse "unterminated address regex"
    match ← takeDelimited? slash true with
    | none => refuse "unterminated address regex"
    | some cs =>
        let (i, m) ← patternFlags (← get).rest.length false false
        return some (.address (.pattern (← compilePattern cs i m)))
  else if c.isDigit then
    let more ← takeWhile Char.isDigit
    let n := (String.ofList (c :: more)).toNat?.getD 0
    skipBlanks
    if (← peek?) = some '~' then
      let _ ← take?
      skipBlanks
      let step ← takeNumber
      return some (.address (if step = 0 then .line n else .every n step))
    return some (.address (.line n))
  else if c = '+' ∨ c = '~' then
    skipBlanks
    let n ← takeNumber
    return some (if c = '+' then .count n else .multiple n)
  else if c = '$' then return some (.address .last)
  else return none

def addressAt? (c? : Option Char) : Reading (Option RangeEnd) := do
  match c? with
  | some c => addressFrom? c
  | none => return none

/-- The selector that starts with a character, and the character behind it. -/
def selectorFrom (c? : Option Char) : Reading (Selector × Option Char) := do
  let (first, last, c?) ←
    match ← addressAt? c? with
    | none => pure (none, none, c?)
    | some (.address first) => do
        let c? ← takeNonBlank?
        if c? = some ',' then
          match ← addressAt? (← takeNonBlank?) with
          | none => refuse "unexpected `,'"
          | some last => pure (some first, some last, ← takeNonBlank?)
        else pure (some first, none, c?)
    | some _ => refuse "invalid usage of +N or ~N as first address"
  match first, last with
  | some (.line 0), some (.address (.pattern _)) => pure ()
  | some (.line 0), _ => refuse "invalid usage of line address 0"
  | _, _ => pure ()
  if c? = some '!' then
    let c? ← takeNonBlank?
    if c? = some '!' then refuse "multiple `!'s"
    return ({ first := first, last := last, negated := true }, c?)
  return ({ first := first, last := last }, c?)

/-! ## Texts and names -/

/-- The text of a line with its escapes replaced; a newline behind a backslash does not end it. -/
def textLine : Nat → List Char → List Char → Reading (List Char × List Char)
  | 0, cs, done => return (done.reverse, cs)
  | _ + 1, [], done => return (('\n' :: done).reverse, [])
  | _ + 1, '\n' :: rest, done => return (('\n' :: done).reverse, rest)
  | _ + 1, ['\\'], done => return (('\n' :: done).reverse, [])
  | n + 1, '\\' :: c :: rest, done => do
      match ← escape? (c :: rest) with
      | some (d, rest) => textLine n rest (d :: done)
      | none => textLine n rest (c :: done)
  | n + 1, c :: rest, done => textLine n rest (c :: done)

def takeLine (start cs : List Char) : Reading String := do
  let (text, rest) ← textLine (cs.length + 1) cs []
  goTo rest
  let s ← get
  octets (start ++ text.dropLast ++ [s.delimiter])

def takeText : Reading String := do
  skipBlanks
  match ← peek? with
  | none => refuse "expected \\ after `a', `c' or `i'"
  | some '\\' =>
      let _ ← take?
      let cs := (← get).rest
      match cs.dropWhile isBlank with
      | '\n' :: rest => takeLine [] rest
      | [] =>
          goTo []
          return ""
      | _ => takeLine (cs.take 1) (cs.drop 1)
  | some _ => do
      let cs := (← get).rest
      takeLine [] cs

def takeFileName : Reading String := do
  if (← get).sandboxed then refuse "e/r/w commands disabled in sandbox mode"
  skipBlanks
  let name ← takeWhile (· != '\n')
  if name.isEmpty then refuse "missing filename in r/R/w/W commands"
  octets name

def takeLabel : Reading String := do
  skipBlanks
  let name ← takeWhile fun c => !Text.isWhiteSpace c && c != ';' && c != '\x7d'
  octets name

/-! ## Substitutions -/

/-- A replacement that is being read: the parts so far, last first, and the text behind them. -/
structure ReplacementReader where
  parts : List ReplacementPart := []
  text : List Char := []
  letters : LetterCase := {}
  /-- How letters are written behind the present part. -/
  next : LetterCase := {}

/-- Ends a part. -/
def ReplacementReader.cut (r : ReplacementReader) (text : List Char) (group : Option Nat) :
    ReplacementReader :=
  { r with
    parts := { letters := r.letters, text := text.reverse, group } :: r.parts
    text := [], letters := r.next }

/-- Reads a replacement. -/
def replacementParts : Nat → ReplacementReader → List Char → Reading (List ReplacementPart)
  | 0, r, _ | _ + 1, r, [] =>
      return (if r.text.isEmpty then r.parts else (r.cut r.text none).parts).reverse
  | n + 1, r, '&' :: rest => replacementParts n (r.cut r.text (some 0)) rest
  | n + 1, r, '\\' :: c :: rest => do
      match ← escape? (c :: rest) with
      | some (d, rest) => replacementParts n { r with text := d :: r.text } rest
      | none =>
          let cut := r.cut r.text none
          let all (value : Option Bool) : ReplacementReader :=
            { cut with letters := { all := value }, next := { all := value } }
          let first (value : Bool) : ReplacementReader :=
            { cut with
              next := cut.letters, letters := { cut.letters with first := some value } }
          match c with
          | 'U' => replacementParts n (all (some true)) rest
          | 'L' => replacementParts n (all (some false)) rest
          | 'E' => replacementParts n (all none) rest
          | 'u' => replacementParts n (first true) rest
          | 'l' => replacementParts n (first false) rest
          | c =>
              if c.isDigit then replacementParts n (r.cut r.text (some (c.toNat - 48))) rest
              else replacementParts n (r.cut (c :: r.text) none) rest
  | n + 1, r, c :: rest => replacementParts n { r with text := c :: r.text } rest

/-- The flags of a substitution that have been read. -/
structure SubstitutionFlags where
  everywhere : Bool := false
  prints : Bool := false
  number : Option Nat := none
  ignoreCase : Bool := false
  multiline : Bool := false
  runs : Bool := false
  file : Option String := none

def substitutionFlags : Nat → SubstitutionFlags → Reading SubstitutionFlags
  | 0, f => return f
  | n + 1, f => do
      match ← peek? with
      | none | some '\x7d' | some '#' => return f
      | some c =>
          let _ ← take?
          match c with
          | '\n' | ';' => return f
          | 'g' =>
              if f.everywhere then refuse "multiple `g' options to `s' command"
              substitutionFlags n { f with everywhere := true }
          | 'p' =>
              if f.prints then refuse "multiple `p' options to `s' command"
              substitutionFlags n { f with prints := true }
          | 'i' | 'I' => substitutionFlags n { f with ignoreCase := true }
          | 'm' | 'M' => substitutionFlags n { f with multiline := true }
          | 'e' =>
              if (← get).sandboxed then refuse "e/r/w commands disabled in sandbox mode"
              substitutionFlags n { f with runs := true }
          | 'w' => return { f with file := some (← takeFileName) }
          | c =>
              if c.isDigit then
                if f.number.isSome then refuse "multiple number options to `s' command"
                let more ← takeWhile Char.isDigit
                let number := (String.ofList (c :: more)).toNat?.getD 0
                if number = 0 then refuse "number option to `s' command may not be zero"
                substitutionFlags n { f with number := some number }
              else if isBlank c then substitutionFlags n f
              else refuse "unknown option to `s'"

def takeSubstitution : Reading Substitution := do
  let unterminated : String := "unterminated `s' command"
  let some slash ← take? | refuse unterminated
  let some pattern ← takeDelimited? slash true | refuse unterminated
  let some replacement ← takeDelimited? slash false | refuse unterminated
  let flags ← substitutionFlags ((← get).rest.length + 1) {}
  let compiled ← compilePattern pattern flags.ignoreCase flags.multiline
  let parts ← replacementParts (replacement.length + 1) {} replacement
  for part in parts do
    match part.group, compiled with
    | some n, some p =>
        if p.program.groups < n then
          refuse ("invalid reference \\" ++ toString n ++ " on `s' command's RHS")
    | _, _ => pure ()
  return {
    pattern := compiled, parts, everywhere := flags.everywhere, number := flags.number
    prints := flags.prints, runs := flags.runs, file := flags.file }

def takeTransliteration : Reading (List (Char × Char)) := do
  let unterminated : String := "unterminated `y' command"
  let some slash ← take? | refuse unterminated
  let some before ← takeDelimited? slash false | refuse unterminated
  let some after ← takeDelimited? slash false | refuse unterminated
  let before ← recoded (← unescaped false before.length before [])
  let after ← recoded (← unescaped false after.length after [])
  if before.length ≠ after.length then refuse "strings for `y' command are different lengths"
  endCommand
  return before.zip after

/-! ## Commands -/

/-- The commands that are a single letter. -/
def letterAction? (c : Char) : Option Action :=
  match c with
  | '=' => some .lineNumber
  | 'd' => some .delete
  | 'D' => some .deleteFirst
  | 'F' => some .fileName
  | 'g' => some .fetch
  | 'G' => some .fetchMore
  | 'h' => some .hold
  | 'H' => some .holdMore
  | 'n' => some .next
  | 'N' => some .nextMore
  | 'p' => some .print
  | 'P' => some .printFirst
  | 'x' => some .exchange
  | 'z' => some .clear
  | _ => none

/-- The version that scripts may ask for. -/
def version : List Nat := [4, 9]

/-- A version that a script asks for is not later than this one. -/
def isSupported (asked : String) : Bool :=
  let parts := (Text.splitWhere (· == '.') asked.toList).map String.ofList
  let numbers := parts.filterMap String.toNat?
  numbers.length == parts.length && numbers.length ≤ 3 && (compare numbers version).isLE

def takeAction (selector : Selector) (c : Char) : Reading Action := do
  match letterAction? c with
  | some action =>
      endCommand
      return action
  | none =>
      match c with
      | '\x7b' =>
          modify fun s => { s with blocks := s.origin :: s.blocks }
          return .blockStart
      | '\x7d' =>
          match (← get).blocks with
          | [] => refuse "unexpected `\x7d'"
          | _ :: outer =>
              if selector.first.isSome then refuse "`\x7d' doesn't want any addresses"
              modify fun s => { s with blocks := outer }
              endCommand
              return .blockEnd
      | ':' =>
          if selector.first.isSome then refuse ": doesn't want any addresses"
          let name ← takeLabel
          if name.isEmpty then refuse "\":\" lacks a label"
          return .label name
      | 'b' => return .branch .always (← takeLabel)
      | 't' => return .branch .changed (← takeLabel)
      | 'T' => return .branch .unchanged (← takeLabel)
      | 'a' => return .append (← takeText)
      | 'i' => return .insert (← takeText)
      | 'c' => return .change (← takeText)
      | 'e' =>
          if (← get).sandboxed then refuse "e/r/w commands disabled in sandbox mode"
          skipBlanks
          let command ← takeWhile (· != '\n')
          return .run (← octets command)
      | 'q' | 'Q' =>
          if selector.last.isSome then refuse "command only uses one address"
          skipBlanks
          let digits ← takeWhile Char.isDigit
          endCommand
          return .quit (c == 'Q') (String.ofList digits).toNat?
      | 'l' =>
          skipBlanks
          let digits ← takeWhile Char.isDigit
          endCommand
          return .list (String.ofList digits).toNat?
      | 'r' => return .readFile (← takeFileName)
      | 'R' => return .readLine (← takeFileName)
      | 'w' => return .write (← takeFileName)
      | 'W' => return .writeFirst (← takeFileName)
      | 's' => return .substitute (← takeSubstitution)
      | 'y' => return .transliterate (← takeTransliteration)
      | 'v' =>
          let asked ← takeLabel
          if asked ≠ "" ∧ !isSupported asked then refuse "expected newer version of sed"
          endCommand
          return .nothing
      | c => refuse ("unknown command: `" ++ octetsIf true [c] ++ "'")

/-- Reads the commands of one part of a script. -/
def takeCommands : Nat → List Command → Reading (List Command)
  | 0, done => return done.reverse
  | n + 1, done => do
      let _ ← takeWhile fun c => Text.isWhiteSpace c || c == ';'
      match ← take? with
      | none => return done.reverse
      | some '#' =>
          let s ← get
          let comment ← takeWhile (· != '\n')
          if s.isFirst ∧ s.place = 1 ∧ comment.head? = some 'n' then
            modify fun s => { s with quiet := true }
          takeCommands n done
      | some c =>
          let (selector, c?) ← selectorFrom (some c)
          match c? with
          | none => refuse "missing command"
          | some '#' => refuse "comments don't accept any addresses"
          | some c =>
              let action ← takeAction selector c
              match action with
              | .nothing => takeCommands n done
              | action => takeCommands n (⟨selector, action⟩ :: done)

def takeParts : List (Origin × String) → Reading (List Command)
  | [] => do
      if let some origin := (← get).blocks.head? then
        throw (.misplaced (whereText origin 0 0 ++ "unmatched `\x7b'"))
      return []
  | (origin, text) :: rest => do
      modify fun s => { s with
        rest := charactersIf s.unicode text.toList, origin := origin, place := 0, line := 1 }
      let commands ← takeCommands (text.length + 1) []
      modify fun s => { s with isFirst := false }
      return commands ++ (← takeParts rest)

/-- A script, and whether it asks for lines not to be printed by themselves. -/
def readScript (extended unicode sandboxed : Bool) (delimiter : Char)
    (parts : List (Origin × String)) : Except ScriptError (Array Command × Bool) := do
  let manner : Regex.Manner := { extended := extended, strict := true, checksClasses := true }
  let (commands, s) ← (takeParts parts).run { manner, unicode, delimiter, sandboxed }
  return (commands.toArray, s.quiet)

end CompilerDriver.Utility.Edit
