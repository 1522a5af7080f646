import CompilerDriver.Posix.Shell.Lexer

/-!
# Parsing commands

One complete command is read at a time.  The parts of the parser call each other through a
parameter, which is tied to the parser itself at the end, level by level.
-/

namespace CompilerDriver.Shell

namespace Parser

section Parts

variable (again : Again)

/-! ## Tokens -/

/-- Reads the here-documents that have been announced. -/
def readDocuments : Parser Unit := do
  let announced := (← get).announced
  modify fun s => { s with announced := [] }
  for document in announced do
    scanDocument again document

def skipComment : Nat → Parser Unit
  | 0 => return
  | n + 1 => do
      match ← getChar with
      | none => return
      | some '\n' => unget (some '\n')
      | some _ => skipComment n

/-- The token at hand, before reserved words and aliases are told apart. -/
def rawToken : Nat → Parser Token
  | 0 => return .endOfFile
  | n + 1 => do
      let s ← get
      if s.pushedBack then
        set { s with pushedBack := false }
        return s.token
      let twice (c : Char) (double single : Token) : Parser Token := do
        let next ← getJoined
        if next == some c then return double
        unget next
        return single
      match ← getJoined with
      | none => return .endOfFile
      | some ' ' | some '\t' => rawToken n
      | some '#' =>
          skipComment (← fuel)
          rawToken n
      | some '\n' =>
          countLine
          return .newline
      | some '&' => twice '&' .andAnd .ampersand
      | some '|' => twice '|' .orOr .bar
      | some ';' => twice ';' .endCase .semicolon
      | some '(' => return .openParen
      | some ')' => return .closeParen
      | some c => scanWord again (some c)

/-- The alias that a word stands for, unless it is being expanded already. -/
def aliasOf? (s : ParserState) (word : String) : Option String :=
  let length := s.text.length
  if s.expanding.any fun a => a.1 == word && a.2 < length then none else s.aliases.lookup word

/-- The next token.  What words may turn out to be is settled by the checks, which last for one
token. -/
def readToken : Nat → Checks → Parser Token
  | 0, _ => return .endOfFile
  | n + 1, checks => do
      let mut token ← rawToken again (← fuel)
      modify fun s => { s with token := token }
      let mut checks := checks
      if checks.newlines then
        for _ in List.range (← fuel) do
          if token ≠ .newline then break
          readDocuments again
          setChecks {}
          token ← rawToken again (← fuel)
      checks := checks.or (← get).checks
      setChecks {}
      let s ← get
      if token = .word ∧ !s.quoted then
        if let some word := Word.plain? s.word then
          if checks.reserved ∧ Token.reservedWords.contains word then token := .reserved word
          else if checks.aliases ∧ !s.aliases.isEmpty then
            if let some value := aliasOf? s word then
              set { s with
                text := value.toList ++ s.text
                expanding := (word, s.text.length) :: s.expanding }
              return ← readToken n checks
      modify fun s => { s with token := token }
      return token

def token : Parser Token := do
  readToken again ((← fuel) + 8) (← get).checks

def expect (expected : Token) : Parser Unit := do
  if (← token again) ≠ expected then unexpected (some expected)

/-- A list that has to hold a command. -/
def block : Parser Command := do
  match ← again .block with
  | some c => return c
  | none => return default

/-! ## Redirections -/

/-- The word of a redirection. -/
def readTarget : Parser Redirection := do
  let some redirection := (← get).redirection | return default
  match redirection with
  | .document _ _ _ => setChecks { endMark := true }
  | _ => pure ()
  if (← token again) ≠ .word then unexpected none
  let s ← get
  match redirection with
  | .document descriptor _ _ =>
      let mark := s.word.filterMap fun
        | .char c _ => some c
        | _ => none
      let document : Announced := ⟨s.nextDocument, mark, s.stripTabs, !s.quoted⟩
      set { s with
        nextDocument := s.nextDocument + 1
        announced := s.announced ++ [document] }
      return .document descriptor document.number document.expanded
  | .duplicate descriptor _ => return .duplicate descriptor s.word
  | .file descriptor mode _ => return .file descriptor mode s.word
where
  default : Redirection := .file 0 .read []

def readRedirections : Nat → List Redirection → Parser (List Redirection)
  | 0, found => return found.reverse
  | n + 1, found => do
      if (← token again) = .redirection then readRedirections n ((← readTarget again) :: found)
      else
        pushBack
        return found.reverse

/-! ## Simple commands -/

def specialUtilities : List String :=
  [".", ":", "break", "continue", "eval", "exec", "exit", "export", "local", "readonly", "return",
    "set", "shift", "times", "trap", "unset"]

/-- The words of a simple command so far, last first. -/
structure Simple where
  assignments : List Word := []
  words : List Word := []
  redirections : List Redirection := []

def Simple.finish (s : Simple) (line : Nat) : Command :=
  .simple line s.assignments.reverse s.words.reverse s.redirections.reverse

def simple (line : Nat) : Nat → Checks → Simple → Parser Command
  | 0, _, s => return s.finish line
  | n + 1, checks, s => do
      setChecks checks
      match ← token again with
      | .word =>
          let word := (← get).word
          if checks.aliases ∧ (assignmentName? word).isSome then
            simple line n checks { s with assignments := word :: s.assignments }
          else simple line n {} { s with words := word :: s.words }
      | .redirection =>
          let redirection ← readTarget again
          simple line n checks { s with redirections := redirection :: s.redirections }
      | .openParen =>
          match s with
          | ⟨[], [word], []⟩ =>
              expect again .closeParen
              let name := (Word.plain? word).getD ""
              if !isName name ∨ specialUtilities.contains name then fail "Bad function name"
              setChecks .start
              let line := (← get).line
              match ← again .command with
              | some body => return .function line name body
              | none => return s.finish line
          | _ =>
              pushBack
              return s.finish line
      | _ =>
          pushBack
          return s.finish line

/-! ## Compound commands -/

/-- The alternatives behind the first test of a conditional. -/
def alternatives : Nat → Parser (Option Command)
  | 0 => return none
  | n + 1 => do
      match ← token again with
      | .reserved "elif" =>
          let test ← block again
          expect again (.reserved "then")
          let yes ← block again
          return some (.conditional test yes (← alternatives n))
      | .reserved "else" => return some (← block again)
      | _ =>
          pushBack
          return none

/-- Reads words up to a token that is none, which is left as the last token. -/
def readWords : Nat → List Word → Parser (List Word)
  | 0, words => return words.reverse
  | n + 1, words => do
      if (← token again) = .word then readWords n ((← get).word :: words) else return words.reverse

/-- Reads the patterns of a branch, of which the first is at hand. -/
def readPatterns : Nat → List Word → Parser (List Word)
  | 0, words => return words.reverse
  | n + 1, words => do
      let words := (← get).word :: words
      if (← token again) = .bar then
        let _ ← token again
        readPatterns n words
      else return words.reverse

def branches : Nat → List (List Word × Option Command) →
    Parser (List (List Word × Option Command))
  | 0, found => return found.reverse
  | n + 1, found => do
      setChecks { newlines := true, reserved := true }
      match ← token again with
      | .reserved "esac" => return found.reverse
      | first =>
          if first = .openParen then let _ ← token again
          let patterns ← readPatterns again (← fuel) []
          if (← get).token ≠ .closeParen then unexpected (some .closeParen)
          let body ← again .optional
          let found := (patterns, body) :: found
          setChecks { newlines := true, reserved := true }
          match ← token again with
          | .reserved "esac" => return found.reverse
          | .endCase => branches n found
          | _ => unexpected (some .endCase)

/-- The parameters of a script, as the words of a loop that names none. -/
def allParameters : Word := [.quoteMark, .parameter "@" .plain [], .quoteMark]

def forLoop (line : Nat) : Parser Command := do
  let first ← token again
  let s ← get
  let name := (Word.plain? s.word).getD ""
  if first ≠ .word ∨ s.quoted ∨ !isName name then fail "Bad for loop variable"
  setChecks .start
  let words ←
    if (← token again) = .reserved "in" then do
      let words ← readWords again (← fuel) []
      let last := (← get).token
      if last ≠ .newline ∧ last ≠ .semicolon then unexpected none
      pure words
    else do
      if (← get).token ≠ .semicolon then pushBack
      pure [allParameters]
  setChecks .start
  expect again (.reserved "do")
  let body ← block again
  expect again (.reserved "done")
  return .forEach line name words body

def caseOf (line : Nat) : Parser Command := do
  expect again .word
  let subject := (← get).word
  setChecks .start
  expect again (.reserved "in")
  return .choice line subject (← branches again (← fuel) [])

def loop (untilTrue : Bool) : Parser Command := do
  let test ← block again
  expect again (.reserved "do")
  let body ← block again
  expect again (.reserved "done")
  return .loop untilTrue test body

def conditional : Parser Command := do
  let test ← block again
  expect again (.reserved "then")
  let yes ← block again
  let no ← alternatives again (← fuel)
  expect again (.reserved "fi")
  return .conditional test yes no

def command : Parser Command := do
  let line := (← get).line
  let compound (c : Command) : Parser Command := do
    setChecks { reserved := true, aliases := true }
    match ← readRedirections again (← fuel) [] with
    | [] => return c
    | redirections =>
        match c with
        | .subshell line body _ => return .subshell line body redirections
        | c => return .redirected line c redirections
  match ← token again with
  | .reserved "if" => compound (← conditional again)
  | .reserved "while" => compound (← loop again false)
  | .reserved "until" => compound (← loop again true)
  | .reserved "for" => compound (← forLoop again line)
  | .reserved "case" => compound (← caseOf again line)
  | .openParen =>
      let body ← block again
      expect again .closeParen
      compound (.subshell line body [])
  | .reserved "\x7b" =>
      let body ← block again
      expect again (.reserved "\x7d")
      compound body
  | .word | .redirection =>
      pushBack
      simple again (← get).line (← fuel) { aliases := true } {}
  | _ => unexpected none

/-! ## Lists -/

def stages : Nat → List Command → Parser (List Command)
  | 0, found => return found.reverse
  | n + 1, found => do
      if (← token again) = .bar then
        setChecks .start
        stages n ((← command again) :: found)
      else
        pushBack
        return found.reverse

def pipeline : Parser Command := do
  let negated := (← token again) = .reserved "!"
  if negated then setChecks { reserved := true, aliases := true } else pushBack
  let first ← command again
  let all ← stages again (← fuel) [first]
  let whole :=
    match all with
    | [one] => one
    | all => .pipeline all false
  return if negated then .negation whole else whole

def chain : Nat → Command → Parser Command
  | 0, c => return c
  | n + 1, c => do
      match ← token again with
      | .andAnd =>
          setChecks .start
          chain n (.conjunction c (← pipeline again))
      | .orOr =>
          setChecks .start
          chain n (.disjunction c (← pipeline again))
      | _ =>
          pushBack
          return c

def inBackground : Command → Command
  | .pipeline stages _ => .pipeline stages true
  | .redirected line body redirections => .background line body redirections
  | c => .background 0 c []

def joined : Option Command → Command → Command
  | none, c => c
  | some before, c => .sequence before c

/-- A list of commands.  At the top of a script a newline ends it; elsewhere it goes on until a
token that ends lists. -/
def list (goal : Goal) : Nat → Bool → Option Command → Parser (Option Command)
  | 0, _, found => return found
  | n + 1, mayEnd, found => do
      let atTop := goal = .line
      setChecks { newlines := !atTop, reserved := true, aliases := true }
      let first ← token again
      if first = .newline then
        readDocuments again
        return found
      if first = .endOfFile then
        readDocuments again
        pushBack
        modify fun s => { s with token := .endOfFile }
        return found
      pushBack
      if mayEnd ∧ first.endsList then return found
      let c ← pipeline again
      let c ← chain again (← fuel) c
      let separator ← token again
      let found := joined found (if separator = .ampersand then inBackground c else c)
      match separator with
      | .endOfFile =>
          readDocuments again
          pushBack
          modify fun s => { s with token := .endOfFile }
          return some found
      | .newline =>
          pushBack
          list goal n (!atTop) (some found)
      | .ampersand | .semicolon => list goal n (!atTop) (some found)
      | _ =>
          if atTop then unexpected none
          pushBack
          return some found

end Parts

/-- The deepest nesting of commands and substitutions. -/
def maxNesting : Nat := 400

def reach : Nat → Again
  | 0, _ => fail "Too deeply nested"
  | n + 1, goal => do
      let again := reach n
      let list (goal : Goal) (mayEnd : Bool) : Parser (Option Command) := do
        list again goal (← fuel) mayEnd none
      match goal with
      | .command => return some (← command again)
      | .line => list .line false
      | .block => list .block false
      | .optional => list .optional true
      | .oldSubstitution =>
          let body ← list .optional true
          readDocuments again
          return body
      | .substitution =>
          let announced := (← get).announced
          modify fun s => { s with announced := [] }
          let body ← list .optional true
          expect again .closeParen
          let s ← get
          set { s with text := [] }
          readDocuments again
          modify fun t => { t with text := s.text, line := s.line, announced := announced }
          return body

/-- The next complete command of a script, which is missing from a blank line and at the end. -/
def next : Parser (Option Command) := do
  modify fun s => { s with pushedBack := false, checks := {}, announced := [] }
  reach maxNesting .line

/-- A whole text as it stands between double quotes. -/
def quotedText : Parser Word := do
  let document : Announced := ⟨0, ['\x00'], false, true⟩
  scanDocument (reach maxNesting) document
  return ((← get).documents.lookup document.number).getD []

end Parser

end CompilerDriver.Shell
