import CompilerDriver.Posix.Shell.Command

/-!
# Tokens and the state of the parser

The parser reads a script as octets, one complete command at a time, and keeps the number of the
line that it has reached.  Here-documents are read at the end of the line that announces them and
are kept apart from the commands, under numbers.
-/

namespace CompilerDriver.Shell

inductive Token where
  | endOfFile
  | newline
  | semicolon
  | ampersand
  | andAnd
  | orOr
  | bar
  | openParen
  | closeParen
  | endCase
  | redirection
  | word
  | reserved (text : String)
  deriving DecidableEq, Repr, Inhabited

namespace Token

def reservedWords : List String :=
  ["!", "case", "do", "done", "elif", "else", "esac", "fi", "for", "if", "in", "then", "until",
    "while", "\x7b", "\x7d"]

def quoted (s : String) : String := "\"" ++ s ++ "\""

/-- The name of a token in a complaint. -/
def name : Token → String
  | endOfFile => "end of file"
  | newline => "newline"
  | semicolon => quoted ";"
  | ampersand => quoted "&"
  | andAnd => quoted "&&"
  | orOr => quoted "||"
  | bar => quoted "|"
  | openParen => quoted "("
  | closeParen => quoted ")"
  | endCase => quoted ";;"
  | redirection => "redirection"
  | word => "word"
  | reserved text => quoted text

/-- The tokens that end a list of commands. -/
def endsList : Token → Bool
  | endOfFile | closeParen | endCase => true
  | reserved text =>
      ["do", "done", "elif", "else", "esac", "fi", "then", "\x7d"].contains text
  | _ => false

end Token

/-- Which words a token may turn out to be. -/
structure Checks where
  newlines : Bool := false
  reserved : Bool := false
  aliases : Bool := false
  /-- The word ends a here-document, so that nothing in it is expanded. -/
  endMark : Bool := false
  deriving DecidableEq, Repr, Inhabited

def Checks.or (a b : Checks) : Checks where
  newlines := a.newlines || b.newlines
  reserved := a.reserved || b.reserved
  aliases := a.aliases || b.aliases
  endMark := a.endMark || b.endMark

def Checks.start : Checks := { newlines := true, reserved := true, aliases := true }

/-- A here-document that has been announced. -/
structure Announced where
  number : Nat
  endMark : List Char
  stripTabs : Bool
  expanded : Bool
  deriving Repr, Inhabited

structure ParserState where
  text : List Char
  line : Nat
  checks : Checks := {}
  pushedBack : Bool := false
  token : Token := .newline
  word : Word := []
  /-- Some part of the word is quoted. -/
  quoted : Bool := false
  redirection : Option Redirection := none
  stripTabs : Bool := false
  announced : List Announced := []
  documents : List (Nat × Word) := []
  nextDocument : Nat := 0
  aliases : List (String × String) := []
  /-- The aliases under expansion, each with the length of the text behind it. -/
  expanding : List (String × Nat) := []
  deriving Inhabited

structure ParseError where
  line : Nat
  message : String
  deriving DecidableEq, Repr

abbrev Parser := EStateM ParseError ParserState

namespace Parser

def fail {α : Type} (message : String) : Parser α := do
  throw ⟨(← get).line, "Syntax error: " ++ message⟩

def unexpected {α : Type} (expected : Option Token) : Parser α := do
  let found := (← get).token.name ++ " unexpected"
  match expected with
  | some token => fail (found ++ " (expecting " ++ token.name ++ ")")
  | none => fail found

def getChar : Parser (Option Char) :=
  modifyGet fun s =>
    match s.text with
    | [] => (none, s)
    | c :: rest => (some c, { s with text := rest })

/-- The text without the newlines after backslashes that it starts with, and their number. -/
def skipJoins : List Char → Nat → List Char × Nat
  | '\\' :: '\n' :: rest, n => skipJoins rest (n + 1)
  | text, n => (text, n)

/-- The next character that is not part of a joined line end. -/
def getJoined : Parser (Option Char) := do
  modify fun s =>
    match s.text with
    | '\\' :: '\n' :: _ =>
        let (text, n) := skipJoins s.text 0
        { s with text := text, line := s.line + n }
    | _ => s
  getChar

def unget : Option Char → Parser Unit
  | none => pure ()
  | some c => modify fun s => { s with text := c :: s.text }

def countLine : Parser Unit := modify fun s => { s with line := s.line + 1 }

def pushBack : Parser Unit := modify fun s => { s with pushedBack := true }

def setChecks (checks : Checks) : Parser Unit := modify fun s => { s with checks := checks }

/-- A bound on the number of steps over the rest of the text. -/
def fuel : Parser Nat := do return (← get).text.length + 2

end Parser

end CompilerDriver.Shell
