import CompilerDriver.Posix.Shell.Token

/-!
# Reading words

A word is read character by character under a stack of contexts: outside quotes, between quotes of
either kind, or in an arithmetic expression.  What is read is a flat list of marks, which is then
folded into pieces.
-/

namespace CompilerDriver.Shell

/-- What the parser calls itself for: a list of commands or a single one. -/
inductive Goal where
  /-- A list that newlines end, as at the top of a script. -/
  | line
  /-- A list of at least one command. -/
  | block
  /-- A list that may be empty. -/
  | optional
  | command
  /-- An optional list and the parenthesis that closes it. -/
  | substitution
  /-- An optional list that is the whole text. -/
  | oldSubstitution
  deriving DecidableEq, Repr

/-- The parser as its own parts see it. -/
abbrev Again := Goal → Parser (Option Command)

/-! ## Marks -/

inductive Mark where
  | char (c : Char) (escaped : Bool)
  | quoteMark
  | openParameter (name : String) (op : ParameterOp)
  | openArithmetic
  | close
  | substitution (body : Option Command)
  deriving Inhabited

/-- Something that is open while marks are folded, with the pieces before it, last first. -/
inductive Opened where
  | parameter (name : String) (op : ParameterOp) (before : List Piece)
  | arithmetic (before : List Piece)

/-- Folds marks into pieces.  The pieces at hand are last first. -/
def foldMarks : List Mark → List Opened → List Piece → Word
  | [], [], pieces => pieces.reverse
  | [], .parameter name op before :: opened, pieces =>
      foldMarks [] opened (.parameter name op pieces.reverse :: before)
  | [], .arithmetic before :: opened, pieces =>
      foldMarks [] opened (.arithmetic pieces.reverse :: before)
  | .char c escaped :: rest, opened, pieces => foldMarks rest opened (.char c escaped :: pieces)
  | .quoteMark :: rest, opened, pieces => foldMarks rest opened (.quoteMark :: pieces)
  | .substitution body :: rest, opened, pieces =>
      foldMarks rest opened (.substitution body :: pieces)
  | .openParameter name op :: rest, opened, pieces =>
      foldMarks rest (.parameter name op pieces :: opened) []
  | .openArithmetic :: rest, opened, pieces => foldMarks rest (.arithmetic pieces :: opened) []
  | .close :: rest, .parameter name op before :: opened, pieces =>
      foldMarks rest opened (.parameter name op pieces.reverse :: before)
  | .close :: rest, .arithmetic before :: opened, pieces =>
      foldMarks rest opened (.arithmetic pieces.reverse :: before)
  | .close :: rest, [], pieces => foldMarks rest [] pieces
termination_by marks opened => (marks.length, opened.length)

/-! ## Contexts -/

inductive Context where
  | base
  | double
  | single
  | arithmetic
  deriving DecidableEq, Repr, Inhabited

inductive CharClass where
  | newline
  | word
  /-- A character that has a meaning in patterns and is quoted here. -/
  | control
  | backslash
  | singleQuote
  | doubleQuote
  | endQuote
  | backquote
  | dollar
  | closeBrace
  | openParen
  | closeParen
  | endOfFile
  | special
  deriving DecidableEq, Repr

def patternChars : List Char := "!*?[=~:/-]".toList

def Context.classOf (context : Context) : Option Char → CharClass
  | none => .endOfFile
  | some c =>
      match context with
      | .single =>
          if c = '\n' then .newline
          else if c = '\'' then .endQuote
          else if c = '\\' ∨ c ∈ patternChars then .control
          else .word
      | _ =>
          match c with
          | '\n' => .newline
          | '\\' => .backslash
          | '`' => .backquote
          | '$' => .dollar
          | '}' => .closeBrace
          | '"' =>
              match context with
              | .base => .doubleQuote
              | .double => .endQuote
              | _ => .word
          | '\'' => if context = .base then .singleQuote else .word
          | '(' =>
              match context with
              | .base => .special
              | .arithmetic => .openParen
              | _ => .word
          | ')' =>
              match context with
              | .base => .special
              | .arithmetic => .closeParen
              | _ => .word
          | _ =>
              if context = .base then
                if c ∈ "<>;&| \t".toList then .special else .word
              else if context = .double ∧ c ∈ patternChars then .control
              else .word

structure Level where
  context : Context
  doubleQuoted : Bool := false
  innerQuoted : Bool := false
  /-- The parameter expansions that are open here, and those of them between quotes. -/
  parameters : Nat := 0
  quotedParameters : Nat := 0
  parens : Nat := 0
  /-- A parameter expansion opened this level. -/
  ofParameter : Bool := false
  deriving Repr, Inhabited

/-- The marks so far, last first, the levels, innermost first, and whether anything is quoted. -/
structure Scan where
  marks : List Mark := []
  level : Level
  outer : List Level := []
  quoted : Bool := false
  deriving Inhabited

namespace Scan

def put (s : Scan) (c : Char) (escaped : Bool) : Scan :=
  { s with marks := .char c escaped :: s.marks }

def mark (s : Scan) (m : Mark) : Scan := { s with marks := m :: s.marks }

def push (s : Scan) (level : Level) : Scan :=
  { s with level := level, outer := s.level :: s.outer }

def pop (s : Scan) : Scan :=
  match s.outer with
  | [] => s
  | level :: outer => { s with level := level, outer := outer }

/-- A quote mark, which a here-document does not have. -/
def quoteMark (s : Scan) (document : Bool) : Scan :=
  if document then s else s.mark .quoteMark

def toggleInner (s : Scan) (document : Bool) : Scan :=
  let level := s.level
  let s :=
    if level.parameters > 0 then
      { s with level := { level with innerQuoted := !level.innerQuoted } }
    else s
  s.quoteMark document

end Scan

namespace Parser

/-! ## Expansions inside words -/

/-- Reads characters while they satisfy a predicate, and the one after them. -/
def takeName (p : Char → Bool) : Nat → List Char → Option Char →
    Parser (List Char × Option Char)
  | 0, name, c => return (name.reverse, c)
  | n + 1, name, some c =>
      if p c then do takeName p n (c :: name) (← getJoined) else return (name.reverse, some c)
  | _ + 1, name, none => return (name.reverse, none)

def isSpecialParameter (c : Char) : Bool := c.isDigit || "!#$*-?@".toList.contains c

def operatorOf (orEmpty : Bool) : Char → ParameterOp
  | '-' => .default orEmpty
  | '+' => .alternative orEmpty
  | '?' => .complain orEmpty
  | '=' => .assign orEmpty
  | '}' => if orEmpty then .malformed else .plain
  | _ => .malformed

/-- The operator behind the name of a parameter in braces; `c` is the character behind the name. -/
def readOperator (c : Option Char) : Parser ParameterOp :=
  match c with
  | none => return .malformed
  | some ':' => do
      match ← getJoined with
      | none => return .malformed
      | some c => return operatorOf true c
  | some c =>
      if c = '%' ∨ c = '#' then do
        let next ← getJoined
        let longest := next == some c
        if !longest then unget next
        return if c = '#' then .trimStart longest else .trimEnd longest
      else return operatorOf false c

/-- The name and the operator of a parameter in braces. -/
def readBraced : Parser (String × ParameterOp) := do
  let named (c : Option Char) : Parser (Option (List Char × Option Char)) := do
    match c with
    | some c =>
        if isNameStart c then return some (← takeName isNameChar (← fuel) [] (some c))
        else if c.isDigit then return some (← takeName Char.isDigit (← fuel) [] (some c))
        else return none
    | none => return none
  let c ← getJoined
  match ← named c with
  | some (name, after) => return (String.ofList name, ← readOperator after)
  | none =>
      match c with
      | none | some '}' =>
          unget c
          return ("", .malformed)
      | some cc =>
          let next ← getJoined
          if cc = '#' then
            match ← named next with
            | some (name, after) =>
                unget after
                return (String.ofList name, if after == some '}' then .length else .malformed)
            | none =>
                let after ← getJoined
                if next ≠ some '}' ∧ after = some '}' then
                  match next with
                  | some n =>
                      unget after
                      return if isSpecialParameter n then (String.singleton n, .length)
                        else ("", .malformed)
                  | none => return ("", .malformed)
                else
                  unget after
                  return ("#", ← readOperator next)
          else if isSpecialParameter cc then
            return (String.singleton cc, ← readOperator next)
          else
            unget next
            return ("", .malformed)

/-- The text of an old-style substitution, up to its closing mark. -/
def readBackquoted (doubleQuoted : Bool) : Nat → List Char → Parser (List Char)
  | 0, _ => fail "EOF in backquote substitution"
  | n + 1, text => do
      match ← getJoined with
      | none => fail "EOF in backquote substitution"
      | some '`' => return text.reverse
      | some '\\' =>
          match ← getChar with
          | none => readBackquoted doubleQuoted n ('\\' :: text)
          | some c =>
              let special := c = '\\' ∨ c = '`' ∨ c = '$' ∨ (doubleQuoted ∧ c = '"')
              readBackquoted doubleQuoted n (if special then c :: text else c :: '\\' :: text)
      | some c => do
          if c = '\n' then countLine
          readBackquoted doubleQuoted n (c :: text)

/-! ## Here-documents -/

/-- The text behind the end mark of a here-document, if a line is that mark, and whether a newline
ends it. -/
def afterEndMark? (mark : List Char) (line : List Char) : Option (List Char × Bool) :=
  if mark.isPrefixOf line then
    match line.drop mark.length with
    | [] => some ([], false)
    | '\n' :: rest => some (rest, true)
    | _ => none
  else none

/-- At the start of a line of a here-document: drops the tabs and the end mark, and tells whether
the document ends here. -/
def endsDocument (document : Announced) : Parser Bool := do
  if document.stripTabs then
    modify fun s => { s with text := s.text.dropWhile (· == '\t') }
  match afterEndMark? document.endMark (← get).text with
  | none => return false
  | some (rest, counted) =>
      modify fun s => { s with text := rest, line := s.line + if counted then 1 else 0 }
      return true

/-! ## Words -/

/-- Runs a parser on another text in place of the rest of the script. -/
def withText {α : Type} (text : List Char) (line : Nat) (act : Parser α) : Parser α := do
  let before ← get
  set { before with text := text, line := line, announced := [], pushedBack := false }
  let a ← act
  modify fun s => { s with
    text := before.text, line := before.line, announced := before.announced, pushedBack := false }
  return a

section Scanning

variable (again : Again)

def parseOldSubstitution (doubleQuoted : Bool) : Parser (Option Command) := do
  let text ← readBackquoted doubleQuoted (← fuel) []
  withText text 1 (again .oldSubstitution)

/-- What a dollar sign starts. -/
def scanDollar (s : Scan) : Parser Scan := do
  if (← get).checks.endMark then return s.put '$' false
  match ← getJoined with
  | some '(' =>
      let next ← getJoined
      if next == some '(' then
        return (s.push { context := .arithmetic, doubleQuoted := true }).mark .openArithmetic
      unget next
      return s.mark (.substitution (← again .substitution))
  | some '{' =>
      let (name, op) ← readBraced
      let s := s.mark (.openParameter name op)
      if op == .plain then return s.mark .close
      let trims :=
        match op with
        | .trimStart _ | .trimEnd _ => true
        | _ => false
      let context :=
        if trims then .base
        else if s.level.context = .arithmetic then .double
        else s.level.context
      let s :=
        if context ≠ s.level.context ∨ s.level.innerQuoted then
          s.push { context := context, ofParameter := true, doubleQuoted := context != .base }
        else s
      let level := s.level
      return { s with level := { level with
        parameters := level.parameters + 1
        quotedParameters := level.quotedParameters + if level.doubleQuoted then 1 else 0 } }
  | some c =>
      if isNameStart c then
        let (name, after) ← takeName isNameChar (← fuel) [] (some c)
        unget after
        return (s.mark (.openParameter (String.ofList name) .plain)).mark .close
      else if isSpecialParameter c then
        return (s.mark (.openParameter (String.singleton c) .plain)).mark .close
      else
        unget (some c)
        return s.put '$' false
  | none => return s.put '$' false

/-- A backslash and the character behind it. -/
def scanBackslash (document : Bool) (s : Scan) : Parser Scan := do
  match ← getChar with
  | none => return s.put '\\' true
  | some c =>
      let level := s.level
      let kept := level.doubleQuoted && c != '\\' && c != '`' && c != '$' &&
        (c != '"' || (document && level.parameters == 0)) &&
        (c != '}' || level.parameters == 0)
      let s := if kept then s.put '\\' true else s
      return { s.put c true with quoted := true }

def scanEndQuote (document : Bool) (c : Char) (s : Scan) : Scan :=
  let level := s.level
  if document && level.parameters == 0 then s.put c false
  else
    let level :=
      if level.quotedParameters = 0 then { level with context := .base, doubleQuoted := false }
      else level
    let s := { s with level := level, quoted := true }
    if c = '"' then s.toggleInner document else s.quoteMark document

def scanCloseBrace (s : Scan) : Scan :=
  let level := s.level
  if !level.innerQuoted && level.parameters > 0 then
    let left := level.parameters - 1
    let level := { level with parameters := left }
    if left = 0 ∧ level.ofParameter then (s.pop).mark .close
    else
      { s with level := { level with quotedParameters := level.quotedParameters - 1 } }.mark .close
  else s.put '}' false

/-- What a character does to the scan, or nothing if the word ends before it. -/
def scanChar (document : Bool) (c : Option Char) (s : Scan) :
    Parser (Option Scan) :=
  match s.level.context.classOf c, c with
  | .newline, _ => do
      if s.level.context = .base then return none
      countLine
      return some (s.put '\n' false)
  | .word, some c => return some (s.put c false)
  | .control, some c => return some (s.put c (!document || s.level.doubleQuoted))
  | .backslash, _ => do return some (← scanBackslash document s)
  | .singleQuote, _ =>
      return some ({ s with level := { s.level with context := .single } }.quoteMark document)
  | .doubleQuote, _ =>
      return some
        ({ s with level := { s.level with context := .double, doubleQuoted := true } }.toggleInner
          document)
  | .endQuote, some c => return some (scanEndQuote document c s)
  | .dollar, _ => do return some (← scanDollar again s)
  | .closeBrace, _ => return some (scanCloseBrace s)
  | .openParen, some c =>
      return some ({ s with level := { s.level with parens := s.level.parens + 1 } }.put c false)
  | .closeParen, some c => do
      if s.level.parens > 0 then
        return some ({ s with level := { s.level with parens := s.level.parens - 1 } }.put c false)
      let next ← getJoined
      if next == some ')' then return some ((s.pop).mark .close)
      unget next
      return some (s.put c false)
  | .backquote, _ => do
      let body ← parseOldSubstitution again s.level.doubleQuoted
      return some (s.mark (.substitution body))
  | .special, some c => return if s.level.parameters = 0 then none else some (s.put c false)
  | _, _ => return none

/-- Reads to the end of a word or a document.  Returns the character after it, too. -/
def scanAll (document : Option Announced) :
    Nat → Option Char → Scan → Parser (Scan × Option Char)
  | 0, c, s => return (s, c)
  | n + 1, c, s => do
      let inDocument := document.isSome
      let startsLine := c == some '\n' && s.level.context != .base
      match ← scanChar again inDocument c s with
      | none => return (s, c)
      | some s =>
          let ended ←
            match document with
            | some d => if startsLine then endsDocument d else pure false
            | none => pure false
          if ended then return (s, none)
          let next ← if s.level.context = .single then getChar else getJoined
          scanAll document n next s

/-- The redirection that an operator stands for, up to its word. -/
def scanRedirection (operator : Char) (digit : Option Char) : Parser Unit := do
  let number := (digit.map fun d => d.toNat - 48).getD (if operator = '>' then 1 else 0)
  let next ← getJoined
  let redirection : Redirection ←
    match operator, next with
    | '>', some '>' => pure (.file number .append [])
    | '>', some '|' => pure (.file number .clobber [])
    | '>', some '&' => pure (.duplicate number [])
    | '<', some '<' => do
        let dash ← getJoined
        if dash ≠ some '-' then unget dash
        modify fun s => { s with stripTabs := dash == some '-' }
        pure (.document number 0 false)
    | '<', some '&' => pure (.duplicate number [])
    | '<', some '>' => pure (.file number .readWrite [])
    | '>', _ => do
        unget next
        pure (.file number .write [])
    | _, _ => do
        unget next
        pure (.file number .read [])
  modify fun s => { s with redirection := some redirection }

/-- Reads a word, or a redirection operator with the digit before it. -/
def scanWord (first : Option Char) : Parser Token := do
  let (s, after) ← scanAll again none ((← fuel) + 1) first
    { level := { context := .base } }
  if s.level.context = .arithmetic then fail "Missing '))'"
  if s.level.context ≠ .base then fail "Unterminated quoted string"
  if s.level.parameters ≠ 0 then fail "Missing '\x7d'"
  let digit : Option (Option Char) :=
    match s.marks with
    | [] => some none
    | [.char c false] => if c.isDigit then some (some c) else none
    | _ => none
  match after, digit with
  | some c, some digit =>
      if (c = '>' ∨ c = '<') ∧ !s.quoted then
        scanRedirection c digit
        return .redirection
  | _, _ => pure ()
  unget after
  modify fun t => { t with word := foldMarks s.marks.reverse [] [], quoted := s.quoted }
  return .word

/-- Reads a here-document that has been announced. -/
def scanDocument (document : Announced) : Parser Unit := do
  let context : Context := if document.expanded then .double else .single
  let level : Level := { context := context, doubleQuoted := document.expanded }
  let s ←
    if ← endsDocument document then pure { level := level }
    else do
      let first ← if document.expanded then getJoined else getChar
      let (s, _) ← scanAll again (some document) ((← fuel) + 1) first
        { level := level }
      pure s
  let word := foldMarks s.marks.reverse [] []
  modify fun t => { t with documents := (document.number, word) :: t.documents }

end Scanning

end Parser

end CompilerDriver.Shell
