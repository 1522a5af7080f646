import CompilerDriver.Posix.Utility.Finding.Expression

/-!
# Formats for what is found

A format is a text with escapes and directives.
-/

namespace CompilerDriver.Utility.Finding

open Text (Directive)

/-- The pieces of a format, last first, with what is odd about it. -/
structure Reading where
  pieces : List Piece := []
  warnings : List String := []

namespace Reading

def push (r : Reading) (p : Piece) : Reading := { r with pieces := p :: r.pieces }

def pushText (r : Reading) (cs : List Char) : Reading := r.push (.text (String.ofList cs))

def warn (r : Reading) (message : String) : Reading :=
  { r with warnings := ("warning: " ++ message) :: r.warnings }

end Reading

/-- The letters of directives that take no other letter. -/
def valueLetters : List Char := "bdDfFgGhHiklmMnpPsSuUyYZ".toList

/-- The letters of directives for times: with a format of its own, and in letters that come with
one more. -/
def wholeTimeLetters : List Char := "act".toList
def timeLetters : List Char := "ABCT".toList

def isOctalDigit (c : Char) : Bool := '0' ≤ c && c ≤ '7'

def escapedChar? : Char → Option Char
  | 'a' => some '\x07'
  | 'b' => some '\x08'
  | 'f' => some '\x0c'
  | 'n' => some '\n'
  | 'r' => some '\r'
  | 't' => some '\t'
  | 'v' => some '\x0b'
  | '\\' => some '\\'
  | _ => none

/-- Reads a format, or tells what is wrong at its end. -/
def readPieces : Nat → Reading → List Char → Except String Reading
  | 0, r, _ | _, r, [] => .ok r
  | n + 1, r, '\\' :: cs =>
      match cs with
      | [] =>
          let r := r.warn ("escape " ++ "`\\' followed by nothing at all")
          .ok (r.pushText ['\\'])
      | c :: rest =>
          if isOctalDigit c then
            let digits := (cs.take 3).takeWhile isOctalDigit
            let value := digits.foldl (fun n d => n * 8 + (d.toNat - 48)) 0
            readPieces n (r.pushText [Char.ofNat (value % 256)]) (cs.drop digits.length)
          else if c = 'c' then .ok (r.push .stop)
          else
            match escapedChar? c with
            | some e => readPieces n (r.pushText [e]) rest
            | none =>
                let warned := r.warn ("unrecognized escape " ++ "`\\" ++ String.singleton c ++ "'")
                readPieces n (warned.pushText ['\\', c]) rest
  | n + 1, r, '%' :: cs =>
      match cs with
      | [] => .error "error: % at end of format string"
      | '%' :: rest => readPieces n (r.pushText ['%']) rest
      | cs =>
          let (d, rest) := Directive.readFlags cs {}
          let width := rest.takeWhile Char.isDigit
          let rest := rest.drop width.length
          let (precision, rest) := match rest with
            | '.' :: more =>
                let digits := more.takeWhile Char.isDigit
                (some digits, more.drop digits.length)
            | rest => (none, rest)
          let value (digits : List Char) : Nat :=
            digits.foldl (fun n c => n * 10 + (c.toNat - 48)) 0
          let d := { d with width := value width, precision := precision.map value }
          let read := '%' :: cs.take (cs.length - rest.length)
          match rest with
          | [] => .error ("error: " ++ String.ofList read ++ " at end of format string")
          | c :: rest =>
              if valueLetters.contains c then readPieces n (r.push (.value d c)) rest
              else if wholeTimeLetters.contains c then readPieces n (r.push (.time d ' ')) rest
              else if timeLetters.contains c then
                match rest with
                | [] =>
                    let shown := read ++ [c]
                    let warned := r.warn ("format directive " ++ "`" ++ String.ofList shown ++
                      "' should be followed by another character")
                    .ok (warned.pushText shown)
                | k :: rest => readPieces n (r.push (.time d k)) rest
              else
                let warned := r.warn ("unrecognized format directive " ++ "`%" ++
                  String.singleton c ++ "'")
                readPieces n (warned.pushText (read ++ [c])) rest
  | n + 1, r, c :: cs =>
      let plain := cs.takeWhile fun c => c != '%' && c != '\\'
      readPieces n (r.pushText (c :: plain)) (cs.drop plain.length)

/-- The pieces of a format and what is odd about it, or what is wrong with it. -/
def readFormat (text : String) : Except String (List Piece × List String) :=
  (readPieces (text.length + 1) {} text.toList).map fun r =>
    (r.pieces.reverse, r.warnings.reverse)

end CompilerDriver.Utility.Finding
