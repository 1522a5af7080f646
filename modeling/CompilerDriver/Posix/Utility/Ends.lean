import CompilerDriver.Posix.Utility.Input
import CompilerDriver.Posix.Utility.Quantity

/-!
# Beginnings and ends

`head` and `tail` print a part of each file, counted in lines or in bytes.
-/

namespace CompilerDriver.Utility

open Kernel

/-- How much of a file is asked for, and how. -/
structure Portion where
  bytes : Bool := false
  count : Nat := 10
  /-- The count is of what is left out: at the end for `head`, at the start for `tail`. -/
  others : Bool := false
  separator : Char := '\n'
  header : Option Bool := none
  follows : Bool := false
  pause : Nat := 1000000

/-- The suffixes of counts. -/
def countLetters : String := "bkKmMGTPEZY0"

def countWhat (bytes : Bool) : String := "invalid number of " ++ if bytes then "bytes" else "lines"

/-! ## Inputs with names above them -/

def withHeaders (call : Call) (p : Portion) (paths : List String)
    (f : String → Input → Act (Except SystemError Unit)) : Act Nat := do
  let shows := p.header.getD (decide (paths.length > 1))
  let rec go : List String → Bool → Nat → Act Nat
    | [], _, status => return status
    | path :: rest, isFirst, status => do
        let name := if path = "-" then "standard input" else path
        match ← Input.openPath path with
        | .error e =>
            complainOf call ("cannot open " ++ quoteAlways path ++ " for reading") e
            go rest isFirst 1
        | .ok i =>
            if shows then
              Act.print ((if isFirst then "" else "\n") ++ "==> " ++ name ++ " <==\n")
            let result ← f name i
            i.close
            match result with
            | .ok () => go rest false status
            | .error e =>
                complainOf call ("error reading " ++ quoteAlways name) e
                go rest false 1
  go paths true 0

/-- A text without so many bytes or lines at its end. -/
def dropEnd (p : Portion) (s : String) : String :=
  if p.bytes then String.ofList (s.toList.take (s.length - p.count))
  else
    let pieces := wholePieces p.separator s
    String.join (pieces.take (pieces.length - p.count))

def takeEnd (p : Portion) (s : String) : String :=
  if p.bytes then String.ofList (s.toList.drop (s.length - p.count))
  else
    let pieces := wholePieces p.separator s
    String.join (pieces.drop (pieces.length - p.count))

def dropStart (p : Portion) (s : String) : String :=
  if p.bytes then String.ofList (s.toList.drop p.count)
  else String.join ((wholePieces p.separator s).drop p.count)

/-- Reads an open file as a whole and prints something made of it. -/
def printAll (i : Input) (f : String → String) : Act (Except SystemError Unit) := do
  match ← Act.readAll i.descriptor with
  | .error e => return .error e
  | .ok text =>
      Act.print (f text)
      return .ok ()

/-! ## Beginnings -/

/-- The block in which `head` reads. -/
def headBlock : Nat := 8192

def copyBytes (i : Input) : Nat → Nat → Act (Except SystemError Unit)
  | 0, _ => return .ok ()
  | _ + 1, 0 => return .ok ()
  | n + 1, left => do
      match ← Act.readBytes i.descriptor (min left headBlock) with
      | .error e => return .error e
      | .ok bytes =>
          if bytes.isEmpty then return .ok ()
          Act.print (Text.octetsOfArray bytes)
          copyBytes i n (left - bytes.size)

/-- The characters up to the end of so many lines, how many lines are still wanted, and what
follows. -/
def takeLines (separator : Char) : Nat → List Char → List Char → List Char × Nat × List Char
  | 0, cs, done => (done.reverse, 0, cs)
  | n + 1, [], done => (done.reverse, n + 1, [])
  | n + 1, c :: cs, done =>
      takeLines separator (if c = separator then n else n + 1) cs (c :: done)

def copyLines (separator : Char) (i : Input) : Nat → Nat → Act (Except SystemError Unit)
  | 0, _ => return .ok ()
  | _ + 1, 0 => return .ok ()
  | n + 1, left => do
      match ← { i with block := headBlock }.fill with
      | .error e => return .error e
      | .ok (false, _) => return .ok ()
      | .ok (true, i) =>
          let (taken, left, rest) := takeLines separator left i.ahead []
          Act.print (String.ofList taken)
          if left = 0 then
            ({ i with ahead := rest } : Input).giveBack
            return .ok ()
          copyLines separator { i with ahead := [] } n left

/-- What letters behind the count of an old form of call say. -/
def oldHeadLetters (call : Call) (digits : String) :
    List Char → Bool → String → Portion → Act Portion
  | [], bytes, suffix, p => do
      let count ← quantityOf call 1 countLetters (countWhat bytes) (digits ++ suffix)
      return { p with bytes, count }
  | c :: rest, bytes, suffix, p => do
      let again := oldHeadLetters call digits rest
      match c with
      | 'c' => again true "" p
      | 'b' | 'k' | 'm' => again true (String.singleton c) p
      | 'l' => again false suffix p
      | 'q' => again bytes suffix { p with header := some false }
      | 'v' => again bytes suffix { p with header := some true }
      | 'z' => again bytes suffix { p with separator := '\x00' }
      | c => misuse call 1 ("invalid trailing option -- " ++ String.singleton c)

def oldHead? (call : Call) : Act (Portion × List String) := do
  match call.arguments with
  | first :: rest =>
      match first.toList with
      | '-' :: d :: ds =>
          if d.isDigit then
            let digits := (d :: ds).takeWhile Char.isDigit
            let letters := (d :: ds).drop digits.length
            return (← oldHeadLetters call (String.ofList digits) letters false "" {}, rest)
          else return ({}, call.arguments)
      | _ => return ({}, call.arguments)
  | [] => return ({}, [])

def portionOption (call : Call) (signs : Char) (p : Portion) (letter : Char) (value : String) :
    Act Portion := do
  match letter with
  | 'n' | 'c' =>
      let first := value.toList.head?
      let others := first == some signs
      let value :=
        if first = some '-' then String.ofList (value.toList.drop 1) else value
      let bytes := letter == 'c'
      let count ← quantityOf call 1 countLetters (countWhat bytes) value
      return { p with bytes, count, others := others || (signs == '+' && p.others) }
  | 'q' => return { p with header := some false }
  | 'v' => return { p with header := some true }
  | 'z' => return { p with separator := '\x00' }
  | 'f' | 'F' => return { p with follows := true }
  | _ => return p

def headTable : OptionTable := {
  flags := "qvz0123456789", valued := "nc"
  named := [("bytes", 'c'), ("lines", 'n'), ("quiet", 'q'), ("silent", 'q'), ("verbose", 'v'),
    ("zero-terminated", 'z')] }

def head : Utility := fun call => do
  let (p, arguments) ← oldHead? call
  let parsed ← headTable.parse { call with arguments := arguments }
  if let some (c, _) := parsed.options.find? fun o => o.1.isDigit then
    misuse call 1 ("invalid trailing option -- " ++ String.singleton c)
  let p ← parsed.options.foldlM (fun p (letter, value) => portionOption call '-' p letter value) p
  withHeaders call p (inputsOf parsed.operands) fun _ i =>
    if p.others then printAll i (dropEnd p)
    else if p.bytes then copyBytes i Act.maxTurns p.count
    else copyLines p.separator i Act.maxTurns p.count

/-! ## Ends -/

/-- An old form of call: the count right behind a sign, and the arguments that follow. -/
def oldTail? (call : Call) : Act (Option (Portion × List String)) := do
  let fits : Bool :=
    match call.arguments with
    | [_] => true
    | [_, second] => second = "--" || !(second.startsWith "-" && second.length > 1)
    | [_, second, _] => second = "--"
    | _ => false
  match fits, call.arguments with
  | true, first :: rest =>
      let cs := first.toList
      let body := cs.drop 1
      let sign := cs.head?
      let isForm := sign = some '+' ||
        (sign = some '-' && !body.isEmpty && !(body.head? = some 'c' && body.length = 1))
      if !isForm then return none
      let digits := body.takeWhile Char.isDigit
      let after := body.drop digits.length
      let unit := after.head?.filter fun c => c == 'b' || c == 'c' || c == 'l'
      let after := if unit.isSome then after.drop 1 else after
      let follows := after.head? = some 'f'
      let after := if follows then after.drop 1 else after
      if !after.isEmpty then return none
      let bytes := unit == some 'b' || unit == some 'c'
      let factor := if unit = some 'b' then 512 else 1
      let count := if digits.isEmpty then 10 * factor else digitsValue digits * factor
      if maxQuantity < count then
        giveUp call 1 ("invalid number: " ++ quoteText first ++
          ": Numerical result out of range")
      return some ({ bytes, count, follows, others := sign == some '+' }, rest)
  | _, _ => return none

def tailTable : OptionTable := {
  flags := "qvzfF0123456789", valued := "ncsp"
  named := [("bytes", 'c'), ("follow", 'f'), ("lines", 'n'), ("max-unchanged-stats", 'p'),
    ("pid", 'p'), ("quiet", 'q'), ("retry", '='), ("silent", 'q'), ("sleep-interval", 's'),
    ("verbose", 'v'), ("zero-terminated", 'z')], optional := "f" }

/-- Prints what is added to a file, without end. -/
def followFile (i : Input) (pause : Nat) : Act (Except SystemError Unit) :=
  Act.forever do
    match ← Act.readAll i.descriptor with
    | .error e => return some (.error e)
    | .ok text =>
        Act.print text
        let _ ← Act.flush
        let _ ← Act.sleep pause
        return none

def tail : Utility := fun call => do
  let (p, arguments) := ((← oldTail? call)).getD ({}, call.arguments)
  let parsed ← tailTable.parse { call with arguments := arguments }
  if let some (c, _) := parsed.options.find? fun o => o.1.isDigit then
    giveUp call 1 ("option used in invalid context -- " ++ String.singleton c)
  let p ← parsed.options.foldlM (fun p (letter, value) => portionOption call '+' p letter value) p
  if !p.others ∧ p.count = 0 ∧ !p.follows then return 0
  let p := if p.others then { p with count := p.count - 1 } else p
  withHeaders call p (inputsOf parsed.operands) fun _ i => do
    let result ← printAll i (if p.others then dropStart p else takeEnd p)
    let isPipe := (← Op.descriptorStatus? i.descriptor).all fun s => !s.isFile
    match result with
    | .ok () =>
        if p.follows ∧ !isPipe then
          let _ ← Act.flush
          followFile i p.pause
        else return .ok ()
    | .error e => return .error e

end CompilerDriver.Utility
