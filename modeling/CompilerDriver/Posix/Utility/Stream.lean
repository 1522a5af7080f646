import CompilerDriver.Posix.Text.Regex.Reading
import CompilerDriver.Posix.Utility.Input
import CompilerDriver.Posix.Utility.Locale

/-!
# Streams

Utilities that pass their input on: `cat`, `tac`, `rev`, `tee` and `yes`.
-/

namespace CompilerDriver.Utility

open Kernel

/-- Writes what has been printed; a failure ends the utility. -/
def writeOut (call : Call) : Act Unit := do
  if let .error e ← Act.flush then
    Act.modifyLocal fun l => { l with outputError := none }
    giveUp call 1 ("write error: " ++ e.notice)

def padLeft (width : Nat) (s : String) : String :=
  String.ofList (List.replicate (width - s.length) ' ') ++ s

/-! ## Concatenation -/

structure CatStyle where
  numbers : Bool
  numbersBlank : Bool
  squeezes : Bool
  endMark : Bool
  tabMark : Bool
  visible : Bool

/-- What has been shown so far. -/
structure CatState where
  /-- How many lines have ended without anything in them since; −1 within a line. -/
  blank : Int := 0
  number : Nat := 1
  /-- A carriage return has been read and not been shown. -/
  held : Bool := false
  /-- What is to be printed, last first. -/
  done : List Char := []

/-- A character as it is made visible. -/
def visibleChar (tabs : Bool) (c : Char) : List Char :=
  let low (n : Nat) : List Char :=
    if n = 127 then ['^', '?'] else if n < 32 then ['^', Char.ofNat (n + 64)] else [Char.ofNat n]
  if c = '\t' ∧ !tabs then [c]
  else if c.toNat ≥ 128 then ['M', '-'] ++ low (c.toNat - 128)
  else low c.toNat

namespace CatState

def put (s : CatState) (cs : List Char) : CatState := { s with done := cs.reverse ++ s.done }

def putNumber (s : CatState) : CatState :=
  { s.put (padLeft 6 (toString s.number) ++ "\t").toList with number := s.number + 1 }

def release (s : CatState) (shown : List Char) : CatState :=
  if s.held then { s.put shown with held := false } else s

/-- Shows one more character. -/
def feed (style : CatStyle) (s : CatState) (c : Char) : CatState :=
  if c = '\n' then
    let s := { s with blank := s.blank + 1 }
    if 2 ≤ s.blank ∧ style.squeezes then { s with blank := 2 }
    else
      let s := { s with blank := min 2 s.blank }
      let s := if 0 < s.blank && style.numbers && style.numbersBlank then s.putNumber else s
      let s := s.release ['^', 'M']
      s.put (if style.endMark then ['$', '\n'] else ['\n'])
  else
    let s := s.release ['\r']
    let s := if 0 ≤ s.blank && style.numbers then s.putNumber else s
    let s := { s with blank := -1 }
    if style.visible then s.put (visibleChar style.tabMark c)
    else if c = '\t' ∧ style.tabMark then s.put ['^', 'I']
    else if c = '\r' ∧ style.endMark then { s with held := true }
    else s.put [c]

end CatState

def catTable : OptionTable := {
  flags := "benstuvAET"
  named := [("number-nonblank", 'b'), ("number", 'n'), ("squeeze-blank", 's'),
    ("show-nonprinting", 'v'), ("show-ends", 'E'), ("show-tabs", 'T'), ("show-all", 'A')] }

/-- The input would grow as it is copied. -/
def isOwnOutput (descriptor : Nat) : Act Bool := do
  match ← Op.openFile? descriptor, ← Op.openFile? 1 with
  | some { channel := .node n, .. }, some { channel := .node m, .. } =>
      if n ≠ m then return false
      return (← Op.remaining? descriptor).any fun left => 0 < left
  | _, _ => return false

/-- Copies one file, from one state to the next. -/
def catFile (call : Call) (style : CatStyle) (plain : Bool) (path : String) (state : CatState) :
    Act (CatState × Nat) := do
  let failWith (e : SystemError) : Act Unit := complainOf call (quoteName path) e
  match ← Input.openPath path with
  | .error e =>
      failWith e
      return (state, 1)
  | .ok i =>
      if !(← Op.isOpen i.descriptor) then
        failWith .badDescriptor
        return (state, 1)
      if ← isOwnOutput i.descriptor then
        complain call (quoteName path ++ ": input file is output file")
        i.close
        return (state, 1)
      let rec go : Nat → CatState → Act (CatState × Nat)
        | 0, state => return (state, 0)
        | n + 1, state => do
            match ← Act.readBytes i.descriptor 131072 with
            | .error e =>
                failWith e
                return (state, 1)
            | .ok bytes =>
                if bytes.isEmpty then return (state, 0)
                let text := Text.octetsOfArray bytes
                if plain then
                  Act.print text
                  writeOut call
                  go n state
                else
                  let state := text.toList.foldl (CatState.feed style) state
                  Act.print (String.ofList state.done.reverse)
                  writeOut call
                  go n { state with done := [] }
      let result ← go Act.maxTurns state
      i.close
      return result

def cat : Utility := fun call => do
  let parsed ← catTable.parse call
  let style : CatStyle := {
    numbers := parsed.has 'n' || parsed.has 'b'
    numbersBlank := !parsed.has 'b'
    squeezes := parsed.has 's'
    endMark := parsed.has 'E' || parsed.has 'A' || parsed.has 'e'
    tabMark := parsed.has 'T' || parsed.has 'A' || parsed.has 't'
    visible := parsed.has 'v' || parsed.has 'A' || parsed.has 'e' || parsed.has 't' }
  let plain := parsed.options.all fun o => o.1 == 'u'
  if !(← Op.isOpen 1) then giveUp call 1 ("standard output: " ++ SystemError.badDescriptor.notice)
  let paths := inputsOf parsed.operands
  let (state, status) ← paths.foldlM (fun (state, status) path => do
    let (state, result) ← catFile call style plain path state
    return (state, max status result)) (({} : CatState), 0)
  if state.held then Act.print "\r"
  if paths.contains "-" ∧ !(← Op.isOpen 0) then
    complainOf call "closing standard input" .badDescriptor
    return 1
  return status

/-! ## Reversal -/

/-- The pieces of a text, cut behind or before each of some places, last first. -/
def reversedPieces (before : Bool) (cs : Array Char) (cuts : List (Nat × Nat)) : List String :=
  let places := cuts.map fun (first, last) => if before then first else last
  let (pieces, start) := places.foldl (fun ((pieces, start) : List String × Nat) place =>
    (String.ofList (cs.extract start place).toList :: pieces, place)) ([], 0)
  String.ofList (cs.extract start cs.size).toList :: pieces

/-- Where a text stands in another one, without overlaps, from the end on. -/
def placesOf (separator cs : Array Char) : Nat → Nat → List (Nat × Nat) → List (Nat × Nat)
  | 0, _, found => found
  | n + 1, place, found =>
      if place < separator.size then found
      else
        let first := place - separator.size
        if (List.range separator.size).all fun i => cs[first + i]? == separator[i]? then
          placesOf separator cs n first ((first, place) :: found)
        else placesOf separator cs n (place - 1) found

/-- Where an expression matches, from the end on. -/
def matchesOf (p : Text.Regex.Program) (cs : Array Char) :
    Nat → Nat → Nat → List (Nat × Nat) → List (Nat × Nat)
  | 0, _, _, found => found
  | n + 1, place, bound, found =>
      match p.matchAt (cs.extract 0 bound) true place with
      | some slots =>
          matchesOf p cs n (place - 1) place ((place, Text.Regex.endOf slots) :: found)
      | none => if place = 0 then found else matchesOf p cs n (place - 1) bound found

def tac : Utility := fun call => do
  let parsed ← ({
    flags := "br", valued := "s"
    named := [("before", 'b'), ("regex", 'r'), ("separator", 's')] } : OptionTable).parse call
  let given := (parsed.value? 's').getD "\n"
  if parsed.has 'r' ∧ given.isEmpty then giveUp call 1 "separator cannot be empty"
  let separator := (if given.isEmpty then "\x00" else given).toList.toArray
  let program? ←
    if parsed.has 'r' then
      match Text.Regex.ofText {} given.toList with
      | .ok r => pure (some (Text.Regex.compile r { multiline := true }))
      | .error e => giveUp call 1 e.message
    else pure none
  onEach (inputsOf parsed.operands) fun path => do
    match ← Input.openPath path with
    | .error e =>
        complainOf call ("failed to open " ++ quoteAlways path ++ " for reading") e
        return 1
    | .ok i =>
        let result ← Act.readAll i.descriptor
        i.close
        match result with
        | .error e =>
            let e := if e = .isDirectory then SystemError.invalidArgument else e
            complainOf call (quoteName (if path = "-" then "standard input" else path) ++
              ": read error") e
            return 1
        | .ok text =>
            let cs := text.toList.toArray
            let cuts :=
              match program? with
              | some p => matchesOf p cs (cs.size + 1) (cs.size - 1) cs.size []
              | none => placesOf separator cs (cs.size + 1) cs.size []
            for piece in reversedPieces (parsed.has 'b') cs cuts do
              Act.print piece
            return 0

/-- The characters of a line in the other order. -/
def reversedLine (unicode : Bool) (line : List Char) : String :=
  octetsIf unicode (charactersIf unicode line).reverse

def rev : Utility := fun call => do
  let parsed ← ({ flags := "0", named := [("zero", '0')] } : OptionTable).parse call
  let unicode ← readsUnicode
  let separator := if parsed.has '0' then '\x00' else '\n'
  onEach (inputsOf parsed.operands) fun path => do
    match ← Input.openPath path with
    | .error e =>
        complainOf call ("cannot open " ++ path) e
        return 1
    | .ok i =>
        let result ← Act.readAll i.descriptor
        i.close
        match result with
        | .error _ => return 1
        | .ok text =>
            let pieces := separatedPieces separator text
            let broken (l : List Char) : Bool := unicode && (Text.characters l).any Text.isStray
            let whole := pieces.takeWhile fun l => !broken l
            let lines := whole.map (reversedLine unicode)
            for (line, i) in lines.zipIdx do
              Act.print line
              if i + 1 < pieces.length then Act.print (String.singleton separator)
            return if whole.length < pieces.length then 1 else 0

/-! ## Several outputs -/

def tee : Utility := fun call => do
  let parsed ← ({
    flags := "aip"
    named := [("append", 'a'), ("ignore-interrupts", 'i'), ("output-error", 'p')]
    optional := "p" } : OptionTable).parse call
  if parsed.has 'i' then Op.setDisposition Signal.interrupt .ignore
  if parsed.has 'p' then Op.setDisposition Signal.pipe .ignore
  let access : Access :=
    { writable := true, creating := true, appending := parsed.has 'a',
      truncating := !parsed.has 'a' }
  let opened ← parsed.operands.mapM fun path => do
    match ← Act.openPath path access with
    | .ok descriptor => return (path, some descriptor)
    | .error e =>
        complainOf call (quoteName path) e
        return (path, none)
  let outputs := ("standard output", 1) :: opened.filterMap fun o => o.2.map fun d => (o.1, d)
  let failed := opened.any fun o => o.2.isNone
  let rec go : Nat → List (String × Nat) → Nat → Act Nat
    | 0, _, status => return status
    | n + 1, outputs, status => do
        if outputs.isEmpty then return status
        match ← Act.readBytes 0 8192 with
        | .error e =>
            complainOf call "read error" e
            return 1
        | .ok bytes =>
            if bytes.isEmpty then return status
            let kept ← outputs.filterM fun (path, descriptor) => do
              match ← Act.writeBytes descriptor bytes with
              | .ok () => return true
              | .error e =>
                  if !(parsed.has 'p' ∧ e = .brokenPipe) then
                    complainOf call (quoteName path) e
                  return false
            go n kept (if kept.length < outputs.length then 1 else status)
  go Act.maxTurns outputs (if failed then 1 else 0)

/-! ## Without end -/

def yes : Utility := fun call => do
  let parsed ← ({ stopsEarly := true } : OptionTable).parse call
  let line := (if parsed.operands.isEmpty then "y" else " ".intercalate parsed.operands) ++ "\n"
  let block := Text.arrayOfOctets (String.join (List.replicate (8192 / line.length + 1) line))
  Act.forever do
    match ← Act.writeBytes 1 block with
    | .ok () => return none
    | .error e =>
        complainOf call "standard output" e
        return some 1

end CompilerDriver.Utility
