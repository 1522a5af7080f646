import CompilerDriver.Posix.Utility.Basic

/-!
# Input

A file that is open for reading, block by block.  What has been read ahead of what is needed can be
given back to a file, though not to a pipe.
-/

namespace CompilerDriver.Utility

open Kernel

/-- How much is read at once. -/
def inputBlock : Nat := 4096

/-- Something open, and what has been read of it and not been used. -/
structure Input where
  descriptor : Nat
  block : Nat := inputBlock
  ahead : List Char := []
  /-- The end has been reached. -/
  isDone : Bool := false
  deriving Inhabited

namespace Input

/-- Opens a file; a dash is the standard input. -/
def openPath (path : String) : Act (Except SystemError Input) := do
  if path = "-" then return .ok { descriptor := 0 }
  else return (← Act.openInput path).map fun d => { descriptor := d }

def close (i : Input) : Act Unit := if i.descriptor = 0 then return else Op.close i.descriptor

/-- Reads one more block; tells whether there was one. -/
def fill (i : Input) : Act (Except SystemError (Bool × Input)) := do
  match ← Act.readBytes i.descriptor i.block with
  | .error e => return .error e
  | .ok bytes =>
      if bytes.isEmpty then return .ok (false, { i with isDone := true })
      let octets := bytes.data.toList.map Text.octetOf
      return .ok (true, { i with ahead := if i.ahead.isEmpty then octets else i.ahead ++ octets })

/-- The text up to and with a separator, or all that is left; the parts so far are last first. -/
def pieceFrom (separator : Char) : Nat → Input → List String →
    Act (Except SystemError (Option String × Input))
  | 0, i, _ => return .ok (none, i)
  | n + 1, i, parts => do
      let line := i.ahead.takeWhile (· != separator)
      match i.ahead.drop line.length with
      | c :: rest =>
          let piece := String.join (String.ofList (line ++ [c]) :: parts).reverse
          return .ok (some piece, { i with ahead := rest })
      | [] =>
          let parts := if line.isEmpty then parts else String.ofList line :: parts
          let i := { i with ahead := [] }
          if i.isDone then
            return .ok (if parts.isEmpty then none else some (String.join parts.reverse), i)
          match ← i.fill with
          | .error e => return .error e
          | .ok (_, i) => pieceFrom separator n i parts

/-- There is something left to be read. -/
def hasMore (i : Input) : Act (Except SystemError (Bool × Input)) := do
  if !i.ahead.isEmpty then return .ok (true, i)
  if i.isDone then return .ok (false, i)
  i.fill

/-- The next piece with its separator, which the last one may lack. -/
def piece? (i : Input) (separator : Char) : Act (Except SystemError (Option String × Input)) :=
  pieceFrom separator Act.maxTurns i []

/-- The next line without its newline, and whether a newline ends it. -/
def line? (i : Input) (separator : Char := '\n') :
    Act (Except SystemError (Option (String × Bool) × Input)) := do
  match ← i.piece? separator with
  | .error e => return .error e
  | .ok (none, i) => return .ok (none, i)
  | .ok (some piece, i) =>
      if piece.toList.getLast? = some separator then
        return .ok (some (String.ofList piece.toList.dropLast, true), i)
      return .ok (some (piece, false), i)

/-- Gives back what has been read and not been used, if that can be done. -/
def giveBack (i : Input) : Act Unit := do
  if !i.ahead.isEmpty then
    let _ ← Op.seek i.descriptor .here (-(i.ahead.length : Int))

end Input

/-- The content of a file. -/
def readInput (path : String) : Act (Except SystemError String) := do
  match ← Input.openPath path with
  | .error e => return .error e
  | .ok i =>
      let result ← Act.readAll i.descriptor
      i.close
      return result

/-- Does something with what is left of an open file, block by block. -/
def forBlocks (descriptor size : Nat) (f : String → Act Unit) : Act (Except SystemError Unit) :=
  Act.forever do
    match ← Act.readBytes descriptor size with
    | .error e => return some (.error e)
    | .ok bytes =>
        if bytes.isEmpty then return some (.ok ())
        f (Text.octetsOfArray bytes)
        return none

/-- The files to be read; without any, the standard input. -/
def inputsOf (operands : List String) : List String :=
  if operands.isEmpty then ["-"] else operands

/-! ## Lines -/

/-- The pieces of a text between separators. -/
def separatedPieces (separator : Char) (s : String) : List (List Char) :=
  let (piece, pieces) := s.toList.foldl
    (fun ((piece, pieces) : List Char × List (List Char)) c =>
      if c = separator then ([], piece.reverse :: pieces) else (c :: piece, pieces)) ([], [])
  (piece.reverse :: pieces).reverse

/-- The pieces of a text that end in separators; the last one need not have one. -/
def separatedLines (separator : Char) (s : String) : List (List Char) :=
  let pieces := separatedPieces separator s
  if pieces.getLast? = some [] then pieces.dropLast else pieces

/-- The lines of a text, without their newlines. -/
def linesOf (s : String) : List String := (separatedLines '\n' s).map String.ofList

/-- The pieces of a text with their separators. -/
def wholePieces (separator : Char) (s : String) : List String :=
  let pieces := separatedPieces separator s
  let last := pieces.getLastD []
  (pieces.dropLast.map fun l => String.ofList (l ++ [separator])) ++
    if last.isEmpty then [] else [String.ofList last]

end CompilerDriver.Utility
