import CompilerDriver.Posix.Utility.Input
import CompilerDriver.Posix.Utility.Locale
import CompilerDriver.Posix.Utility.Stream

/-!
# Counting

`wc` counts the lines, words, characters and bytes of files, and measures their longest line.
-/

namespace CompilerDriver.Utility

open Kernel

structure Counts where
  lines : Nat := 0
  words : Nat := 0
  chars : Nat := 0
  bytes : Nat := 0
  longest : Nat := 0
  deriving Inhabited

/-- Counts under way: the width of the line so far, and whether a word has begun. -/
structure Counter where
  counts : Counts := {}
  column : Nat := 0
  inWord : Bool := false

namespace Counter

def endWord (s : Counter) : Counter :=
  if s.inWord then
    { s with counts := { s.counts with words := s.counts.words + 1 }, inWord := false }
  else s

def endLine (s : Counter) : Counter :=
  { s with counts := { s.counts with longest := max s.counts.longest s.column }, column := 0 }

def feed (unicode : Bool) (s : Counter) (c : Char) : Counter :=
  if Text.isStray c then s
  else
    let s := { s with counts := { s.counts with chars := s.counts.chars + 1 } }
    match c with
    | '\n' =>
        let s := s.endLine.endWord
        { s with counts := { s.counts with lines := s.counts.lines + 1 } }
    | '\r' | '\x0c' => s.endLine.endWord
    | '\t' => ({ s with column := s.column + 8 - s.column % 8 } : Counter).endWord
    | ' ' => ({ s with column := s.column + 1 } : Counter).endWord
    | '\x0b' => s.endWord
    | c =>
        if Text.isPrinted unicode c then
          let s := { s with column := s.column + Text.widthOf c }
          if Text.isWideSpace c || Text.isNoBreakSpace c then s.endWord else { s with inWord := true }
        else s

end Counter

def Counts.ofText (unicode : Bool) (s : String) : Counts :=
  let cs := charactersIf unicode s.toList
  let last := (cs.foldl (Counter.feed unicode) {}).endWord.endLine
  { last.counts with bytes := s.length }

def Counts.add (a b : Counts) : Counts :=
  ⟨a.lines + b.lines, a.words + b.words, a.chars + b.chars, a.bytes + b.bytes,
    max a.longest b.longest⟩

def Counts.row (c : Counts) (parsed : Parsed) : List Nat :=
  if parsed.options.any fun o => "lwmcL".toList.contains o.1 then
    [('l', c.lines), ('w', c.words), ('m', c.chars), ('c', c.bytes), ('L', c.longest)].filterMap
      fun (letter, n) => if parsed.has letter then some n else none
  else [c.lines, c.words, c.bytes]

/-- The width of the columns: of the sizes of all files together, and more for what has no size. -/
def countWidth (paths : List String) : Act Nat := do
  let statuses ← paths.mapM fun path =>
    if path = "-" then (Op.descriptorStatus? 0 : Act _) else (Op.status? path : Act _)
  if (statuses.head?).all Option.isNone then return 1
  let known := statuses.filterMap id
  let total := known.foldl (fun n s => if s.isFile then n + s.size else n) 0
  let least := if known.all Status.isFile then 1 else 7
  return max least (toString total).length

def wcTable : OptionTable := {
  flags := "lwcmL", valuedNames := "F"
  named := [("bytes", 'c'), ("chars", 'm'), ("lines", 'l'), ("words", 'w'), ("debug", 'D'),
    ("files0-from", 'F'), ("max-line-length", 'L')] }

def wc : Utility := fun call => do
  let parsed ← wcTable.parse call
  let unicode ← readsUnicode
  let listed? ←
    match parsed.value? 'F' with
    | none => pure none
    | some source => do
        if let some extra := parsed.operands.head? then
          complain call ("extra operand " ++ quoteAlways extra)
          Act.printError ("file operands cannot be combined with --files0-from\n" ++ hint call ++
            "\n")
          stop 1
        match ← readInput source with
        | .ok text => pure (some ((separatedLines '\x00' text).map String.ofList))
        | .error e => giveUp call 1 ("cannot open " ++ quoteAlways source ++ " for reading: " ++
            e.notice)
  let paths := listed?.getD (inputsOf parsed.operands)
  let unnamed := listed?.isNone && parsed.operands.isEmpty
  let single := paths.length = 1 ∧ (({} : Counts).row parsed).length = 1
  let width ← if single ∨ listed?.isSome then pure 1 else countWidth paths
  let show' (c : Counts) (name : String) : Act Unit :=
    Act.printLine (" ".intercalate ((c.row parsed).map fun n => padLeft width (toString n)) ++
      if name.isEmpty then ""
      else " " ++ if name.toList.contains '\n' then quoteName name else name)
  let (total, status) ← paths.foldlM (fun ((total, status) : Counts × Nat) path => do
    let counted (counts : Counts) (status : Nat) : Act (Counts × Nat) := do
      show' counts (if unnamed then "" else path)
      return (total.add counts, status)
    match ← Input.openPath path with
    | .error e =>
        complainOf call (quoteName path) e
        return (total, 1)
    | .ok i =>
        let result ← Act.readAll i.descriptor
        i.close
        match result with
        | .ok text => counted (Counts.ofText unicode text) status
        | .error e => do
            complainOf call (quoteName path) e
            counted {} 1) (({} : Counts), 0)
  if paths.length > 1 then show' total "total"
  return status

end CompilerDriver.Utility
