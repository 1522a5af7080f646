import CompilerDriver.Posix.Shell.PathExpansion

/-!
# Redirections

The words of all redirections of a command are expanded before the first file is opened.  What a
descriptor led to before is set aside, so that it can be restored.
-/

namespace CompilerDriver.Shell

open Kernel

/-- A redirection with its word expanded. -/
inductive Redirect where
  | file (descriptor : Nat) (mode : FileMode) (path : String)
  | duplicate (descriptor : Nat) (source : Option Nat)
  | document (descriptor : Nat) (text : String)
  deriving Inhabited

def Redirect.descriptor : Redirect → Nat
  | file d _ _ | duplicate d _ | document d _ => d

/-- The descriptor that a word names; a dash names none. -/
def sourceOf (text : String) : Act (Option Nat) :=
  match text.toList with
  | ['-'] => return none
  | [c] => if c.isDigit then return some (c.toNat - 48) else fail "Bad fd number"
  | _ => fail "Bad fd number"

def documentWord (number : Nat) : Act Word :=
  return ((← state).documents.lookup number).getD []

def Redirection.expand (capture : Capture) : Redirection → Act Redirect
  | .file descriptor mode path => return .file descriptor mode (← expandText capture path)
  | .duplicate descriptor source => do
      return .duplicate descriptor
        (← sourceOf ((← expandFields capture source).headD ""))
  | .document descriptor number expanded => do
      let word ← documentWord number
      if expanded then return .document descriptor (← expandDocument capture word)
      else return .document descriptor (Item.toText (word.filterMap fun
        | .char c _ => some (.char c true)
        | _ => none))

/-! ## Opening -/

def cannot {α : Type} (verb path reason : String) : Act α :=
  fail ("cannot " ++ verb ++ " " ++ path ++ ": " ++ reason)

/-- Opens the file of a redirection; gives the descriptor. -/
def openRedirect (mode : FileMode) (path : String) : Act Nat := do
  let creating : Access := { writable := true, creating := true }
  let access ←
    match mode with
    | .read => pure { readable := true }
    | .readWrite => pure { creating with readable := true }
    | .append => pure { creating with appending := true }
    | .clobber => pure { creating with truncating := true }
    | .write => do
        if (← state).hasOption 'C' then
          match ← Op.status? path with
          | some status =>
              if status.isFile then cannot "create" path SystemError.alreadyExists.notice
              else pure { writable := true }
          | none => pure { creating with exclusive := true }
        else pure { creating with truncating := true }
  match ← Act.openPath path access with
  | .ok descriptor => return descriptor
  | .error e =>
      if access.writable then cannot "create" path (noticeOf e "Directory nonexistent")
      else cannot "open" path (noticeOf e "No such file")

/-- A descriptor from which a text can be read.  A child writes one that does not fit into a
pipe at once. -/
def openText (text : String) : Act Nat := do
  let (readEnd, writeEnd) ← Op.newPipe
  if text.length ≤ Pipe.atomicSize then
    let _ ← Act.write writeEnd text
  else
    let _ ← Act.fork (do
      Op.close readEnd
      for n in [Signal.hangUp, Signal.interrupt, Signal.quit] do
        Op.setDisposition n .ignore
      let _ ← Act.write writeEnd text
      return .exit 0)
  Op.close writeEnd
  return readEnd

/-- What a descriptor is to lead to. -/
inductive Source where
  | itself
  | nothing
  | existing (descriptor : Nat)
  | opened (descriptor : Nat)
  deriving DecidableEq, Repr, Inhabited

def Redirect.source : Redirect → Act Source
  | .file _ mode path => return .opened (← openRedirect mode path)
  | .document _ text => return .opened (← openText text)
  | .duplicate _ none => return .nothing
  | .duplicate descriptor (some source) =>
      return if descriptor = source then .itself else .existing source

def connect (descriptor : Nat) : Source → Act Unit
  | .itself => return
  | .nothing => Op.close descriptor
  | .opened source => Op.move source descriptor
  | .existing source => do
      if let .error e ← Op.duplicate source descriptor then
        fail (toString source ++ ": " ++ e.notice)

/-! ## Performing and restoring -/

/-- Copies of what descriptors led to before they were redirected. -/
abbrev Saved := List (Nat × Option Nat)

def restore (saved : Saved) : Act Unit := do
  for (descriptor, copy) in saved do
    match copy with
    | some copy => Op.move copy descriptor
    | none => Op.close descriptor

/-- Leaves descriptors as they have been redirected. -/
def forget (saved : Saved) : Act Unit := do
  for (_, copy) in saved do
    if let some copy := copy then Op.close copy

/-- Tells whether something did not fail. -/
def succeeds (act : Act Unit) : Act Bool :=
  tryCatch (do act; return true) fun
    | .failed => return false
    | stop => throw stop

/-- Performs redirections in order.  After an error the ones before it are in force. -/
def redirectAfter : List Redirect → Saved → Act (Saved × Bool)
  | [], saved => return (saved, true)
  | r :: rest, saved => do
      match ← Act.attempt r.source with
      | .error .failed => return (saved, false)
      | .error stop => throw stop
      | .ok .itself => redirectAfter rest saved
      | .ok source =>
          let d := r.descriptor
          let isSaved := saved.any fun row => row.1 == d
          let isUsed := source = .opened d
          let saved ←
            if isSaved then pure saved
            else if isUsed then pure ((d, none) :: saved)
            else do
              let copy ← Op.setAside d
              pure ((d, copy) :: saved)
          if ← succeeds (connect d source) then redirectAfter rest saved
          else return (saved, false)

def redirect (redirects : List Redirect) : Act (Saved × Bool) := redirectAfter redirects []

/-- Where a command shows what it runs: what the standard error led to before. -/
def traceDescriptor (saved : Saved) : Nat := ((saved.lookup 2).join).getD 2

end CompilerDriver.Shell
