import CompilerDriver.Posix.Utility.Finding.Visit

/-!
# Finding files

`find` visits everything at and below some paths and evaluates an expression of tests and actions
for each.
-/

namespace CompilerDriver.Utility

open Kernel

namespace Finding

/-- The options before the paths, and what is left of the arguments. -/
def leadingOptions (call : Call) : Nat → Settings → List String → Act (Settings × List String)
  | 0, o, rest => return (o, rest)
  | n + 1, o, argument :: rest => do
      match argument with
      | "-H" => leadingOptions call n { o with follows := false, followsStart := true } rest
      | "-L" => leadingOptions call n { o with follows := true, followsStart := true } rest
      | "-P" => leadingOptions call n { o with follows := false, followsStart := false } rest
      | "--" => return (o, rest)
      | "-D" =>
          match rest with
          | [] =>
              complain call "Missing argument after the -D option."
              Act.printError (hint call ++ "\n")
              stop 1
          | flag :: rest =>
              complain call ("Ignoring unrecognised debug flag " ++ quoteText flag)
              leadingOptions call n o rest
      | _ =>
          if argument.startsWith "-O" then
            let level := argument.toList.drop 2
            if level.isEmpty then
              giveUp call 1 "The -O option must be immediately followed by a decimal integer"
            if !level.all Char.isDigit then
              giveUp call 1 "Please specify a decimal number immediately after -O"
            leadingOptions call n o rest
          else return (o, argument :: rest)
  | _ + 1, o, [] => return (o, [])

def conflict : String :=
  "The -delete action automatically turns on -depth, but -prune does nothing when -depth is in " ++
    "effect.  If you want to carry on anyway, just explicitly use the -depth option."

end Finding

section

variable (programs : Programs)

open Finding in
def find : Utility := fun call => do
  let now ← liftM Op.now
  let start : Settings :=
    { call := call, started := now, dayStart := now - 86400 * Calendar.nanosecondsPerSecond }
  let (settings, rest) ← leadingOptions call (call.arguments.length + 1) start call.arguments
  let paths := rest.takeWhile fun a => !Reads.isExpression a true
  let reader : Finding.Reader := { ahead := rest.drop paths.length, settings := settings }
  let (_, reader) ← (Reads.primaries (rest.length + 1)).run reader
  if reader.prunes ∧ reader.deletes ∧ !reader.settings.wantsDepthFirst then
    giveUp call 1 conflict
  match expressionOf reader.items.reverse reader.prints with
  | .error message => giveUp call 1 message
  | .ok expression =>
      let plan : Plan := {
        settings := reader.settings, expression := expression
        environment := ← Act.environment, unicode := ← readsUnicode }
      let search : Searching Unit := do
        (if paths.isEmpty then ["."] else paths).forM (visitStart programs plan)
        finishAll programs plan
      let (_, progress) ← search.run {}
      return progress.status

end

end CompilerDriver.Utility
