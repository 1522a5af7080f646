import CompilerDriver.Toolchain.Build

/-!
# Scripted tools and backends

A runner and a backend that follow a list of outcomes, for rehearsing a run without any tool.
When the list is used up, every further call succeeds.
-/

namespace CompilerDriver.Toolchain

/-- One scripted outcome. -/
structure ScriptedReply where
  result : ProcessResult := {}
  /-- A text that the tool writes to its output path before it ends. -/
  output : Option String := none
  /-- The message of an error that the runner itself raises. -/
  fault : Option String := none
  deriving DecidableEq, Repr

/-- The argument behind the first `-o`. -/
def outputArgument? : List String → Option String
  | "-o" :: path :: _ => some path
  | _ :: rest => outputArgument? rest
  | [] => none

/-- An output that cannot be written is an error of the runner. -/
def ScriptedReply.play (r : ScriptedReply) (call : ToolCall) (fs : FileSystem) : Reply :=
  match r.fault with
  | some message => ⟨[], .error ⟨"Error", message⟩⟩
  | none =>
      match r.output, outputArgument? call.arguments with
      | some text, some path =>
          match fs.writeChanges path (Text.encodeUtf8 text) with
          | .ok changes => ⟨changes, .ok r.result⟩
          | .error e => ⟨[], .error (.ofFileError e)⟩
      | _, _ => ⟨[], .ok r.result⟩

def scripted : Runner (List ScriptedReply)
  | call, fs, [] => (ScriptedReply.play {} call fs, [])
  | call, fs, reply :: replies => (reply.play call fs, replies)

/-- A backend that only records its calls: the calls so far, and the errors still to raise. -/
structure Recording where
  calls : List BackendCall := []
  errors : List (Option Raised) := []
  deriving Repr

def recording : Backend Recording := fun call r =>
  let after : Recording := ⟨r.calls ++ [call], r.errors.tail⟩
  match r.errors.head? with
  | some (some e) => (.error e, after)
  | _ => (.ok (), after)

end CompilerDriver.Toolchain
