import CompilerDriver.Toolchain.Build

/-!
# Tools and their outcomes

The command lines of both tools for a record of arguments, when an outcome counts as a success, and
what running a tool adds to the record of a build.
-/

namespace CompilerDriver.Toolchain

open CommandLine (Arguments)

/-! ## Command lines -/

/-- The compiler's command line for a record. -/
def compilerCommand (a : Arguments) (input output : String) : List String :=
  a.includeDirs.map ("-I" ++ ·) ++ a.defines.map ("-D" ++ ·) ++ a.optLevels.map ("-O" ++ ·) ++
    a.machineSwitches.map ("-m" ++ ·) ++ a.compilerSwitches.map ("-f" ++ ·) ++
    (if a.debug = true then ["-g"] else []) ++ ["-shared", "-fPIC", input, "-o", output] ++
    a.libraryDirs.map ("-f" ++ ·)

/-- The translator's command line for a record, with more switches behind the output. -/
def translatorCommand (a : Arguments) (input output : String) (switches : List String) :
    List String :=
  [input, "-o", output] ++ switches ++ a.passes.flatMap fun pass => ["-p", pass]

theorem compilerArguments_assemble (a : Arguments) (input output : String) :
    compilerArguments input output (CompilerOptions.assemble a) =
      compilerCommand a input output := by
  simp only [compilerArguments, CompilerOptions.assemble, CompilerOptions.getD_present,
    CompilerOptions.preprocessorSwitches, CompilerOptions.codegenSwitches,
    CompilerOptions.linkerSwitches, CompilerOptions.switches, compilerCommand, List.append_assoc]

theorem translatorArguments_assemble (a : Arguments) (input output : String) (emitGlue : Bool) :
    translatorArguments input output emitGlue (CompilerOptions.assemble a) =
      translatorCommand a input output (if emitGlue = true then [] else ["--no-glue"]) := by
  simp only [translatorArguments, CompilerOptions.assemble, CompilerOptions.getD_present,
    translatorCommand]

/-! ## Outcomes -/

/-- The process was started and exited with status 0.  One that was stopped for printing too much
was started. -/
def Reply.Succeeded (reply : Reply) : Prop :=
  ∃ result, reply.result = .ok result ∧
    (∀ e, result.error = some e → e.code = some "ENOBUFS") ∧ result.status = some 0

theorem ProcessResult.launchError?_eq_none_iff {r : ProcessResult} :
    r.launchError? = none ↔ ∀ e, r.error = some e → e.code = some "ENOBUFS" := by
  unfold launchError? overflowed
  cases r.error with
  | none => simp
  | some e => simp

theorem verdict_eq_ok_iff {tool : Tool} {program input : String} {r : ProcessResult} :
    tool.verdict program input r = .ok () ↔
      (∀ e, r.error = some e → e.code = some "ENOBUFS") ∧ r.status = some 0 := by
  rw [← ProcessResult.launchError?_eq_none_iff]
  unfold Tool.verdict
  cases r.launchError? with
  | some e =>
      simp only [reduceCtorEq, false_and, iff_false]
      split <;> simp
  | none =>
      simp only [true_and]
      split
      · rename_i hunsupported
        simp [hunsupported.2, unsupportedStatus]
      · split <;> simp [*]

theorem mapError_eq_ok_iff {ε ε' α : Type} {result : Except ε α} {f : ε → ε'} {a : α} :
    result.mapError f = .ok a ↔ result = .ok a := by
  cases result with
  | error e => constructor <;> intro h <;> cases h
  | ok b => constructor <;> intro h <;> cases h <;> rfl

/-- What the backend makes of the end of a tool. -/
def judged (tool : Tool) (program input : String) :
    Except Fault ProcessResult → Except Raised Unit
  | .error fault => .error (.fault fault)
  | .ok result => (tool.verdict program input result).mapError ToolError.raised

theorem judged_eq_ok_iff (tool : Tool) (program input : String) {reply : Reply} :
    judged tool program input reply.result = .ok () ↔ reply.Succeeded := by
  unfold Reply.Succeeded
  cases hresult : reply.result with
  | error fault => simp [judged]
  | ok result => simp [judged, mapError_eq_ok_iff, verdict_eq_ok_iff]

section

variable {ρ : Type} {run : Runner ρ} {config : ToolConfig} {tool : Tool} {input : String}
  {arguments : List String} {w : World ρ}

def World.reply (run : Runner ρ) (call : ToolCall) (w : World ρ) : Reply :=
  (run call w.files w.runner).1

/-- The world once this process was run on it. -/
def World.after (run : Runner ρ) (call : ToolCall) (w : World ρ) : World ρ where
  files := w.files.applyChanges (w.reply run call).changes
  runner := (run call w.files w.runner).2
  calls := w.calls ++ [(call, w.files)]

theorem runTool_eq :
    runTool run config tool input arguments w =
      (judged tool (config.program tool) input
        (w.reply run ⟨config.program tool, arguments⟩).result,
        w.after run ⟨config.program tool, arguments⟩) := by
  unfold runTool World.reply World.after
  cases hresult : (run ⟨config.program tool, arguments⟩ w.files w.runner).1.result with
  | error fault => simp [hresult, judged, World.reply]
  | ok result => simp [hresult, judged, World.reply]

/-- Running a tool starts one process, on the files as they are. -/
@[simp] theorem calls_runTool :
    (runTool run config tool input arguments w).2.calls =
      w.calls ++ [(⟨config.program tool, arguments⟩, w.files)] := by
  rw [runTool_eq]
  rfl

theorem runTool_eq_ok_iff :
    (runTool run config tool input arguments w).1 = .ok () ↔
      (run ⟨config.program tool, arguments⟩ w.files w.runner).1.Succeeded := by
  rw [runTool_eq]
  exact judged_eq_ok_iff ..

end

end CompilerDriver.Toolchain
