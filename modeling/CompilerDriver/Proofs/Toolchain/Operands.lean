import CompilerDriver.Proofs.Toolchain.Plan
import CompilerDriver.Toolchain.Scripted

/-!
# The input among a tool's arguments

Each tool is told of its input by a bare argument, and takes one that looks like an option for a
switch.  The first process of a run gets the input as the command line gives it, dash and all; this
can only be an operand from behind `--`.  A second process gets the intermediate file, which no tool
takes for a switch as long as the temporary directory is given by an absolute path.
-/

namespace CompilerDriver

open CommandLine (Arguments OptionLike Split)

/-! ## Operands that look like options -/

/-- An operand before `--` does not look like an option. -/
theorem CommandLine.Split.rest_of_optionLike {s : Split} {tokens : List String} {input : String}
    (hs : s.Spells tokens) (hoperands : s.operands = [input]) (hinput : OptionLike input) :
    s.rest = some [input] := by
  have hnone : s.groups.filterMap Group.operand? = [] := by
    refine List.filterMap_eq_nil_iff.2 fun g hg => ?_
    have hwellFormed := hs.wellFormed g hg
    cases g with
    | toggles | attached | separate => rfl
    | operand token =>
        have hmem : token ∈ s.operands :=
          List.mem_append_left _ (List.mem_filterMap.2 ⟨_, hg, rfl⟩)
        rw [hoperands, List.mem_singleton] at hmem
        exact absurd (hmem ▸ hinput) hwellFormed
  rw [Split.operands, hnone, List.nil_append] at hoperands
  cases hrest : s.rest with
  | none => simp [hrest] at hoperands
  | some rest => simpa [hrest] using hoperands

theorem not_optionLike_of_isAbsolute {path : String} (h : Path.isAbsolute path = true) :
    ¬ OptionLike path := by
  rintro ⟨c, cs, hpath⟩
  simp [Path.isAbsolute, hpath] at h

namespace Toolchain

section Operands

variable {ρ : Type}

/-- The process runs a tool on this input. -/
inductive RunsOn (config : ToolConfig) (a : Arguments) (input : String) : ToolCall → Prop
  | translator (output : String) (switches : List String) :
      RunsOn config a input ⟨config.translator, translatorCommand a input output switches⟩
  | compiler (output : String) :
      RunsOn config a input ⟨config.compiler, compilerCommand a input output⟩

/-! ## The input of a process -/

section

variable {around : Surroundings} {runner : Runner ρ} {config : ToolConfig} {args : List String}
  {state : ρ} {plan : List ToolCall} {split : Split} {a : Arguments}
  {module output path : String} {scratch : FileSystem.Scratch} {files : FileSystem}

theorem Staged.not_optionLike (h : Staged around args split a module output scratch files path)
    (habsolute : Path.isAbsolute around.files.tempDir = true) : ¬ OptionLike path := by
  apply not_optionLike_of_isAbsolute
  obtain ⟨above, name, temp, hplaced⟩ := exists_placed h.created
  rw [h.path_eq, String.append_assoc, hplaced.isAbsolute_append, habsolute]

/-- The first process runs on the input as it is given, any other on an intermediate file. -/
theorem Plan.inputs (h : Plan around runner config args state plan) (hne : plan ≠ []) :
    ∃ split a first more, Reads around args split a ∧ plan = first :: more ∧
      RunsOn config a a.inputPath first ∧
      ∀ call ∈ more, ∃ input, RunsOn config a input call ∧
        (Path.isAbsolute around.files.tempDir = true → ¬ OptionLike input) := by
  cases h with
  | silent | rejected | noDirectory | noScratch => exact absurd rfl hne
  | native haccepted =>
      exact ⟨_, _, _, [], haccepted.reads, rfl, .compiler _, by simp⟩
  | translation haccepted =>
      exact ⟨_, _, _, [], haccepted.reads, rfl, .translator _ _, by simp⟩
  | halted hstaged hcall =>
      subst hcall
      exact ⟨_, _, _, [], hstaged.accepted.reads, rfl, .translator _ _, by simp⟩
  | full hstaged hcall =>
      subst hcall
      refine ⟨_, _, _, _, hstaged.accepted.reads, rfl, .translator _ _, ?_⟩
      intro call hmem
      rw [List.mem_singleton.1 hmem]
      exact ⟨_, .compiler _, hstaged.not_optionLike⟩

end

/-- A run that starts processes hands its input to the first one as it is given, and this input
looks like an option only if it stands behind `--`.  Every other process runs on an intermediate
file, which does not look like an option unless the temporary directory is relative. -/
theorem spawned_inputs (around : Surroundings) (runner : Runner ρ) (config : ToolConfig)
    (args : List String) (state : ρ) :
    spawned around runner config args state = [] ∨
      ∃ split a first more, Reads around args split a ∧
        spawned around runner config args state = first :: more ∧
        RunsOn config a a.inputPath first ∧
        (OptionLike a.inputPath → split.rest = some [a.inputPath]) ∧
        ∀ call ∈ more, ∃ input, RunsOn config a input call ∧
          (Path.isAbsolute around.files.tempDir = true → ¬ OptionLike input) := by
  obtain ⟨plan, hplan⟩ := exists_plan around runner config args state
  rw [hplan.spawned_eq]
  by_cases hne : plan = []
  · exact .inl hne
  · obtain ⟨split, a, first, more, hreads, hfirst, hinput, hmore⟩ := hplan.inputs hne
    have hbehind : OptionLike a.inputPath → split.rest = some [a.inputPath] := by
      obtain ⟨tokens, -, hspells, hdescribes⟩ := hreads
      exact Split.rest_of_optionLike hspells hdescribes.inputPath
    exact .inr ⟨split, a, first, more, hreads, hfirst, hinput, hbehind, hmore⟩

/-- An input from behind `--` that the translator gets with its dash. -/
theorem spawned_dashed_input :
    let around : Surroundings :=
      ⟨⟨[(["-weird.py"], .file [] false)], [], "/tmp"⟩, .ofTable [], LogFormat.plain, "so"⟩
    let config : ToolConfig := ⟨"g++", "tr"⟩
    let call : ToolCall := ⟨"tr", ["-weird.py", "-o", "-weird.cpp"]⟩
    ∃ a, CommandLine.parse around.files.workDir around.reader ["-E", "--", "-weird.py"] =
        .ok (.compile a) ∧
      spawned around scripted config ["-E", "--", "-weird.py"] [] = [call] ∧
      RunsOn config a "-weird.py" call ∧ OptionLike "-weird.py" := by
  intro around config call
  let a : Arguments := .collect ["-E", "--", "-weird.py"] "-weird.py"
    [.toggle .translateOnly, .operand "-weird.py"]
  have hparse : CommandLine.parse around.files.workDir around.reader ["-E", "--", "-weird.py"] =
      .ok (.compile a) := by
    rw [CommandLine.parse_words (ResponseFile.words_iff.2 (by decide))]
    decide
  refine ⟨a, hparse, ?_, .translator "-weird.cpp" [], 'w', "eird.py".toList, rfl⟩
  simp only [spawned, run, hparse]
  decide +kernel

end Operands

end Toolchain

end CompilerDriver
