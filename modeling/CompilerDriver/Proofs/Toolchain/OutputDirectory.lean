import CompilerDriver.Proofs.FileSystem.Lexical
import CompilerDriver.Proofs.Toolchain.Cleanup
import CompilerDriver.Proofs.Toolchain.Plan
import CompilerDriver.Proofs.Toolchain.Verdict

/-!
# The directory of the output

A build is refused before any tool is started if the text of its output path leads to no directory.
The tools open the path as it is written.  The two directories are the same where each step up
leaves a directory, and may be different ones behind a link or behind nothing at all.
-/

namespace CompilerDriver

namespace FileSystem

variable {fs : FileSystem} {path : String}

theorem Straight.parent (h : fs.Straight path) (hname : Path.IsOrdinary (Path.baseName path)) :
    fs.Straight (Path.parent path) := by
  intro before after hsplit
  obtain ⟨hparent, -, -⟩ | ⟨-, habsolute, hcomponents⟩ := Path.parent_cases hname
  · rw [hparent] at hsplit
    have hdot : Path.components "." = ["."] := by decide
    rw [hdot] at hsplit
    rcases before with _ | ⟨_, _ | ⟨_, _⟩⟩ <;> simp at hsplit
  · rw [hsplit, List.append_assoc] at hcomponents
    have hstart : fs.start (Path.parent path) = fs.start path := by
      rw [start, start, habsolute]
    obtain ⟨l, hdirectory⟩ := h before _ hcomponents
    exact ⟨l, by rwa [place, hstart]⟩

end FileSystem

namespace Toolchain

/-- Output paths whose directory can be told by their text. -/
structure Direct (fs : FileSystem) (output : String) : Prop where
  anchored : fs.Anchored fs.workDir
  ordinary : Path.IsOrdinary (Path.baseName output)
  straight : fs.Straight output
  parent_size : (Path.parent output).utf8ByteSize ≤ FileSystem.maxPathBytes
  text_size : (Location.text (Path.resolve fs.workDir output).dropLast).utf8ByteSize ≤
    FileSystem.maxPathBytes

/-- The build was refused for want of a directory. -/
def LacksDirectory (result : Except Raised Unit) : Prop :=
  ∃ directory, result = .error (ToolError.outputDirectoryMissing directory).raised

section

variable {ρ : Type} {run : Runner ρ} {config : ToolConfig} {fs : FileSystem} {input output : String}
  {w w' : World ρ} {call : BackendCall} {replies : List Reply} {result : Except Raised Unit}
  {e : ToolError}

theorem Direct.hasDirectory_iff (h : Direct fs output) :
    HasDirectory fs output ↔ fs.isDirectory (Path.parent output) = true := by
  rw [HasDirectory, ← Path.resolve_parent h.ordinary]
  refine FileSystem.isDirectory_text_resolve_iff h.anchored (h.straight.parent h.ordinary)
    (Path.parent_ne_empty h.ordinary) h.parent_size ?_
  rw [Path.resolve_parent h.ordinary]
  exact h.text_size

/-! ## What a missing directory is told from -/

theorem append_ne_append {text text' : String} (hhead : text.toList.head? ≠ text'.toList.head?)
    (hne : text ≠ "") (hne' : text' ≠ "") (more more' : String) :
    text ++ more ≠ text' ++ more' := by
  intro heq
  have hsame := congrArg (fun whole : String => whole.toList.head?) heq
  simp only [String.toList_append] at hsame
  rw [List.head?_append_of_ne_nil _ (mt String.toList_eq_nil_iff.1 hne),
    List.head?_append_of_ne_nil _ (mt String.toList_eq_nil_iff.1 hne')] at hsame
  exact hhead hsame

theorem lacksDirectory_raised_iff :
    LacksDirectory (.error e.raised) ↔ ∃ directory, e = .outputDirectoryMissing directory := by
  constructor
  · rintro ⟨directory, hraised⟩
    simp only [ToolError.raised, ToolError.failure, Except.error.injEq, Raised.failure.injEq,
      BackendFailure.mk.injEq] at hraised
    obtain ⟨hkind, hmessage⟩ := hraised
    -- the messages of the same kind begin with other letters
    cases e with
    | outputDirectoryMissing directory => exact ⟨directory, rfl⟩
    | inputMissing path =>
        exact absurd hmessage (append_ne_append (by decide) (by decide) (by decide) _ _)
    | scratchUnavailable cause =>
        exact absurd hmessage (append_ne_append (by decide) (by decide) (by decide) _ _)
    | notLaunched program reason =>
        change "Failed to execute " ++ program ++ ": " ++ reason = _ at hmessage
        rw [String.append_assoc, String.append_assoc] at hmessage
        exact absurd hmessage (append_ne_append (by decide) (by decide) (by decide) _ _)
    | notInstalled tool program => cases hkind
    | unsupported input stderr => cases hkind
    | rejected program r => cases hkind
  · rintro ⟨directory, rfl⟩
    exact ⟨directory, rfl⟩

theorem not_lacksDirectory_judged (tool : Tool) (program input : String)
    (result : Except Fault ProcessResult) :
    ¬ LacksDirectory (judged tool program input result) := by
  cases result with
  | error fault =>
      rintro ⟨directory, hraised⟩
      cases hraised
  | ok r =>
      have hjudges := judges_judged tool program input r
      generalize judged tool program input (.ok r) = result at hjudges ⊢
      cases hjudges with
      | succeeded =>
          rintro ⟨directory, hraised⟩
          cases hraised
      | _ => simp [lacksDirectory_raised_iff]

theorem ToolRuns.not_lacksDirectory (h : ToolRuns run config w replies result w') :
    ¬ LacksDirectory result := by
  induction h with
  | done w =>
      rintro ⟨directory, hraised⟩
      cases hraised
  | failed htool =>
      rw [runTool_eq] at htool
      obtain ⟨hjudged, -⟩ := Prod.mk.inj htool
      rw [← hjudged]
      exact not_lacksDirectory_judged _ _ _ _
  | next _ _ ih => exact ih

/-- The error of a failed removal is none about the output either. -/
theorem not_lacksDirectory_settled {ended : Except Raised Unit} (h : ¬ LacksDirectory ended)
    (scratch : Option FileSystem.Scratch) (left : World ρ) :
    ¬ LacksDirectory (settled scratch (ended, left)).1 := by
  cases scratch with
  | none => exact h
  | some s =>
      simp only [settled, cleanUp]
      split
      · exact h
      · rintro ⟨directory, hraised⟩
        cases hraised

theorem checkPaths_of_exists (hinput : fs.pathExists input = true)
    (hdirectory : ¬ HasDirectory fs output) :
    checkPaths fs input output =
      .error (.outputDirectoryMissing (Path.resolve fs.workDir output).dropLast) := by
  rw [HasDirectory, Bool.not_eq_true] at hdirectory
  simp [checkPaths, hinput, hdirectory]

theorem backend_of_not_hasDirectory (run : Runner ρ) (config : ToolConfig)
    (hinput : w.files.pathExists call.inputPath = true)
    (hdirectory : ¬ HasDirectory w.files call.outputPath) :
    backend run config call w =
      (.error (ToolError.outputDirectoryMissing
        (Path.resolve w.files.workDir call.outputPath).dropLast).raised, w) := by
  refine backend_of_refused run config ?_
  simp only [prepare, checkPaths_of_exists hinput hdirectory]

theorem not_lacksDirectory_backend (run : Runner ρ) (config : ToolConfig)
    (hinput : w.files.pathExists call.inputPath = true)
    (hdirectory : HasDirectory w.files call.outputPath) :
    ¬ LacksDirectory (backend run config call w).1 := by
  have hcheck := checkPaths_eq_ok_iff.2 ⟨hinput, hdirectory⟩
  cases hprepare : prepare w.files call with
  | error e =>
      rw [backend_of_refused run config hprepare, lacksDirectory_raised_iff]
      obtain hrefused | ⟨-, -, cause, -, rfl⟩ := prepare_eq_error hprepare
      · rw [hcheck] at hrefused
        cases hrefused
      · simp
  | ok prepared =>
      obtain ⟨scratch, base⟩ := prepared
      obtain ⟨replies, ended, left, hruns, hbackend⟩ :=
        exists_toolRuns_backend run config w hprepare
      rw [hbackend]
      exact not_lacksDirectory_settled hruns.not_lacksDirectory scratch left

end

/-- A build is refused for want of a directory, before anything is started, exactly if the text of
its output path leads to none.  On direct paths this is the directory that the tools would use. -/
theorem output_refused_iff {ρ : Type} (run : Runner ρ) (config : ToolConfig) (call : BackendCall)
    (w : World ρ) (hinput : w.files.pathExists call.inputPath = true) :
    (LacksDirectory (backend run config call w).1 ↔ ¬ HasDirectory w.files call.outputPath) ∧
    (¬ HasDirectory w.files call.outputPath →
      backend run config call w =
        (.error (ToolError.outputDirectoryMissing
          (Path.resolve w.files.workDir call.outputPath).dropLast).raised, w)) ∧
    (Direct w.files call.outputPath →
      (LacksDirectory (backend run config call w).1 ↔
        w.files.isDirectory (Path.parent call.outputPath) = false)) := by
  have hlacks : LacksDirectory (backend run config call w).1 ↔
      ¬ HasDirectory w.files call.outputPath := by
    constructor
    · intro hrefused hdirectory
      exact not_lacksDirectory_backend run config hinput hdirectory hrefused
    · intro hdirectory
      rw [backend_of_not_hasDirectory run config hinput hdirectory]
      exact ⟨_, rfl⟩
  refine ⟨hlacks, backend_of_not_hasDirectory run config hinput, fun hdirect => ?_⟩
  rw [hlacks, hdirect.hasDirectory_iff, Bool.not_eq_true]

/-- A path through a link that steps up from a directory below it. -/
theorem output_accepted_below_link :
    let fs : FileSystem :=
      ⟨[(["real"], .directory), (["real", "sub"], .directory), (["real", "out"], .directory),
        (["d"], .link "real"), (["m.cpp"], .file [] false)], [], "/tmp"⟩
    Direct fs "d/sub/../out/m.so" ∧ fs.isDirectory "d/sub/../out" = true ∧
      ¬ LacksDirectory (backend scripted ⟨"c++", "tr"⟩
        (.compileCxx "m.cpp" "d/sub/../out/m.so" {}) ⟨fs, [], []⟩).1 := by
  intro fs
  have hcomponents : Path.components "d/sub/../out/m.so" =
      ["d", "sub"] ++ ".." :: ["out", "m.so"] := by decide
  have hdirectory :
      fs.lookupSelfFrom [] (Location.text (fs.place "d/sub/../out/m.so" ["d", "sub"])) =
        .ok (.entry ["real", "sub"] .directory) := by decide +kernel
  have hbase : Path.baseName "d/sub/../out/m.so" = "m.so" := by decide +kernel
  have hdirect : Direct fs "d/sub/../out/m.so" := {
    anchored := .root
    ordinary := hbase ▸ Path.isOrdinary_of_length (by decide) (by decide)
    straight := .of_single hcomponents (by decide) (by decide) hdirectory
    parent_size := by decide +kernel
    text_size := by decide +kernel }
  have hparent : Path.parent "d/sub/../out/m.so" = "d/sub/../out" := by decide +kernel
  have hout : fs.isDirectory "d/sub/../out" = true := by decide +kernel
  have hrefused := (output_refused_iff scripted ⟨"c++", "tr"⟩
    (.compileCxx "m.cpp" "d/sub/../out/m.so" {}) ⟨fs, [], []⟩ (by decide +kernel)).2.2 hdirect
  refine ⟨hdirect, hout, fun hlacks => ?_⟩
  have hnone : fs.isDirectory (Path.parent "d/sub/../out/m.so") = false := hrefused.1 hlacks
  rw [hparent, hout] at hnone
  cases hnone

/-- A step up out of a link has an output refused that has a directory, and one from nowhere has
the compiler started on an output that has none. -/
theorem output_misjudged :
    let fs : FileSystem :=
      ⟨[(["real"], .directory), (["real", "sub"], .directory), (["real", "out"], .directory),
        (["d"], .link "real/sub"), (["m.cpp"], .file [] false)], [], "/tmp"⟩
    (Path.IsOrdinary (Path.baseName "d/../out/m.so") ∧
      fs.isDirectory (Path.parent "d/../out/m.so") = true ∧
      LacksDirectory (backend scripted ⟨"c++", "tr"⟩
        (.compileCxx "m.cpp" "d/../out/m.so" {}) ⟨fs, [], []⟩).1) ∧
    Path.IsOrdinary (Path.baseName "gone/../real/m.so") ∧
      fs.isDirectory (Path.parent "gone/../real/m.so") = false ∧
      (backend scripted ⟨"c++", "tr"⟩
        (.compileCxx "m.cpp" "gone/../real/m.so" {}) ⟨fs, [], []⟩).2.calls.map Prod.fst =
        [⟨"c++", ["-shared", "-fPIC", "m.cpp", "-o", "gone/../real/m.so"]⟩] := by
  intro fs
  have hbase : Path.baseName "d/../out/m.so" = "m.so" := by decide +kernel
  have hbase' : Path.baseName "gone/../real/m.so" = "m.so" := by decide +kernel
  have hordinary : Path.IsOrdinary "m.so" := Path.isOrdinary_of_length (by decide) (by decide)
  rw [hbase, hbase']
  exact ⟨⟨hordinary, by decide +kernel, ["out"], by decide +kernel⟩, hordinary, by decide +kernel,
    by decide +kernel⟩

end Toolchain

end CompilerDriver
