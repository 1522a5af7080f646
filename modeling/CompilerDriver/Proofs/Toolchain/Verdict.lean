import CompilerDriver.Proofs.Toolchain.Tool

/-!
# What is made of an outcome

The outcomes of both tools are judged by one table, in which only the translator has a row for a
feature that it lacks.  A rejection carries the first stream that is not empty, cut at its end.  If
this stream holds nothing but blanks, the diagnostics on the other one are lost.
-/

namespace CompilerDriver.Toolchain

open Text (HasInk trimEnd)

/-! ## The table -/

/-- The process was started; so was one that was stopped for printing too much. -/
def ProcessResult.Started (r : ProcessResult) : Prop :=
  ∀ e, r.error = some e → e.code = some "ENOBUFS"

/-- The rows of the table with the error that each of them raises. -/
inductive Judges (tool : Tool) (program input : String) (r : ProcessResult) :
    Except Raised Unit → Prop
  | absent {e : ProcessError} (herror : r.error = some e) (hcode : e.code = some "ENOENT") :
      Judges tool program input r (.error (ToolError.notInstalled tool program).raised)
  | refused {e : ProcessError} (herror : r.error = some e) (habsent : e.code ≠ some "ENOENT")
      (hstarted : e.code ≠ some "ENOBUFS") :
      Judges tool program input r (.error (ToolError.notLaunched program e.message).raised)
  | succeeded (hstarted : r.Started) (hstatus : r.status = some 0) :
      Judges tool program input r (.ok ())
  | unsupported (hstarted : r.Started) (htool : tool = .translator)
      (hstatus : r.status = some unsupportedStatus) :
      Judges tool program input r (.error (ToolError.unsupported input r.stderr).raised)
  | rejected (hstarted : r.Started) (hstatus : r.status ≠ some 0)
      (hsupported : ¬ (tool = .translator ∧ r.status = some unsupportedStatus)) :
      Judges tool program input r (.error (ToolError.rejected program r).raised)

section

variable {tool : Tool} {program input : String} {r : ProcessResult}
  {result : Except Raised Unit} {kind : BackendFailureKind} {e : ToolError}

theorem ProcessResult.launchError?_eq_some_iff {e : ProcessError} :
    r.launchError? = some e ↔ r.error = some e ∧ e.code ≠ some "ENOBUFS" := by
  unfold ProcessResult.launchError? ProcessResult.overflowed
  cases herror : r.error with
  | none => simp
  | some found =>
      by_cases hcode : found.code = some "ENOBUFS"
      · simp only [hcode, beq_self_eq_true, if_true, reduceCtorEq, Option.some.injEq, false_iff]
        rintro ⟨rfl, hother⟩
        exact hother hcode
      · simp only [beq_eq_false_iff_ne.2 hcode, Bool.false_eq_true, if_false, Option.some.injEq]
        exact ⟨fun h => ⟨h, h ▸ hcode⟩, fun h => h.1⟩

theorem judges_judged (tool : Tool) (program input : String) (r : ProcessResult) :
    Judges tool program input r (judged tool program input (.ok r)) := by
  change Judges tool program input r ((tool.verdict program input r).mapError ToolError.raised)
  unfold Tool.verdict
  cases hlaunch : r.launchError? with
  | some e =>
      obtain ⟨herror, hcode⟩ := ProcessResult.launchError?_eq_some_iff.1 hlaunch
      by_cases habsent : e.code = some "ENOENT"
      · simp only [habsent, if_true]
        exact .absent herror habsent
      · simp only [habsent, if_false]
        exact .refused herror habsent hcode
  | none =>
      have hstarted : r.Started := ProcessResult.launchError?_eq_none_iff.1 hlaunch
      by_cases hunsupported : tool = .translator ∧ r.status = some unsupportedStatus
      · simp only [hunsupported, and_self, if_true]
        exact .unsupported hstarted rfl hunsupported.2
      · by_cases hstatus : r.status = some 0
        · simp only [if_neg hunsupported, if_pos hstatus]
          exact .succeeded hstarted hstatus
        · simp only [if_neg hunsupported, if_neg hstatus]
          exact .rejected hstarted hstatus hunsupported

/-! ## Classes of outcomes -/

/-- The tool ended in a failure of this kind. -/
def FailsAs (kind : BackendFailureKind) (result : Except Raised Unit) : Prop :=
  ∃ message, result = .error (.failure ⟨kind, message⟩)

@[simp] theorem not_failsAs_ok : ¬ FailsAs kind (.ok ()) := nofun

@[simp] theorem failsAs_raised_iff : FailsAs kind (.error e.raised) ↔ e.kind = kind := by
  simp [FailsAs, ToolError.raised, ToolError.failure, eq_comm]

/-- The class of an outcome decides how the tool ends, where `lacking` are the outcomes by which it
says that it lacks a feature. -/
structure Classifies (r : ProcessResult) (lacking : Prop) (result : Except Raised Unit) : Prop where
  returns : result = .ok () ↔ r.Started ∧ r.status = some 0
  environment : FailsAs .environment result ↔ ∃ e, r.error = some e ∧ e.code = some "ENOENT"
  inputOutput : FailsAs .inputOutput result ↔
    ∃ e, r.error = some e ∧ e.code ≠ some "ENOENT" ∧ e.code ≠ some "ENOBUFS"
  unimplemented : FailsAs .unimplemented result ↔ r.Started ∧ lacking
  compilation : FailsAs .compilation result ↔ r.Started ∧ r.status ≠ some 0 ∧ ¬ lacking
  nothingElse : result = .ok () ∨ ∃ kind, FailsAs kind result

theorem ProcessResult.Started.not_absent (h : r.Started) :
    ¬ ∃ e, r.error = some e ∧ e.code = some "ENOENT" := by
  rintro ⟨e, herror, hcode⟩
  rw [h e herror] at hcode
  exact absurd hcode (by decide)

theorem ProcessResult.Started.not_refused (h : r.Started) :
    ¬ ∃ e, r.error = some e ∧ e.code ≠ some "ENOENT" ∧ e.code ≠ some "ENOBUFS" := by
  rintro ⟨e, herror, -, hcode⟩
  exact hcode (h e herror)

theorem Judges.classifies (h : Judges tool program input r result) :
    Classifies r (tool = .translator ∧ r.status = some unsupportedStatus) result := by
  cases h with
  | @absent e herror hcode =>
      have hstarted : ¬ r.Started := fun h => h.not_absent ⟨e, herror, hcode⟩
      constructor <;> simp [herror, hcode, hstarted, ToolError.kind]
  | @refused e herror habsent hcode =>
      have hstarted : ¬ r.Started := fun h => h.not_refused ⟨e, herror, habsent, hcode⟩
      constructor <;> simp [herror, habsent, hcode, hstarted, ToolError.kind]
  | succeeded hstarted hstatus =>
      have habsent := hstarted.not_absent
      have hrefused := hstarted.not_refused
      constructor <;> simp [habsent, hrefused, hstarted, hstatus, unsupportedStatus]
  | unsupported hstarted htool hstatus =>
      have habsent := hstarted.not_absent
      have hrefused := hstarted.not_refused
      have hzero : unsupportedStatus ≠ 0 := by decide
      constructor <;>
        simp [habsent, hrefused, hstarted, htool, hstatus, hzero, ToolError.kind]
  | rejected hstarted hstatus hsupported =>
      have habsent := hstarted.not_absent
      have hrefused := hstarted.not_refused
      constructor <;>
        simp [habsent, hrefused, hstarted, hstatus, hsupported, ToolError.kind]

/-- What a missing feature is reported by always says something. -/
theorem hasInk_unsupported (input stderr : String) :
    HasInk (ToolError.unsupported input stderr).message := by
  unfold ToolError.message
  by_cases hsaid : HasInk stderr
  · have hne : Text.trim stderr ≠ "" := fun hempty => Text.trim_eq_empty_iff.1 hempty hsaid
    simp only [hne, if_false]
    exact Text.hasInk_trim_iff.2 hsaid
  · have hempty : Text.trim stderr = "" := Text.trim_eq_empty_iff.2 hsaid
    simp only [hempty, if_true]
    exact Text.HasInk.append_left (by decide) input

theorem Judges.hasInk {message : String} (h : Judges tool program input r result)
    (hresult : result = .error (.failure ⟨.unimplemented, message⟩)) : HasInk message := by
  cases h with
  | absent | refused | succeeded | rejected => cases hresult
  | unsupported =>
      obtain rfl : (ToolError.unsupported input r.stderr).message = message := by
        simpa [ToolError.raised, ToolError.failure, ToolError.kind] using hresult
      exact hasInk_unsupported input r.stderr

/-- The message on a rejection behind the name of the tool. -/
def ProcessResult.account (r : ProcessResult) : String :=
  " " ++ r.ending ++ ":\n" ++ trimEnd r.diagnostics

theorem message_rejected : (ToolError.rejected program r).message = program ++ r.account := by
  unfold ToolError.message ProcessResult.account
  simp only [String.append_assoc]

theorem Judges.rejected_eq (h : Judges tool program input r result)
    (hrejected : FailsAs .compilation result) :
    result = .error (.failure ⟨.compilation, program ++ r.account⟩) := by
  cases h with
  | absent | refused | succeeded | unsupported => simp [ToolError.kind] at hrejected
  | rejected =>
      rw [ToolError.raised, ToolError.failure, message_rejected]
      rfl

theorem judged_of_rejected (hstarted : r.Started) (hstatus : r.status ≠ some 0)
    (hsupported : ¬ (tool = .translator ∧ r.status = some unsupportedStatus)) :
    judged tool program input (.ok r) =
      .error (.failure ⟨.compilation, program ++ r.account⟩) := by
  have hjudges := judges_judged tool program input r
  exact hjudges.rejected_eq (hjudges.classifies.compilation.2 ⟨hstarted, hstatus, hsupported⟩)

end

/-! ## The two tools -/

section

variable {ρ σ : Type}

theorem result_runTool {runner : Runner ρ} {config : ToolConfig} {tool : Tool} {input : String}
    {arguments : List String} {w : World ρ} {ended : Except Fault ProcessResult}
    (h : (w.reply runner ⟨config.program tool, arguments⟩).result = ended) :
    (runTool runner config tool input arguments w).1 =
      judged tool (config.program tool) input ended := by
  rw [runTool_eq, h]

/-- Both tools judge an outcome alike, but for the one status that only the translator has.  What
they tell about a rejection differs in the name of the tool only, and a missing feature is never
reported by a blank message. -/
theorem outcomes_judged_alike (runner : Runner ρ) (runner' : Runner σ) (config : ToolConfig)
    (input output source target : String) (options options' : CompilerOptions) (emitGlue : Bool)
    (w : World ρ) (w' : World σ) (ended : Except Fault ProcessResult)
    (hcompiler : (w.reply runner
      ⟨config.compiler, compilerArguments input output options⟩).result = ended)
    (htranslator : (w'.reply runner'
      ⟨config.translator, translatorArguments source target emitGlue options'⟩).result = ended) :
    let compiled := (runCompiler runner config input output options w).1
    let translated := (runTranslator runner' config source target emitGlue options' w').1
    (∀ fault, ended = .error fault →
      compiled = .error (.fault fault) ∧ translated = .error (.fault fault)) ∧
    ∀ r, ended = .ok r →
      Classifies r False compiled ∧ Classifies r (r.status = some 3) translated ∧
      (r.Started → r.status ≠ some 0 → r.status ≠ some 3 →
        ∃ text, compiled = .error (.failure ⟨.compilation, config.compiler ++ text⟩) ∧
          translated = .error (.failure ⟨.compilation, config.translator ++ text⟩)) ∧
      ∀ message, translated = .error (.failure ⟨.unimplemented, message⟩) → HasInk message := by
  have hcompiled : (runCompiler runner config input output options w).1 =
      judged .compiler config.compiler input ended := result_runTool hcompiler
  have htranslated : (runTranslator runner' config source target emitGlue options' w').1 =
      judged .translator config.translator source ended := result_runTool htranslator
  simp only [hcompiled, htranslated]
  constructor
  · rintro fault rfl
    exact ⟨rfl, rfl⟩
  · rintro r rfl
    have hjudges := judges_judged .compiler config.compiler input r
    have hjudges' := judges_judged .translator config.translator source r
    have hclass : Classifies r False (judged .compiler config.compiler input (.ok r)) := by
      simpa using hjudges.classifies
    have hclass' : Classifies r (r.status = some 3)
        (judged .translator config.translator source (.ok r)) := by
      simpa [unsupportedStatus] using hjudges'.classifies
    refine ⟨hclass, hclass', ?_, fun message => hjudges'.hasInk⟩
    intro hstarted hzero hthree
    have hcompiler : ¬ (Tool.compiler = .translator ∧ r.status = some unsupportedStatus) :=
      fun h => absurd h.1 (by decide)
    exact ⟨r.account, judged_of_rejected hstarted hzero hcompiler,
      judged_of_rejected hstarted hzero fun h => hthree h.2⟩

/-- An output that is too long, from a process that was stopped by a signal. -/
theorem overflow_judged_alike :
    let r : ProcessResult :=
      { status := none, signal := some "SIGTERM", stderr := "a.cpp:1: error"
        error := some ⟨some "ENOBUFS", "spawnSync c++ ENOBUFS"⟩ }
    let runner : Runner Unit := fun _ _ state => (⟨[], .ok r⟩, state)
    let config : ToolConfig := ⟨"c++", "tr"⟩
    let w : World Unit := ⟨.empty [] "/tmp", (), []⟩
    let compiled := (runCompiler runner config "a.cpp" "a.so" {} w).1
    let translated := (runTranslator runner config "a.py" "a.cpp" true {} w).1
    (w.reply runner ⟨"c++", compilerArguments "a.cpp" "a.so" {}⟩).result = .ok r ∧
      (w.reply runner ⟨"tr", translatorArguments "a.py" "a.cpp" true {}⟩).result = .ok r ∧
      r.Started ∧ Classifies r False compiled ∧ Classifies r (r.status = some 3) translated ∧
      ∃ text, compiled = .error (.failure ⟨.compilation, "c++" ++ text⟩) ∧
        translated = .error (.failure ⟨.compilation, "tr" ++ text⟩) := by
  intro r runner config w compiled translated
  have hstarted : r.Started := by
    intro e he
    cases he
    rfl
  obtain ⟨-, halike⟩ := outcomes_judged_alike runner runner config "a.cpp" "a.so" "a.py" "a.cpp"
    {} {} true w w (.ok r) rfl rfl
  obtain ⟨hclass, hclass', hsame, -⟩ := halike r rfl
  exact ⟨rfl, rfl, hstarted, hclass, hclass', hsame hstarted (by decide) (by decide)⟩

/-! ## Diagnostics -/

/-- The text says why the tool failed: it is not blank, and it is the end-trimmed content of a
stream that says something, if one does. -/
structure Explains (r : ProcessResult) (text : String) : Prop where
  hasInk : HasInk text
  ofStream : HasInk r.stderr ∨ HasInk r.stdout →
    ∃ stream, (stream = r.stderr ∨ stream = r.stdout) ∧ HasInk stream ∧ text = trimEnd stream

/-- The first stream that is not empty holds nothing but blanks. -/
def BlankFirst (r : ProcessResult) : Prop :=
  (r.stderr ≠ "" ∧ ¬ HasInk r.stderr) ∨ (r.stderr = "" ∧ r.stdout ≠ "" ∧ ¬ HasInk r.stdout)

theorem diagnostics_cases (r : ProcessResult) :
    (r.stderr ≠ "" ∧ r.diagnostics = r.stderr) ∨
      (r.stderr = "" ∧ r.stdout ≠ "" ∧ r.diagnostics = r.stdout) ∨
      (r.stderr = "" ∧ r.stdout = "" ∧ r.diagnostics = "Unknown error") := by
  unfold ProcessResult.diagnostics
  by_cases hstderr : r.stderr = ""
  · by_cases hstdout : r.stdout = "" <;> simp [hstderr, hstdout]
  · simp [hstderr]

theorem blankFirst_iff {r : ProcessResult} : BlankFirst r ↔ ¬ HasInk r.diagnostics := by
  unfold BlankFirst
  rcases diagnostics_cases r with ⟨hstderr, heq⟩ | ⟨hstderr, hstdout, heq⟩ |
    ⟨hstderr, hstdout, heq⟩
  · simp [heq, hstderr]
  · simp [heq, hstderr, hstdout]
  · have hink : HasInk "Unknown error" := by decide
    simp [heq, hstderr, hstdout, hink]

theorem explains_iff {r : ProcessResult} :
    Explains r (trimEnd r.diagnostics) ↔ HasInk r.diagnostics := by
  constructor
  · intro h
    exact Text.hasInk_trimEnd_iff.1 h.hasInk
  · intro hink
    refine ⟨Text.hasInk_trimEnd_iff.2 hink, ?_⟩
    intro hstream
    rcases diagnostics_cases r with ⟨-, heq⟩ | ⟨-, -, heq⟩ | ⟨hstderr, hstdout, -⟩
    · exact ⟨r.stderr, .inl rfl, heq ▸ hink, by rw [heq]⟩
    · exact ⟨r.stdout, .inr rfl, heq ▸ hink, by rw [heq]⟩
    · -- no stream says anything
      rw [hstderr, hstdout] at hstream
      exact absurd hstream (by decide)

/-- A rejection says why the tool failed, unless the first stream that is not empty is blank: then
nothing is left to say, whatever stands in the other one. -/
theorem rejection_explains_iff (runner : Runner ρ) (config : ToolConfig) (tool : Tool)
    (input : String) (arguments : List String) (w : World ρ) (message : String)
    (h : (runTool runner config tool input arguments w).1 =
      .error (.failure ⟨.compilation, message⟩)) :
    ∃ r text, (w.reply runner ⟨config.program tool, arguments⟩).result = .ok r ∧
      message = config.program tool ++ " " ++ r.ending ++ ":\n" ++ text ∧
      text = trimEnd r.diagnostics ∧ (Explains r text ↔ ¬ BlankFirst r) ∧
      (BlankFirst r → text = "") := by
  rw [runTool_eq] at h
  cases hended : (w.reply runner ⟨config.program tool, arguments⟩).result with
  | error fault =>
      rw [hended] at h
      cases h
  | ok r =>
      rw [hended] at h
      have hjudges := judges_judged tool (config.program tool) input r
      have hmessage : message = config.program tool ++ r.account := by
        have heq := h.symm.trans (hjudges.rejected_eq ⟨message, h⟩)
        simpa using heq
      refine ⟨r, trimEnd r.diagnostics, rfl, ?_, rfl, ?_, ?_⟩
      · rw [hmessage, ProcessResult.account]
        simp only [String.append_assoc]
      · rw [explains_iff, blankFirst_iff, Decidable.not_not]
      · intro hblank
        exact Text.trimEnd_eq_empty_iff.2 (blankFirst_iff.1 hblank)

/-- Diagnostics on the standard output. -/
theorem rejection_explained :
    let r : ProcessResult := { status := some 1, stdout := "type mismatch in f\n" }
    let runner : Runner Unit := fun _ _ state => (⟨[], .ok r⟩, state)
    let config : ToolConfig := ⟨"c++", "tr"⟩
    let w : World Unit := ⟨.empty [] "/tmp", (), []⟩
    (runTool runner config .translator "a.py" ["a.py"] w).1 =
        .error (.failure ⟨.compilation, "tr failed with code 1:\ntype mismatch in f"⟩) ∧
      ∃ text, "tr failed with code 1:\ntype mismatch in f" =
          "tr" ++ " " ++ r.ending ++ ":\n" ++ text ∧ Explains r text := by
  intro r runner config w
  have hstarted : r.Started := nofun
  have haccount : "tr" ++ r.account = "tr failed with code 1:\ntype mismatch in f" := by decide
  have hended : (runTool runner config .translator "a.py" ["a.py"] w).1 =
      .error (.failure ⟨.compilation, "tr failed with code 1:\ntype mismatch in f"⟩) := by
    rw [← haccount, result_runTool rfl]
    exact judged_of_rejected hstarted (by decide) fun h => absurd h.2 (by decide)
  obtain ⟨found, text, hfound, hmessage, -, hexplains, -⟩ :=
    rejection_explains_iff runner config .translator "a.py" ["a.py"] w _ hended
  obtain rfl : r = found := Except.ok.inj hfound
  exact ⟨hended, text, hmessage, hexplains.2 (by unfold BlankFirst; decide)⟩

/-- Blanks on the standard error hide what stands on the standard output. -/
theorem rejection_hidden :
    let r : ProcessResult := { status := some 1, stdout := "a.cpp:1: error", stderr := " \n" }
    let runner : Runner Unit := fun _ _ state => (⟨[], .ok r⟩, state)
    let w : World Unit := ⟨.empty [] "/tmp", (), []⟩
    (runCompiler runner ⟨"c++", "tr"⟩ "a.cpp" "a.so" {} w).1 =
        .error (.failure ⟨.compilation, "c++" ++ " " ++ r.ending ++ ":\n" ++ ""⟩) ∧
      HasInk r.stdout ∧ ¬ Explains r "" := by
  intro r runner w
  have hstarted : r.Started := nofun
  have haccount : "c++" ++ r.account = "c++" ++ " " ++ r.ending ++ ":\n" ++ "" := by decide
  have hended : (runCompiler runner ⟨"c++", "tr"⟩ "a.cpp" "a.so" {} w).1 =
      .error (.failure ⟨.compilation, "c++" ++ " " ++ r.ending ++ ":\n" ++ ""⟩) := by
    rw [← haccount, runCompiler, result_runTool rfl]
    exact judged_of_rejected hstarted (by decide) fun h => absurd h.2 (by decide)
  refine ⟨hended, by decide, ?_⟩
  intro h
  exact h.hasInk.ne_empty rfl

end

end CompilerDriver.Toolchain
