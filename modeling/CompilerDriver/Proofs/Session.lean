import CompilerDriver.Session
import CompilerDriver.Proofs.CommandLine.Grammar
import CompilerDriver.Proofs.Compilation

/-!
# The course of a run

A run is refused for its command line, shows a text, is refused for its request, or makes one call
to the backend and ends as the backend's reply settles.  These courses exclude each other, and each
of them fixes the exit code, the printed texts, the log lines and the backend calls.
-/

namespace CompilerDriver

open CommandLine (Arguments Split UsageError)

section Courses

variable {σ : Type}

/-! ## The calls of a run -/

/-- A backend that keeps a record of its calls. -/
def Backend.recorded (backend : Backend σ) : Backend (σ × List BackendCall) := fun call w =>
  let (reply, s) := backend call w.1
  (reply, s, w.2 ++ [call])

/-- The backend calls of a run, in order. -/
def callsOf (around : Surroundings) (backend : Backend σ) (args : List String) (s : σ) :
    List BackendCall :=
  (run around backend.recorded args (s, [])).2.2

/-! ## Courses -/

/-- With its response files expanded, the command line splits like this, and the record holds what
the split says. -/
def Reads (around : Surroundings) (args : List String) (split : Split) (a : Arguments) : Prop :=
  ∃ tokens, ResponseFile.expand around.files.workDir around.reader args = .ok tokens ∧
    split.Spells tokens ∧ split.Describes tokens a

inductive Course where
  | usageError
  | notice
  | rejection
  | dispatch
  deriving DecidableEq, Repr

def missingFeature : String :=
  "The translator reached a feature it does not implement yet; " ++
    "please report it with the trace below"

/-- The first line of the message on a backend's failure. -/
def BackendFailureKind.headline : BackendFailureKind → String
  | compilation => "Native compilation failed"
  | environment => "The toolchain is incomplete"
  | inputOutput => "I/O failure"
  | unimplemented => missingFeature

/-- The backend call for a record, by the letters of its command line. -/
def callFor (letters : List Char) (args : Arguments) (output : String) : BackendCall :=
  if ".cpp".toList <:+ args.inputPath.toList then
    .compileCxx args.inputPath output (CompilerOptions.assemble args)
  else
    .compileModule args.inputPath output
      { cppOnly := decide ('E' ∈ letters ∨ 'e' ∈ letters), withoutGlue := decide ('e' ∈ letters) }
      (CompilerOptions.assemble args)

def finishedNote (letters : List Char) (output : String) : String :=
  if 'E' ∈ letters ∨ 'e' ∈ letters then "Generated C++ source file: " ++ output
  else "Generated native extension: " ++ output

/-- What a run shows for the reply to its one call. -/
def Outcome.ofReply (format : LogFormat) (letters : List Char) (output : String) :
    Except Raised Unit → Outcome
  | .ok () =>
      { ending := .exit 0
        lines := if 'v' ∈ letters then [format ⟨.info, finishedNote letters output⟩] else [] }
  | .error (.failure f) =>
      { ending := if f.kind = .unimplemented then .escaped (.failure f) else .exit 1
        lines := [format ⟨.critical, f.kind.headline ++ "\n" ++ f.message⟩] }
  | .error (.fault fault) => { ending := .escaped (.fault fault) }

/-- The course with its condition, the outcome and the backend calls. -/
inductive Takes (around : Surroundings) (backend : Backend σ) (args : List String) (s : σ) :
    Course → Outcome → List BackendCall → Prop
  | usageError {e : UsageError}
      (hparse : CommandLine.parse around.files.workDir around.reader args = .error e) :
      Takes around backend args s .usageError
        { ending := .exit 2, lines := [around.format ⟨.error, e.message ++ "\n" ++ usage⟩] } []
  | help (hparse : CommandLine.parse around.files.workDir around.reader args = .ok .help) :
      Takes around backend args s .notice { ending := .exit 0, printed := [helpText] } []
  | version (hparse : CommandLine.parse around.files.workDir around.reader args = .ok .version) :
      Takes around backend args s .notice { ending := .exit 0, printed := [versionText] } []
  | rejection {a : Arguments} {e : RequestError}
      (hparse : CommandLine.parse around.files.workDir around.reader args = .ok (.compile a))
      (hbuild : CompilationRequest.build around.files a (CompilerOptions.assemble a)
        around.nativeSuffix = .error e) :
      Takes around backend args s .rejection
        { ending := .exit 1, lines := [around.format ⟨.critical, e.message⟩] } []
  | dispatch {split : Split} {a : Arguments} {request : CompilationRequest} {output : String}
      (hreads : Reads around args split a)
      (hbuild : CompilationRequest.build around.files a (CompilerOptions.assemble a)
        around.nativeSuffix = .ok request)
      (houtput : output = CompilationRequest.settleOutput a (Path.stem a.inputPath)
        around.nativeSuffix) :
      Takes around backend args s .dispatch
        (.ofReply around.format split.letters output (backend (callFor split.letters a output) s).1)
        [callFor split.letters a output]

/-! ## What the stages show -/

theorem callFor_of_cxx {letters : List Char} {args : Arguments} {output : String}
    (h : ".cpp".toList <:+ args.inputPath.toList) :
    callFor letters args output =
      .compileCxx args.inputPath output (CompilerOptions.assemble args) :=
  if_pos h

theorem callFor_of_python {letters : List Char} {args : Arguments} {output : String}
    (h : ".py".toList <:+ args.inputPath.toList) :
    callFor letters args output =
      .compileModule args.inputPath output
        { cppOnly := decide ('E' ∈ letters ∨ 'e' ∈ letters)
          withoutGlue := decide ('e' ∈ letters) }
        (CompilerOptions.assemble args) := by
  have hcxx : ¬ ".cpp".toList <:+ args.inputPath.toList := by
    intro hcxx
    have hkind : SourceKind.cxx = SourceKind.python := SourceKind.eq_of_suffix hcxx h
    cases hkind
  exact if_neg hcxx

theorem lines_of_critical (verbose : Bool) (format : LogFormat) (message : String) :
    Logger.lines ⟨Severity.thresholdFor verbose, format⟩ ⟨.critical, message⟩ =
      [format ⟨.critical, message⟩] := by
  cases verbose <;> rfl

theorem lines_of_info (verbose : Bool) (format : LogFormat) (message : String) :
    Logger.lines ⟨Severity.thresholdFor verbose, format⟩ ⟨.info, message⟩ =
      if verbose = true then [format ⟨.info, message⟩] else [] := by
  cases verbose <;> rfl

theorem lines_of_debug (verbose : Bool) (format : LogFormat) (message : String) :
    Logger.lines ⟨Severity.thresholdFor verbose, format⟩ ⟨.debug, message⟩ = [] := by
  cases verbose <;> rfl

theorem CompilationRequest.exists_successEvent_eq (request : CompilationRequest) :
    ∃ message, request.successEvent = ⟨.info, message⟩ := by
  unfold successEvent
  split
  · exact ⟨_, rfl⟩
  · exact ⟨_, rfl⟩

/-- How a run ends whose one call was replied to like this. -/
def endingOf : Except Raised Unit → Ending
  | .ok () => .exit exitSuccess
  | .error (.failure f) => (Failure.ofBackend f).ending
  | .error (.fault fault) => .escaped (.fault fault)

/-- What is logged on a request whose one call was replied to like this. -/
def CompilationRequest.notes (request : CompilationRequest) (verbose : Bool) :
    Except Raised Unit → List LogEvent
  | .ok () => if verbose = true then [request.successEvent] else []
  | .error (.failure f) => [(Failure.ofBackend f).event]
  | .error (.fault _) => []

section

variable {around : Surroundings} {backend : Backend σ} {args : List String} {a : Arguments} {s : σ}
  {split : Split}

theorem parse_eq_compile_iff :
    CommandLine.parse around.files.workDir around.reader args = .ok (.compile a) ↔
      ∃ split, Reads around args split a := by
  rw [CommandLine.parse_compile_iff]
  constructor
  · rintro ⟨tokens, hexpand, split, hspells, hdesc⟩
    exact ⟨split, tokens, hexpand, hspells, hdesc⟩
  · rintro ⟨split, tokens, hexpand, hspells, hdesc⟩
    exact ⟨tokens, hexpand, split, hspells, hdesc⟩

theorem compile_of_error {e : RequestError}
    (h : CompilationRequest.build around.files a (CompilerOptions.assemble a)
      around.nativeSuffix = .error e) :
    compile around backend a s =
      ({ ending := .exit 1, lines := [around.format ⟨.critical, e.message⟩] }, s) := by
  simp only [compile, h, Failure.outcome, Failure.event, Failure.ending, lines_of_critical]
  rfl

theorem severity_ofBackend (f : BackendFailure) :
    (Failure.ofBackend f).event.severity = .critical := by
  obtain ⟨kind, message⟩ := f
  cases kind <;> rfl

theorem missingFeature_line :
    "The translator reached a feature it does not implement yet; " ++
      "please report it with the trace below\n" = missingFeature ++ "\n" := by decide

/-- A failure of the backend is logged under its headline. -/
theorem event_ofBackend (f : BackendFailure) :
    (Failure.ofBackend f).event = ⟨.critical, f.kind.headline ++ "\n" ++ f.message⟩ := by
  obtain ⟨kind, message⟩ := f
  cases kind with
  | unimplemented =>
      exact congrArg (fun line => LogEvent.mk .critical (line ++ message)) missingFeature_line
  | _ =>
      simp only [Failure.ofBackend, Failure.event, BackendFailureKind.headline,
        String.reduceAppend]

/-- Only a missing feature escapes. -/
theorem ending_ofBackend (f : BackendFailure) :
    (Failure.ofBackend f).ending =
      if f.kind = .unimplemented then .escaped (.failure f) else .exit 1 := by
  obtain ⟨kind, message⟩ := f
  cases kind <;> rfl

/-- A request is handed over in one call, and the reply settles the rest. -/
theorem compile_of_request {request : CompilationRequest}
    (hbuild : CompilationRequest.build around.files a (CompilerOptions.assemble a)
      around.nativeSuffix = .ok request) :
    compile around backend a s =
      let (reply, s') := backend request.call s
      ({ ending := endingOf reply
         lines := (request.notes a.verbose reply).map around.format }, s') := by
  obtain ⟨message, hevent⟩ := request.exists_successEvent_eq
  have hstart : Logger.lines ⟨Severity.thresholdFor a.verbose, around.format⟩
      request.startEvent = [] := lines_of_debug ..
  unfold compile CompilationRequest.dispatch
  simp only [hbuild, hstart, List.nil_append]
  rcases backend request.call s with ⟨reply, s'⟩
  rcases reply with (f | fault) | ⟨⟩
  · have hline : Logger.lines ⟨Severity.thresholdFor a.verbose, around.format⟩
        (Failure.ofBackend f).event = [around.format (Failure.ofBackend f).event] := by
      rw [event_ofBackend, lines_of_critical]
    simp [endingOf, CompilationRequest.notes, Failure.outcome, hline]
  · simp [endingOf, CompilationRequest.notes]
  · cases hverbose : a.verbose <;>
      simp [endingOf, CompilationRequest.notes, hevent, lines_of_info]

theorem run_of_request {request : CompilationRequest}
    (hparse : CommandLine.parse around.files.workDir around.reader args = .ok (.compile a))
    (hbuild : CompilationRequest.build around.files a (CompilerOptions.assemble a)
      around.nativeSuffix = .ok request) :
    run around backend args s =
      let (reply, s') := backend request.call s
      ({ ending := endingOf reply
         lines := (request.notes a.verbose reply).map around.format }, s') := by
  simp only [run, hparse, compile_of_request hbuild]

theorem run_of_rejected {e : RequestError}
    (hparse : CommandLine.parse around.files.workDir around.reader args = .ok (.compile a))
    (hbuild : CompilationRequest.build around.files a (CompilerOptions.assemble a)
      around.nativeSuffix = .error e) :
    run around backend args s =
      ({ ending := .exit 1, lines := [around.format ⟨.critical, e.message⟩] }, s) := by
  simp only [run, hparse, compile_of_error hbuild]

/-- The note on a finished build names what was asked for. -/
theorem successEvent_of_build {request : CompilationRequest} {options : CompilerOptions}
    (h : CompilationRequest.build around.files a options around.nativeSuffix = .ok request)
    (hraw : a.rawTranslateOnly = true → a.translateOnly = true) :
    request.successEvent =
      ⟨.info, (if a.translateOnly = true then "Generated C++ source file: "
        else "Generated native extension: ") ++ request.outputPath⟩ := by
  obtain ⟨-, kind, -, -, rfl⟩ := CompilationRequest.build_eq_ok_iff.1 h
  unfold CompilationRequest.successEvent CompilationRequest.ofKind Mode.of
  cases hr : a.rawTranslateOnly with
  | true => simp [hraw hr]
  | false => cases a.translateOnly <;> rfl

/-- What the letters of a command line switch on. -/
theorem Reads.toggles (h : Reads around args split a) :
    a.translateOnly = decide ('E' ∈ split.letters ∨ 'e' ∈ split.letters) ∧
      a.rawTranslateOnly = decide ('e' ∈ split.letters) ∧
      a.verbose = decide ('v' ∈ split.letters) := by
  obtain ⟨tokens, -, -, hdescribes⟩ := h
  exact ⟨Bool.eq_iff_iff.2 (hdescribes.translateOnly.trans decide_eq_true_iff.symm),
    Bool.eq_iff_iff.2 (hdescribes.rawTranslateOnly.trans decide_eq_true_iff.symm),
    Bool.eq_iff_iff.2 (hdescribes.verbose.trans decide_eq_true_iff.symm)⟩

theorem Reads.translateOnly_of_raw (h : Reads around args split a) :
    a.rawTranslateOnly = true → a.translateOnly = true := by
  obtain ⟨tokens, -, -, hdesc⟩ := h
  exact hdesc.translateOnly_of_raw

theorem outputPath_of_build {request : CompilationRequest} {options : CompilerOptions}
    (h : CompilationRequest.build around.files a options around.nativeSuffix = .ok request) :
    request.outputPath =
      CompilationRequest.settleOutput a (Path.stem a.inputPath) around.nativeSuffix := by
  obtain ⟨-, kind, -, -, rfl⟩ := CompilationRequest.build_eq_ok_iff.1 h
  rfl

theorem call_of_reads {request : CompilationRequest} (hreads : Reads around args split a)
    (hbuild : CompilationRequest.build around.files a (CompilerOptions.assemble a)
      around.nativeSuffix = .ok request) :
    request.call = callFor split.letters a request.outputPath := by
  obtain ⟨hE, he, -⟩ := hreads.toggles
  rw [CompilationRequest.call_of_build hbuild hreads.translateOnly_of_raw, callFor,
    outputPath_of_build hbuild]
  simp only [hE, he]

theorem successEvent_of_reads {request : CompilationRequest} (hreads : Reads around args split a)
    (hbuild : CompilationRequest.build around.files a (CompilerOptions.assemble a)
      around.nativeSuffix = .ok request) :
    request.successEvent = ⟨.info, finishedNote split.letters request.outputPath⟩ := by
  obtain ⟨hE, -, -⟩ := hreads.toggles
  rw [successEvent_of_build hbuild hreads.translateOnly_of_raw, finishedNote]
  simp only [hE, decide_eq_true_iff]
  split <;> rfl

theorem ofReply_eq {format : LogFormat} {request : CompilationRequest} {verbose : Bool}
    {letters : List Char} {output : String} (hverbose : verbose = decide ('v' ∈ letters))
    (hevent : verbose = true → request.successEvent = ⟨.info, finishedNote letters output⟩)
    (reply : Except Raised Unit) :
    Outcome.ofReply format letters output reply =
      { ending := endingOf reply, lines := (request.notes verbose reply).map format } := by
  rcases reply with (f | fault) | ⟨⟩
  · simp [Outcome.ofReply, endingOf, CompilationRequest.notes, ending_ofBackend, event_ofBackend]
  · simp [Outcome.ofReply, endingOf, CompilationRequest.notes]
  · cases verbose with
    | false =>
        have hmem : 'v' ∉ letters := of_decide_eq_false hverbose.symm
        simp [Outcome.ofReply, endingOf, CompilationRequest.notes, hmem, exitSuccess]
    | true =>
        have hmem : 'v' ∈ letters := of_decide_eq_true hverbose.symm
        simp [Outcome.ofReply, endingOf, CompilationRequest.notes, hmem, hevent, exitSuccess]

/-- A request is handed over in the one call that its command line stands for. -/
theorem compile_of_ok {request : CompilationRequest} {output : String}
    (hreads : Reads around args split a)
    (hbuild : CompilationRequest.build around.files a (CompilerOptions.assemble a)
      around.nativeSuffix = .ok request)
    (houtput : output = CompilationRequest.settleOutput a (Path.stem a.inputPath)
      around.nativeSuffix) :
    compile around backend a s =
      let (reply, s') := backend (callFor split.letters a output) s
      (.ofReply around.format split.letters output reply, s') := by
  obtain ⟨-, -, hv⟩ := hreads.toggles
  have hpath : request.outputPath = output := (outputPath_of_build hbuild).trans houtput.symm
  have hcall := call_of_reads hreads hbuild
  have hevent := successEvent_of_reads hreads hbuild
  rw [hpath] at hcall hevent
  simp only [compile_of_request hbuild, hcall, ofReply_eq hv fun _ => hevent]

/-- What a run changes is what its one call changes. -/
theorem state_run_of_ok {request : CompilationRequest} {output : String}
    (hreads : Reads around args split a)
    (hbuild : CompilationRequest.build around.files a (CompilerOptions.assemble a)
      around.nativeSuffix = .ok request)
    (houtput : output = CompilationRequest.settleOutput a (Path.stem a.inputPath)
      around.nativeSuffix) :
    (run around backend args s).2 = (backend (callFor split.letters a output) s).2 := by
  simp only [run, parse_eq_compile_iff.2 ⟨split, hreads⟩, compile_of_ok hreads hbuild houtput]

theorem recorded_apply (call : BackendCall) (calls : List BackendCall) :
    backend.recorded call (s, calls) =
      ((backend call s).1, (backend call s).2, calls ++ [call]) := rfl

/-- The record changes nothing else. -/
theorem run_recorded (around : Surroundings) (backend : Backend σ) (args : List String) (s : σ) :
    run around backend.recorded args (s, []) =
      ((run around backend args s).1, (run around backend args s).2,
        callsOf around backend args s) := by
  unfold callsOf run
  split
  · rfl
  · rfl
  · rfl
  · rename_i a hparse
    cases hbuild : CompilationRequest.build around.files a (CompilerOptions.assemble a)
      around.nativeSuffix with
    | error e => simp only [compile_of_error hbuild]
    | ok request =>
        obtain ⟨split, hreads⟩ := parse_eq_compile_iff.1 hparse
        simp only [compile_of_ok hreads hbuild rfl, recorded_apply]

/-- The course that the command line and the files lead to. -/
def courseOf (around : Surroundings) (args : List String) : Course :=
  match CommandLine.parse around.files.workDir around.reader args with
  | .error _ => .usageError
  | .ok .help | .ok .version => .notice
  | .ok (.compile a) =>
      match CompilationRequest.build around.files a (CompilerOptions.assemble a)
        around.nativeSuffix with
      | .error _ => .rejection
      | .ok _ => .dispatch

/-- The conditions of the courses exclude each other. -/
theorem Takes.course_eq {course : Course} {outcome : Outcome} {calls : List BackendCall}
    (h : Takes around backend args s course outcome calls) : course = courseOf around args := by
  unfold courseOf
  cases h with
  | usageError hparse => rw [hparse]
  | help hparse => rw [hparse]
  | version hparse => rw [hparse]
  | rejection hparse hbuild => simp only [hparse, hbuild]
  | dispatch hreads hbuild =>
      have hparse := parse_eq_compile_iff.2 ⟨_, hreads⟩
      simp only [hparse, hbuild]

end

/-- Every run takes exactly one course, with the outcome and the backend calls of that course. -/
theorem run_takes_one_course (around : Surroundings) (backend : Backend σ) (args : List String)
    (s : σ) :
    ∃! course, Takes around backend args s course (run around backend args s).1
      (callsOf around backend args s) := by
  apply existsUnique_of_exists_of_unique
  · cases hparse : CommandLine.parse around.files.workDir around.reader args with
    | error e =>
        refine ⟨.usageError, ?_⟩
        simp only [callsOf, run, hparse]
        exact .usageError hparse
    | ok command =>
        cases command with
        | help =>
            refine ⟨.notice, ?_⟩
            simp only [callsOf, run, hparse]
            exact .help hparse
        | version =>
            refine ⟨.notice, ?_⟩
            simp only [callsOf, run, hparse]
            exact .version hparse
        | compile a =>
            cases hbuild : CompilationRequest.build around.files a (CompilerOptions.assemble a)
              around.nativeSuffix with
            | error e =>
                refine ⟨.rejection, ?_⟩
                simp only [callsOf, run, hparse, compile_of_error hbuild]
                exact .rejection hparse hbuild
            | ok request =>
                obtain ⟨split, hreads⟩ := parse_eq_compile_iff.1 hparse
                refine ⟨.dispatch, ?_⟩
                simp only [callsOf, run, hparse, compile_of_ok hreads hbuild rfl, recorded_apply,
                  List.nil_append]
                exact .dispatch hreads hbuild rfl
  · intro course course' h h'
    rw [h.course_eq, h'.course_eq]

end Courses

end CompilerDriver
