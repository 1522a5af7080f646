import CompilerDriver.Proofs.Session

/-!
# Verbose runs

A run with `-v` in front of its arguments ends, prints and calls the backend as the run without it,
and it logs the same events.  A finished build adds a note on its output, unless `-v` was among the
arguments already.
-/

namespace CompilerDriver

open CommandLine (Arguments Command Item Split)

/-! ## Command lines -/

namespace CommandLine

/-- The record of a command line with `-v` in front of it. -/
def Arguments.verbosely (a : Arguments) : Arguments :=
  { a with tokens := "-v" :: a.tokens, verbose := true }

def Command.verbosely : Command → Command
  | compile a => compile a.verbosely
  | help => help
  | version => version

theorem scan_verbose (tokens : List String) :
    scan ("-v" :: tokens) = (scan tokens).map (Item.toggle .verbose :: ·) := by
  have hform : TokenForm.of "-v" = .cluster ['v'] := by decide
  have hread : Cluster.read ['v'] = .toggles [.verbose] := by decide
  exact scan_toggles hform hread

theorem collect_verbose (tokens : List String) (inputPath : String) (items : List Item) :
    Arguments.collect ("-v" :: tokens) inputPath (.toggle .verbose :: items) =
      (Arguments.collect tokens inputPath items).verbosely := by
  have hvalues (flag : ValueFlag) :
      valuesOf flag (.toggle .verbose :: items) = valuesOf flag items := rfl
  simp [Arguments.collect, Arguments.verbosely, isOn, hvalues]

theorem ofItems_verbose (tokens : List String) (items : List Item) :
    Arguments.ofItems ("-v" :: tokens) (.toggle .verbose :: items) =
      (Arguments.ofItems tokens items).map Arguments.verbosely := by
  have hoperands : operands (.toggle .verbose :: items) = operands items := rfl
  unfold Arguments.ofItems
  rw [hoperands]
  cases operands items with
  | nil => rfl
  | cons input extra =>
      cases extra with
      | nil => exact congrArg Except.ok (collect_verbose tokens input items)
      | cons _ _ => rfl

theorem parseTokens_verbose (tokens : List String) :
    parseTokens ("-v" :: tokens) = (parseTokens tokens).map Command.verbosely := by
  unfold parseTokens
  rw [scan_verbose]
  cases scan tokens with
  | error stop => cases stop <;> rfl
  | ok items =>
      simp only [Except.map, ofItems_verbose]
      cases Arguments.ofItems tokens items <;> rfl

theorem parse_verbose (workDir : Location) (r : Reader) (args : List String) :
    parse workDir r ("-v" :: args) = (parse workDir r args).map Command.verbosely := by
  have hexpand : ResponseFile.expand workDir r ("-v" :: args) =
      (ResponseFile.expand workDir r args).map ("-v" :: ·) :=
    ResponseFile.expandWithin_cons_of_plain (by decide) args
  unfold parse
  rw [hexpand]
  cases ResponseFile.expand workDir r args with
  | error e => rfl
  | ok tokens => exact parseTokens_verbose tokens

end CommandLine

section Runs

variable {σ : Type}

/-! ## Events -/

/-- The run logs these events, whatever the format of its lines. -/
def Logs (around : Surroundings) (backend : Backend σ) (args : List String) (s : σ)
    (events : List LogEvent) : Prop :=
  ∀ format, (run { around with format := format } backend args s).1.lines = events.map format

/-- The run makes this backend call, which returns normally. -/
def Finishes (around : Surroundings) (backend : Backend σ) (args : List String) (s : σ)
    (call : BackendCall) : Prop :=
  callsOf around backend args s = [call] ∧ (backend call s).1 = .ok ()

/-- The command line splits like this, and no `v` is among its letters. -/
def ReadsQuiet (around : Surroundings) (args : List String) (split : Split) : Prop :=
  'v' ∉ split.letters ∧ ∃ a, Reads around args split a

section

variable {around : Surroundings} {backend : Backend σ} {args : List String} {a : Arguments} {s : σ}
  {request : CompilationRequest} {call : BackendCall} {split : Split}

theorem callsOf_of_request
    (hparse : CommandLine.parse around.files.workDir around.reader args = .ok (.compile a))
    (hbuild : CompilationRequest.build around.files a (CompilerOptions.assemble a)
      around.nativeSuffix = .ok request) :
    callsOf around backend args s = [request.call] := by
  rw [callsOf, run_of_request hparse hbuild, recorded_apply]
  rfl

theorem logs_of_request
    (hparse : CommandLine.parse around.files.workDir around.reader args = .ok (.compile a))
    (hbuild : CompilationRequest.build around.files a (CompilerOptions.assemble a)
      around.nativeSuffix = .ok request) :
    Logs around backend args s (request.notes a.verbose (backend request.call s).1) := by
  intro format
  have hrun : run { around with format := format } backend args s = _ :=
    run_of_request hparse hbuild
  rw [hrun]

theorem severity_of_mem_notes {verbose : Bool} {reply : Except Raised Unit} {event : LogEvent}
    (h : event ∈ request.notes verbose reply) : event.severity ≠ .debug := by
  rcases reply with (f | fault) | ⟨⟩
  · rw [List.mem_singleton.1 h, severity_ofBackend]
    decide
  · cases h
  · obtain ⟨message, hevent⟩ := request.exists_successEvent_eq
    simp only [CompilationRequest.notes, hevent] at h
    split at h
    · rw [List.mem_singleton.1 h]
      simp
    · cases h

/-! ## Runs that come to no backend call -/

/-- Whatever the backend, the run ends like this without a call. -/
def Unserved (around : Surroundings) (args : List String) (ending : Ending)
    (printed : List String) (events : List LogEvent) : Prop :=
  ∀ (τ : Type) (backend : Backend τ) (t : τ) (format : LogFormat),
    run { around with format := format } backend args t =
      ({ ending := ending, printed := printed, lines := events.map format }, t)

theorem unserved_of_usageError {e : CommandLine.UsageError}
    (hparse : CommandLine.parse around.files.workDir around.reader args = .error e) :
    Unserved around args (.exit 2) [] [⟨.error, e.message ++ "\n" ++ usage⟩] := by
  intro τ backend t format
  simp only [run, hparse]
  rfl

theorem unserved_of_help
    (hparse : CommandLine.parse around.files.workDir around.reader args = .ok .help) :
    Unserved around args (.exit 0) [helpText] [] := by
  intro τ backend t format
  simp only [run, hparse]
  rfl

theorem unserved_of_version
    (hparse : CommandLine.parse around.files.workDir around.reader args = .ok .version) :
    Unserved around args (.exit 0) [versionText] [] := by
  intro τ backend t format
  simp only [run, hparse]
  rfl

theorem unserved_of_rejected {e : RequestError}
    (hparse : CommandLine.parse around.files.workDir around.reader args = .ok (.compile a))
    (hbuild : CompilationRequest.build around.files a (CompilerOptions.assemble a)
      around.nativeSuffix = .error e) :
    Unserved around args (.exit 1) [] [⟨.critical, e.message⟩] := by
  intro τ backend t format
  have hrun : run { around with format := format } backend args t = _ :=
    run_of_rejected hparse hbuild
  exact hrun

/-! ## Two runs -/

/-- The second run shows what the first one shows, and logs these events on top of the same ones. -/
structure Adds (around : Surroundings) (backend : Backend σ) (args more : List String) (s : σ)
    (added : List LogEvent) : Prop where
  ending : (run around backend more s).1.ending = (run around backend args s).1.ending
  printed : (run around backend more s).1.printed = (run around backend args s).1.printed
  calls : callsOf around backend more s = callsOf around backend args s
  state : (run around backend more s).2 = (run around backend args s).2
  events : ∃ events, Logs around backend args s events ∧
    Logs around backend more s (events ++ added) ∧
    ∀ event ∈ events ++ added, event.severity ≠ .debug

variable {ending : Ending} {printed : List String} {events : List LogEvent} {more : List String}

theorem Unserved.callsOf_eq (h : Unserved around args ending printed events) :
    callsOf around backend args s = [] := by
  rw [callsOf, h _ backend.recorded (s, []) around.format]

theorem Unserved.adds_nil (h : Unserved around args ending printed events)
    (h' : Unserved around more ending printed events)
    (hevents : ∀ event ∈ events, event.severity ≠ .debug) :
    Adds around backend args more s [] := by
  have hrun : run around backend args s = _ := h _ backend s around.format
  have hrun' : run around backend more s = _ := h' _ backend s around.format
  exact {
    ending := by rw [hrun, hrun']
    printed := by rw [hrun, hrun']
    calls := by rw [h.callsOf_eq, h'.callsOf_eq]
    state := by rw [hrun, hrun']
    events := by
      refine ⟨events, fun format => ?_, fun format => ?_, ?_⟩
      · rw [h _ backend s format]
      · rw [h' _ backend s format, List.append_nil]
      · rwa [List.append_nil] }

/-! ## Runs that make a backend call -/

theorem CompilationRequest.outputPath_call (request : CompilationRequest) :
    request.call.outputPath = request.outputPath := by
  unfold call
  cases request.kind <;> rfl

theorem finishes_iff
    (hparse : CommandLine.parse around.files.workDir around.reader args = .ok (.compile a))
    (hbuild : CompilationRequest.build around.files a (CompilerOptions.assemble a)
      around.nativeSuffix = .ok request) :
    Finishes around backend args s call ↔
      call = request.call ∧ (backend request.call s).1 = .ok () := by
  rw [Finishes, callsOf_of_request hparse hbuild]
  constructor
  · rintro ⟨hcall, hok⟩
    obtain rfl : request.call = call := by simpa using hcall
    exact ⟨rfl, hok⟩
  · rintro ⟨rfl, hok⟩
    exact ⟨rfl, hok⟩

theorem Unserved.not_finishes (h : Unserved around args ending printed events) :
    ¬ Finishes around backend args s call := by
  rw [Finishes, h.callsOf_eq]
  simp

theorem verbose_of_readsQuiet
    (hparse : CommandLine.parse around.files.workDir around.reader args = .ok (.compile a))
    (h : ReadsQuiet around args split) : a.verbose = false := by
  obtain ⟨hv, b, hreads⟩ := h
  have hparse' := parse_eq_compile_iff.2 ⟨split, hreads⟩
  obtain rfl : a = b := by simpa [hparse] using hparse'
  rw [hreads.toggles.2.2, decide_eq_false hv]

theorem build_verbosely (a : Arguments) :
    CompilationRequest.build around.files a.verbosely (CompilerOptions.assemble a.verbosely)
        around.nativeSuffix =
      CompilationRequest.build around.files a (CompilerOptions.assemble a) around.nativeSuffix :=
  CompilationRequest.build_congr (a := a) (b := a.verbosely) rfl rfl rfl rfl _

/-- A run that comes to no backend call does not come to one with `-v` in front either. -/
theorem unserved_or_request (around : Surroundings) (args : List String) :
    (∃ ending printed events, Unserved around args ending printed events ∧
      Unserved around ("-v" :: args) ending printed events ∧
      ∀ event ∈ events, event.severity ≠ .debug) ∨
    ∃ a request,
      CommandLine.parse around.files.workDir around.reader args = .ok (.compile a) ∧
      CompilationRequest.build around.files a (CompilerOptions.assemble a)
        around.nativeSuffix = .ok request := by
  have hverbose := CommandLine.parse_verbose around.files.workDir around.reader args
  cases hparse : CommandLine.parse around.files.workDir around.reader args with
  | error e =>
      simp only [hparse, Except.map] at hverbose
      exact .inl ⟨_, _, _, unserved_of_usageError hparse, unserved_of_usageError hverbose, by simp⟩
  | ok command =>
      simp only [hparse, Except.map] at hverbose
      cases command with
      | help => exact .inl ⟨_, _, _, unserved_of_help hparse, unserved_of_help hverbose, by simp⟩
      | version =>
          exact .inl ⟨_, _, _, unserved_of_version hparse, unserved_of_version hverbose, by simp⟩
      | compile a =>
          cases hbuild : CompilationRequest.build around.files a (CompilerOptions.assemble a)
            around.nativeSuffix with
          | ok request => exact .inr ⟨a, request, rfl, hbuild⟩
          | error e =>
              have hbuild' := (build_verbosely a).trans hbuild
              exact .inl ⟨_, _, _, unserved_of_rejected hparse hbuild,
                unserved_of_rejected hverbose hbuild', by simp⟩

theorem adds_of_request {added : List LogEvent}
    (hparse : CommandLine.parse around.files.workDir around.reader args = .ok (.compile a))
    (hbuild : CompilationRequest.build around.files a (CompilerOptions.assemble a)
      around.nativeSuffix = .ok request)
    (hnotes : request.notes true (backend request.call s).1 =
      request.notes a.verbose (backend request.call s).1 ++ added) :
    Adds around backend args ("-v" :: args) s added := by
  have hparse' : CommandLine.parse around.files.workDir around.reader ("-v" :: args) =
      .ok (.compile a.verbosely) := by
    rw [CommandLine.parse_verbose, hparse]
    rfl
  have hbuild' := (build_verbosely a).trans hbuild
  have hrun : run around backend args s = _ := run_of_request hparse hbuild
  have hrun' : run around backend ("-v" :: args) s = _ := run_of_request hparse' hbuild'
  exact {
    ending := by rw [hrun, hrun']
    printed := by rw [hrun, hrun']
    calls := by rw [callsOf_of_request hparse hbuild, callsOf_of_request hparse' hbuild']
    state := by rw [hrun, hrun']
    events := by
      refine ⟨_, logs_of_request hparse hbuild, ?_, ?_⟩
      · rw [← hnotes]
        exact logs_of_request hparse' hbuild'
      · rw [← hnotes]
        exact fun event => severity_of_mem_notes }

end

/-- With `-v` in front of its arguments a run ends as before, prints the same and makes the same
backend calls.  It logs one event more if the backend returns normally and no `v` is among the
letters of the command line: a note that names the output.  Neither run logs a debug event. -/
theorem run_verbose (around : Surroundings) (backend : Backend σ) (args : List String) (s : σ) :
    ∃ added, Adds around backend args ("-v" :: args) s added ∧
      ((∃ call split, Finishes around backend args s call ∧ ReadsQuiet around args split ∧
          added = [⟨.info, finishedNote split.letters call.outputPath⟩]) ∨
        ((¬ ∃ call split, Finishes around backend args s call ∧ ReadsQuiet around args split) ∧
          added = [])) := by
  rcases unserved_or_request around args with ⟨_, _, _, hplain, hverbose, hevents⟩ |
    ⟨a, request, hparse, hbuild⟩
  · exact ⟨[], hplain.adds_nil hverbose hevents,
      .inr ⟨fun ⟨_, _, hfinishes, _⟩ => hplain.not_finishes hfinishes, rfl⟩⟩
  · obtain ⟨split, hreads⟩ := parse_eq_compile_iff.1 hparse
    by_cases hnoted : (backend request.call s).1 = .ok () ∧ a.verbose = false
    · obtain ⟨hok, hquiet⟩ := hnoted
      have hv : 'v' ∉ split.letters := by
        rw [hreads.toggles.2.2] at hquiet
        exact of_decide_eq_false hquiet
      have hnotes : request.notes true (backend request.call s).1 =
          request.notes a.verbose (backend request.call s).1 ++
            [⟨.info, finishedNote split.letters request.call.outputPath⟩] := by
        rw [hok, hquiet, CompilationRequest.outputPath_call, ← successEvent_of_reads hreads hbuild]
        rfl
      exact ⟨_, adds_of_request hparse hbuild hnotes,
        .inl ⟨request.call, split, (finishes_iff hparse hbuild).2 ⟨rfl, hok⟩, ⟨hv, a, hreads⟩, rfl⟩⟩
    · have hnotes : request.notes true (backend request.call s).1 =
          request.notes a.verbose (backend request.call s).1 ++ [] := by
        rw [List.append_nil]
        rcases hreply : (backend request.call s).1 with (f | fault) | ⟨⟩
        · rfl
        · rfl
        · have hverbose : a.verbose = true := by
            cases hquiet : a.verbose with
            | true => rfl
            | false => exact absurd ⟨hreply, hquiet⟩ hnoted
          rw [hverbose]
      refine ⟨[], adds_of_request hparse hbuild hnotes, .inr ⟨?_, rfl⟩⟩
      rintro ⟨call, split', hfinishes, hquiet⟩
      exact hnoted ⟨((finishes_iff hparse hbuild).1 hfinishes).2,
        verbose_of_readsQuiet hparse hquiet⟩

end Runs

end CompilerDriver
