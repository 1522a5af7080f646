import CompilerDriver.Proofs.FileSystem.Removal
import CompilerDriver.Proofs.Toolchain.Scratch
import CompilerDriver.Proofs.Toolchain.Tool
import CompilerDriver.Toolchain.Scripted

/-!
# What a build leaves behind

A step of a backend is a call with the world before and after it.  What a step does is said once:
it is refused, or it runs tools, in a scratch directory if it is a full build, until one of them
fails, and removes what the path of the directory leads to by then.  From this follows what is left
behind: where that path still leads to the directory, the changes that the tools made outside of it
and nothing else, however the tools end.  A tool that puts something else in the way can keep the
directory, or make its removal fail.
-/

namespace CompilerDriver

namespace BackendCall

/-- The call asks for a translation and for the compilation of what was translated. -/
def isFull : BackendCall → Bool
  | compileCxx _ _ _ => false
  | compileModule _ _ mode _ => !mode.cppOnly

end BackendCall

namespace Toolchain

open FileSystem (Scratch)

section Steps

variable {ρ : Type} (run : Runner ρ) (config : ToolConfig)

/-! ## Steps -/

structure Step (ρ : Type) where
  call : BackendCall
  before : World ρ
  result : Except Raised Unit
  after : World ρ

/-- The steps of a sequence of calls on one backend. -/
def history : List BackendCall → World ρ → List (Step ρ)
  | [], _ => []
  | call :: calls, w =>
      let (result, w') := backend run config call w
      ⟨call, w, result, w'⟩ :: history calls w'

/-- The scratch directory of a call, if it needs one, and the files that its first tool finds. -/
def prepare (fs : FileSystem) (call : BackendCall) :
    Except ToolError (Option Scratch × FileSystem) :=
  match checkPaths fs call.inputPath call.outputPath with
  | .error e => .error e
  | .ok () =>
      if call.isFull then
        match fs.makeScratch (scratchStem fs) with
        | .error cause => .error (.scratchUnavailable cause)
        | .ok (scratch, files) => .ok (some scratch, files)
      else .ok (none, fs)

/-- Tools are run one after the other, with these replies, until one fails. -/
inductive ToolRuns : World ρ → List Reply → Except Raised Unit → World ρ → Prop
  | done (w : World ρ) : ToolRuns w [] (.ok ()) w
  | failed {tool : Tool} {input : String} {arguments : List String} {w w' : World ρ} {e : Raised}
      (htool : runTool run config tool input arguments w = (.error e, w')) :
      ToolRuns w [(run ⟨config.program tool, arguments⟩ w.files w.runner).1] (.error e) w'
  | next {tool : Tool} {input : String} {arguments : List String} {w w' w'' : World ρ}
      {replies : List Reply} {result : Except Raised Unit}
      (htool : runTool run config tool input arguments w = (.ok (), w'))
      (hrest : ToolRuns w' replies result w'') :
      ToolRuns w ((run ⟨config.program tool, arguments⟩ w.files w.runner).1 :: replies) result w''

/-- The changes that tools with these replies make. -/
def changesOf (replies : List Reply) : List FileSystem.Change :=
  replies.flatMap Reply.changes

/-- The files that tools with these replies find, each one those that the tools before it left. -/
def found (fs : FileSystem) : List Reply → List FileSystem
  | [] => []
  | reply :: replies => fs :: found (fs.applyChanges reply.changes) replies

/-- The changes that outlive a scratch directory. -/
def kept : Option Scratch → List FileSystem.Change → List FileSystem.Change
  | none, changes => changes
  | some scratch, changes => FileSystem.outside scratch.location changes

/-- What the path of a scratch directory leads to. -/
def pathLeadsTo (fs : FileSystem) (scratch : Scratch) : Except SystemError Reached :=
  fs.lookupSelfFrom fs.workDir scratch.path

/-- How a step ends whose tools ended like this and left this world. -/
inductive CleansUp (ended : Except Raised Unit) (left : World ρ) :
    Option Scratch → Except Raised Unit → World ρ → Prop
  /-- There is no scratch directory. -/
  | bare : CleansUp ended left none ended left
  /-- All that the path leads to is removed, and the path leads to nothing any more. -/
  | removed {scratch : Scratch} {l : Location} {e : Entry}
      (hleads : pathLeadsTo left.files scratch = .ok (.entry l e))
      (hreach : left.files.InReach scratch.path l)
      (hgone : ∀ m found, pathLeadsTo (left.files.remove l) scratch ≠ .ok (.entry m found)) :
      CleansUp ended left (some scratch) ended { left with files := left.files.remove l }
  /-- The path leads to nothing, and nothing is done. -/
  | nothing {scratch : Scratch}
      (hnothing : pathLeadsTo left.files scratch = .error .notFound ∨
        ∃ l, pathLeadsTo left.files scratch = .ok (.free l)) :
      CleansUp ended left (some scratch) ended left
  /-- The path cannot be followed. -/
  | refused {scratch : Scratch} {cause : SystemError}
      (hrefused : pathLeadsTo left.files scratch = .error cause) (hcause : cause ≠ .notFound) :
      CleansUp ended left (some scratch)
        (.error (.fault (.ofFileError (.refused cause "unlink" (some scratch.path))))) left
  /-- A path has become too long, and what it belongs to stays. -/
  | stopped {scratch : Scratch} {l : Location} {e : Entry} {row : Location × Entry}
      {path : String} {files : FileSystem}
      (hleads : pathLeadsTo left.files scratch = .ok (.entry l e))
      (hrow : row ∈ left.files.entries) (hbelow : l <+: row.1)
      (hpath : path = FileSystem.pathBelow scratch.path (row.1.drop l.length))
      (hlong : FileSystem.maxPathBytes < path.utf8ByteSize)
      (hstays : files.entryAt? row.1 = left.files.entryAt? row.1)
      (hothers : ∀ m, files.entryAt? m = left.files.entryAt? m ∨
        l <+: m ∧ files.entryAt? m = none) :
      CleansUp ended left (some scratch)
        (.error (.fault (.ofFileError (.refused .nameTooLong "unlink" (some path)))))
        { left with files := files }

/-- A runner whose tools do nothing to the files but write some. -/
def Runner.OnlyWrites (run : Runner ρ) : Prop :=
  ∀ call (files : FileSystem) state, files.Writes (run call files state).1.changes

/-- The tools left the way to the scratch directory alone, and no path in it too long. -/
inductive Undisturbed (run : Runner ρ) (base left : FileSystem) (scratch : Scratch) : Prop
  /-- The path of the directory leaves room for a name behind it. -/
  | written (hwrites : run.OnlyWrites)
      (hroom : scratch.path.utf8ByteSize + FileSystem.maxNameBytes < FileSystem.maxPathBytes)
  | kept (hkeeps : base.KeepsWays left) (hreach : left.InReach scratch.path scratch.location)
  | leads {e : Entry} (hleads : pathLeadsTo left scratch = .ok (.entry scratch.location e))
      (hreach : left.InReach scratch.path scratch.location)

/-- What the tools of a step find, and where: one more entry in the temporary directory. -/
structure ShowsScratch (step : Step ρ) (scratch : Option Scratch) (base : FileSystem)
    (replies : List Reply) : Prop where
  found : step.after.calls.map Prod.snd = step.before.calls.map Prod.snd ++ found base replies
  countIn_found : ∀ s, scratch = some s → ∃ temp name,
    tempLocation? step.before.files = some temp ∧ s.location = temp ++ [name] ∧
    s.path = Path.join step.before.files.tempDir name ∧
    ∀ n files, (Toolchain.found base replies)[n]? = some files →
      (∀ change ∈ changesOf (replies.take n), ¬ change.Touches temp) →
      files.countIn temp = step.before.files.countIn temp + 1

/-- What a step that runs tools leaves behind. -/
structure LeavesNoTrace (step : Step ρ) (scratch : Option Scratch) (replies : List Reply)
    (ended : Except Raised Unit) : Prop where
  result : step.result = ended
  thrown : ∀ reply ∈ replies, ∀ fault, reply.result = .error fault →
    step.result = .error (.fault fault)
  files : step.after.files = step.before.files.applyChanges (kept scratch (changesOf replies))
  gone : ∀ s, scratch = some s → ∀ l, s.location <+: l → step.after.files.entryAt? l = none
  countIn_after : ∀ d, (∀ change ∈ kept scratch (changesOf replies), ¬ change.Touches d) →
    step.after.files.countIn d = step.before.files.countIn d

/-- A step that is refused changes nothing.  Any other runs its tools and cleans up, however they
end.  It leaves no trace of its own if they left its scratch directory where it was. -/
inductive Traceless (step : Step ρ) : Prop
  | refused {e : ToolError} (hprepare : prepare step.before.files step.call = .error e)
      (hresult : step.result = .error e.raised) (hafter : step.after = step.before)
  | built {scratch : Option Scratch} {base : FileSystem} {replies : List Reply}
      {ended : Except Raised Unit} {left : World ρ}
      (hprepare : prepare step.before.files step.call = .ok (scratch, base))
      (hruns : ToolRuns run config { step.before with files := base } replies ended left)
      (hshows : ShowsScratch step scratch base replies)
      (hcleanup : CleansUp ended left scratch step.result step.after)
      (htraceless : (∀ s, scratch = some s → Undisturbed run base left.files s) →
        LeavesNoTrace step scratch replies ended)

/-! ## Runs of tools -/

section

variable {run : Runner ρ} {config : ToolConfig} {tool : Tool} {input : String}
  {arguments : List String} {w w' : World ρ} {replies : List Reply}
  {result ended : Except Raised Unit} {fs base : FileSystem} {call : BackendCall}
  {scratch : Option Scratch} {left : World ρ}

theorem changesOf_cons (reply : Reply) (replies : List Reply) :
    changesOf (reply :: replies) = reply.changes ++ changesOf replies := rfl

theorem files_of_runTool (h : runTool run config tool input arguments w = (result, w')) :
    w'.files = w.files.applyChanges
      (run ⟨config.program tool, arguments⟩ w.files w.runner).1.changes := by
  rw [runTool_eq] at h
  cases h
  rfl

theorem calls_of_runTool (h : runTool run config tool input arguments w = (result, w')) :
    w'.calls = w.calls ++ [(⟨config.program tool, arguments⟩, w.files)] := by
  rw [runTool_eq] at h
  cases h
  rfl

theorem result_of_fault {fault : Fault}
    (h : runTool run config tool input arguments w = (result, w'))
    (hfault : (run ⟨config.program tool, arguments⟩ w.files w.runner).1.result = .error fault) :
    result = .error (.fault fault) := by
  rw [runTool_eq] at h
  cases h
  simp [World.reply, hfault, judged]

theorem toolRuns_runTool (tool : Tool) (input : String) (arguments : List String) (w : World ρ) :
    ToolRuns run config w [(run ⟨config.program tool, arguments⟩ w.files w.runner).1]
      (runTool run config tool input arguments w).1
      (runTool run config tool input arguments w).2 := by
  rcases htool : runTool run config tool input arguments w with ⟨result, w'⟩
  cases result with
  | error e => exact .failed htool
  | ok u => exact .next htool (.done w')

theorem exists_toolRuns_translateAndCompile (run : Runner ρ) (config : ToolConfig)
    (input intermediate output : String) (emitGlue : Bool) (options : CompilerOptions)
    (w : World ρ) :
    ∃ replies, ToolRuns run config w replies
      (translateAndCompile run config input intermediate output emitGlue options w).1
      (translateAndCompile run config input intermediate output emitGlue options w).2 := by
  unfold translateAndCompile
  rcases htool : runTranslator run config input intermediate emitGlue options w with ⟨result, w'⟩
  cases result with
  | error e => exact ⟨_, .failed htool⟩
  | ok u => exact ⟨_, .next htool (toolRuns_runTool ..)⟩

/-- Tools change what their replies say. -/
theorem ToolRuns.files_eq (h : ToolRuns run config w replies result w') :
    w'.files = w.files.applyChanges (changesOf replies) := by
  induction h with
  | done w => rfl
  | failed htool => simp [files_of_runTool htool, changesOf]
  | next htool _ ih =>
      rw [ih, files_of_runTool htool, changesOf_cons, FileSystem.applyChanges_append]

theorem ToolRuns.calls_eq (h : ToolRuns run config w replies result w') :
    w'.calls.map Prod.snd = w.calls.map Prod.snd ++ found w.files replies := by
  induction h with
  | done w => simp [found]
  | failed htool => simp [calls_of_runTool htool, found]
  | next htool _ ih => simp [ih, calls_of_runTool htool, files_of_runTool htool, found]

/-- A fault of the runner is how the tools end. -/
theorem ToolRuns.result_of_thrown (h : ToolRuns run config w replies result w') :
    ∀ reply ∈ replies, ∀ fault, reply.result = .error fault → result = .error (.fault fault) := by
  induction h with
  | done w => simp
  | failed htool =>
      intro reply hreply fault hfault
      obtain rfl := List.mem_singleton.1 hreply
      exact result_of_fault htool hfault
  | next htool _ ih =>
      intro reply hreply fault hfault
      rcases List.mem_cons.1 hreply with rfl | hreply
      · have := result_of_fault htool hfault
        cases this
      · exact ih reply hreply fault hfault

/-- Tools that only write files leave all directories and links alone. -/
theorem ToolRuns.keepsWays (hwrites : run.OnlyWrites)
    (h : ToolRuns run config w replies result w') : w.files.KeepsWays w'.files := by
  induction h with
  | done w => exact FileSystem.KeepsWays.refl w.files
  | failed htool =>
      rw [files_of_runTool htool]
      exact (hwrites _ _ _).keepsWays
  | next htool _ ih =>
      rw [files_of_runTool htool] at ih
      exact (hwrites _ _ _).keepsWays.trans ih

/-- Such tools put nothing but files into an empty directory, each right in it. -/
theorem ToolRuns.flat (hwrites : run.OnlyWrites) {l : Location} (hne : l ≠ [])
    (h : ToolRuns run config w replies result w') (hflat : w.files.Flat l) : w'.files.Flat l := by
  induction h with
  | done w => exact hflat
  | failed htool =>
      rw [files_of_runTool htool]
      exact (hwrites _ _ _).flat hne hflat
  | next htool _ ih =>
      rw [files_of_runTool htool] at ih
      exact ih ((hwrites _ _ _).flat hne hflat)

theorem ToolRuns.workDir_eq (h : ToolRuns run config w replies result w') :
    w'.files.workDir = w.files.workDir := by
  rw [h.files_eq, FileSystem.workDir_applyChanges]

theorem eq_of_mem_found {n : Nat} {files : FileSystem} (h : (found fs replies)[n]? = some files) :
    files = fs.applyChanges (changesOf (replies.take n)) := by
  induction replies generalizing fs n with
  | nil => simp [found] at h
  | cons reply replies ih =>
      cases n with
      | zero => simpa [found, changesOf] using h.symm
      | succ n =>
          rw [found, List.getElem?_cons_succ] at h
          rw [ih h, List.take_succ_cons, changesOf_cons, FileSystem.applyChanges_append]

/-! ## What a step does -/

theorem prepare_eq_ok (h : prepare fs call = .ok (scratch, base)) :
    checkPaths fs call.inputPath call.outputPath = .ok () ∧
      ((call.isFull = false ∧ scratch = none ∧ base = fs) ∨
        (call.isFull = true ∧
          ∃ s, scratch = some s ∧ fs.makeScratch (scratchStem fs) = .ok (s, base))) := by
  unfold prepare at h
  split at h
  · cases h
  · rename_i hcheck
    refine ⟨hcheck, ?_⟩
    split at h
    · rename_i hfull
      split at h
      · cases h
      · rename_i s files hscratch
        cases h
        exact .inr ⟨hfull, s, rfl, hscratch⟩
    · rename_i hfull
      cases h
      exact .inl ⟨Bool.eq_false_iff.2 hfull, rfl, rfl⟩

theorem makeScratch_of_prepare {s : Scratch} (h : prepare fs call = .ok (some s, base)) :
    fs.makeScratch (scratchStem fs) = .ok (s, base) := by
  obtain ⟨-, ⟨-, hnone, -⟩ | ⟨-, _, ⟨⟩, hscratch⟩⟩ := prepare_eq_ok h
  · cases hnone
  · exact hscratch

theorem prepare_eq_error {e : ToolError} (h : prepare fs call = .error e) :
    checkPaths fs call.inputPath call.outputPath = .error e ∨
      (checkPaths fs call.inputPath call.outputPath = .ok () ∧ call.isFull = true ∧
        ∃ cause, fs.makeScratch (scratchStem fs) = .error cause ∧
          e = .scratchUnavailable cause) := by
  unfold prepare at h
  split at h
  · rename_i hcheck
    cases h
    exact .inl hcheck
  · rename_i hcheck
    split at h
    · rename_i hfull
      split at h
      · rename_i cause hscratch
        cases h
        exact .inr ⟨hcheck, hfull, cause, hscratch, rfl⟩
      · cases h
    · cases h

theorem backend_of_refused (run : Runner ρ) (config : ToolConfig) {e : ToolError}
    (h : prepare w.files call = .error e) :
    backend run config call w = (.error e.raised, w) := by
  rcases prepare_eq_error h with hcheck | ⟨hcheck, hfull, cause, hscratch, rfl⟩
  · cases call with
    | compileCxx input output options =>
        change checkPaths w.files input output = .error e at hcheck
        simp only [backend, hcheck]
    | compileModule input output mode options =>
        change checkPaths w.files input output = .error e at hcheck
        simp only [backend, hcheck]
  · cases call with
    | compileCxx input output options => cases hfull
    | compileModule input output mode options =>
        change checkPaths w.files input output = .ok () at hcheck
        have hmode : mode.cppOnly = false := by simpa [BackendCall.isFull] using hfull
        simp [backend, hcheck, hmode, withScratch, hscratch]

/-- How a step ends whose tools ended like this. -/
def settled : Option Scratch → Except Raised Unit × World ρ → Except Raised Unit × World ρ
  | none, ended => ended
  | some scratch, ended => cleanUp scratch ended

/-- A step that is not refused runs its tools and cleans up, however they end. -/
theorem exists_toolRuns_backend (run : Runner ρ) (config : ToolConfig) (w : World ρ)
    (h : prepare w.files call = .ok (scratch, base)) :
    ∃ replies ended left, ToolRuns run config { w with files := base } replies ended left ∧
      backend run config call w = settled scratch (ended, left) := by
  obtain ⟨hcheck, ⟨hfull, rfl, rfl⟩ | ⟨hfull, s, rfl, hscratch⟩⟩ := prepare_eq_ok h
  · cases call with
    | compileCxx input output options =>
        change checkPaths w.files input output = .ok () at hcheck
        simp only [backend, hcheck]
        exact ⟨_, _, _, toolRuns_runTool .., rfl⟩
    | compileModule input output mode options =>
        change checkPaths w.files input output = .ok () at hcheck
        have hmode : mode.cppOnly = true := by simpa [BackendCall.isFull] using hfull
        simp only [backend, hcheck, hmode, if_true]
        exact ⟨_, _, _, toolRuns_runTool .., rfl⟩
  · cases call with
    | compileCxx input output options => cases hfull
    | compileModule input output mode options =>
        change checkPaths w.files input output = .ok () at hcheck
        have hmode : mode.cppOnly = false := by simpa [BackendCall.isFull] using hfull
        obtain ⟨replies, hruns⟩ := exists_toolRuns_translateAndCompile run config input
          (intermediatePath s.path input) output (!mode.withoutGlue) options
          { w with files := base }
        simp only [backend, hcheck, hmode, withScratch, hscratch, Bool.false_eq_true, if_false]
        exact ⟨replies, _, _, hruns, rfl⟩

/-! ## Cleaning up -/

section

variable {s : Scratch}

theorem cleansUp_cleanUp (hscratch : fs.makeScratch (scratchStem fs) = .ok (s, base))
    (ended : Except Raised Unit) (left : World ρ) :
    CleansUp ended left (some s) (cleanUp s (ended, left)).1 (cleanUp s (ended, left)).2 := by
  obtain ⟨above, name, temp, hplaced⟩ := exists_placed hscratch
  have hnull := hplaced.holdsNull_path
  cases hleads : left.files.lookupSelfFrom left.files.workDir s.path with
  | error cause =>
      by_cases hcause : cause = .notFound
      · subst hcause
        simp only [cleanUp, FileSystem.removePath_of_nothing hnull (.inl hleads)]
        exact .nothing (.inl hleads)
      · simp only [cleanUp, FileSystem.removePath_of_refused hnull hleads hcause]
        exact .refused hleads hcause
  | ok r =>
      cases r with
      | free l =>
          simp only [cleanUp, FileSystem.removePath_of_nothing hnull (.inr ⟨l, hleads⟩)]
          exact .nothing (.inr ⟨l, hleads⟩)
      | entry l e =>
          cases hreach : left.files.firstOutOfReach s.path l with
          | none =>
              have hin := FileSystem.firstOutOfReach_eq_none_iff.1 hreach
              have hremoval := FileSystem.removePath_of_inReach hnull hleads hin
              simp only [cleanUp, hremoval]
              refine .removed hleads hin fun m found hfound => ?_
              exact hplaced.ne_root_of_lookupSelf hfound
                (FileSystem.eq_root_of_removePath hremoval hfound)
          | some m =>
              obtain ⟨row, hrow, rfl, hbelow, hlong⟩ := FileSystem.row_of_firstOutOfReach hreach
              simp only [cleanUp, FileSystem.removePath_of_outOfReach hnull hleads hreach]
              exact .stopped hleads hrow hbelow rfl hlong
                (FileSystem.entryAt?_removeUpTo_stop ..)
                (FileSystem.entryAt?_removeUpTo left.files l row.1)

theorem cleansUp_settled (hprepare : prepare fs call = .ok (scratch, base))
    (ended : Except Raised Unit) (left : World ρ) :
    CleansUp ended left scratch (settled scratch (ended, left)).1
      (settled scratch (ended, left)).2 := by
  obtain ⟨-, ⟨-, rfl, -⟩ | ⟨-, s, rfl, hscratch⟩⟩ := prepare_eq_ok hprepare
  · exact .bare
  · exact cleansUp_cleanUp hscratch ended left

/-- Where the ways are kept, the path of the scratch directory leads to it as before. -/
theorem pathLeadsTo_of_keepsWays (hscratch : fs.makeScratch (scratchStem fs) = .ok (s, base))
    {files : FileSystem} (hwork : files.workDir = base.workDir) (hkeeps : base.KeepsWays files) :
    pathLeadsTo files s = .ok (.entry s.location .directory) := by
  have hleads := lookupSelf_of_makeScratch hscratch
  have hentry := FileSystem.entryAt?_of_lookupSelfFrom hleads
  rw [pathLeadsTo, hwork]
  exact FileSystem.lookupSelfFrom_of_keepsWays hkeeps (hkeeps _ _ hentry .directory) hleads

theorem Undisturbed.inReach (h : Undisturbed run base left.files s)
    (hscratch : fs.makeScratch (scratchStem fs) = .ok (s, base))
    (hruns : ToolRuns run config { w with files := base } replies ended left) :
    left.files.InReach s.path s.location := by
  cases h with
  | written hwrites hroom =>
      obtain ⟨above, name, temp, hplaced⟩ := exists_placed hscratch
      obtain ⟨hfree, rfl⟩ := FileSystem.makeScratch_eq_ok hscratch
      have hflat := FileSystem.flat_put_self hfree .directory
      exact (hruns.flat hwrites hplaced.location_ne_nil hflat).inReach hroom
  | kept _ hreach | leads _ hreach => exact hreach

theorem Undisturbed.pathLeadsTo (h : Undisturbed run base left.files s)
    (hscratch : fs.makeScratch (scratchStem fs) = .ok (s, base))
    (hruns : ToolRuns run config { w with files := base } replies ended left) :
    ∃ e, pathLeadsTo left.files s = .ok (.entry s.location e) := by
  have hwork := hruns.workDir_eq
  cases h with
  | written hwrites =>
      exact ⟨_, pathLeadsTo_of_keepsWays hscratch hwork (hruns.keepsWays hwrites)⟩
  | kept hkeeps => exact ⟨_, pathLeadsTo_of_keepsWays hscratch hwork hkeeps⟩
  | leads hleads => exact ⟨_, hleads⟩

theorem Undisturbed.removePath_eq (h : Undisturbed run base left.files s)
    (hscratch : fs.makeScratch (scratchStem fs) = .ok (s, base))
    (hruns : ToolRuns run config { w with files := base } replies ended left) :
    left.files.removePath s.path = (.ok (), left.files.remove s.location) := by
  obtain ⟨above, name, temp, hplaced⟩ := exists_placed hscratch
  obtain ⟨e, hleads⟩ := h.pathLeadsTo hscratch hruns
  exact FileSystem.removePath_of_inReach hplaced.holdsNull_path hleads
    (h.inReach hscratch hruns)

/-- Cleaning up drops the scratch directory if the tools left it where it was. -/
theorem cleanUp_of_undisturbed (h : Undisturbed run base left.files s)
    (hscratch : fs.makeScratch (scratchStem fs) = .ok (s, base))
    (hruns : ToolRuns run config { w with files := base } replies ended left) :
    cleanUp s (ended, left) =
      (ended, { left with files := left.files.remove s.location }) := by
  simp only [cleanUp, h.removePath_eq hscratch hruns]

end

/-! ## What a step leaves -/

/-- The files without the scratch directory. -/
def dropped : Option Scratch → FileSystem → FileSystem
  | none, fs => fs
  | some scratch, fs => fs.remove scratch.location

theorem dropped_applyChanges (h : prepare fs call = .ok (scratch, base))
    (changes : List FileSystem.Change) :
    dropped scratch (base.applyChanges changes) = fs.applyChanges (kept scratch changes) := by
  obtain ⟨-, ⟨-, rfl, rfl⟩ | ⟨-, s, rfl, hscratch⟩⟩ := prepare_eq_ok h
  · rfl
  · rw [dropped, FileSystem.remove_applyChanges, FileSystem.remove_makeScratch hscratch, kept]

theorem showsScratch_of_toolRuns {step : Step ρ}
    (hprepare : prepare step.before.files step.call = .ok (scratch, base))
    (hruns : ToolRuns run config { step.before with files := base } replies ended left)
    (hcalls : step.after.calls = left.calls) : ShowsScratch step scratch base replies where
  found := by
    rw [hcalls]
    exact hruns.calls_eq
  countIn_found := by
    rintro s rfl
    have hscratch := makeScratch_of_prepare hprepare
    obtain ⟨temp, name, htemp, hlocation, hpath⟩ := tempLocation?_of_makeScratch hscratch
    refine ⟨temp, name, htemp, hlocation, hpath, ?_⟩
    intro n files hfound htouches
    obtain ⟨hfree, rfl⟩ := FileSystem.makeScratch_eq_ok hscratch
    rw [hlocation] at hfree
    rw [eq_of_mem_found hfound, FileSystem.countIn_applyChanges htouches, hlocation,
      FileSystem.countIn_put_of_isFree hfree]

/-- What is left where the scratch directory is dropped follows from the tools' replies. -/
theorem leavesNoTrace_of_toolRuns {step : Step ρ}
    (hprepare : prepare step.before.files step.call = .ok (scratch, base))
    (hruns : ToolRuns run config { step.before with files := base } replies ended left)
    (hresult : step.result = ended)
    (hafter : step.after.files = dropped scratch left.files) :
    LeavesNoTrace step scratch replies ended := by
  have hfiles : step.after.files =
      step.before.files.applyChanges (kept scratch (changesOf replies)) := by
    rw [hafter, hruns.files_eq]
    exact dropped_applyChanges hprepare _
  exact {
    result := hresult
    thrown := by
      rw [hresult]
      exact hruns.result_of_thrown
    files := hfiles
    gone := by
      rintro s rfl l hl
      obtain ⟨above, name, temp, hplaced⟩ := exists_placed (makeScratch_of_prepare hprepare)
      rw [hafter]
      exact FileSystem.entryAt?_of_isFree (FileSystem.isFree_remove left.files s.location)
        hplaced.location_ne_nil hl
    countIn_after := by
      intro d hd
      rw [hfiles, FileSystem.countIn_applyChanges hd] }

theorem traceless_backend (run : Runner ρ) (config : ToolConfig) (call : BackendCall)
    (w : World ρ) :
    Traceless run config
      ⟨call, w, (backend run config call w).1, (backend run config call w).2⟩ := by
  cases hprepare : prepare w.files call with
  | error e =>
      rw [backend_of_refused run config hprepare]
      exact .refused hprepare rfl rfl
  | ok prepared =>
      obtain ⟨scratch, base⟩ := prepared
      obtain ⟨replies, ended, left, hruns, hbackend⟩ :=
        exists_toolRuns_backend run config w hprepare
      rw [hbackend]
      refine .built hprepare hruns (showsScratch_of_toolRuns hprepare hruns ?_)
        (cleansUp_settled hprepare ended left) fun hundisturbed => ?_
      · cases scratch <;> rfl
      · obtain ⟨-, ⟨-, rfl, rfl⟩ | ⟨-, s, rfl, hscratch⟩⟩ := prepare_eq_ok hprepare
        · exact leavesNoTrace_of_toolRuns hprepare hruns rfl rfl
        · have hclean := cleanUp_of_undisturbed (hundisturbed s rfl) hscratch hruns
          rw [settled, hclean]
          exact leavesNoTrace_of_toolRuns hprepare hruns rfl rfl

end

/-- Every step of any sequence of calls on one backend accounts for what it leaves behind. -/
theorem history_traceless (run : Runner ρ) (config : ToolConfig) (calls : List BackendCall)
    (w : World ρ) : ∀ step ∈ history run config calls w, Traceless run config step := by
  induction calls generalizing w with
  | nil => simp [history]
  | cons call calls ih =>
      intro step hstep
      rcases List.mem_cons.1 hstep with rfl | hstep
      · exact traceless_backend run config call w
      · exact ih _ step hstep

theorem scripted_onlyWrites : Runner.OnlyWrites scripted := by
  have hplay (reply : ScriptedReply) (call : ToolCall) (files : FileSystem) :
      files.Writes (reply.play call files).changes := by
    unfold ScriptedReply.play
    split
    · exact .nil files
    · split
      · split
        · rename_i changes hwrite
          have hall := FileSystem.Writes.cons hwrite (.nil _)
          rwa [List.append_nil] at hall
        · exact .nil files
      · exact .nil files
  intro call files replies
  cases replies with
  | nil => exact hplay {} call files
  | cons reply replies => exact hplay reply call files

/-- A full build in which the translator writes its output and the compiler's runner fails. -/
theorem history_traceless_fault :
    let files : FileSystem := ⟨[(["tmp"], .directory), (["a.py"], .file [] false)], [], "/tmp"⟩
    let base := files.put ["tmp", "pyxc-build-000000"] .directory
    let left := base.put ["tmp", "pyxc-build-000000", "a.cpp"] (.file [120] false)
    ∃ step ∈ history scripted ⟨"c++", "tr"⟩ [.compileModule "a.py" "a.so" {} {}]
        ⟨files, [{ output := some "x" }, { fault := some "gone" }], []⟩,
      step.result = .error (.fault ⟨"Error", "gone"⟩) ∧ step.after.files = files ∧
        Undisturbed scripted base left
          ⟨"/tmp/pyxc-build-000000", ["tmp", "pyxc-build-000000"]⟩ ∧
        Traceless scripted ⟨"c++", "tr"⟩ step := by
  intro files base left
  let call : BackendCall := .compileModule "a.py" "a.so" {} {}
  let w : World (List ScriptedReply) :=
    ⟨files, [{ output := some "x" }, { fault := some "gone" }], []⟩
  let step : Step (List ScriptedReply) :=
    ⟨call, w, (backend scripted ⟨"c++", "tr"⟩ call w).1, (backend scripted ⟨"c++", "tr"⟩ call w).2⟩
  have hstep : step ∈ history scripted ⟨"c++", "tr"⟩ [call] w := List.mem_singleton_self step
  have hresult : step.result = .error (.fault ⟨"Error", "gone"⟩) := by decide +kernel
  have hafter : step.after.files = files := by decide +kernel
  have hundisturbed : Undisturbed scripted base left
      ⟨"/tmp/pyxc-build-000000", ["tmp", "pyxc-build-000000"]⟩ :=
    .written scripted_onlyWrites (by decide)
  exact ⟨step, hstep, hresult, hafter, hundisturbed,
    history_traceless scripted ⟨"c++", "tr"⟩ [call] w step hstep⟩

/-- A runner whose tools all make the same changes and end alike. -/
def changing (changes : List FileSystem.Change) (result : Except Fault ProcessResult) :
    Runner Unit :=
  fun _ _ _ => (⟨changes, result⟩, ())

/-- The temporary path is a link, and the translator turns it elsewhere: the scratch directory
stays.  If a file takes the place of the temporary directory, the error of the removal hides the one
that the runner raised. -/
theorem scratch_left_behind :
    let files : FileSystem :=
      ⟨[(["tmp"], .directory), (["other"], .directory), (["tl"], .link "tmp"),
        (["m.py"], .file [] false)], [], "/tl"⟩
    let scratch : Scratch := ⟨"/tl/pyxc-build-000000", ["tmp", "pyxc-build-000000"]⟩
    let turned : FileSystem.Change := .put ["tl"] (.link "other")
    let call : BackendCall := .compileModule "m.py" "m.so" {} {}
    (∃ step ∈ history (changing [turned] (.ok { status := some 1 })) ⟨"c++", "tr"⟩ [call]
        ⟨files, (), []⟩,
      prepare files call = .ok (some scratch, files.put scratch.location .directory) ∧
      step.after.files.entryAt? scratch.location = some .directory ∧
      step.after.files ≠ files.applyChanges (kept (some scratch) [turned]) ∧
      step.after.files.countIn ["tmp"] = files.countIn ["tmp"] + 1) ∧
    ∃ step ∈ history (changing [.remove ["tmp"], .put ["tmp"] (.file [] false)]
        (.error ⟨"Error", "gone"⟩)) ⟨"c++", "tr"⟩ [call] ⟨files, (), []⟩,
      step.result = .error (.fault
        ⟨"Error", "ENOTDIR: not a directory, unlink '/tl/pyxc-build-000000'"⟩) := by
  intro files scratch turned call
  refine ⟨⟨_, List.mem_singleton_self _, ?_, ?_, ?_, ?_⟩, ⟨_, List.mem_singleton_self _, ?_⟩⟩ <;>
    decide +kernel

end Steps

end Toolchain

end CompilerDriver
