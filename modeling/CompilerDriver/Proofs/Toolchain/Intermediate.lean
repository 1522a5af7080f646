import CompilerDriver.Proofs.FileSystem.Changes
import CompilerDriver.Proofs.FileSystem.Lexical
import CompilerDriver.Proofs.Toolchain.Plan
import CompilerDriver.Toolchain.Scripted

/-!
# The intermediate file of a full build

A full build names one file to both of its tools: the translator writes it and the compiler reads
it.  However the input is spelled, the file lies right in the scratch directory that was made for
the build, by the text of its path and when the translator opens the path.
-/

namespace CompilerDriver.Toolchain

open FileSystem (Scratch IsPath maxNameBytes maxLinks)

/-! ## The file in the scratch directory -/

/-- The path of the intermediate file of an input, in a scratch directory that is new.  Opening it
reaches a free name in the directory, unless it holds U+0000 or something in it is too long. -/
structure Intermediate (fs : FileSystem) (input : String) (scratch : Scratch)
    (files : FileSystem) (path : String) : Prop where
  created : fs.makeScratch (scratchStem fs) = .ok (scratch, files)
  fresh : fs.IsFree scratch.location
  child : Path.IsChild scratch.path path
  baseName_eq : Path.baseName path = Path.stem input ++ ".cpp"
  suffix : ".cpp".toList <:+ (Path.baseName path).toList
  lookup_eq_ok_iff : ∀ r, files.lookup path = .ok r ↔
    IsPath path ∧ (Path.baseName scratch.path).utf8ByteSize ≤ maxNameBytes ∧
      (Path.baseName path).utf8ByteSize ≤ maxNameBytes ∧
      r = .free (scratch.location ++ [Path.baseName path])

section

variable {fs files : FileSystem} {scratch : Scratch} {above : List String} {name last : String}
  {temp : Location} {r : Reached}

/-- On the files with the scratch directory, the names of its path lead into it. -/
theorem Placed.exists_leads (h : Placed fs scratch above name temp)
    (hcreated : fs.makeScratch (scratchStem fs) = .ok (scratch, files)) :
    ∃ left, files.Leads maxLinks (fs.start fs.tempDir) above left temp := by
  obtain ⟨hfree, rfl⟩ := FileSystem.makeScratch_eq_ok hcreated
  have hne := h.location_ne_nil
  exact FileSystem.exists_leads_of_dot
    (FileSystem.walk_of_extends (FileSystem.extends_put hfree hne .directory) h.walk_eq)

/-- A name right in a new scratch directory is reached there, and it is still free. -/
theorem Placed.walk_child (h : Placed fs scratch above name temp)
    (hcreated : fs.makeScratch (scratchStem fs) = .ok (scratch, files))
    (hlast : Path.IsOrdinary last) :
    files.walk maxLinks (fs.start fs.tempDir) (above ++ [name, last]) = .ok r ↔
      name.utf8ByteSize ≤ maxNameBytes ∧ last.utf8ByteSize ≤ maxNameBytes ∧
        r = .free (scratch.location ++ [last]) := by
  obtain ⟨left, hleads⟩ := h.exists_leads hcreated
  rw [hleads.walk_eq]
  by_cases hsize : maxNameBytes < name.utf8ByteSize
  · rw [FileSystem.walk_too_long hleads.directory h.ordinary hsize]
    constructor
    · intro hwalk
      cases hwalk
    · rintro ⟨hle, -⟩
      omega
  · obtain ⟨hfree, rfl⟩ := FileSystem.makeScratch_eq_ok hcreated
    have hne := h.location_ne_nil
    have hscratch : (fs.put scratch.location .directory).entryAt? (temp ++ [name]) =
        some .directory := by
      rw [← h.location_eq, FileSystem.entryAt?_put_self hne]
    have hnone : (fs.put scratch.location .directory).entryAt? (scratch.location ++ [last]) =
        none := by
      rw [FileSystem.entryAt?_put_of_ne (by simp),
        FileSystem.entryAt?_of_isFree hfree hne (List.prefix_append ..)]
    rw [FileSystem.walk_down_cons hleads.directory h.ordinary.ne_dot h.ordinary.ne_up
      (Nat.not_lt.1 hsize) hscratch (by simp), ← h.location_eq,
      FileSystem.walk_last_of_none (h.location_eq ▸ hscratch) hlast hnone,
      and_iff_right (Nat.not_lt.1 hsize)]

theorem Placed.lookup_child (h : Placed fs scratch above name temp)
    (hcreated : fs.makeScratch (scratchStem fs) = .ok (scratch, files))
    (hlast : Path.IsOrdinary last) :
    files.lookup (scratch.path ++ "/" ++ last) = .ok r ↔
      IsPath (scratch.path ++ "/" ++ last) ∧ name.utf8ByteSize ≤ maxNameBytes ∧
        last.utf8ByteSize ≤ maxNameBytes ∧ r = .free (scratch.location ++ [last]) := by
  have hstart : files.start (scratch.path ++ "/" ++ last) = fs.start fs.tempDir := by
    obtain ⟨-, rfl⟩ := FileSystem.makeScratch_eq_ok hcreated
    rw [FileSystem.start, FileSystem.start, String.append_assoc, h.isAbsolute_append,
      FileSystem.workDir_put]
  have hnames : FileSystem.walkComponents (scratch.path ++ "/" ++ last) =
      above ++ [name, last] := by
    rw [FileSystem.walkComponents, Path.endsInSlash_append hlast.toIsName,
      Path.components_child hlast.toIsName, h.components_path]
    simp
  rw [FileSystem.lookup_eq_ok_iff, hstart, hnames, h.walk_child hcreated hlast]

theorem intermediate_intermediatePath
    (hcreated : fs.makeScratch (scratchStem fs) = .ok (scratch, files)) (input : String) :
    Intermediate fs input scratch files (intermediatePath scratch.path input) := by
  obtain ⟨above, name, temp, hplaced⟩ := exists_placed hcreated
  have hlast : Path.IsOrdinary (Path.stem input ++ ".cpp") := isOrdinary_intermediate input
  have hbase : Path.baseName (scratch.path ++ "/" ++ (Path.stem input ++ ".cpp")) =
      Path.stem input ++ ".cpp" := Path.baseName_child hlast.toIsName _
  have hname : Path.baseName scratch.path = name := by
    simp [Path.baseName, hplaced.components_path]
  rw [intermediatePath_of_makeScratch hcreated]
  exact {
    created := hcreated
    fresh := (FileSystem.makeScratch_eq_ok hcreated).1
    child := Path.isChild_append hlast hplaced.path_ne_empty hplaced.endsInSlash_path
    baseName_eq := hbase
    suffix := by
      rw [hbase, String.toList_append]
      exact List.suffix_append ..
    lookup_eq_ok_iff := by
      intro r
      rw [hbase, hname, hplaced.lookup_child hcreated hlast] }

example : ["/", ".", "a/..", "..py//", "a.b.py"].map (intermediatePath "/tmp/s") =
    ["/tmp/s/.cpp", "/tmp/s/..cpp", "/tmp/s/...cpp", "/tmp/s/..cpp", "/tmp/s/a.b.cpp"] := by
  decide +kernel

end

/-! ## What the tools are told -/

section Tools

variable {ρ : Type}

/-- The tools that a full build starts on an input that exists, in order, each with the files that
it finds.  The translator gets the path of the intermediate file behind `-o`, and the compiler, if
it is started, gets the same text as its input. -/
inductive Started (run : Runner ρ) (config : ToolConfig) (input output : String)
    (mode : TranslationMode) (options : CompilerOptions) (w : World ρ) :
    List (ToolCall × FileSystem) → Prop
  | noDirectory (hdirectory : ¬ HasDirectory w.files output) :
      Started run config input output mode options w []
  | noScratch {cause : FileError} (hdirectory : HasDirectory w.files output)
      (hscratch : w.files.makeScratch (scratchStem w.files) = .error cause) :
      Started run config input output mode options w []
  | halted {scratch : Scratch} {files : FileSystem} {path : String} {call : ToolCall}
      (hdirectory : HasDirectory w.files output)
      (hpath : Intermediate w.files input scratch files path)
      (hcall : call =
        ⟨config.translator, translatorArguments input path (!mode.withoutGlue) options⟩)
      (hfailed : ¬ (run call files w.runner).1.Succeeded) :
      Started run config input output mode options w [(call, files)]
  | full {scratch : Scratch} {files : FileSystem} {path : String} {call : ToolCall}
      (hdirectory : HasDirectory w.files output)
      (hpath : Intermediate w.files input scratch files path)
      (hcall : call =
        ⟨config.translator, translatorArguments input path (!mode.withoutGlue) options⟩)
      (hsucceeded : (run call files w.runner).1.Succeeded) :
      Started run config input output mode options w
        [(call, files), (⟨config.compiler, compilerArguments path output options⟩,
          files.applyChanges (run call files w.runner).1.changes)]

/-- Whatever path is given for an input that exists, the tools of a full build are told of one
file, and it lies right in the scratch directory of the build. -/
theorem intermediate_contained (run : Runner ρ) (config : ToolConfig) {input : String}
    (output : String) {mode : TranslationMode} (options : CompilerOptions) {w : World ρ}
    (hinput : w.files.pathExists input = true) (hfull : mode.cppOnly = false) :
    ∃ started, (backend run config (.compileModule input output mode options) w).2.calls =
        w.calls ++ started ∧
      Started run config input output mode options w started := by
  by_cases hdirectory : HasDirectory w.files output
  · have hcheck := checkPaths_eq_ok_iff.2 ⟨hinput, hdirectory⟩
    cases hscratch : w.files.makeScratch (scratchStem w.files) with
    | error cause =>
        refine ⟨[], ?_, .noScratch hdirectory hscratch⟩
        rw [world_noScratch w hcheck hfull hscratch, List.append_nil]
    | ok made =>
        obtain ⟨scratch, files⟩ := made
        have hpath := intermediate_intermediatePath hscratch input
        rw [calls_full w hcheck hfull hscratch]
        by_cases hsucceeded : (run ⟨config.translator, translatorArguments input
            (intermediatePath scratch.path input) (!mode.withoutGlue) options⟩ files
            w.runner).1.Succeeded
        · exact ⟨_, calls_translateAndCompile_of_succeeded rfl hsucceeded,
            .full hdirectory hpath rfl hsucceeded⟩
        · exact ⟨_, calls_translateAndCompile_of_failed rfl hsucceeded,
            .halted hdirectory hpath rfl hsucceeded⟩
  · refine ⟨[], ?_, .noDirectory hdirectory⟩
    cases hcheck : checkPaths w.files input output with
    | ok u => exact absurd (checkPaths_eq_ok_iff.1 hcheck).2 hdirectory
    | error e => rw [world_compileModule_of_error w hcheck, List.append_nil]

/-- A directory named `..py` with slashes behind it, and a temporary path with a step up. -/
theorem intermediate_contained_dots :
    let fs : FileSystem := ⟨[(["tmp"], .directory), (["..py"], .directory)], [], "/x/../tmp"⟩
    let config : ToolConfig := ⟨"c++", "tr"⟩
    let w : World (List ScriptedReply) := ⟨fs, [], []⟩
    fs.pathExists "..py//" = true ∧
      (backend scripted config (.compileModule "..py//" "a.so" {} {}) w).2.calls.map Prod.fst =
        [⟨"tr", ["..py//", "-o", "/tmp/pyxc-build-000000/..cpp"]⟩,
          ⟨"c++", ["-shared", "-fPIC", "/tmp/pyxc-build-000000/..cpp", "-o", "a.so"]⟩] ∧
      ∃ started, (backend scripted config (.compileModule "..py//" "a.so" {} {}) w).2.calls =
          w.calls ++ started ∧
        Started scripted config "..py//" "a.so" {} {} w started := by
  intro fs config w
  have hinput : fs.pathExists "..py//" = true := by decide +kernel
  exact ⟨hinput, by decide +kernel, intermediate_contained scripted config "a.so" {} hinput rfl⟩

end Tools

end CompilerDriver.Toolchain
