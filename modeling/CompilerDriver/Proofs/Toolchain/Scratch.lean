import CompilerDriver.Proofs.FileSystem.Changes
import CompilerDriver.Proofs.FileSystem.Lexical
import CompilerDriver.Toolchain.Build

/-!
# Scratch directories of a build

The path by which the tools are told of a scratch directory is in normal form, so the intermediate
file of an input is written as a name behind that path.  The path leads to the directory once it is
made, and it still does so where the directories and links that were there are kept.
-/

namespace CompilerDriver.Toolchain

open FileSystem (Scratch scratchSuffix)

/-! ## Names -/

theorem isDigit_of_mem_scratchSuffix {n : Nat} {c : Char} (h : c ∈ (scratchSuffix n).toList) :
    c.isDigit = true := by
  rw [scratchSuffix, String.toList_ofList] at h
  obtain ⟨place, -, rfl⟩ := List.mem_map.1 h
  rw [Nat.isDigit_digitChar, decide_eq_true_eq]
  exact Nat.mod_lt _ (by decide)

theorem utf8ByteSize_scratchSuffix (n : Nat) : (scratchSuffix n).utf8ByteSize = 6 := by
  have hbyte : ∀ d < 10, (Nat.digitChar d).utf8Size = 1 := by decide
  have hdigit (m : Nat) : (Nat.digitChar (m % 10)).utf8Size = 1 :=
    hbyte _ (Nat.mod_lt _ (by decide))
  simp [scratchSuffix, String.ofList_cons, hdigit]

theorem isOrdinary_stem : Path.IsOrdinary "pyxc-build-" :=
  Path.isOrdinary_of_length (by decide) (by decide)

theorem isOrdinary_scratch (n : Nat) : Path.IsOrdinary ("pyxc-build-" ++ scratchSuffix n) := by
  have hsuffix : '/' ∉ (scratchSuffix n).toList := by
    intro hslash
    exact absurd (isDigit_of_mem_scratchSuffix hslash) (by decide)
  have hstem : "pyxc-build-".toList.length = 11 := by decide
  exact Path.isOrdinary_append (by decide) hsuffix (by omega)

theorem isOrdinary_intermediate (input : String) : Path.IsOrdinary (Path.stem input ++ ".cpp") := by
  have hextension : ".cpp".toList.length = 4 := by decide
  exact Path.isOrdinary_append (Path.stem_no_slash input) (by decide) (by omega)

/-! ## Where a scratch directory lies -/

theorem isPath_scratch {stem : String} (hnull : '\x00' ∉ stem.toList)
    (hsize : stem.utf8ByteSize + 6 ≤ FileSystem.maxPathBytes) (n : Nat) :
    FileSystem.IsPath (stem ++ scratchSuffix n) := by
  have hbytes : (stem ++ scratchSuffix n).utf8ByteSize = stem.utf8ByteSize + 6 := by
    rw [String.utf8ByteSize_append, utf8ByteSize_scratchSuffix]
  exact {
    ne_empty := by
      intro hempty
      rw [hempty] at hbytes
      simp at hbytes
    no_null := by
      rw [String.toList_append, List.mem_append]
      rintro (hmem | hmem)
      · exact hnull hmem
      · exact absurd (isDigit_of_mem_scratchSuffix hmem) (by decide)
    size_le := hbytes ▸ hsize }

theorem parent_of_makeScratch {fs fs' : FileSystem} {stem : String} {scratch : Scratch}
    (h : fs.makeScratch stem = .ok (scratch, fs')) :
    ∃ parent e n,
      fs.walk FileSystem.maxLinks (if Path.isAbsolute stem then [] else fs.workDir)
        ((Path.components stem).dropLast ++ ["."]) = .ok (.entry parent e) ∧
      scratch = ⟨stem ++ scratchSuffix n, parent ++ [Path.baseName stem ++ scratchSuffix n]⟩ ∧
      FileSystem.IsPath scratch.path := by
  simp only [FileSystem.makeScratch] at h
  split at h
  · cases h
  · rename_i hnull
    split at h
    · cases h
    · rename_i hsize
      split at h
      · cases h
      · cases h
      · rename_i parent e hwalk
        split at h
        · cases h
        · cases h
          rw [String.utf8ByteSize_append] at hsize
          have hnull : '\x00' ∉ stem.toList := by simpa [FileSystem.holdsNull] using hnull
          exact ⟨parent, e, _, hwalk, rfl, isPath_scratch hnull (Nat.not_lt.1 hsize) _⟩

/-- The path of a scratch directory is written from names: those of the temporary path in normal
form, which lead to the directory that it is made in, and its own. -/
structure Placed (fs : FileSystem) (scratch : Scratch) (above : List String) (name : String)
    (temp : Location) : Prop where
  above_eq : (Path.components fs.tempDir).foldl
    (Path.descendNormal (Path.isAbsolute fs.tempDir)) [] = above
  ordinary : Path.IsOrdinary name
  size_eq : name.utf8ByteSize = 17
  isPath : FileSystem.IsPath scratch.path
  walk_eq : fs.walk FileSystem.maxLinks (fs.start fs.tempDir) (above ++ ["."]) =
    .ok (.entry temp .directory)
  path_eq : scratch.path = Path.written (Path.isAbsolute fs.tempDir) (above ++ [name])
  location_eq : scratch.location = temp ++ [name]

theorem isName_of_mem_temp {fs : FileSystem} {above : List String} {name : String}
    (habove : (Path.components fs.tempDir).foldl
      (Path.descendNormal (Path.isAbsolute fs.tempDir)) [] = above)
    (hname : Path.IsName name) : ∀ part ∈ above ++ [name], Path.IsName part := by
  intro part hpart
  rcases List.mem_append.1 hpart with hpart | hpart
  · rw [← habove] at hpart
    exact Path.isName_foldl (fun _ => Path.isName_of_mem_components) (by simp) part hpart
  · rw [List.mem_singleton.1 hpart]
    exact hname

section

variable {fs fs' : FileSystem} {scratch : Scratch} {above : List String} {name : String}
  {temp : Location}

theorem Placed.names (h : Placed fs scratch above name temp) :
    ∀ part ∈ above ++ [name], Path.IsName part :=
  isName_of_mem_temp h.above_eq h.ordinary.toIsName

theorem Placed.normal (h : Placed fs scratch above name temp) :
    Path.Normal (Path.isAbsolute fs.tempDir) (above ++ [name]) := by
  rw [← h.above_eq]
  exact (Path.normal_foldl (Path.normal_nil _) _).concat h.ordinary

theorem Placed.path_ne_empty (h : Placed fs scratch above name temp) : scratch.path ≠ "" := by
  rw [h.path_eq]
  exact Path.written_ne_empty (by simp) h.names

theorem Placed.holdsNull_path (h : Placed fs scratch above name temp) :
    FileSystem.holdsNull scratch.path = false := by
  simpa [FileSystem.holdsNull] using h.isPath.no_null

theorem Placed.location_ne_nil (h : Placed fs scratch above name temp) :
    scratch.location ≠ [] := by
  simp [h.location_eq]

theorem Placed.endsInSlash_path (h : Placed fs scratch above name temp) :
    Path.endsInSlash scratch.path = false := by
  rw [h.path_eq, Path.endsInSlash_written h.ordinary.toIsName]

theorem Placed.components_path (h : Placed fs scratch above name temp) :
    Path.components scratch.path = above ++ [name] := by
  rw [h.path_eq, Path.components_written h.names]

/-- What is behind the path of a scratch directory is absolute like the temporary path. -/
theorem Placed.isAbsolute_append (h : Placed fs scratch above name temp) (more : String) :
    Path.isAbsolute (scratch.path ++ more) = Path.isAbsolute fs.tempDir := by
  rw [Path.isAbsolute_append h.path_ne_empty, h.path_eq, Path.isAbsolute_written (by simp) h.names]

theorem exists_placed (h : fs.makeScratch (scratchStem fs) = .ok (scratch, fs')) :
    ∃ above name temp, Placed fs scratch above name temp := by
  obtain ⟨temp, e, n, hwalk, rfl, hpath⟩ := parent_of_makeScratch h
  obtain ⟨above, habove⟩ : ∃ above, (Path.components fs.tempDir).foldl
      (Path.descendNormal (Path.isAbsolute fs.tempDir)) [] = above := ⟨_, rfl⟩
  have hparts : ∀ part ∈ above ++ ["pyxc-build-"], Path.IsName part :=
    isName_of_mem_temp habove isOrdinary_stem.toIsName
  have hstem : scratchStem fs =
      Path.written (Path.isAbsolute fs.tempDir) (above ++ ["pyxc-build-"]) := by
    rw [← habove]
    exact Path.join_name isOrdinary_stem fs.tempDir
  have hbase : Path.baseName (scratchStem fs) = "pyxc-build-" := by
    rw [Path.baseName, hstem, Path.components_written hparts]
    simp
  rw [hstem, Path.isAbsolute_written (by simp) hparts, Path.components_written hparts,
    List.dropLast_concat] at hwalk
  obtain rfl := FileSystem.walk_dot hwalk
  exact ⟨above, _, temp, {
    above_eq := habove
    ordinary := isOrdinary_scratch n
    size_eq := by
      rw [String.utf8ByteSize_append, utf8ByteSize_scratchSuffix]
      rfl
    isPath := hpath
    walk_eq := hwalk
    path_eq := by rw [hstem, Path.written_append]
    location_eq := by rw [hbase] }⟩

/-- The path of a scratch directory never leads to the root. -/
theorem Placed.ne_root_of_lookupSelf (h : Placed fs scratch above name temp) {files : FileSystem}
    {here : Location} {r : Reached}
    (hlookup : files.lookupSelfFrom here scratch.path = .ok r) : r.location ≠ [] := by
  simp only [FileSystem.lookupSelfFrom, h.components_path, List.getLastD_concat,
    h.endsInSlash_path, h.ordinary.ne_dot, h.ordinary.ne_up, h.isPath.no_null,
    Bool.false_eq_true, or_self, if_false] at hlookup
  split at hlookup
  · cases hlookup
  · split at hlookup
    · cases hlookup
    · cases hlookup
    · split at hlookup <;> cases hlookup <;> simp [Reached.location]

/-- The path of a scratch directory that was just made leads to it. -/
theorem lookupSelf_of_makeScratch (h : fs.makeScratch (scratchStem fs) = .ok (scratch, fs')) :
    fs'.lookupSelfFrom fs'.workDir scratch.path = .ok (.entry scratch.location .directory) := by
  obtain ⟨above, name, temp, hplaced⟩ := exists_placed h
  obtain ⟨hfree, rfl⟩ := FileSystem.makeScratch_eq_ok h
  have hne := hplaced.location_ne_nil
  have hstart : (if Path.isAbsolute scratch.path then [] else fs.workDir) =
      fs.start fs.tempDir := by
    have habsolute := hplaced.isAbsolute_append ""
    rw [String.append_empty] at habsolute
    rw [habsolute, FileSystem.start]
  have hwalk := FileSystem.walk_of_extends (FileSystem.extends_put hfree hne .directory)
    hplaced.walk_eq
  have hsizes : ¬ (FileSystem.maxPathBytes < scratch.path.utf8ByteSize ∨
      FileSystem.maxNameBytes < name.utf8ByteSize) := by
    have hle := hplaced.isPath.size_le
    rw [hplaced.size_eq]
    simp only [FileSystem.maxNameBytes]
    omega
  simp only [FileSystem.lookupSelfFrom, hplaced.components_path, List.getLastD_concat,
    hplaced.endsInSlash_path, hplaced.ordinary.ne_dot, hplaced.ordinary.ne_up,
    hplaced.isPath.no_null, Bool.false_eq_true, or_self, if_false, hsizes, List.dropLast_concat,
    FileSystem.workDir_put, hstart, hwalk, ← hplaced.location_eq,
    FileSystem.entryAt?_put_self hne]

/-- The intermediate file of an input lies right in the scratch directory, whatever the input. -/
theorem intermediatePath_of_makeScratch
    (h : fs.makeScratch (scratchStem fs) = .ok (scratch, fs')) (input : String) :
    intermediatePath scratch.path input =
      scratch.path ++ "/" ++ (Path.stem input ++ ".cpp") := by
  obtain ⟨above, name, temp, hplaced⟩ := exists_placed h
  rw [intermediatePath, hplaced.path_eq,
    Path.join_written (isOrdinary_intermediate input) hplaced.normal (by simp) hplaced.names]

end

/-! ## The temporary directory -/

/-- The directory that the temporary path leads to, with `.` and `..` removed from its text. -/
def tempLocation? (fs : FileSystem) : Option Location :=
  match fs.walk FileSystem.maxLinks (if Path.isAbsolute fs.tempDir then [] else fs.workDir)
      (Path.components (Path.normalize fs.tempDir) ++ ["."]) with
  | .ok (.entry l _) => some l
  | _ => none

/-- A scratch directory lies right in the temporary directory, and its path says so. -/
theorem tempLocation?_of_makeScratch {fs fs' : FileSystem} {scratch : Scratch}
    (h : fs.makeScratch (scratchStem fs) = .ok (scratch, fs')) :
    ∃ temp name, tempLocation? fs = some temp ∧ scratch.location = temp ++ [name] ∧
      scratch.path = Path.join fs.tempDir name := by
  obtain ⟨above, name, temp, hplaced⟩ := exists_placed h
  have hnames : fs.walk FileSystem.maxLinks (fs.start fs.tempDir)
      ((if above = [] ∧ Path.isAbsolute fs.tempDir = false then ["."] else above) ++ ["."]) =
        .ok (.entry temp .directory) := by
    have hwalk := hplaced.walk_eq
    by_cases hnone : above = [] ∧ Path.isAbsolute fs.tempDir = false
    · rw [hnone.1] at hwalk
      rw [if_pos hnone]
      exact FileSystem.walk_dot_dot hwalk
    · rw [if_neg hnone]
      exact hwalk
  rw [FileSystem.start] at hnames
  refine ⟨temp, name, ?_, hplaced.location_eq, ?_⟩
  · rw [tempLocation?, Path.components_normalize hplaced.above_eq, hnames]
  · rw [Path.join_name hplaced.ordinary, hplaced.above_eq, hplaced.path_eq]

end CompilerDriver.Toolchain
