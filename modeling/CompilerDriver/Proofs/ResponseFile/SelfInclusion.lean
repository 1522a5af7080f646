import CompilerDriver.Proofs.FileSystem.Lexical
import CompilerDriver.Proofs.ResponseFile.Moving

/-!
# Files that include themselves

A reference is refused as self-inclusion when the text of its path leads to where the text of the
path of an active file leads.  On straight paths this is so only if both paths open the same file.
Where a step up leaves a link, or something that does not exist, another file or none at all may
stand behind the reference.
-/

namespace CompilerDriver.ResponseFile

/-! ## Where an expansion stops -/

/-- The first reference that offends names this path.  It is met while the files behind the paths
`above` are being expanded, the outermost first. -/
def StopsAt (workDir : Location) (r : Reader) (args above : List String) (path : String) : Prop :=
  ∃ position e, ReferenceAt r args position above path ∧
    Offence workDir r (above.map (Path.resolve workDir)) path e ∧
    ∀ position' e', OffendsAt workDir r [] args position' e' →
      ¬ List.Lex (· < ·) position' position

/-- What a reference and a path around it have in common if the one is refused because of the
other. -/
structure Reincludes (fs : FileSystem) (path outer : String) : Prop where
  resolve_eq : Path.resolve fs.workDir path = Path.resolve fs.workDir outer
  readable : ∃ content, fs.readText outer = .ok content
  same_file : fs.Straight path → fs.Straight outer →
    ∀ reached, fs.lookup path = .ok reached → fs.lookup outer = .ok reached
  opens : fs.Straight path → fs.Straight outer → FileSystem.IsPath path →
    (FileSystem.walkComponents path).getLast? ≠ some "." →
    fs.lookup path = fs.lookup outer ∧ fs.readText path = fs.readText outer

section

variable {workDir : Location} {r : Reader} {fs : FileSystem} {args above tokens : List String}
  {path outer content : String} {position : List Nat}

theorem ReferenceAt.readable (h : ReferenceAt r tokens position above path) :
    ∀ outer ∈ above, ∃ content, r.read outer = .ok content := by
  induction h with
  | here => simp
  | inside _ hread _ ih => exact List.forall_mem_cons.2 ⟨⟨_, hread⟩, ih⟩

theorem Chain.behind {first : String} {rest : List String} (h : Chain r tokens (first :: rest))
    (hrest : rest ≠ []) :
    "@" ++ first ∈ tokens ∧
      ∃ content, r.read first = .ok content ∧ Chain r (tokenize content) rest := by
  cases h with
  | single => exact absurd rfl hrest
  | cons hmem hread htail => exact ⟨hmem, _, hread, htail⟩

theorem Chain.exists_mem (h : Chain r tokens above) : ∃ path, "@" ++ path ∈ tokens := by
  cases h with
  | single hmem => exact ⟨_, hmem⟩
  | cons hmem => exact ⟨_, hmem⟩

theorem exists_stopsAt (h : expand workDir r args = .error (.selfInclusion path)) :
    ∃ above, StopsAt workDir r args above path ∧
      ∃ outer ∈ above, Path.resolve workDir path = Path.resolve workDir outer ∧
        ∃ content, r.read outer = .ok content := by
  have hexpands : Expands workDir r [] args (expand workDir r args) := expands_expandWithin ..
  obtain ⟨position, ⟨above, name, hat, hoff⟩, hfirst⟩ := hexpands.firstOffence _ h
  rw [List.append_nil] at hoff
  cases hoff with
  | selfInclusion hname hactive =>
      obtain ⟨outer, houter, hsame⟩ := List.mem_map.1 hactive
      exact ⟨above, ⟨position, _, hat, .selfInclusion hname hactive, hfirst⟩,
        outer, houter, hsame.symm, hat.readable outer houter⟩

/-- The first reference of a file leads back to where the path of the file leads. -/
theorem expand_of_back_reference {before after : List String} (hname : outer ≠ "")
    (hname' : path ≠ "") (hread : r.read outer = .ok content)
    (hwords : tokenize content = before ++ ("@" ++ path) :: after)
    (hbefore : ∀ word ∈ before, reference? word = none)
    (hsame : Path.resolve workDir path = Path.resolve workDir outer) :
    expand workDir r ["@" ++ outer] = .error (.selfInclusion path) := by
  have hopen : opening workDir r.read [] outer = .ok content := by
    simp [opening, hname, hread, Except.mapError]
  have hrefused : opening workDir r.read [Path.resolve workDir outer] path =
      .error (.selfInclusion path) := by
    simp [opening, hname', hsame]
  have hinside : Settles workDir r.read [Path.resolve workDir outer] (tokenize content)
      (.error (.selfInclusion path)) := by
    rw [hwords]
    clear hwords
    induction before with
    | nil => exact .offence (reference?_eq_some_iff.2 rfl) hrefused
    | cons word before ih =>
        obtain ⟨hword, hbefore⟩ := List.forall_mem_cons.1 hbefore
        exact .word hword (ih hbefore)
  have hsettles : Settles workDir r.read [] ["@" ++ outer] (.error (.selfInclusion path)) :=
    .failure (reference?_eq_some_iff.2 rfl) hopen hinside
  exact (settles_iff_expandWithin.1 hsettles).symm

theorem readText_of_read (h : (Reader.ofFiles fs).read path = .ok content) :
    fs.readText path = .ok content := by
  change (fs.readText path).mapError FileError.message = .ok content at h
  cases hread : fs.readText path with
  | error e =>
      rw [hread] at h
      cases h
  | ok text =>
      rw [hread] at h
      cases h
      rfl

theorem readText_of_lookup (hpath : FileSystem.IsPath path)
    (hlookup : fs.lookup path = fs.lookup outer) (hread : fs.readText outer = .ok content) :
    fs.readText path = .ok content := by
  have hnull : FileSystem.holdsNull path = false := by
    simpa [FileSystem.holdsNull] using hpath.no_null
  unfold FileSystem.readText FileSystem.readBytes at hread ⊢
  rw [hnull, if_neg Bool.false_ne_true, hlookup]
  split at hread
  · cases hread
  · -- only the cases that yield bytes are left, and they do not look at the path
    split at hread
    case h_1 | h_2 | h_3 => exact hread
    all_goals cases hread

theorem exists_lookup_of_readText (h : fs.readText path = .ok content) :
    ∃ l e, fs.lookup path = .ok (.entry l e) := by
  unfold FileSystem.readText FileSystem.readBytes at h
  split at h
  · cases h
  · cases hlookup : fs.lookup path with
    | error cause => simp [hlookup, Except.map] at h
    | ok reached =>
        cases reached with
        | free l => simp [hlookup, Except.map] at h
        | entry l e => exact ⟨l, e, rfl⟩

end

/-- A reference that is refused as self-inclusion opens the file of an active path, unless one of
the two paths steps up from where there is no directory, or the reference asks for one. -/
theorem selfInclusion_reincludes (fs : FileSystem) (args : List String) (path : String)
    (hwork : fs.Anchored fs.workDir)
    (h : expand fs.workDir (.ofFiles fs) args = .error (.selfInclusion path)) :
    ∃ above, StopsAt fs.workDir (.ofFiles fs) args above path ∧
      ∃ outer ∈ above, Reincludes fs path outer := by
  obtain ⟨above, hstops, outer, houter, hsame, content, hread⟩ := exists_stopsAt h
  have htext : fs.readText outer = .ok content := readText_of_read hread
  obtain ⟨l, e, hlookup⟩ := exists_lookup_of_readText htext
  refine ⟨above, hstops, outer, houter, hsame, ⟨content, htext⟩, ?_, ?_⟩
  · intro hpath houter reached hreached
    have hwalk := FileSystem.walk_resolve_of_lookup hwork hpath hreached
    rw [hsame, FileSystem.walk_resolve_of_lookup hwork houter hlookup] at hwalk
    rw [hlookup, hwalk]
  · intro hpath houter hopenable hend
    have hwalk := FileSystem.walk_resolve_of_lookup hwork houter hlookup
    rw [← hsame] at hwalk
    have hsame : fs.lookup path = fs.lookup outer := by
      rw [hlookup]
      exact FileSystem.lookup_of_walk_resolve hwork hpath hopenable (fun hdot => absurd hdot hend)
        hwalk
    exact ⟨hsame, by rw [htext, readText_of_lookup hopenable hsame htext]⟩

/-- A path through a link that steps up from a directory below it, from within the same file. -/
theorem selfInclusion_below_link :
    let fs : FileSystem :=
      ⟨[(["lib"], .link "real"), (["real"], .directory), (["real", "sub"], .directory),
        (["real", "a.rsp"], .file (Text.encodeUtf8 "@lib/sub/../a.rsp") false)], [], "/tmp"⟩
    fs.Straight "lib/sub/../a.rsp" ∧
      ∃ above, StopsAt fs.workDir (.ofFiles fs) ["@lib/a.rsp"] above "lib/sub/../a.rsp" ∧
        ∃ outer ∈ above, Reincludes fs "lib/sub/../a.rsp" outer := by
  intro fs
  have hcomponents : Path.components "lib/sub/../a.rsp" = ["lib", "sub"] ++ ".." :: ["a.rsp"] := by
    decide
  have hdirectory :
      fs.lookupSelfFrom [] (Location.text (fs.place "lib/sub/../a.rsp" ["lib", "sub"])) =
        .ok (.entry ["real", "sub"] .directory) := by decide +kernel
  have hread : (Reader.ofFiles fs).read "lib/a.rsp" = .ok "@lib/sub/../a.rsp" := by decide +kernel
  have hwords : tokenize "@lib/sub/../a.rsp" = [] ++ "@lib/sub/../a.rsp" :: [] := by decide
  have hexpand : expand fs.workDir (.ofFiles fs) ["@lib/a.rsp"] =
      .error (.selfInclusion "lib/sub/../a.rsp") :=
    expand_of_back_reference (by decide) (by decide) hread hwords (by decide) (by decide)
  exact ⟨.of_single hcomponents (by decide) (by decide) hdirectory,
    selfInclusion_reincludes fs ["@lib/a.rsp"] "lib/sub/../a.rsp" .root hexpand⟩

/-- A step up out of a link leads to another file, and one from nowhere to none at all. -/
theorem selfInclusion_of_others :
    let fs : FileSystem :=
      ⟨[(["real"], .directory), (["real", "sub"], .directory), (["d"], .link "real/sub"),
        (["a.rsp"], .file (Text.encodeUtf8 "-g @d/../a.rsp") false),
        (["real", "a.rsp"], .file (Text.encodeUtf8 "-O3") false),
        (["b.rsp"], .file (Text.encodeUtf8 "@gone/../b.rsp") false)], [], "/tmp"⟩
    (expand fs.workDir (.ofFiles fs) ["@a.rsp"] = .error (.selfInclusion "d/../a.rsp") ∧
      fs.readText "d/../a.rsp" = .ok "-O3" ∧
      ∀ above, StopsAt fs.workDir (.ofFiles fs) ["@a.rsp"] above "d/../a.rsp" →
        ∀ outer ∈ above, fs.lookup outer ≠ fs.lookup "d/../a.rsp") ∧
    expand fs.workDir (.ofFiles fs) ["@b.rsp"] = .error (.selfInclusion "gone/../b.rsp") ∧
      fs.readText "gone/../b.rsp" = .error (.refused .notFound "open" (some "gone/../b.rsp")) := by
  intro fs
  have hread : (Reader.ofFiles fs).read "a.rsp" = .ok "-g @d/../a.rsp" := by decide +kernel
  have hread' : (Reader.ofFiles fs).read "d/../a.rsp" = .ok "-O3" := by decide +kernel
  have hwords : tokenize "-g @d/../a.rsp" = ["-g"] ++ "@d/../a.rsp" :: [] := by decide +kernel
  have hwords' : tokenize "-O3" = ["-O3"] := by decide +kernel
  have hexpand : expand fs.workDir (.ofFiles fs) ["@a.rsp"] =
      .error (.selfInclusion "d/../a.rsp") :=
    expand_of_back_reference (by decide) (by decide) hread hwords (by decide) (by decide)
  have hgone : (Reader.ofFiles fs).read "b.rsp" = .ok "@gone/../b.rsp" := by decide +kernel
  have hback : tokenize "@gone/../b.rsp" = [] ++ "@gone/../b.rsp" :: [] := by decide +kernel
  have hexpand' : expand fs.workDir (.ofFiles fs) ["@b.rsp"] =
      .error (.selfInclusion "gone/../b.rsp") :=
    expand_of_back_reference (by decide) (by decide) hgone hback (by decide) (by decide)
  refine ⟨⟨hexpand, readText_of_read hread', ?_⟩, hexpand', by decide +kernel⟩
  -- the two files are the only chain of references that comes to the second one
  rintro above ⟨position, e, hat, -⟩
  have hchain : Chain (Reader.ofFiles fs) ["@a.rsp"] (above ++ ["d/../a.rsp"]) :=
    .of_referenceAt hat
  suffices habove : above = [] ∨ above = ["a.rsp"] by
    rcases habove with rfl | rfl
    · simp
    · simp only [List.mem_singleton, forall_eq]
      decide +kernel
  rcases above with _ | ⟨first, _ | ⟨second, above⟩⟩
  · exact .inl rfl
  · obtain ⟨hmem, -⟩ := hchain.behind (by simp)
    obtain rfl : first = "a.rsp" := path_unique (List.mem_singleton.1 hmem)
    exact .inr rfl
  · obtain ⟨hmem, content, hcontent, hinner⟩ := hchain.behind (by simp)
    obtain rfl : first = "a.rsp" := path_unique (List.mem_singleton.1 hmem)
    cases hread.symm.trans hcontent
    obtain ⟨hmem, content, hcontent, hlast⟩ := hinner.behind (by simp)
    rw [hwords] at hmem
    obtain rfl : second = "d/../a.rsp" := by
      rcases List.mem_cons.1 hmem with hword | hmem
      · exact absurd hword (reference?_eq_none_iff.1 (by decide) second).symm
      · exact path_unique (List.mem_singleton.1 hmem)
    cases hread'.symm.trans hcontent
    obtain ⟨path, hmem⟩ := hlast.exists_mem
    rw [hwords'] at hmem
    exact absurd (List.mem_singleton.1 hmem).symm (reference?_eq_none_iff.1 (by decide) path)

end CompilerDriver.ResponseFile
