import CompilerDriver.FileSystem.Access

/-!
# Where response files come from

A reader gives the content of a path, or the reason why there is none.  Only finitely many paths
can be read; this is what bounds the expansion of response files.  It holds of every table of
contents and of every file system, since a path that can be opened is of bounded length.
-/

namespace CompilerDriver

structure Reader where
  read : String → Except String String
  finite : ∃ paths : List String, ∀ path content, read path = .ok content → path ∈ paths

namespace Reader

/-- Some list of all readable paths. -/
noncomputable def paths (r : Reader) : List String :=
  Classical.choose r.finite

theorem mem_paths {r : Reader} {path content : String} (h : r.read path = .ok content) :
    path ∈ r.paths :=
  Classical.choose_spec r.finite path content h

/-! ## Tables -/

/-- Contents by path; the first row of a path counts, and other paths are missing. -/
def ofTable (table : List (String × Except String String)) : Reader where
  read path :=
    (table.lookup path).getD (.error (FileError.message (.refused .notFound "open" (some path))))
  finite := by
    refine ⟨table.map Prod.fst, fun path content h => ?_⟩
    cases hl : table.lookup path with
    | none => simp [hl] at h
    | some row =>
        obtain ⟨before, after, rfl, _⟩ := List.lookup_eq_some_iff.1 hl
        simp

/-! ## File systems -/

private theorem toNat_lt (c : Char) : c.toNat < 0x110000 := by
  have hc := c.valid
  simp only [Char.toNat]
  rcases hc with h | h
  · omega
  · exact h.2

private theorem length_toList_le (s : String) : s.toList.length ≤ s.utf8ByteSize := by
  suffices h : ∀ l : List Char, l.length ≤ (String.ofList l).utf8ByteSize by
    simpa using h s.toList
  intro l
  induction l with
  | nil => simp
  | cons c l ih =>
      rw [String.ofList_cons, String.utf8ByteSize_append]
      have := Char.utf8Size_pos c
      simp
      omega

private theorem exists_all_lists (n : Nat) :
    ∃ ls : List (List Char), ∀ l : List Char, l.length ≤ n → l ∈ ls := by
  induction n with
  | zero => exact ⟨[[]], fun l hl => by simpa using hl⟩
  | succ n ih =>
      obtain ⟨ls, hls⟩ := ih
      let chars := (List.range 0x110000).map Char.ofNat
      refine ⟨[] :: chars.flatMap fun c => ls.map (c :: ·), fun l hl => ?_⟩
      cases l with
      | nil => exact List.mem_cons_self ..
      | cons c l =>
          refine List.mem_cons_of_mem _ (List.mem_flatMap.2 ⟨c, ?_, ?_⟩)
          · exact List.mem_map.2 ⟨c.toNat, List.mem_range.2 (toNat_lt c), Char.ofNat_toNat c⟩
          · exact List.mem_map_of_mem (hls l (by simpa using hl))

/-- Texts of bounded size are finitely many. -/
theorem exists_all_texts (n : Nat) :
    ∃ texts : List String, ∀ s : String, s.utf8ByteSize ≤ n → s ∈ texts := by
  obtain ⟨ls, hls⟩ := exists_all_lists n
  refine ⟨ls.map String.ofList, fun s hs => ?_⟩
  have := length_toList_le s
  exact List.mem_map.2 ⟨s.toList, hls _ (by omega), String.ofList_toList⟩

theorem size_le_of_readText {fs : FileSystem} {path content : String}
    (h : fs.readText path = .ok content) : path.utf8ByteSize ≤ FileSystem.maxPathBytes := by
  unfold FileSystem.readText FileSystem.readBytes at h
  cases hl : fs.lookup path with
  | ok reached => exact FileSystem.lookup_of_too_long hl
  | error cause => split at h <;> simp [hl, Except.map] at h

/-- Reads the files of a file system. -/
def ofFiles (fs : FileSystem) : Reader where
  read path := (fs.readText path).mapError FileError.message
  finite := by
    obtain ⟨texts, htexts⟩ := exists_all_texts FileSystem.maxPathBytes
    refine ⟨texts, fun path content h => htexts path ?_⟩
    cases hr : fs.readText path with
    | ok text => exact size_le_of_readText hr
    | error e =>
        rw [hr] at h
        nomatch h

end Reader

end CompilerDriver
