import CompilerDriver.Proofs.ResponseFile.Moving
import Mathlib.Data.Set.Card

/-!
# Files inside files

The expansion of references as a machine that takes one token at a time.  The files around that
token are on a stack, each with the tokens that wait behind its reference.  No file is on the stack
twice, so the stack is never higher than there are files to be read, and every run of the machine
ends, with what the arguments expand to.
-/

namespace CompilerDriver.ResponseFile

/-! ## The machine -/

/-- An expansion under way; the innermost file comes first. -/
structure Progress where
  words : List String
  tokens : List String
  files : List (Location × List String)
  deriving DecidableEq, Repr

inductive Phase where
  | going (p : Progress)
  | ended (result : Except ExpansionError (List String))

/-- The files that are being expanded. -/
def Progress.active (p : Progress) : List Location :=
  p.files.map Prod.fst

section

variable (workDir : Location) (read : String → Except String String)

def Progress.step (p : Progress) : Phase :=
  match p.tokens, p.files with
  | [], [] => .ended (.ok p.words)
  | [], (_, waiting) :: files => .going ⟨p.words, waiting, files⟩
  | token :: tokens, files =>
      match reference? token with
      | none => .going ⟨p.words ++ [token], tokens, files⟩
      | some path =>
          match opening workDir read p.active path with
          | .error e => .ended (.error e)
          | .ok content =>
              .going ⟨p.words, tokenize content, (Path.resolve workDir path, tokens) :: files⟩

def Phase.step : Phase → Phase
  | going p => p.step workDir read
  | ended result => ended result

/-- The machine after this many steps on the arguments. -/
def phaseAfter (args : List String) (n : Nat) : Phase :=
  (Phase.step workDir read)^[n] (.going ⟨[], args, []⟩)

/-- The files that can be read, however their paths are written. -/
def readableFiles : Set Location :=
  { file | ∃ path content, read path = .ok content ∧ Path.resolve workDir path = file }

end

section

variable {workDir : Location} {read : String → Except String String}
  {args tokens words : List String} {path content : String} {active : List Location}
  {files : List (Location × List String)}
  {p q : Progress} {before between after : Phase} {result : Except ExpansionError (List String)}

theorem opening_eq_ok_iff :
    opening workDir read active path = .ok content ↔
      path ≠ "" ∧ Path.resolve workDir path ∉ active ∧ read path = .ok content := by
  unfold opening
  by_cases hname : path = ""
  · simp [hname]
  · by_cases hactive : Path.resolve workDir path ∈ active
    · simp [hname, hactive]
    · cases read path <;> simp [hname, hactive, Except.mapError]

/-! ## Every run ends -/

variable (workDir read) in
/-- Steps of the machine lead from one phase to the other. -/
def Leads (before after : Phase) : Prop :=
  ∃ n, (Phase.step workDir read)^[n] before = after

theorem Leads.refl (phase : Phase) : Leads workDir read phase phase :=
  ⟨0, rfl⟩

theorem Leads.trans (h : Leads workDir read before between)
    (h' : Leads workDir read between after) : Leads workDir read before after := by
  obtain ⟨m, rfl⟩ := h
  obtain ⟨n, rfl⟩ := h'
  exact ⟨n + m, Function.iterate_add_apply ..⟩

theorem Leads.next (h : Leads workDir read (p.step workDir read) after) :
    Leads workDir read (.going p) after := by
  obtain ⟨n, hn⟩ := h
  exact ⟨n + 1, hn⟩

/-- Where the machine is once it is through with tokens that expand to this result. -/
def Phase.past (words : List String) (files : List (Location × List String)) :
    Except ExpansionError (List String) → Phase
  | .ok more => going ⟨words ++ more, [], files⟩
  | .error e => ended (.error e)

theorem Phase.past_map (more : List String) :
    past words files (result.map (more ++ ·)) = past (words ++ more) files result := by
  cases result <;> simp [past, Except.map]

/-- The machine does for a list of tokens what their expansion says. -/
theorem Settles.leads (h : Settles workDir read active tokens result) :
    ∀ words files, files.map Prod.fst = active →
      Leads workDir read (.going ⟨words, tokens, files⟩) (Phase.past words files result) := by
  induction h with
  | nil =>
      intro words files _
      simpa [Phase.past] using Leads.refl (Phase.going ⟨words, [], files⟩)
  | @word active token rest result hword _ ih =>
      intro words files hfiles
      have hmap : Phase.past words files (result.map (token :: ·)) =
          Phase.past (words ++ [token]) files result := Phase.past_map [token]
      rw [hmap]
      apply Leads.next
      simpa only [Progress.step, hword] using ih (words ++ [token]) files hfiles
  | offence htoken hopen =>
      intro words files hfiles
      apply Leads.next
      simp only [Progress.step, htoken, Progress.active, hfiles, hopen]
      exact Leads.refl _
  | failure htoken hopen _ ih =>
      intro words files hfiles
      apply Leads.next
      simp only [Progress.step, htoken, Progress.active, hfiles, hopen]
      exact ih words _ (by rw [List.map_cons, hfiles])
  | @file active token path content rest nested result htoken hopen _ _ ih ihrest =>
      intro words files hfiles
      apply Leads.next
      simp only [Progress.step, htoken, Progress.active, hfiles, hopen]
      refine (ih words _ (by rw [List.map_cons, hfiles])).trans ?_
      -- the file is through, and the machine goes on behind its reference
      apply Leads.next
      rw [Phase.past_map]
      exact ihrest (words ++ nested) files hfiles

theorem Settles.exists_phaseAfter (h : Settles workDir read [] args result) :
    ∃ n, phaseAfter workDir read args n = .ended result := by
  have hleads := h.leads [] [] rfl
  cases result with
  | error e => exact hleads
  | ok words => exact hleads.trans (Leads.next (.refl _))

/-! ## The height of the stack -/

/-- Only files that can be read are active, each of them once. -/
structure Progress.Sound (workDir : Location) (read : String → Except String String)
    (p : Progress) : Prop where
  nodup : p.active.Nodup
  readable : ∀ file ∈ p.active, file ∈ readableFiles workDir read

theorem Progress.Sound.step (h : p.Sound workDir read)
    (hstep : p.step workDir read = .going q) : q.Sound workDir read := by
  obtain ⟨words, tokens, files⟩ := p
  cases tokens with
  | nil =>
      cases files with
      | nil => cases hstep
      | cons file files =>
          cases hstep
          exact ⟨(List.nodup_cons.1 h.nodup).2, (List.forall_mem_cons.1 h.readable).2⟩
  | cons token tokens =>
      cases htoken : reference? token with
      | none =>
          simp only [Progress.step, htoken] at hstep
          cases hstep
          exact ⟨h.nodup, h.readable⟩
      | some path =>
          cases hopen : opening workDir read (files.map Prod.fst) path with
          | error e =>
              simp only [Progress.step, htoken, Progress.active, hopen] at hstep
              cases hstep
          | ok content =>
              simp only [Progress.step, htoken, Progress.active, hopen] at hstep
              cases hstep
              obtain ⟨-, hactive, hread⟩ := opening_eq_ok_iff.1 hopen
              exact ⟨List.nodup_cons.2 ⟨hactive, h.nodup⟩,
                List.forall_mem_cons.2 ⟨⟨path, content, hread, rfl⟩, h.readable⟩⟩

theorem sound_phaseAfter (args : List String) (n : Nat) :
    ∀ p, phaseAfter workDir read args n = .going p → p.Sound workDir read := by
  induction n with
  | zero =>
      rintro p ⟨⟩
      exact ⟨List.nodup_nil, by simp [Progress.active]⟩
  | succ n ih =>
      intro q hq
      rw [phaseAfter, Function.iterate_succ_apply'] at hq
      change Phase.step workDir read (phaseAfter workDir read args n) = .going q at hq
      cases hp : phaseAfter workDir read args n with
      | ended result =>
          rw [hp] at hq
          cases hq
      | going p =>
          rw [hp] at hq
          exact (ih p hp).step hq

theorem finite_readableFiles (workDir : Location) (r : Reader) :
    (readableFiles workDir r.read).Finite := by
  refine (r.paths.map (Path.resolve workDir)).finite_toSet.subset ?_
  rintro file ⟨path, content, hread, rfl⟩
  exact List.mem_map_of_mem (Reader.mem_paths hread)

theorem Progress.Sound.length_le (h : p.Sound workDir read)
    (hfinite : (readableFiles workDir read).Finite) :
    p.active.length ≤ (readableFiles workDir read).ncard := by
  rw [← List.toFinset_card_of_nodup h.nodup, ← Set.ncard_coe_finset]
  refine Set.ncard_le_ncard ?_ hfinite
  intro file hfile
  exact h.readable file (by simpa using hfile)

/-- Whatever the files hold, the machine ends with the expansion of the arguments, and on its way
the active files differ from each other and are at most as many as there are files to be read. -/
theorem expansion_ends (workDir : Location) (r : Reader) (args : List String) :
    (∃ n, phaseAfter workDir r.read args n = .ended (expand workDir r args)) ∧
    ∀ n p, phaseAfter workDir r.read args n = .going p →
      p.active.Nodup ∧ p.active.length ≤ (readableFiles workDir r.read).ncard := by
  constructor
  · exact (settles_iff_expandWithin.2 rfl).exists_phaseAfter
  · intro n p hp
    have hsound := sound_phaseAfter args n p hp
    exact ⟨hsound.nodup, hsound.length_le (finite_readableFiles workDir r)⟩

end

end CompilerDriver.ResponseFile
