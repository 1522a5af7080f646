import CompilerDriver.Proofs.CommandLine.Grammar

/-!
# Which token decides

The leftmost option that settles a command line settles it for good: a request for help or for the
version and a mistake hide whatever comes later.  Tokens that split leave the result to what
follows them, so operands are counted only when no option has settled anything.
-/

namespace CompilerDriver.CommandLine

/-! ## Tokens that go on -/

section

variable {tokens more behind : List String} {flag : ValueFlag} {stop : Stop}

theorem LacksValue.append (h : LacksValue tokens flag behind)
    (hmore : behind = [] → ∀ next ∈ more.head?, OptionLike next) :
    LacksValue (tokens ++ more) flag (behind ++ more) := by
  obtain ⟨groups, letters, hgroups, hletters, rfl, hbehind⟩ := h
  refine ⟨groups, letters, hgroups, hletters, by simp, ?_⟩
  cases behind with
  | nil => exact hmore rfl
  | cons next behind => exact hbehind

theorem Split.scan_append {s : Split} (h : s.Spells tokens) (hend : "--" ∉ tokens)
    (more : List String) : scan (tokens ++ more) = (scan more).map (s.items ++ ·) := by
  obtain ⟨groups, rest⟩ := s
  obtain ⟨hgroups, rfl⟩ := h
  cases rest with
  | none => simpa [ending, items] using Group.scan_groups hgroups more
  | some rest => simp [ending] at hend

theorem scan_append_congr {before : List String} (hend : "--" ∉ before)
    (htokens : ∀ next ∈ tokens.head?, OptionLike next)
    (hmore : ∀ next ∈ more.head?, OptionLike next) (h : scan tokens = scan more) :
    scan (before ++ tokens) = scan (before ++ more) := by
  cases standing before with
  | splits s hs => rw [Split.scan_append hs hend, Split.scan_append hs hend, h]
  | settled stop _ hscan => rw [hscan, hscan]
  | lacking flag behind hlacks =>
      -- neither continuation gives a value to a flag that waits for one
      rw [(hlacks.append fun _ => htokens).scan_eq, (hlacks.append fun _ => hmore).scan_eq]

/-! ## Settled results -/

/-- An option has settled the result. -/
def SettledByOption : Except UsageError Command → Prop
  | .ok .help | .ok .version => True
  | .error (.unrecognizedOption _) | .error (.missingValue _) => True
  | _ => False

/-- The number of operands has settled the result. -/
def SettledByCount : Except UsageError Command → Prop
  | .ok (.compile _) => True
  | .error .missingInput | .error (.extraOperands _) => True
  | _ => False

/-- The result of a scan that stops early. -/
def Stop.result : Stop → Except UsageError Command
  | help => .ok .help
  | version => .ok .version
  | refused e => .error e

theorem parseTokens_of_stop (h : scan tokens = .error stop) : parseTokens tokens = stop.result := by
  unfold parseTokens
  rw [h]
  cases stop <;> rfl

theorem parseTokens_of_settled (h : ∀ more, scan (tokens ++ more) = .error stop) :
    parseTokens tokens = stop.result :=
  parseTokens_of_stop (by simpa using h [])

theorem Stop.Immediate.settledByOption (h : stop.Immediate) : SettledByOption stop.result := by
  unfold Stop.Immediate at h
  split at h
  · trivial
  · trivial
  · trivial
  · exact h.elim

theorem Stop.Immediate.result_ne_missingValue (h : stop.Immediate) :
    stop.result ≠ .error (.missingValue flag) := by
  intro hresult
  cases stop with
  | help | version => cases hresult
  | refused e =>
      cases hresult
      exact h

theorem LacksValue.parseTokens_eq (h : LacksValue tokens flag behind) :
    parseTokens tokens = .error (.missingValue flag) :=
  parseTokens_of_stop h.scan_eq

theorem SettledByCount.not_settledByOption {result : Except UsageError Command}
    (h : SettledByCount result) : ¬ SettledByOption result := by
  unfold SettledByCount at h
  split at h <;> simp_all [SettledByOption]

theorem Split.Spells.settledByCount {s : Split} (h : s.Spells tokens) :
    SettledByCount (parseTokens tokens) := by
  unfold parseTokens
  rw [Split.scan_tokens h]
  simp only [Arguments.ofItems]
  split <;> trivial

theorem settledByCount_parseTokens_iff :
    SettledByCount (parseTokens tokens) ↔ ∃ s : Split, s.Spells tokens := by
  constructor
  · intro hcount
    have hoption := hcount.not_settledByOption
    cases standing tokens with
    | splits s hs => exact ⟨s, hs⟩
    | settled stop hstop hscan =>
        rw [parseTokens_of_settled hscan] at hoption
        exact absurd hstop.settledByOption hoption
    | lacking flag behind hlacks =>
        rw [hlacks.parseTokens_eq] at hoption
        exact absurd trivial hoption
  · rintro ⟨s, hs⟩
    exact hs.settledByCount

/-- A result that an option has settled comes from a scan that stopped. -/
theorem SettledByOption.exists_stop (h : SettledByOption (parseTokens tokens)) :
    ∃ stop, scan tokens = .error stop := by
  cases hscan : scan tokens with
  | error stop => exact ⟨stop, rfl⟩
  | ok items =>
      obtain ⟨s, hs, -⟩ := Split.exists_of_scan hscan
      exact absurd h hs.settledByCount.not_settledByOption

theorem parseTokens_missingValue_iff :
    parseTokens tokens = .error (.missingValue flag) ↔
      ∃ behind, LacksValue tokens flag behind := by
  constructor
  · intro hparse
    cases standing tokens with
    | splits s hs =>
        have hcount := hs.settledByCount
        rw [hparse] at hcount
        exact hcount.elim
    | settled stop hstop hscan =>
        rw [parseTokens_of_settled hscan] at hparse
        exact absurd hparse hstop.result_ne_missingValue
    | lacking flag' behind hlacks =>
        rw [hlacks.parseTokens_eq] at hparse
        cases hparse
        exact ⟨behind, hlacks⟩
  · rintro ⟨behind, hlacks⟩
    exact hlacks.parseTokens_eq

end

/-- What the leftmost settling option says is the result.  Operands are counted only when the
tokens split, and a value is missed only where a flag finds none. -/
theorem parse_leftmost (workDir : Location) (r : Reader) (before after : List String)
    (hbefore : ∀ path, "@" ++ path ∉ before) (hafter : ∀ path, "@" ++ path ∉ after) :
    (SettledByOption (parse workDir r before) →
      (∀ flag, parse workDir r before = .error (.missingValue flag) →
        ∃ next behind, LacksValue before flag (next :: behind)) →
      parse workDir r (before ++ after) = parse workDir r before) ∧
    ("--" ∉ before → SettledByCount (parse workDir r before) →
      SettledByOption (parse workDir r after) →
      parse workDir r (before ++ after) = parse workDir r after) ∧
    (SettledByCount (parse workDir r before) ↔ ∃ s : Split, s.Spells before) ∧
    ∀ flag, parse workDir r before = .error (.missingValue flag) ↔
      ∃ behind, LacksValue before flag behind := by
  rw [parse_words hbefore, parse_words hafter, parse_words (words_append hbefore hafter)]
  refine ⟨?_, ?_, settledByCount_parseTokens_iff, fun _ => parseTokens_missingValue_iff⟩
  · intro hoption hearly
    cases standing before with
    | splits s hs => exact absurd hoption hs.settledByCount.not_settledByOption
    | settled stop _ hscan =>
        rw [parseTokens_of_stop (hscan after), parseTokens_of_settled hscan]
    | lacking flag behind hlacks =>
        have hparse := hlacks.parseTokens_eq
        obtain ⟨next, behind, hlacks⟩ := hearly flag hparse
        have hmore : LacksValue (before ++ after) flag (next :: behind ++ after) :=
          hlacks.append nofun
        rw [hmore.parseTokens_eq, hparse]
  · intro hend hcount hoption
    obtain ⟨s, hs⟩ := settledByCount_parseTokens_iff.1 hcount
    obtain ⟨stop, hscan⟩ := hoption.exists_stop
    have hmore : scan (before ++ after) = .error stop := by
      rw [Split.scan_append hs hend, hscan]
      rfl
    rw [parseTokens_of_stop hmore, parseTokens_of_stop hscan]

/-- A flag in front of an option hides a request for help, and an unknown letter in a cluster hides
an operand too many. -/
theorem parse_leftmost_mistakes :
    (LacksValue ["-I", "-v"] .includeDir ["-v"] ∧
      parse [] (Reader.ofTable []) (["-I", "-v"] ++ ["--help"]) =
        parse [] (Reader.ofTable []) ["-I", "-v"]) ∧
    SettledByCount (parse [] (Reader.ofTable []) ["a.py", "b.py"]) ∧
      SettledByOption (parse [] (Reader.ofTable []) ["-vZ"]) ∧
      parse [] (Reader.ofTable []) (["a.py", "b.py"] ++ ["-vZ"]) =
        parse [] (Reader.ofTable []) ["-vZ"] := by
  have hflag : ∀ path, "@" ++ path ∉ ["-I", "-v"] := ResponseFile.words_iff.2 (by decide)
  have hhelp : ∀ path, "@" ++ path ∉ ["--help"] := ResponseFile.words_iff.2 (by decide)
  have hinputs : ∀ path, "@" ++ path ∉ ["a.py", "b.py"] := ResponseFile.words_iff.2 (by decide)
  have hcluster : ∀ path, "@" ++ path ∉ ["-vZ"] := ResponseFile.words_iff.2 (by decide)
  have hlacks : LacksValue ["-I", "-v"] .includeDir ["-v"] :=
    ⟨[], [], by simp, by simp, by decide, by simp [OptionLike]⟩
  have hparse : parse [] (Reader.ofTable []) ["-I", "-v"] = .error (.missingValue .includeDir) := by
    rw [parse_words hflag, hlacks.parseTokens_eq]
  have hcount : SettledByCount (parse [] (Reader.ofTable []) ["a.py", "b.py"]) := by
    have hextra : parseTokens ["a.py", "b.py"] = .error (.extraOperands ["b.py"]) := by decide
    rw [parse_words hinputs, hextra]
    trivial
  have hoption : SettledByOption (parse [] (Reader.ofTable []) ["-vZ"]) := by
    have hunknown : parseTokens ["-vZ"] = .error (.unrecognizedOption "-Z") := by decide
    rw [parse_words hcluster, hunknown]
    trivial
  refine ⟨⟨hlacks, ?_⟩, hcount, hoption, ?_⟩
  · refine (parse_leftmost [] (Reader.ofTable []) ["-I", "-v"] ["--help"] hflag hhelp).1 ?_ ?_
    · rw [hparse]
      trivial
    · intro flag hmissing
      rw [hparse] at hmissing
      cases hmissing
      exact ⟨_, _, hlacks⟩
  · exact (parse_leftmost [] (Reader.ofTable []) ["a.py", "b.py"] ["-vZ"] hinputs hcluster).2.1
      (by decide) hcount hoption

end CompilerDriver.CommandLine
