import CompilerDriver.Proofs.CommandLine.Grammar
import CompilerDriver.Proofs.ResponseFile.Moving

/-!
# Recorded tokens

No reference is left in what an expansion comes to, so its words stand for themselves wherever
files come from.  The record of a command line holds these words, and they alone settle it: parsing
them again gives the same record, even when no file can be read any more.
-/

namespace CompilerDriver

/-! ## Words that stand for themselves -/

namespace ResponseFile

/-- The words expand to themselves, wherever files come from. -/
structure Settled (words : List String) : Prop where
  no_reference : ∀ path, "@" ++ path ∉ words
  settles_iff : ∀ (workDir : Location) (read : String → Except String String)
    (result : Except ExpansionError (List String)),
    Settles workDir read [] words result ↔ result = .ok words
  expand_eq : ∀ (workDir : Location) (r : Reader), expand workDir r words = .ok words

section

variable {workDir : Location} {read : String → Except String String} {active : List Location}
  {tokens words : List String} {result : Except ExpansionError (List String)}

/-- No reference survives an expansion, at any depth. -/
theorem Settles.reference?_eq_none (h : Settles workDir read active tokens result) :
    ∀ words, result = .ok words → ∀ word ∈ words, reference? word = none := by
  induction h with
  | nil =>
      rintro words ⟨⟩
      simp
  | word hword _ ih =>
      intro words hwords
      obtain ⟨rest, hrest, rfl⟩ := map_eq_ok_iff.1 hwords
      exact List.forall_mem_cons.2 ⟨hword, ih rest hrest⟩
  | offence | failure => nofun
  | file _ _ _ _ ih ihrest =>
      intro words hwords
      obtain ⟨rest, hrest, rfl⟩ := map_eq_ok_iff.1 hwords
      intro word hmem
      rcases List.mem_append.1 hmem with hinside | hlater
      · exact ih _ rfl word hinside
      · exact ihrest rest hrest word hlater

theorem settles_words_iff (hwords : ∀ token ∈ tokens, reference? token = none) :
    Settles workDir read active tokens result ↔ result = .ok tokens := by
  induction tokens generalizing result with
  | nil => exact settles_nil_iff
  | cons token rest ih =>
      obtain ⟨hword, hrest⟩ := List.forall_mem_cons.1 hwords
      rw [settles_cons_iff]
      simp [Sequel, Piece, hword, ih hrest, Except.map]

theorem Settles.settled (h : Settles workDir read active tokens (.ok words)) : Settled words where
  no_reference := words_iff.2 (h.reference?_eq_none words rfl)
  settles_iff _ _ _ := settles_words_iff (h.reference?_eq_none words rfl)
  expand_eq _ _ := expand_words (words_iff.2 (h.reference?_eq_none words rfl))

end

end ResponseFile

/-! ## Records that are read again -/

namespace CommandLine

open ResponseFile

/-- The tokens of the record are parsed into this record, wherever files come from. -/
structure Arguments.Replays (a : Arguments) : Prop where
  no_reference : ∀ path, "@" ++ path ∉ a.tokens
  parses_iff : ∀ (workDir : Location) (read : String → Except String String)
    (result : Except UsageError Command),
    Parses workDir read a.tokens result ↔ result = .ok (.compile a)
  parse_eq : ∀ (workDir : Location) (r : Reader), parse workDir r a.tokens = .ok (.compile a)

section

variable {workDir : Location} {read : String → Except String String} {args : List String}
  {a : Arguments}

theorem tokens_of_parseTokens {tokens : List String} (h : parseTokens tokens = .ok (.compile a)) :
    a.tokens = tokens := by
  obtain ⟨s, -, hdescribes⟩ := parseTokens_compile_iff_describes.1 h
  exact hdescribes.tokens

/-- The parser depends on the words alone. -/
theorem replays_of_settled (hsettled : Settled a.tokens)
    (hparse : parseTokens a.tokens = .ok (.compile a)) : a.Replays where
  no_reference := hsettled.no_reference
  parses_iff workDir read result := by
    simp [Parses, hsettled.settles_iff, hparse]
  parse_eq workDir r := by
    rw [parse, hsettled.expand_eq]
    exact hparse

theorem Parses.replays (h : Parses workDir read args (.ok (.compile a))) : a.Replays := by
  obtain ⟨e, -, ⟨⟩⟩ | ⟨tokens, hsettles, hparse⟩ := h
  obtain rfl := tokens_of_parseTokens hparse.symm
  exact replays_of_settled hsettles.settled hparse.symm

end

/-- What an expansion comes to expands to itself, and the tokens of a parsed record are parsed into
it again, wherever files come from the second time. -/
theorem parse_replayed (workDir : Location) (args : List String) :
    (∀ read words, Settles workDir read [] args (.ok words) → Settled words) ∧
    (∀ read a, Parses workDir read args (.ok (.compile a)) → a.Replays) ∧
    (∀ r words, expand workDir r args = .ok words → Settled words) ∧
    ∀ r a, parse workDir r args = .ok (.compile a) → a.Replays := by
  refine ⟨fun read words h => h.settled, fun read a h => h.replays, ?_, ?_⟩
  · intro r words h
    have hsettles : Settles workDir r.read [] args (.ok words) :=
      settles_iff_expandWithin.2 h.symm
    exact hsettles.settled
  · intro r a h
    have hparses : Parses workDir r.read args (.ok (.compile a)) := parses_iff_parse.2 h.symm
    exact hparses.replays

/-- An input that looks like an option, from a file in a file. -/
theorem parse_replayed_nested :
    ∃ a, Parses [] (Reader.ofTable [("f", .ok "-v -- @g"), ("g", .ok "-a.py")]).read ["@f"]
        (.ok (.compile a)) ∧
      a.tokens = ["-v", "--", "-a.py"] ∧ a.Replays := by
  let r := Reader.ofTable [("f", .ok "-v -- @g"), ("g", .ok "-a.py")]
  have houter : opening [] r.read [] "f" = .ok "-v -- @g" := rfl
  have hinner : opening [] r.read [["f"]] "g" = .ok "-a.py" := by decide
  have hinput : Settles [] r.read [["g"], ["f"]] (tokenize "-a.py") (.ok ["-a.py"]) :=
    .word (by decide) .nil
  have hfile : Settles [] r.read [["f"]] (tokenize "-v -- @g") (.ok ["-v", "--", "-a.py"]) :=
    .word (by decide) (.word (by decide) (.file (by decide) hinner hinput .nil))
  have hsettles : Settles [] r.read [] ["@f"] (.ok ["-v", "--", "-a.py"]) :=
    .file (by decide) houter hfile .nil
  have hparses : Parses [] r.read ["@f"] (.ok (.compile (Arguments.collect ["-v", "--", "-a.py"]
      "-a.py" [.toggle .verbose]))) := .inr ⟨_, hsettles, by decide⟩
  exact ⟨_, hparses, rfl, (parse_replayed [] ["@f"]).2.1 r.read _ hparses⟩

end CommandLine

end CompilerDriver
