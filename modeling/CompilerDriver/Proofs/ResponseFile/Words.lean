import CompilerDriver.Proofs.ResponseFile.Moving

/-!
# The words of a text

Taking the words of a text and laying words out in a text are inverse: every text lays out the
words that are taken from it, and from a text that lays out some words these words are taken.  What
separates words are the space separators of Unicode, the tabs, the form feed, the byte order mark
and the ends of lines.
-/

namespace CompilerDriver

/-! ## Blanks -/

namespace Text

/-- The Unicode category of space separators. -/
def spaceSeparators : List Char :=
  [' ', '\u00A0', '\u1680', '\u2000', '\u2001', '\u2002', '\u2003', '\u2004', '\u2005', '\u2006',
    '\u2007', '\u2008', '\u2009', '\u200A', '\u202F', '\u205F', '\u3000']

def formatSpaces : List Char :=
  ['\t', '\x0B', '\x0C', '\uFEFF']

def lineEnds : List Char :=
  ['\n', '\r', '\u2028', '\u2029']

theorem isBlank_iff {c : Char} :
    isBlank c = true ↔ c ∈ spaceSeparators ∨ c ∈ formatSpaces ∨ c ∈ lineEnds := by
  have hnumber (d : Char) : c = d ↔ c.toNat = d.toNat := Char.toNat_inj.symm
  simp only [spaceSeparators, formatSpaces, lineEnds, List.mem_cons, List.not_mem_nil, or_false,
    hnumber]
  simp [isBlank]
  omega

end Text

namespace ResponseFile

variable {words : List String} {space word gap text : String}

/-! ## Laying out -/

theorem IsBlank.append {other : String} (hspace : IsBlank space) (hother : IsBlank other) :
    IsBlank (space ++ other) := by
  intro c hc
  rw [String.toList_append] at hc
  rcases List.mem_append.1 hc with hc | hc
  · exact hspace c hc
  · exact hother c hc

theorem isBlank_empty : IsBlank "" := by
  simp [IsBlank]

theorem LaysOut.blank_append (h : LaysOut words text) (hspace : IsBlank space) :
    LaysOut words (space ++ text) := by
  cases h with
  | none htext => exact .none (hspace.append htext)
  | last hbefore hafter =>
      rw [← String.append_assoc, ← String.append_assoc]
      exact .last (hspace.append hbefore) hafter
  | more hbefore hgap hne hrest =>
      rw [← String.append_assoc, ← String.append_assoc, ← String.append_assoc]
      exact .more (hspace.append hbefore) hgap hne hrest

theorem LaysOut.word_append (h : LaysOut words text) (word : String) (hgap : IsBlank gap)
    (hne : gap ≠ "") : LaysOut (word :: words) (word ++ gap ++ text) := by
  cases words with
  | nil =>
      cases h with
      | none htext =>
          have hlast : LaysOut [word] ("" ++ word ++ (gap ++ text)) :=
            .last isBlank_empty (hgap.append htext)
          rwa [String.empty_append, ← String.append_assoc] at hlast
  | cons next rest =>
      have hmore : LaysOut (word :: next :: rest) ("" ++ word ++ gap ++ text) :=
        .more isBlank_empty hgap hne h
      rwa [String.empty_append] at hmore

/-! ## Taking words -/

theorem isWord_of_mem_tokenize {content : String} (h : word ∈ tokenize content) : IsWord word := by
  obtain ⟨piece, hpiece, rfl⟩ := List.mem_map.1 h
  obtain ⟨hmem, hne⟩ := Text.mem_fields.1 hpiece
  refine ⟨by simpa using hne, ?_⟩
  intro c hc
  exact Text.not_sep_of_mem_splitWhere hmem c (by simpa using hc)

theorem laysOut_fields (cs : List Char) :
    LaysOut ((Text.fields Text.isBlank cs).map String.ofList) (String.ofList cs) := by
  cases hfind : cs.find? Text.isBlank with
  | none =>
      have hnone : ∀ c ∈ cs, Text.isBlank c = false := by
        simpa using List.find?_eq_none.1 hfind
      by_cases hempty : cs = []
      · subst hempty
        exact .none isBlank_empty
      · rw [Text.fields_of_none hempty hnone]
        have hlast : LaysOut [String.ofList cs] ("" ++ String.ofList cs ++ "") :=
          .last isBlank_empty isBlank_empty
        simpa using hlast
  | some sep =>
      -- the first blank ends a word, unless the text starts with it
      obtain ⟨hsep, before, after, rfl, hbefore⟩ := List.find?_eq_some_iff_append.1 hfind
      have hnone : ∀ c ∈ before, Text.isBlank c = false := by simpa using hbefore
      have hgap : IsBlank (String.ofList [sep]) := by simpa [IsBlank] using hsep
      have hrest := laysOut_fields after
      have htext : String.ofList (before ++ sep :: after) =
          String.ofList before ++ String.ofList [sep] ++ String.ofList after := by
        rw [← String.ofList_append, ← String.ofList_append, List.append_assoc,
          List.singleton_append]
      rw [Text.fields_append_cons hsep, htext, List.map_append]
      by_cases hempty : before = []
      · subst hempty
        have hnothing : Text.fields Text.isBlank [] = [] := rfl
        simpa [hnothing] using hrest.blank_append hgap
      · rw [Text.fields_of_none hempty hnone]
        exact hrest.word_append (String.ofList before) hgap (by simp)
termination_by cs.length

/-- What is not blank in a text are the characters of its words, in their order. -/
theorem flatMap_tokenize (content : String) :
    (tokenize content).flatMap String.toList =
      content.toList.filter fun c => !Text.isBlank c := by
  rw [← Text.flatten_fields, tokenize, List.flatMap_map, List.flatMap_def]
  simp

theorem laysOut_tokenize (content : String) : LaysOut (tokenize content) content := by
  have h := laysOut_fields content.toList
  rwa [String.ofList_toList] at h

/-- The words that are taken from a text are the words that it lays out, and nothing but blanks is
left out of them: space separators, tabs, form feeds, byte order marks and line ends. -/
theorem tokenize_eq_iff (content : String) :
    (∀ words, tokenize content = words ↔
      LaysOut words content ∧ ∀ word ∈ words, IsWord word) ∧
    (tokenize content).flatMap String.toList =
      content.toList.filter (fun c => !Text.isBlank c) ∧
    ∀ c, Text.isBlank c = true ↔
      c ∈ Text.spaceSeparators ∨ c ∈ Text.formatSpaces ∨ c ∈ Text.lineEnds := by
  refine ⟨?_, flatMap_tokenize content, fun c => Text.isBlank_iff⟩
  intro words
  constructor
  · rintro rfl
    exact ⟨laysOut_tokenize content, fun word => isWord_of_mem_tokenize⟩
  · rintro ⟨hlaysOut, hwords⟩
    exact tokenize_of_laysOut hlaysOut hwords

example : tokenize "\uFEFF-g\u3000\u2028 a\u0085.py\n" = ["-g", "a\u0085.py"] := by decide +kernel

end ResponseFile

end CompilerDriver
