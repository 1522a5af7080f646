/-!
# Blank characters

The characters that separate the words of a response file and that are cut from the ends of a
tool's diagnostics: the ASCII controls from tab to carriage return, the space, the no-break
spaces, the Unicode space separators, the line and paragraph separators and the byte order mark.
-/

namespace CompilerDriver.Text

def isBlank (c : Char) : Bool :=
  let n := c.toNat
  (0x09 ≤ n && n ≤ 0x0D) || n == 0x20 || n == 0xA0 || n == 0x1680 || (0x2000 ≤ n && n ≤ 0x200A) ||
    n == 0x2028 || n == 0x2029 || n == 0x202F || n == 0x205F || n == 0x3000 || n == 0xFEFF

/-- Every blank of the ASCII range is a blank here. -/
theorem isBlank_of_isWhitespace {c : Char} (h : c.isWhitespace) : isBlank c := by
  simp only [Char.isWhitespace, Bool.or_eq_true, decide_eq_true_eq] at h
  rcases h with ((rfl | rfl) | rfl) | rfl <;> decide

/-! ## Cutting blanks from the ends of a text -/

def trimStart (s : String) : String :=
  String.ofList (s.toList.dropWhile isBlank)

def trimEnd (s : String) : String :=
  String.ofList (s.toList.reverse.dropWhile isBlank).reverse

def trim (s : String) : String :=
  trimStart (trimEnd s)

/-- Some character of the text is not blank. -/
def HasInk (s : String) : Prop :=
  ∃ c ∈ s.toList, isBlank c = false

instance (s : String) : Decidable (HasInk s) :=
  List.decidableBEx (fun c => isBlank c = false) s.toList

@[simp] theorem toList_trimEnd (s : String) :
    (trimEnd s).toList = (s.toList.reverse.dropWhile isBlank).reverse := by
  simp [trimEnd]

@[simp] theorem toList_trimStart (s : String) :
    (trimStart s).toList = s.toList.dropWhile isBlank := by
  simp [trimStart]

/-! ## Ink -/

section

variable {s : String}

theorem mem_dropWhile_isBlank {c : Char} (hink : isBlank c = false) {cs : List Char} :
    c ∈ cs.dropWhile isBlank ↔ c ∈ cs := by
  induction cs with
  | nil => simp
  | cons d cs ih =>
      by_cases hd : isBlank d = true
      · have hne : c ≠ d := by
          rintro rfl
          rw [hink] at hd
          cases hd
        simp [hd, ih, hne]
      · simp [hd]

theorem dropWhile_isBlank_eq_nil_iff {cs : List Char} :
    cs.dropWhile isBlank = [] ↔ ∀ c ∈ cs, isBlank c = true := by
  induction cs with
  | nil => simp
  | cons d cs ih => by_cases hd : isBlank d = true <;> simp [hd, ih]

theorem hasInk_trimStart_iff : HasInk (trimStart s) ↔ HasInk s := by
  unfold HasInk
  rw [toList_trimStart]
  exact exists_congr fun c => and_congr_left fun hink => mem_dropWhile_isBlank hink

theorem hasInk_trimEnd_iff : HasInk (trimEnd s) ↔ HasInk s := by
  unfold HasInk
  rw [toList_trimEnd]
  refine exists_congr fun c => and_congr_left fun hink => ?_
  rw [List.mem_reverse, mem_dropWhile_isBlank hink, List.mem_reverse]

theorem hasInk_trim_iff : HasInk (trim s) ↔ HasInk s :=
  hasInk_trimStart_iff.trans hasInk_trimEnd_iff

theorem not_hasInk_iff : ¬ HasInk s ↔ ∀ c ∈ s.toList, isBlank c = true := by
  simp [HasInk]

theorem HasInk.ne_empty (h : HasInk s) : s ≠ "" := by
  rintro rfl
  exact absurd h (by decide)

/-- Nothing is left of a text without ink. -/
theorem trimStart_eq_empty_iff : trimStart s = "" ↔ ¬ HasInk s := by
  rw [← String.toList_inj, toList_trimStart, not_hasInk_iff]
  exact dropWhile_isBlank_eq_nil_iff

theorem trimEnd_eq_empty_iff : trimEnd s = "" ↔ ¬ HasInk s := by
  rw [← String.toList_inj, toList_trimEnd, not_hasInk_iff, String.toList_empty,
    List.reverse_eq_nil_iff, dropWhile_isBlank_eq_nil_iff]
  simp only [List.mem_reverse]

theorem trim_eq_empty_iff : trim s = "" ↔ ¬ HasInk s :=
  trimStart_eq_empty_iff.trans (not_congr hasInk_trimEnd_iff)

theorem HasInk.append_left (h : HasInk s) (before : String) : HasInk (before ++ s) := by
  obtain ⟨c, hc, hink⟩ := h
  exact ⟨c, by simp [hc], hink⟩

end

end CompilerDriver.Text
