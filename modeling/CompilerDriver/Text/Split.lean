/-!
# Splitting a list at separators

`splitWhere p` cuts a list at every element that satisfies `p`, and `fields p` keeps the
non-empty pieces, so a run of separators cuts only once.
-/

namespace CompilerDriver.Text

variable {α : Type}

def splitWhere (p : α → Bool) : List α → List (List α)
  | [] => [[]]
  | a :: rest =>
      if p a then [] :: splitWhere p rest
      else
        match splitWhere p rest with
        | [] => [[a]]
        | piece :: pieces => (a :: piece) :: pieces

/-- The non-empty pieces between the separators. -/
def fields (p : α → Bool) (as : List α) : List (List α) :=
  (splitWhere p as).filter fun piece => !piece.isEmpty

/-! ## Laws -/

theorem splitWhere_ne_nil (p : α → Bool) (as : List α) : splitWhere p as ≠ [] := by
  cases as with
  | nil => simp [splitWhere]
  | cons a rest =>
      rw [splitWhere]
      split
      · simp
      · split <;> simp

@[simp] theorem splitWhere_nil (p : α → Bool) : splitWhere p [] = [[]] := rfl

theorem splitWhere_cons_of_pos {p : α → Bool} {a : α} (h : p a) (rest : List α) :
    splitWhere p (a :: rest) = [] :: splitWhere p rest := by
  simp [splitWhere, h]

/-- A separator in the middle splits the work. -/
theorem splitWhere_append_cons {p : α → Bool} {a : α} (h : p a) (before after : List α) :
    splitWhere p (before ++ a :: after) = splitWhere p before ++ splitWhere p after := by
  induction before with
  | nil => simp [splitWhere_cons_of_pos h]
  | cons b before ih =>
      rw [List.cons_append, splitWhere, splitWhere, ih]
      split
      · rfl
      · cases hs : splitWhere p before with
        | nil => exact absurd hs (splitWhere_ne_nil p before)
        | cons piece pieces => rfl

/-- A list without separators is one piece. -/
theorem splitWhere_of_none {p : α → Bool} {as : List α} (h : ∀ a ∈ as, p a = false) :
    splitWhere p as = [as] := by
  induction as with
  | nil => rfl
  | cons a rest ih =>
      rw [splitWhere, ih fun b hb => h b (List.mem_cons_of_mem a hb)]
      simp [h a (List.mem_cons_self ..)]

/-- No piece holds a separator. -/
theorem not_sep_of_mem_splitWhere {p : α → Bool} {as piece : List α}
    (hm : piece ∈ splitWhere p as) : ∀ a ∈ piece, p a = false := by
  induction as generalizing piece with
  | nil =>
      rw [splitWhere_nil, List.mem_singleton] at hm
      simp [hm]
  | cons b rest ih =>
      rw [splitWhere] at hm
      split at hm
      · rcases List.mem_cons.1 hm with rfl | hm
        · simp
        · exact ih hm
      · rename_i hb
        cases hs : splitWhere p rest with
        | nil => exact absurd hs (splitWhere_ne_nil p rest)
        | cons first pieces =>
            rw [hs] at hm ih
            rcases List.mem_cons.1 hm with rfl | hm
            · intro a ha
              rcases List.mem_cons.1 ha with rfl | ha
              · simpa using hb
              · exact ih (List.mem_cons_self ..) a ha
            · exact ih (List.mem_cons_of_mem _ hm)

theorem mem_fields {p : α → Bool} {as piece : List α} :
    piece ∈ fields p as ↔ piece ∈ splitWhere p as ∧ piece ≠ [] := by
  simp [fields]

end CompilerDriver.Text
