-- Lists cut into the parts between separators, and lists cut at one place.

namespace ReviewDesk

/-- Cuts a list at each place of a separator. There is one part more than separators. -/
def cutAt {α : Type} [DecidableEq α] (separator : α) : List α → List (List α)
  | [] => [[]]
  | a :: rest =>
    if a = separator then [] :: cutAt separator rest
    else
      match cutAt separator rest with
      | [] => [[a]]
      | part :: parts => (a :: part) :: parts

/-- A list with one more at its end is cut at that one, or where it could be cut without it. -/
theorem concat_eq_append_cons_iff {α : Type} {whole before after : List α} {last here : α} :
    whole ++ [last] = before ++ here :: after ↔
      (after = [] ∧ before = whole ∧ here = last) ∨
        ∃ rest, after = rest ++ [last] ∧ whole = before ++ here :: rest := by
  constructor
  · intro same
    rcases List.eq_nil_or_concat after with rfl | ⟨rest, final, rfl⟩
    · obtain ⟨front, back⟩ := List.append_inj' same rfl
      exact .inl ⟨rfl, front.symm, (List.cons.inj back).1.symm⟩
    · rw [List.concat_eq_append, ← List.cons_append, ← List.append_assoc] at same
      obtain ⟨front, back⟩ := List.append_inj' same rfl
      exact .inr ⟨rest, by rw [List.concat_eq_append, (List.cons.inj back).1], front⟩
  · rintro (⟨rfl, rfl, rfl⟩ | ⟨rest, rfl, rfl⟩)
    · rfl
    · simp

end ReviewDesk
