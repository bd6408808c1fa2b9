-- Lists that are worked into values under keys, one member after the other. What stands under a
-- key in the end comes from the members with that key alone, in the order in which they came.
import ReviewDesk.Proofs.Shelf

namespace ReviewDesk

namespace Register

section Records

variable {κ α : Type} [Ord κ] [DecidableEq κ] {key : α → κ}

theorem get?_remove (r : Register key) (k k' : κ) :
    (r.remove k).get? k' = if k = k' then none else r.get? k' := by
  unfold get? remove
  dsimp only
  rw [List.find?_filter]
  split
  · rename_i same
    simp [same]
  · rename_i other
    refine congrArg (List.find? · r.entries) (funext fun a => ?_)
    by_cases here : key a = k'
    · simp [here, Ne.symm other]
    · simp [here]

omit [DecidableEq κ] in
/-- No two records of a register have the same key. -/
theorem nodup_keys [Std.TransOrd κ] (r : Register key) : (r.entries.map key).Nodup := by
  rw [List.Nodup, List.pairwise_map]
  refine r.sorted.imp fun {a b} less same => ?_
  rw [same, Std.ReflOrd.compare_self] at less
  cases less

end Records

/-! ## Values -/

section Values

variable {κ α β : Type} [Ord κ] [DecidableEq κ] [Inhabited α] [Std.TransOrd κ]
  [Std.LawfulEqOrd κ]

omit [Std.TransOrd κ] [Std.LawfulEqOrd κ] in
@[simp]
theorem value_empty (k : κ) : (empty : Keyed κ α).value k = default := rfl

omit [Std.TransOrd κ] [Std.LawfulEqOrd κ] in
theorem value_of_get? {r : Keyed κ α} {k : κ} {entry : κ × α} (h : r.get? k = some entry) :
    r.value k = entry.2 := by
  unfold value
  rw [h]
  rfl

omit [Std.LawfulEqOrd κ] in
/-- What stands beside a key is the value under it. -/
theorem value_of_mem {r : Keyed κ α} {entry : κ × α} (listed : entry ∈ r.entries) :
    r.value entry.1 = entry.2 := value_of_get? (get?_eq_some_iff.2 ⟨listed, rfl⟩)

omit [Std.TransOrd κ] [Std.LawfulEqOrd κ] in
theorem value_remove_of_ne (r : Keyed κ α) {k k' : κ} (other : k ≠ k') :
    (r.remove k).value k' = r.value k' := by
  unfold value
  rw [get?_remove, if_neg other]

theorem get?_change (r : Keyed κ α) (k k' : κ) (f : α → α) :
    (r.change k f).get? k' = if k = k' then some (k, f (r.value k)) else r.get? k' :=
  get?_put r _ k'

theorem value_change (r : Keyed κ α) (k k' : κ) (f : α → α) :
    (r.change k f).value k' = if k = k' then f (r.value k') else r.value k' := by
  by_cases same : k = k'
  · subst same
    rw [if_pos rfl]
    exact value_of_get? ((r.get?_change k k f).trans (if_pos rfl))
  · unfold value
    rw [get?_change, if_neg same, if_neg same]

/-! ## Working a list in -/

/-- Lets each member of a list work on the value under its key. -/
def work (f : β → α → α) (r : Keyed κ α) (l : List (κ × β)) : Keyed κ α :=
  l.foldl (fun r x => r.change x.1 (f x.2)) r

variable (f : β → α → α) (r : Keyed κ α) (l : List (κ × β)) (k : κ)

theorem value_work : (r.work f l).value k =
    ((l.filter (·.1 = k)).map Prod.snd).foldl (fun a b => f b a) (r.value k) := by
  induction l generalizing r with
  | nil => rfl
  | cons x l ih =>
    show ((r.change x.1 (f x.2)).work f l).value k = _
    rw [ih, value_change]
    by_cases here : x.1 = k
    · simp [here]
    · simp [here]

/-- The keys are those that were there, and those of the list. -/
theorem isSome_get?_work : ((r.work f l).get? k).isSome = true ↔
    (r.get? k).isSome = true ∨ ∃ x ∈ l, x.1 = k := by
  induction l generalizing r with
  | nil => simp [work]
  | cons x l ih =>
    show ((r.change x.1 (f x.2)).work f l |>.get? k).isSome = true ↔ _
    rw [ih, get?_change]
    by_cases here : x.1 = k
    · simp [here]
    · simp [here]

end Values

end Register

end ReviewDesk
