-- Who is chosen. A shuffle loses nobody and adds nobody, so a choice takes nobody twice and only
-- whom it may, and it is as long as it can be. Nobody who is chosen is refused a place.
import Mathlib.Data.Finset.Card
import ReviewDesk.Proofs.Conduct
import ReviewDesk.Proofs.Roster

namespace ReviewDesk

/-! ## Shuffles -/

namespace Draws

variable {α : Type}

theorem perm_swapIfInBounds (entries : Array α) (i j : Nat) :
    (entries.swapIfInBounds i j).Perm entries := by
  unfold Array.swapIfInBounds
  split
  · split
    · exact Array.swap_perm _ _
    · exact .refl _
  · exact .refl _

theorem perm_settle (draws : Draws) (place : Nat) (entries : Array α) :
    (draws.settle place entries).Perm entries := by
  induction place generalizing entries with
  | zero => exact .refl _
  | succ place ih => exact (ih _).trans (perm_swapIfInBounds entries _ _)

/-- A shuffle has the entries that it was given, whatever is drawn. -/
theorem perm_shuffle (draws : Draws) (entries : List α) : (draws.shuffle entries).Perm entries :=
  (draws.perm_settle _ entries.toArray).toList

end Draws

/-! ## Choices -/

namespace Selection

/-- The ids of the active candidates, but for those who are left out. -/
def pool (candidates : List User) (out : List UserId) : Finset UserId :=
  ((candidates.filter fun c => c.active ∧ c.id ∉ out).map User.id).toFinset

variable {draws : Draws} {candidates : List User} {author user : UserId}
  {out out' : List UserId} {count : Nat}

theorem mem_pool :
    user ∈ pool candidates out ↔ ∃ c ∈ candidates, c.active = true ∧ c.id = user ∧ user ∉ out := by
  simp only [pool, List.mem_toFinset, List.mem_map, List.mem_filter, decide_eq_true_eq]
  constructor
  · rintro ⟨c, ⟨listed, active, free⟩, rfl⟩
    exact ⟨c, listed, active, rfl, free⟩
  · rintro ⟨c, listed, active, rfl, free⟩
    exact ⟨c, ⟨listed, active, free⟩, rfl⟩

theorem free_of_mem_pool (h : user ∈ pool candidates out) : user ∉ out := by
  obtain ⟨c, -, -, -, free⟩ := mem_pool.1 h
  exact free

/-- It does not matter in which order and how often somebody is left out. -/
theorem pool_congr (same : ∀ u, u ∈ out ↔ u ∈ out') : pool candidates out = pool candidates out' := by
  ext u
  simp only [mem_pool, same]

theorem mem_eligibleFrom :
    user ∈ eligibleFrom out candidates ↔ user ∈ pool candidates out := by
  rw [mem_pool]
  induction candidates generalizing out with
  | nil => simp [eligibleFrom]
  | cons c candidates ih =>
    unfold eligibleFrom
    split
    · rename_i taken
      rw [List.mem_cons, ih]
      by_cases here : user = c.id
      · subst here
        simp [taken]
      · have later : c.id ≠ user := Ne.symm here
        simp [here, later]
    · rename_i passed
      rw [ih]
      constructor
      · rintro ⟨d, listed, rest⟩
        exact ⟨d, List.mem_cons_of_mem _ listed, rest⟩
      · rintro ⟨d, listed, active, rfl, free⟩
        rcases List.mem_cons.1 listed with rfl | listed
        · exact absurd ⟨active, free⟩ passed
        · exact ⟨d, listed, active, rfl, free⟩

/-- A candidate who comes again is passed over. -/
theorem nodup_eligibleFrom : (eligibleFrom out candidates).Nodup := by
  induction candidates generalizing out with
  | nil => exact .nil
  | cons c candidates ih =>
    unfold eligibleFrom
    split
    · refine List.nodup_cons.2 ⟨?_, ih⟩
      intro again
      exact free_of_mem_pool (mem_eligibleFrom.1 again) List.mem_cons_self
    · exact ih

theorem length_eligible :
    (eligible candidates author out).length = (pool candidates (author :: out)).card := by
  have same : (eligible candidates author out).toFinset = pool candidates (author :: out) := by
    ext u
    rw [List.mem_toFinset]
    exact mem_eligibleFrom
  rw [← same]
  exact (List.toFinset_card_of_nodup nodup_eligibleFrom).symm

theorem nodup_select : (select draws candidates author out count).Nodup :=
  ((draws.perm_shuffle _).nodup_iff.2 nodup_eligibleFrom).sublist (List.take_sublist _ _)

theorem mem_pool_of_mem_select (h : user ∈ select draws candidates author out count) :
    user ∈ pool candidates (author :: out) :=
  mem_eligibleFrom.1 ((draws.perm_shuffle _).mem_iff.1 (List.mem_of_mem_take h))

/-- As many are chosen as are asked for, or all who may be. -/
theorem length_select : (select draws candidates author out count).length =
    min count (pool candidates (author :: out)).card := by
  unfold select
  rw [List.length_take, (draws.perm_shuffle _).length_eq, length_eligible]

theorem mem_pool_of_selectOne? (h : selectOne? draws candidates author out = some user) :
    user ∈ pool candidates (author :: out) :=
  mem_pool_of_mem_select (List.mem_of_head? h)

/-- Nobody is chosen only where there is nobody to choose. -/
theorem selectOne?_eq_none_iff :
    selectOne? draws candidates author out = none ↔ pool candidates (author :: out) = ∅ := by
  have one : (select draws candidates author out 1).length =
      min 1 (pool candidates (author :: out)).card := length_select
  unfold selectOne?
  rw [List.head?_eq_none_iff, ← List.length_eq_zero_iff, one, ← Finset.card_eq_zero]
  omega

end Selection

/-! ## Places for the chosen -/

namespace Assignment

variable {pr : PullRequest}

theorem length_drawn_le (chance : Chance) (pr : PullRequest) (author : User)
    (members : List User) :
    (drawn chance pr author members).length ≤ maxReviewers - pr.reviewers.length := by
  unfold drawn
  rw [Selection.length_select]
  exact Nat.min_le_left _ _

/-- Nobody is drawn who holds a place already, or who was looked up as the author. -/
theorem free_of_drawn {chance : Chance} {author : User} {members : List User} {user : UserId}
    (chosen : user ∈ drawn chance pr author members) :
    user ≠ author.id ∧ user ∉ pr.reviewerIds := by
  have free := Selection.free_of_mem_pool (Selection.mem_pool_of_mem_select chosen)
  rwa [List.mem_cons, not_or] at free

theorem not_mem_drawn {chance : Chance} {author : User} (wrote : author.id = pr.author)
    {members : List User} : pr.author ∉ drawn chance pr author members :=
  fun own => (free_of_drawn own).1 wrote.symm

/-- Whoever is drawn for an open pull request gets a place, if it is not the author. -/
theorem assignAll_drawn_of_not_mem (chance : Chance) (opened : pr.isMerged = false) {author : User}
    {members : List User} (others : pr.author ∉ drawn chance pr author members) :
    ∃ added, pr.assignAll chance.clock (drawn chance pr author members) =
      .ok { pr with reviewers := pr.reviewers ++ added } ∧
      pr.Adds (drawn chance pr author members) added :=
  PullRequest.assignAll_of_open opened (length_drawn_le ..) Selection.nodup_select others
    fun _ chosen => (free_of_drawn chosen).2

/-- The roster of an open pull request can always be filled with whoever is drawn for it. -/
theorem assignAll_drawn (chance : Chance) (opened : pr.isMerged = false) {author : User}
    (wrote : author.id = pr.author) (members : List User) :
    ∃ added, pr.assignAll chance.clock (drawn chance pr author members) =
      .ok { pr with reviewers := pr.reviewers ++ added } ∧
      pr.Adds (drawn chance pr author members) added :=
  assignAll_drawn_of_not_mem chance opened (not_mem_drawn wrote)

/-- Whoever is chosen for a place on an open pull request gets it. -/
theorem replaces_of_chosen {chance : Chance} (opened : pr.isMerged = false)
    {members : List User} {old new : UserId} (listed : old ∈ pr.reviewerIds)
    (chosen : Selection.selectOne? chance.draws members pr.author
      (pr.reviewerIds ++ [pr.author, old]) = some new) :
    Replaces chance pr members old new { pr with
      reviewers := PullRequest.replaceFirst old ⟨new, pr.nextInstant (chance.clock 0)⟩
        pr.reviewers } := by
  have free := Selection.free_of_mem_pool (Selection.mem_pool_of_selectOne? chosen)
  simp only [List.mem_cons, List.mem_append, not_or] at free
  obtain ⟨other, fresh, -⟩ := free
  exact ⟨chosen, PullRequest.reassign_of_open _ opened listed other fresh⟩

end Assignment

end ReviewDesk
