-- A pull request can be opened with a first roster, or without one and then be given its reviewers
-- one by one. The rules of the roster are looked at in another order and answered by other
-- refusals, but both ways succeed for the same lists of users, and they lead to the same pull
-- request.
import ReviewDesk.Proofs.Roster

namespace ReviewDesk

/-! ## Lists that fit -/

/-- Users who can come onto a roster behind those who are listed. There is room for all of them,
and none of them comes twice, is the author, or is listed already. -/
structure FitsBehind (author : UserId) (listed users : List UserId) : Prop where
  room : listed.length + users.length ≤ maxReviewers
  distinct : users.Nodup
  others : author ∉ users
  fresh : ∀ user ∈ users, user ∉ listed

namespace FitsBehind

variable {author user : UserId} {listed users : List UserId}

theorem nil_iff : FitsBehind author listed [] ↔ listed.length ≤ maxReviewers := by
  constructor
  · exact FitsBehind.room
  · intro room
    exact ⟨room, .nil, by simp, by simp⟩

/-- The first can come, and then the others can come behind it. -/
theorem cons_iff : FitsBehind author listed (user :: users) ↔
    user ≠ author ∧ user ∉ listed ∧ FitsBehind author (listed ++ [user]) users := by
  have places : (listed ++ [user]).length + users.length =
      listed.length + (user :: users).length := by
    simp only [List.length_append, List.length_cons, List.length_nil]
    omega
  constructor
  · rintro ⟨room, distinct, others, fresh⟩
    rw [List.nodup_cons] at distinct
    rw [List.mem_cons, not_or] at others
    refine ⟨Ne.symm others.1, fresh user List.mem_cons_self, ?_, distinct.2, others.2, ?_⟩
    · rw [places]
      exact room
    · intro u later known
      rcases List.mem_append.1 known with known | last
      · exact fresh u (List.mem_cons_of_mem _ later) known
      · exact distinct.1 (List.mem_singleton.1 last ▸ later)
  · rintro ⟨other, unlisted, room, distinct, others, fresh⟩
    have once : user ∉ users := by
      intro again
      apply fresh user again
      simp
    rw [places] at room
    refine ⟨room, List.nodup_cons.2 ⟨once, distinct⟩, ?_, ?_⟩
    · intro own
      rcases List.mem_cons.1 own with same | later
      · exact other same.symm
      · exact others later
    · intro u comes known
      rcases List.mem_cons.1 comes with rfl | later
      · exact unlisted known
      · exact fresh u later (List.mem_append_left _ known)

end FitsBehind

namespace PullRequest

variable {pr changed : PullRequest} {clock : Instant} {id : PullRequestId} {title : String}
  {author : UserId} {users : List UserId}

/-! ## One by one -/

theorem fits_of_assignAll {clock : Nat → Instant} (short : pr.reviewers.length ≤ maxReviewers)
    (made : pr.assignAll clock users = .ok changed) :
    FitsBehind pr.author pr.reviewerIds users := by
  induction users generalizing pr clock with
  | nil =>
    rw [FitsBehind.nil_iff, length_reviewerIds]
    exact short
  | cons user rest ih =>
    unfold assignAll at made
    split at made
    · cases made
    · rename_i next assigned
      obtain ⟨-, other, room, fresh, rfl⟩ := assign_ok assigned
      have behind := ih (by simp; omega) made
      rw [reviewerIds_add] at behind
      exact FitsBehind.cons_iff.2 ⟨other, fresh, behind⟩

/-- Users who fit are all given their places. -/
theorem assignAll_of_fits (clock : Nat → Instant) (opened : pr.isMerged = false)
    (fits : FitsBehind pr.author pr.reviewerIds users) :
    ∃ added, pr.assignAll clock users = .ok { pr with reviewers := pr.reviewers ++ added } ∧
      added.map Reviewer.user = users := by
  have room := fits.room
  rw [length_reviewerIds] at room
  obtain ⟨added, made, adds⟩ :=
    assignAll_of_open opened (by omega) fits.distinct fits.others fits.fresh
  exact ⟨added, made, adds.names⟩

/-! ## All at once -/

theorem exists_listReviewers_iff (room : pr.reviewers.length + users.length ≤ maxReviewers) :
    (∃ made, listReviewers users pr = .ok made) ↔
      FitsBehind pr.author pr.reviewerIds users := by
  induction users generalizing pr with
  | nil =>
    rw [FitsBehind.nil_iff, length_reviewerIds]
    constructor
    · intro _
      exact room
    · intro _
      exact ⟨pr, rfl⟩
  | cons user rest ih =>
    rw [FitsBehind.cons_iff, ← hasReviewer_iff]
    unfold listReviewers
    by_cases own : user = pr.author
    · simp [own]
    · by_cases known : pr.hasReviewer user = true
      · simp [own, known]
      · rw [if_neg own, if_neg known, ih, reviewerIds_add]
        · simp [own, known]
        · simp only [List.length_append, List.length_cons, List.length_nil] at room ⊢
          omega

/-- A pull request as it is opened, before anybody is on its roster. -/
def blank (clock : Instant) (id : PullRequestId) (title : String) (author : UserId) :
    PullRequest :=
  { id, title, author, status := .opened, reviewers := [], createdAt := clock.toMicrosecond,
    mergedAt := none }

/-- Either a name is missing, and then nobody can open it whatever the roster, or all depends on
the roster. -/
theorem new_cases (id : PullRequestId) (title : String) (author : UserId) :
    (∃ e, ∀ clock users, new clock id title author users = .error e) ∨
    ∀ clock users, new clock id title author users =
      if maxReviewers < users.length then .error (.invalidRoster (.tooLong users.length))
      else listReviewers users (blank clock id title author) := by
  by_cases no_id : id.value = ""
  · left
    exact ⟨.missingId, fun clock users => if_pos no_id⟩
  by_cases no_title : title = ""
  · left
    refine ⟨.missingTitle, fun clock users => ?_⟩
    unfold new
    rw [if_neg no_id, if_pos no_title]
  by_cases no_author : author.value = ""
  · left
    refine ⟨.missingAuthor, fun clock users => ?_⟩
    unfold new
    rw [if_neg no_id, if_neg no_title, if_pos no_author]
  · right
    intro clock users
    unfold new
    rw [if_neg no_id, if_neg no_title, if_neg no_author]
    rfl

/-! ## Both ways -/

theorem exists_listed_iff (clock : Instant) (id : PullRequestId) (title : String)
    (author : UserId) (users : List UserId) :
    (∃ pr, (if maxReviewers < users.length then .error (.invalidRoster (.tooLong users.length))
      else listReviewers users (blank clock id title author)) = .ok pr) ↔
      FitsBehind author [] users := by
  by_cases long : maxReviewers < users.length
  · rw [if_pos long]
    constructor
    · rintro ⟨pr, made⟩
      cases made
    · intro fits
      have room := fits.room
      simp only [List.length_nil] at room
      omega
  · rw [if_neg long]
    apply exists_listReviewers_iff
    simp only [blank, List.length_nil]
    omega

/-- Whatever the clock shows on the way, the roster comes to list the users. -/
theorem filled_of_blank {clock : Nat → Instant} {bare : Instant}
    (made : (blank bare id title author).assignAll clock users = .ok changed) :
    ∃ added, changed = { blank bare id title author with reviewers := added } ∧
      added.map Reviewer.user = users := by
  have fits := fits_of_assignAll (Nat.zero_le _) made
  obtain ⟨added, again, names⟩ := assignAll_of_fits clock rfl fits
  rw [again] at made
  cases made
  exact ⟨added, rfl, names⟩

/-- A first roster is accepted just when the pull request can be opened without one and each of the
users is then given a place in turn, and both ways it has the same names and the same reviewers in
the same order. What cannot be opened without reviewers cannot be opened with any, for the same
reason. -/
theorem opened_at_once_iff (start bare : Instant) (clock : Nat → Instant) (id : PullRequestId)
    (title : String) (author : UserId) (users : List UserId) :
    ((∃ pr, new start id title author users = .ok pr) ↔
      ∃ empty filled, new bare id title author [] = .ok empty ∧
        empty.assignAll clock users = .ok filled) ∧
    (∀ pr empty filled, new start id title author users = .ok pr →
      new bare id title author [] = .ok empty → empty.assignAll clock users = .ok filled →
      filled.id = pr.id ∧ filled.title = pr.title ∧ filled.author = pr.author ∧
      filled.status = pr.status ∧ filled.mergedAt = pr.mergedAt ∧
      filled.reviewerIds = pr.reviewerIds) ∧
    ∀ e, new bare id title author [] = .error e → new start id title author users = .error e := by
  rcases new_cases id title author with ⟨missing, refused⟩ | listed
  · -- A name is missing, so nobody is ever let on.
    refine ⟨⟨?_, ?_⟩, ?_, ?_⟩
    · rintro ⟨pr, made⟩
      cases (refused start users).symm.trans made
    · rintro ⟨empty, filled, made, -⟩
      cases (refused bare []).symm.trans made
    · intro pr empty filled made
      cases (refused start users).symm.trans made
    · intro e failed
      rw [refused] at failed ⊢
      exact failed
  · have opened : new bare id title author [] = .ok (blank bare id title author) := listed bare []
    refine ⟨?_, ?_, ?_⟩
    · rw [listed, exists_listed_iff, opened]
      constructor
      · intro fits
        have free : FitsBehind (blank bare id title author).author
          (blank bare id title author).reviewerIds users := fits
        obtain ⟨added, made, -⟩ := assignAll_of_fits clock rfl free
        exact ⟨_, _, rfl, made⟩
      · rintro ⟨empty, filled, first, made⟩
        cases first
        exact fits_of_assignAll (Nat.zero_le _) made
    · intro pr empty filled made first given
      rw [opened] at first
      cases first
      obtain ⟨added, rfl, names⟩ := filled_of_blank given
      rw [new_ok made]
      refine ⟨rfl, rfl, rfl, rfl, rfl, ?_⟩
      simp [reviewerIds, names, Function.comp_def]
    · intro e failed
      cases opened.symm.trans failed

/-- Bea and cid come on at once at the fifth microsecond, or one by one later on. With ann, who is
the author, as the third they come on in neither way. -/
theorem opened_at_once_or_by_places :
    ∃ pr filled, new ⟨5999⟩ ⟨"p"⟩ "a change" ⟨"ann"⟩ [⟨"bea"⟩, ⟨"cid"⟩] = .ok pr ∧
      (blank ⟨0⟩ ⟨"p"⟩ "a change" ⟨"ann"⟩).assignAll (fun _ => ⟨8000⟩) [⟨"bea"⟩, ⟨"cid"⟩] =
        .ok filled ∧
      filled.reviewers = [⟨⟨"bea"⟩, ⟨8000⟩⟩, ⟨⟨"cid"⟩, ⟨9000⟩⟩] ∧
      filled.reviewerIds = pr.reviewerIds ∧
      (¬ ∃ pr, new ⟨5999⟩ ⟨"p"⟩ "a change" ⟨"ann"⟩ [⟨"bea"⟩, ⟨"cid"⟩, ⟨"ann"⟩] = .ok pr) ∧
      ∀ users, new ⟨5999⟩ ⟨"p"⟩ "" ⟨""⟩ users = .error .missingTitle := by
  obtain ⟨-, same, -⟩ := opened_at_once_iff ⟨5999⟩ ⟨0⟩ (fun _ => ⟨8000⟩) ⟨"p"⟩ "a change" ⟨"ann"⟩
    [⟨"bea"⟩, ⟨"cid"⟩]
  obtain ⟨both, -⟩ := opened_at_once_iff ⟨5999⟩ ⟨0⟩ (fun _ => ⟨8000⟩) ⟨"p"⟩ "a change" ⟨"ann"⟩
    [⟨"bea"⟩, ⟨"cid"⟩, ⟨"ann"⟩]
  obtain ⟨-, -, -, -, -, ids⟩ := same _ _ _ rfl rfl rfl
  refine ⟨_, _, rfl, rfl, rfl, ids, ?_, ?_⟩
  · rw [both]
    rintro ⟨empty, filled, opened, made⟩
    cases opened
    cases made
  · intro users
    obtain ⟨-, -, refused⟩ := opened_at_once_iff ⟨5999⟩ ⟨0⟩ (fun _ => ⟨8000⟩) ⟨"p"⟩ "" ⟨""⟩ users
    exact refused _ rfl

end PullRequest

end ReviewDesk
