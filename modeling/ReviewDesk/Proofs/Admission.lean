-- Whoever is chosen is admitted. The choice leaves out everybody whom the roster would refuse, so
-- no operation fails on a rule of the pull request, whatever the replies show: a roster that is too
-- long, has somebody twice or its own author, or teammates who come twice. One gap is left. Where
-- the record of somebody else is replied for the author, the author can be drawn.
import ReviewDesk.Proofs.Choice
import ReviewDesk.Proofs.Floor

namespace ReviewDesk

/-! ## One by one -/

namespace PullRequest

variable {pr changed : PullRequest} {users before after : List UserId} {user : UserId}
  {e : PullRequestError}

/-- Those who come before the first who is refused get their places, and those who come after do
not matter. -/
theorem assignAll_of_refused {clock : Nat → Instant}
    (made : pr.assignAll clock before = .ok changed)
    (refused : changed.assign (clock before.length) user = .error e) :
    pr.assignAll clock (before ++ user :: after) = .error e := by
  induction before generalizing pr clock with
  | nil =>
    cases made
    rw [List.length_nil] at refused
    rw [List.nil_append]
    unfold assignAll
    rw [refused]
  | cons first before ih =>
    rw [List.cons_append]
    unfold assignAll at made ⊢
    split at made
    · cases made
    · exact ih made refused

theorem assign_author (clock : Instant) (opened : pr.isMerged = false) :
    pr.assign clock pr.author = .error (.authorIsReviewer pr.author) := by
  unfold assign
  simp only [opened, Bool.false_eq_true, if_false, if_true]

/-- Where there is room for all and nobody is listed yet, the author is the one who is refused. -/
theorem assignAll_of_author {clock : Nat → Instant} (opened : pr.isMerged = false)
    (room : users.length ≤ maxReviewers - pr.reviewers.length) (distinct : users.Nodup)
    (fresh : ∀ user ∈ users, user ∉ pr.reviewerIds) (own : pr.author ∈ users) :
    pr.assignAll clock users = .error (.authorIsReviewer pr.author) := by
  obtain ⟨before, after, rfl, others⟩ := List.eq_append_cons_of_mem own
  have first : before.Sublist (before ++ pr.author :: after) := List.sublist_append_left ..
  obtain ⟨added, made, -⟩ : ∃ added, pr.assignAll clock before =
      .ok { pr with reviewers := pr.reviewers ++ added } ∧ pr.Adds before added :=
    assignAll_of_open opened (Nat.le_trans first.length_le room) (distinct.sublist first) others
      fun user listed => fresh user (first.subset listed)
  exact assignAll_of_refused made (assign_author _ opened)

end PullRequest

namespace Assignment

open Program

variable {chance : Chance} {pr changed filled : PullRequest} {author : User} {team : Team}
  {members : List User} {id : PullRequestId} {old new : UserId} {trail : List Exchange}
  {flaw : PullRequestError}

/-! ## Creating -/

/-- Of all who can be drawn for an open pull request, only its author is refused. -/
theorem assignAll_drawn_error_iff (opened : pr.isMerged = false) :
    pr.assignAll chance.clock (drawn chance pr author members) = .error flaw ↔
      pr.author ∈ drawn chance pr author members ∧ flaw = .authorIsReviewer pr.author := by
  by_cases own : pr.author ∈ drawn chance pr author members
  · rw [PullRequest.assignAll_of_author opened (length_drawn_le ..) Selection.nodup_select
      (fun _ chosen => (free_of_drawn chosen).2) own]
    constructor
    · rintro ⟨⟩
      exact ⟨own, rfl⟩
    · rintro ⟨-, rfl⟩
      rfl
  · obtain ⟨added, made, -⟩ := assignAll_drawn_of_not_mem chance opened own
    rw [made]
    constructor
    · rintro ⟨⟩
    · rintro ⟨drawn, -⟩
      exact absurd drawn own

/-- A creation fails on a rule of the pull request once it has read everything and somebody who was
drawn is refused. -/
theorem create_ends_refused_iff :
    Ends (create chance pr) trail (.error (.pullRequest flaw)) ↔
      ∃ author team members, trail = createReads pr author team members ∧
        pr.assignAll chance.clock (drawn chance pr author members) = .error flaw := by
  constructor
  · intro ends
    cases create_ends ends with
    | unfilled refused => exact ⟨_, _, _, rfl, refused⟩
  · rintro ⟨author, team, members, rfl, refused⟩
    rw [create_eq]
    simp only [createReads, ends_answered, ends_note, refused, ends_done, and_self]

theorem create_asks_of_filled
    (made : pr.assignAll chance.clock (drawn chance pr author members) = .ok filled) :
    Asks (create chance pr) (createReads pr author team members) (.createPullRequest filled) := by
  rw [create_eq]
  simp only [createReads, asks_answered, asks_note, made]
  exact asks_call.2 (.inl ⟨rfl, rfl⟩)

/-! ## Reassigning -/

/-- A reassignment looks beforehand at all that the pull request looks at, so it is not refused. -/
theorem not_reassign_refused :
    ¬ Ends (reassign chance id old) trail (.error (.pullRequest flaw)) := by
  intro ends
  cases reassign_exits ends with
  | unplaced opened listed chosen refused =>
    have replaces := replaces_of_chosen opened (PullRequest.hasReviewer_iff.1 listed) chosen
    cases refused.symm.trans replaces.made

theorem reassign_asks_of_replaces (replaces : Replaces chance pr members old new changed) :
    Asks (reassign chance id old) (reassignReads id pr team members)
      (.updatePullRequest changed) := by
  obtain ⟨opened, listed, -, -, -⟩ := PullRequest.reassign_ok replaces.made
  rw [reassign_eq]
  simp only [reassignReads, asks_answered, opened, PullRequest.hasReviewer_iff.2 listed,
    replaces.chosen, replaces.made, Bool.false_eq_true, Bool.not_true, if_false]
  exact asks_call.2 (.inl ⟨rfl, rfl⟩)

/-- An active teammate who is neither the author nor on the roster is enough for somebody to be
chosen. -/
theorem exists_replaces (chance : Chance) (opened : pr.isMerged = false)
    (listed : old ∈ pr.reviewerIds)
    (somebody : ∃ c ∈ members, c.active = true ∧ c.id ≠ pr.author ∧ c.id ∉ pr.reviewerIds) :
    ∃ new changed, Replaces chance pr members old new changed := by
  rcases chosen : Selection.selectOne? chance.draws members pr.author
    (pr.reviewerIds ++ [pr.author, old]) with _ | new
  · have nobody := Selection.selectOne?_eq_none_iff.1 chosen
    obtain ⟨c, member, active, other, fresh⟩ := somebody
    have eligible :
        c.id ∈ Selection.pool members (pr.author :: (pr.reviewerIds ++ [pr.author, old])) := by
      refine Selection.mem_pool.2 ⟨c, member, active, rfl, ?_⟩
      have distinct : c.id ≠ old := fun same => fresh (same ▸ listed)
      simp [other, fresh, distinct]
    rw [nobody] at eligible
    exact absurd eligible (Finset.notMem_empty _)
  · exact ⟨new, _, replaces_of_chosen opened listed chosen⟩

/-! ## Whatever is replied -/

/-- Whatever the replies are, a reassignment never fails on a rule of the pull request, and it comes
to its write wherever one active teammate is neither the author nor on the roster. The creation of
an open pull request does not fail on one either, as long as the user who is replied has the id
that was asked for, and then it comes to its write whatever team and teammates are replied. With
another user in place of the author it fails exactly where the author is drawn. -/
theorem the_chosen_are_admitted (chance : Chance) :
    (∀ id old trail flaw, ¬ Ends (reassign chance id old) trail (.error (.pullRequest flaw))) ∧
    (∀ id old (pr : PullRequest) team members, pr.isMerged = false → old ∈ pr.reviewerIds →
      (∃ c ∈ members, c.active = true ∧ c.id ≠ pr.author ∧ c.id ∉ pr.reviewerIds) →
      ∃ changed, Asks (reassign chance id old) (reassignReads id pr team members)
        (.updatePullRequest changed)) ∧
    ∀ pr : PullRequest, pr.isMerged = false →
      (∀ trail,
        (∀ user found, (⟨.findUser user, .ok (some found)⟩ : Exchange) ∈ trail →
          found.id = user) →
        ∀ flaw, ¬ Ends (create chance pr) trail (.error (.pullRequest flaw))) ∧
      (∀ author team members, author.id = pr.author →
        ∃ filled, Asks (create chance pr) (createReads pr author team members)
          (.createPullRequest filled)) ∧
      ∀ trail flaw, Ends (create chance pr) trail (.error (.pullRequest flaw)) ↔
        ∃ author team members, trail = createReads pr author team members ∧
          pr.author ∈ drawn chance pr author members ∧ flaw = .authorIsReviewer pr.author := by
  refine ⟨fun id old trail flaw => not_reassign_refused, ?_, ?_⟩
  · intro id old pr team members opened listed somebody
    obtain ⟨new, changed, replaces⟩ := exists_replaces chance opened listed somebody
    exact ⟨changed, reassign_asks_of_replaces replaces⟩
  intro pr opened
  have exactly : ∀ trail flaw, Ends (create chance pr) trail (.error (.pullRequest flaw)) ↔
      ∃ author team members, trail = createReads pr author team members ∧
        pr.author ∈ drawn chance pr author members ∧ flaw = .authorIsReviewer pr.author := by
    intro trail flaw
    simp only [create_ends_refused_iff, assignAll_drawn_error_iff opened]
  refine ⟨?_, ?_, exactly⟩
  · intro trail honest flaw ends
    obtain ⟨author, team, members, rfl, own, -⟩ := (exactly trail flaw).1 ends
    have wrote : author.id = pr.author := honest _ author (by simp [createReads])
    exact not_mem_drawn wrote own
  · intro author team members wrote
    obtain ⟨added, made, -⟩ := assignAll_drawn chance opened wrote members
    exact ⟨_, create_asks_of_filled made⟩

/-- Ann has written it and is on its roster herself, and Bea is on it twice. -/
def crowdedPullRequest : PullRequest :=
  { Sample.pr with reviewers := [⟨⟨"bea"⟩, ⟨0⟩⟩, ⟨⟨"ann"⟩, ⟨0⟩⟩, ⟨⟨"bea"⟩, ⟨9000⟩⟩] }

/-- One place is free. -/
def halfPullRequest : PullRequest := { Sample.pr with reviewers := [⟨⟨"bea"⟩, ⟨0⟩⟩] }

/-- Dan is replied twice, and he can have the first place of Bea, or the one that is free. Ann, who
has written both, is drawn and refused only where the record of Cid is replied for hers. -/
theorem crowded_chosen_are_admitted :
    crowdedPullRequest.isMerged = false ∧ halfPullRequest.isMerged = false ∧
    (∃ changed, Asks (reassign Sample.chance ⟨"p"⟩ ⟨"bea"⟩)
      (reassignReads ⟨"p"⟩ crowdedPullRequest Sample.team
        [Sample.member "bea", Sample.member "dan", Sample.member "ann", Sample.member "dan"])
      (.updatePullRequest changed)) ∧
    (∀ trail flaw,
      ¬ Ends (reassign Sample.chance ⟨"p"⟩ ⟨"bea"⟩) trail (.error (.pullRequest flaw))) ∧
    (∃ filled, Asks (create Sample.chance halfPullRequest)
      (createReads halfPullRequest (Sample.member "ann") Sample.team
        [Sample.member "dan", Sample.member "dan", Sample.member "ann"])
      (.createPullRequest filled)) ∧
    (∀ members flaw, ¬ Ends (create Sample.chance halfPullRequest)
      (createReads halfPullRequest (Sample.member "ann") Sample.team members)
      (.error (.pullRequest flaw))) ∧
    Ends (create Sample.chance halfPullRequest)
      (createReads halfPullRequest (Sample.member "cid") Sample.team
        [Sample.member "dan", Sample.member "dan", Sample.member "ann"])
      (.error (.pullRequest (.authorIsReviewer ⟨"ann"⟩))) := by
  obtain ⟨never, writes, creates⟩ := the_chosen_are_admitted Sample.chance
  obtain ⟨honest, fills, exactly⟩ := creates halfPullRequest rfl
  refine ⟨rfl, rfl, ?_, never _ _, fills _ _ _ rfl, ?_, ?_⟩
  · exact writes _ _ crowdedPullRequest _ _ rfl (by decide)
      ⟨Sample.member "dan", by simp, rfl, by decide, by decide⟩
  · intro members
    refine honest _ ?_
    simp [createReads, halfPullRequest, Sample.pr, Sample.member]
  · exact (exactly _ _).2 ⟨_, _, _, rfl, by decide, rfl⟩

end Assignment

end ReviewDesk
