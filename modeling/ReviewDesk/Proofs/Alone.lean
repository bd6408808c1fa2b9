-- What an operation does at a store where nobody else is.
import ReviewDesk.Proofs.Conduct
import ReviewDesk.Proofs.Roster
import ReviewDesk.Proofs.Shelf

namespace ReviewDesk

open Program

namespace Store

/-- A store answers the calls of a trail, one after the other. -/
inductive Answers : Store → List Exchange → Store → Prop
  | nil (s : Store) : Answers s [] s
  | cons {s t : Store} (c : Call) {rest : List Exchange} : Answers (s.answer c).2 rest t →
      Answers s (⟨c, (s.answer c).1⟩ :: rest) t

/-- A program that runs alone ends after the answers of its store. -/
theorem run_ends {α : Type} (s : Store) (p : Program α) :
    ∃ trail, p.Ends trail (s.run p).1 ∧ s.Answers trail (s.run p).2 := by
  induction p generalizing s with
  | done a => exact ⟨[], .here _, .nil s⟩
  | note event rest ih =>
    obtain ⟨trail, ends, answers⟩ := ih s
    exact ⟨trail, .note ends, answers⟩
  | call c resume ih =>
    obtain ⟨trail, ends, answers⟩ := ih (s.answer c).1 (s.answer c).2
    exact ⟨_ :: trail, .call _ ends, .cons c answers⟩

theorem found_of_answers {s t : Store} {id : PullRequestId} {pr : Option PullRequest}
    {rest : List Exchange} (h : s.Answers (⟨.findPullRequest id, .ok pr⟩ :: rest) t) :
    s.pullRequests.get? id = pr := by
  generalize path : (⟨.findPullRequest id, .ok pr⟩ :: rest : List Exchange) = trail at h
  cases h with
  | nil => cases path
  | cons c answers =>
    injection path with first
    injection first with same said
    subst same
    exact (Except.ok.inj (eq_of_heq said)).symm

/-! ## Creating -/

variable {s : Store} {chance : Chance} {id : PullRequestId} {pr filled changed : PullRequest}
  {old new : UserId} {author : User} {team : Team}

theorem run_create_of_taken (stands : s.pullRequests.get? pr.id = some changed) :
    s.run (Assignment.create chance pr) = (.error (.pullRequestAlreadyExists pr.id), s) := by
  rw [Assignment.create_eq]
  simp only [run, answer, stands]

theorem run_create_of_no_author (free : s.pullRequests.get? pr.id = none)
    (unknown : s.users.get? pr.author = none) :
    s.run (Assignment.create chance pr) = (.error (.authorNotFound pr.author), s) := by
  rw [Assignment.create_eq]
  simp only [run, answer, free, unknown]

theorem run_create_of_no_team (free : s.pullRequests.get? pr.id = none)
    (known : s.users.get? pr.author = some author) (unknown : s.teamOf pr.author = none) :
    s.run (Assignment.create chance pr) = (.error (.teamNotFound pr.author), s) := by
  have wrote : author.id = pr.author := Register.key_of_get? known
  rw [Assignment.create_eq]
  simp only [run, answer, free, known, wrote, unknown]

theorem run_create (free : s.pullRequests.get? pr.id = none)
    (known : s.users.get? pr.author = some author) (inTeam : s.teamOf author.id = some team)
    (made : pr.assignAll chance.clock
      (Assignment.drawn chance pr author (s.activeMembers team.id)) = .ok filled)
    (same : filled.id = pr.id) :
    s.run (Assignment.create chance pr) =
      (.ok filled, { s with pullRequests := s.pullRequests.put filled }) := by
  have placed : s.create filled =
      .ok { s with pullRequests := s.pullRequests.put filled } := create_of_free (same ▸ free)
  rw [Assignment.create_eq]
  simp only [run, answer, free, known, inTeam, made, placed, afterWrite]

/-! ## Reassigning -/

theorem run_reassign_of_missing (missing : s.pullRequests.get? id = none) :
    s.run (Assignment.reassign chance id old) = (.error (.pullRequestNotFound id), s) := by
  rw [Assignment.reassign_eq]
  simp only [run, answer, missing]

theorem run_reassign_of_merged (stands : s.pullRequests.get? id = some pr)
    (merged : pr.isMerged = true) :
    s.run (Assignment.reassign chance id old) = (.error (.pullRequestAlreadyMerged id), s) := by
  have pr_id : pr.id = id := Register.key_of_get? stands
  rw [Assignment.reassign_eq]
  simp only [run, answer, stands, merged, if_true, pr_id]

theorem run_reassign_of_unlisted (stands : s.pullRequests.get? id = some pr)
    (opened : pr.isMerged = false) (unlisted : old ∉ pr.reviewerIds) :
    s.run (Assignment.reassign chance id old) = (.error (.userNotReviewer id old), s) := by
  have pr_id : pr.id = id := Register.key_of_get? stands
  rw [← PullRequest.hasReviewer_iff] at unlisted
  rw [Assignment.reassign_eq]
  simp only [run, answer, stands, opened, unlisted, Bool.false_eq_true, Bool.not_false, if_true,
    if_false, pr_id]

theorem run_reassign_of_no_team (stands : s.pullRequests.get? id = some pr)
    (opened : pr.isMerged = false) (listed : old ∈ pr.reviewerIds)
    (unknown : s.teamOf pr.author = none) :
    s.run (Assignment.reassign chance id old) = (.error (.teamNotFound pr.author), s) := by
  rw [Assignment.reassign_eq]
  simp only [run, answer, stands, opened, PullRequest.hasReviewer_iff.2 listed, unknown,
    Bool.false_eq_true, Bool.not_true, if_false]

theorem run_reassign_of_nobody (stands : s.pullRequests.get? id = some pr)
    (opened : pr.isMerged = false) (listed : old ∈ pr.reviewerIds)
    (inTeam : s.teamOf pr.author = some team)
    (nobody : Selection.selectOne? chance.draws (s.activeMembers team.id) pr.author
      (pr.reviewerIds ++ [pr.author, old]) = none) :
    s.run (Assignment.reassign chance id old) = (.error .noCandidate, s) := by
  rw [Assignment.reassign_eq]
  simp only [run, answer, stands, opened, PullRequest.hasReviewer_iff.2 listed, inTeam, nobody,
    Bool.false_eq_true, Bool.not_true, if_false]

theorem run_reassign (stands : s.pullRequests.get? id = some pr)
    (inTeam : s.teamOf pr.author = some team)
    (replaces : Assignment.Replaces chance pr (s.activeMembers team.id) old new changed) :
    s.run (Assignment.reassign chance id old) =
      (.ok (new, changed), { s with pullRequests := s.pullRequests.put changed }) := by
  obtain ⟨opened, listed, -, -, -⟩ := PullRequest.reassign_ok replaces.made
  have same : changed.id = id := by
    rw [(PullRequest.sameOrigin_of_reassign replaces.made).id]
    exact Register.key_of_get? stands
  have taken : s.update changed =
      .ok { s with pullRequests := s.pullRequests.put changed } :=
    update_of_open (same ▸ stands) opened
  rw [Assignment.reassign_eq]
  simp only [run, answer, stands, opened, inTeam, replaces.chosen, replaces.made, taken,
    PullRequest.hasReviewer_iff.2 listed, Bool.false_eq_true, Bool.not_true, if_false, afterWrite]

/-- A reassignment that goes well alone changes the pull request that is stored. -/
theorem of_run_reassign (h : (s.run (Assignment.reassign chance id old)).1 = .ok (new, changed)) :
    ∃ pr members, s.pullRequests.get? id = some pr ∧
      Assignment.Replaces chance pr members old new changed := by
  obtain ⟨trail, ends, answers⟩ := s.run_ends (Assignment.reassign chance id old)
  rw [h] at ends
  cases Assignment.reassign_ends ends with
  | written replaces => exact ⟨_, _, found_of_answers answers, replaces⟩

/-! ## Merging -/

theorem run_merge_of_open (chance : Chance) (stands : s.pullRequests.get? id = some pr)
    (opened : pr.isMerged = false) :
    s.run (Assignment.merge chance id) =
      (.ok (pr.merge (chance.clock 0)),
        { s with pullRequests := s.pullRequests.put (pr.merge (chance.clock 0)) }) := by
  have same : (pr.merge (chance.clock 0)).id = id := by
    rw [(PullRequest.sameOrigin_merge _ _).id]
    exact Register.key_of_get? stands
  have taken : s.update (pr.merge (chance.clock 0)) =
      .ok { s with pullRequests := s.pullRequests.put (pr.merge (chance.clock 0)) } :=
    update_of_open (same ▸ stands) opened
  rw [Assignment.merge_eq]
  simp only [run, answer, stands, opened, taken, Bool.false_eq_true, if_false, afterWrite]

theorem run_merge_of_merged (chance : Chance) (stands : s.pullRequests.get? id = some pr)
    (merged : pr.isMerged = true) :
    s.run (Assignment.merge chance id) = (.ok pr, s) := by
  rw [Assignment.merge_eq]
  simp only [run, answer, stands, merged, if_true]

/-! ## Getting -/

theorem run_get (stands : s.pullRequests.get? id = some pr) :
    s.run (Assignment.get id) = (.ok pr, s) := by
  rw [Assignment.get_eq]
  simp only [run, answer, stands]

end Store

end ReviewDesk
