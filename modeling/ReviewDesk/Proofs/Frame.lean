-- A job that is about one pull request sees nothing of the others and leaves them as they are.
-- What it comes to depends on users and teams, and on what stands under its own id.
import ReviewDesk.Proofs.Floor
import ReviewDesk.Proofs.Roster
import ReviewDesk.Proofs.Shelf

namespace ReviewDesk

/-! ## Calls about one pull request -/

namespace Call

/-- A call that reads and writes nothing but users and teams, and one pull request. -/
def About (id : PullRequestId) : Call → Prop
  | createPullRequest pr | updatePullRequest pr => pr.id = id
  | findPullRequest other => other = id
  | findAllPullRequests | findPullRequestsByReviewer _ => False
  | findUser _ | findTeamOf _ | findActiveMembers _ => True

/-- A pull request that is found under an id has this id. -/
def Fits : (c : Call) → c.Reply → Prop
  | findPullRequest id, .ok (some pr) => pr.id = id
  | _, _ => True

end Call

namespace Store

/-- The two stores have the same users and teams, and the same under one id. -/
structure Same (id : PullRequestId) (s t : Store) : Prop where
  users : s.users = t.users
  teams : s.teams = t.teams
  stored : s.pullRequests.get? id = t.pullRequests.get? id

/-- The two stores have the same users and teams, and the same under every id but one. -/
structure SameBut (id : PullRequestId) (s t : Store) : Prop where
  users : s.users = t.users
  teams : s.teams = t.teams
  stored : ∀ other, other ≠ id → s.pullRequests.get? other = t.pullRequests.get? other

variable {s t u : Store} {id other : PullRequestId} {c : Call}

theorem Same.refl (id : PullRequestId) (s : Store) : Same id s s := ⟨rfl, rfl, rfl⟩

theorem Same.trans (h : Same id s t) (h' : Same id t u) : Same id s u :=
  ⟨h.users.trans h'.users, h.teams.trans h'.teams, h.stored.trans h'.stored⟩

/-- Stores that are the same to every pull request are the same. -/
theorem eq_of_same (h : ∀ id, Same id s t) : s = t := by
  have shelf : s.pullRequests = t.pullRequests := Register.ext_get? fun id => (h id).stored
  obtain ⟨users, teams, -⟩ := h ⟨""⟩
  cases s
  cases t
  cases users
  cases teams
  cases shelf
  rfl

theorem SameBut.refl (id : PullRequestId) (s : Store) : SameBut id s s :=
  ⟨rfl, rfl, fun _ _ => rfl⟩

theorem SameBut.trans (h : SameBut id s t) (h' : SameBut id t u) : SameBut id s u :=
  ⟨h.users.trans h'.users, h.teams.trans h'.teams,
    fun other differs => (h.stored other differs).trans (h'.stored other differs)⟩

/-- What differs under one id only is the same to every other. -/
theorem SameBut.same (h : SameBut id s t) (differs : other ≠ id) : Same other s t :=
  ⟨h.users, h.teams, h.stored other differs⟩

theorem Same.put (h : Same id s t) (pr : PullRequest) :
    Same id { s with pullRequests := s.pullRequests.put pr }
      { t with pullRequests := t.pullRequests.put pr } := by
  refine ⟨h.users, h.teams, ?_⟩
  dsimp only
  rw [Register.get?_put, Register.get?_put, h.stored]

theorem sameBut_put (s : Store) {pr : PullRequest} (about : pr.id = id) :
    SameBut id s { s with pullRequests := s.pullRequests.put pr } := by
  refine ⟨rfl, rfl, fun other differs => ?_⟩
  dsimp only
  rw [Register.get?_put_of_ne]
  rw [about]
  exact Ne.symm differs

/-! ## Answers -/

/-- What comes of a call. One that fails on the way has no effect. -/
def outcome (s : Store) (fault : Option StoreError) (c : Call) : c.Reply × Store :=
  match fault with
  | some e => (.error e, s)
  | none => s.answer c

theorem writes_outcome (s : Store) (fault : Option StoreError) (c : Call) :
    s.Writes c (s.outcome fault c) := by
  cases fault with
  | some e => exact .nothing (.error e)
  | none => exact s.writes_answer c

theorem sameBut_outcome (s : Store) (fault : Option StoreError) (about : c.About id) :
    SameBut id s (s.outcome fault c).2 := by
  have h := s.writes_outcome fault c
  generalize s.outcome fault c = came at h
  cases h with
  | nothing => exact .refl id s
  | placed => exact sameBut_put s about
  | replaced => exact sameBut_put s about

theorem fits_outcome (s : Store) (fault : Option StoreError) (c : Call) :
    c.Fits (s.outcome fault c).1 := by
  cases fault with
  | some e =>
    cases c <;> trivial
  | none =>
    cases c with
    | findPullRequest id =>
      unfold outcome answer
      dsimp only
      cases stands : s.pullRequests.get? id with
      | none => trivial
      | some pr => exact Register.key_of_get? stands
    | createPullRequest _ | updatePullRequest _ | findAllPullRequests
    | findPullRequestsByReviewer _ | findUser _ | findTeamOf _ | findActiveMembers _ => trivial

/-- Stores that are the same to a call answer it the same way, and are the same to it after. -/
theorem Same.outcome (h : Same id s t) (fault : Option StoreError) (about : c.About id) :
    (s.outcome fault c).1 = (t.outcome fault c).1 ∧
      Same id (s.outcome fault c).2 (t.outcome fault c).2 := by
  cases fault with
  | some e => exact ⟨rfl, h⟩
  | none =>
    unfold Store.outcome
    dsimp only
    cases c with
    | findAllPullRequests | findPullRequestsByReviewer _ => cases about
    | findPullRequest other =>
      have same : other = id := about
      subst same
      exact ⟨congrArg Except.ok h.stored, h⟩
    | findUser user =>
      exact ⟨congrArg (fun users : Register User.id => Except.ok (users.get? user)) h.users, h⟩
    | findTeamOf user => exact ⟨congrArg Except.ok (teamOf_congr h.users h.teams user), h⟩
    | findActiveMembers team => exact ⟨congrArg Except.ok (activeMembers_congr h.users team), h⟩
    | createPullRequest pr =>
      have same : pr.id = id := about
      rw [answer_create, answer_create]
      have stored := h.stored
      rw [← same] at stored
      rcases free : s.pullRequests.get? pr.id with _ | found
      · rw [create_of_free free, create_of_free (stored ▸ free)]
        exact ⟨rfl, h.put pr⟩
      · rw [create_of_taken free, create_of_taken (stored ▸ free)]
        exact ⟨rfl, h⟩
    | updatePullRequest pr =>
      have same : pr.id = id := about
      rw [answer_update, answer_update]
      have stored := h.stored
      rw [← same] at stored
      rcases stands : s.pullRequests.get? pr.id with _ | found
      · rw [update_of_missing stands, update_of_missing (stored ▸ stands)]
        exact ⟨rfl, h⟩
      · rcases merged : found.isMerged with _ | _
        · rw [update_of_open stands merged, update_of_open (stored ▸ stands) merged]
          exact ⟨rfl, h.put pr⟩
        · rw [update_of_merged stands merged, update_of_merged (stored ▸ stands) merged]
          exact ⟨rfl, h⟩

end Store

/-- What comes of a moment is what comes of its call. -/
theorem Moment.outcome_eq (m : Moment) : m.outcome = m.before.outcome m.fault m.call := by
  obtain ⟨client, before, call, fault⟩ := m
  cases fault <;> rfl

/-! ## Programs about one pull request -/

namespace Program

/-- The program makes no call but about one pull request. -/
def Within {α : Type} (id : PullRequestId) (p : Program α) : Prop :=
  p.Only (Call.About id) Call.Fits

end Program

namespace Store

variable {α : Type} {s t : Store} {id : PullRequestId}

/-- Runs a program alone, from its n-th call on. The faults say for each call with which error it
fails, if it fails. -/
def runFrom (faults : Nat → Option StoreError) : Nat → Store → Program α → α × Store
  | _, s, .done a => (a, s)
  | n, s, .note _ rest => s.runFrom faults n rest
  | n, s, .call c resume =>
    (s.outcome (faults n) c).2.runFrom faults (n + 1) (resume (s.outcome (faults n) c).1)

theorem run_eq_runFrom (n : Nat) (s : Store) (p : Program α) :
    s.run p = s.runFrom (fun _ => none) n p := by
  induction p generalizing n s with
  | done a => rfl
  | note event rest ih => exact ih n s
  | call c resume ih => exact ih _ (n + 1) _

variable {p : Program α}

theorem sameBut_runFrom (faults : Nat → Option StoreError) (n : Nat) (s : Store)
    (within : p.Within id) : SameBut id s (s.runFrom faults n p).2 := by
  induction p generalizing n s with
  | done a => exact .refl id s
  | note event rest ih => exact ih n s within
  | call c resume ih =>
    obtain ⟨about, later⟩ := within
    have here := s.sameBut_outcome (faults n) about
    have rest := later _ (s.fits_outcome (faults n) c)
    exact here.trans (ih _ (n + 1) _ rest)

/-- A program that runs alone leaves every pull request but its own as it is. -/
theorem sameBut_run (s : Store) (within : p.Within id) : SameBut id s (s.run p).2 := by
  rw [run_eq_runFrom 0]
  exact sameBut_runFrom _ 0 s within

/-- At stores that are the same to it, a program comes to the same. -/
theorem Same.runFrom (h : Same id s t) (faults : Nat → Option StoreError) (n : Nat)
    (within : p.Within id) :
    (s.runFrom faults n p).1 = (t.runFrom faults n p).1 ∧
      Same id (s.runFrom faults n p).2 (t.runFrom faults n p).2 := by
  induction p generalizing n s t with
  | done a => exact ⟨rfl, h⟩
  | note event rest ih => exact ih h n within
  | call c resume ih =>
    obtain ⟨about, later⟩ := within
    obtain ⟨alike, after⟩ := h.outcome (faults n) about
    have rest := later _ (s.fits_outcome (faults n) c)
    unfold Store.runFrom
    rw [← alike]
    exact ih _ after (n + 1) rest

end Store

/-! ## Jobs about one pull request -/

namespace Assignment

open Program

theorem within_get (id : PullRequestId) : Within id (get id) := by
  rw [get_eq, Within, only_call]
  refine ⟨rfl, ?_⟩
  rintro (e | _ | pr) -
  · exact only_done
  · exact only_done
  · exact only_done

theorem within_merge (chance : Chance) (id : PullRequestId) : Within id (merge chance id) := by
  rw [merge_eq, Within, only_call]
  refine ⟨rfl, ?_⟩
  rintro (e | _ | pr) found
  · exact only_done
  · exact only_done
  dsimp only
  split
  · exact only_done
  rw [only_call]
  refine ⟨(PullRequest.sameOrigin_merge pr _).id.trans found, ?_⟩
  rintro (e | _) -
  · dsimp only
    rw [only_note, only_call]
    refine ⟨rfl, fun reply _ => ?_⟩
    obtain ⟨a, ended, -⟩ := reread_done id e reply
    rw [ended]
    exact only_done
  · exact only_note.2 only_done

theorem within_reassign (chance : Chance) (id : PullRequestId) (old : UserId) :
    Within id (reassign chance id old) := by
  rw [reassign_eq, Within, only_call]
  refine ⟨rfl, ?_⟩
  rintro (e | _ | pr) found
  · exact only_done
  · exact only_done
  dsimp only
  split
  · exact only_done
  split
  · exact only_done
  rw [only_call]
  refine ⟨trivial, ?_⟩
  rintro (e | _ | team) -
  · exact only_done
  · exact only_done
  rw [only_call]
  refine ⟨trivial, ?_⟩
  rintro (e | members) -
  · exact only_done
  dsimp only
  split
  · exact only_done
  split
  · exact only_done
  rename_i made
  rw [only_call]
  refine ⟨(PullRequest.sameOrigin_of_reassign made).id.trans found, ?_⟩
  rintro (e | _) -
  · exact only_done
  · exact only_note.2 only_done

theorem within_create (chance : Chance) (pr : PullRequest) : Within pr.id (create chance pr) := by
  rw [create_eq, Within, only_call]
  refine ⟨rfl, ?_⟩
  rintro (e | _ | found) -
  · exact only_done
  · rw [only_call]
    refine ⟨trivial, ?_⟩
    rintro (e | _ | author) -
    · exact only_done
    · exact only_done
    rw [only_call]
    refine ⟨trivial, ?_⟩
    rintro (e | _ | team) -
    · exact only_done
    · exact only_done
    rw [only_call]
    refine ⟨trivial, ?_⟩
    rintro (e | members) -
    · exact only_done
    dsimp only
    rw [only_note]
    split
    · exact only_done
    rename_i made
    rw [only_call]
    refine ⟨PullRequest.id_of_assignAll made, ?_⟩
    rintro (e | _) -
    · exact only_done
    · exact only_note.2 only_done
  · exact only_done

end Assignment

namespace Job

/-- The pull request that a job is about, unless it is a direct call. -/
def subject? : Job → Option PullRequestId
  | create pr => some pr.id
  | reassign id _ | merge id | get id => some id
  | direct _ => none

theorem within_program {job : Job} {id : PullRequestId} (chance : Chance)
    (about : job.subject? = some id) : (job.program chance).Within id := by
  cases job with
  | create pr =>
    cases about
    exact Assignment.within_create chance pr
  | reassign id old =>
    cases about
    exact Assignment.within_reassign chance id old
  | merge id =>
    cases about
    exact Assignment.within_merge chance id
  | get id =>
    cases about
    exact Assignment.within_get id
  | direct c => cases about

end Job

end ReviewDesk
