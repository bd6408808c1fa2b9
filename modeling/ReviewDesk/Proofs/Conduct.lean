-- What each operation asks of the store and how it ends, after any trail of replies. The
-- replies may come from anywhere: nothing here assumes that a store keeps what it is given.
import ReviewDesk.Assignment.Operations
import ReviewDesk.Proofs.Trail

namespace ReviewDesk

open Program

/-! ## Operations as trees -/

namespace Operation

variable {α β : Type}

theorem ask_bind (c : Call) (f : c.Answer → Operation β) :
    (ask c >>= f) = ExceptT.mk (call c fun
      | .ok answer => (f answer).run
      | .error e => done (.error (.store e))) := by
  refine congrArg (call c) (funext fun reply => ?_)
  cases reply <;> rfl

theorem attempt_bind (c : Call) (f : c.Reply → Operation β) :
    (attempt c >>= f) = ExceptT.mk (call c fun reply => (f reply).run) := rfl

theorem log_bind (event : Event) (f : Unit → Operation β) :
    (log event >>= f) = ExceptT.mk (note event (f ()).run) := rfl

theorem require_some_bind (error : AssignmentError) (a : α) (f : α → Operation β) :
    (require error (some a) >>= f) = f a := by
  simp only [require, pure_bind]

theorem ofChange_ok_bind (a : α) (f : α → Operation β) : (ofChange (.ok a) >>= f) = f a := by
  simp only [ofChange, pure_bind]

end Operation

namespace Assignment

open Operation

/-- How a merge goes on after its second read. -/
def reread (id : PullRequestId) (e : StoreError) :
    Except StoreError (Option PullRequest) → Program (Except AssignmentError PullRequest)
  | .ok (some latest) =>
    if latest.isMerged then done (.ok latest) else done (.error (.mergeFailed id e))
  | .ok none => done (.error (.mergeFailed id e))
  | .error _ => done (.error (.mergeFailed id e))

/-- What a merge whose write failed comes to, by what it reads then: a merge that somebody else
has made, if there is one, and otherwise the error of the write. -/
inductive Recovers (id : PullRequestId) (e : StoreError) :
    Except StoreError (Option PullRequest) → Except AssignmentError PullRequest → Prop
  | overtaken {latest : PullRequest} : latest.isMerged = true →
      Recovers id e (.ok (some latest)) (.ok latest)
  | failed {reply : Except StoreError (Option PullRequest)} :
      (∀ latest, reply = .ok (some latest) → latest.isMerged = false) →
      Recovers id e reply (.error (.mergeFailed id e))

theorem reread_done (id : PullRequestId) (e : StoreError)
    (reply : Except StoreError (Option PullRequest)) :
    ∃ a, reread id e reply = done a ∧ Recovers id e reply a := by
  rcases reply with e' | _ | latest
  · exact ⟨_, rfl, .failed (by simp)⟩
  · exact ⟨_, rfl, .failed (by simp)⟩
  · by_cases merged : latest.isMerged = true
    · exact ⟨.ok latest, by simp [reread, merged], .overtaken merged⟩
    · refine ⟨.error (.mergeFailed id e), by simp [reread, merged], .failed ?_⟩
      rintro _ ⟨⟩
      exact eq_false_of_ne_true merged

theorem merge_eq (chance : Chance) (id : PullRequestId) :
    merge chance id = call (.findPullRequest id) fun
      | .error e => done (.error (.store e))
      | .ok none => done (.error (.pullRequestNotFound id))
      | .ok (some pr) =>
        if pr.isMerged then done (.ok pr)
        else call (.updatePullRequest (pr.merge (chance.clock 0))) fun
          | .ok _ => note (.pullRequestMerged (pr.merge (chance.clock 0)).id)
            (done (.ok (pr.merge (chance.clock 0))))
          | .error e =>
            note (.mergeWriteFailed id e) (call (.findPullRequest id) (reread id e)) := by
  simp only [merge, load, bind_assoc]
  rw [ask_bind (.findPullRequest id)]
  refine congrArg (call _) (funext fun reply => ?_)
  rcases reply with e | _ | pr
  · rfl
  · rfl
  · simp only [require_some_bind]
    split
    · rfl
    · rw [attempt_bind (.updatePullRequest _)]
      refine congrArg (call _) (funext fun reply => ?_)
      rcases reply with e | _
      · dsimp only
        rw [log_bind, attempt_bind (.findPullRequest id)]
        refine congrArg (note _) (congrArg (call _) (funext fun reply => ?_))
        rcases reply with e' | _ | latest
        · rfl
        · rfl
        · dsimp only [reread]
          split
          · rfl
          · rfl
      · rfl

theorem reassign_eq (chance : Chance) (id : PullRequestId) (old : UserId) :
    reassign chance id old = call (.findPullRequest id) fun
      | .error e => done (.error (.store e))
      | .ok none => done (.error (.pullRequestNotFound id))
      | .ok (some pr) =>
        if pr.isMerged then done (.error (.pullRequestAlreadyMerged pr.id))
        else if !pr.hasReviewer old then done (.error (.userNotReviewer pr.id old))
        else call (.findTeamOf pr.author) fun
          | .error e => done (.error (.store e))
          | .ok none => done (.error (.teamNotFound pr.author))
          | .ok (some team) => call (.findActiveMembers team.id) fun
            | .error e => done (.error (.store e))
            | .ok members =>
              match Selection.selectOne? chance.draws members pr.author
                  (pr.reviewerIds ++ [pr.author, old]) with
              | none => done (.error .noCandidate)
              | some new =>
                match pr.reassign (chance.clock 0) old new with
                | .error e => done (.error (.pullRequest e))
                | .ok changed => call (.updatePullRequest changed) fun
                  | .error e => done (.error (.store e))
                  | .ok _ => note (.reviewerReassigned changed.id old new)
                    (done (.ok (new, changed))) := by
  simp only [reassign, load, activeTeammates, bind_assoc]
  rw [ask_bind (.findPullRequest id)]
  refine congrArg (call _) (funext fun reply => ?_)
  rcases reply with e | _ | pr
  · rfl
  · rfl
  · simp only [require_some_bind]
    split
    · rfl
    · split
      · rfl
      · rw [ask_bind (.findTeamOf _)]
        refine congrArg (call _) (funext fun reply => ?_)
        rcases reply with e | _ | team
        · rfl
        · rfl
        · simp only [require_some_bind]
          rw [ask_bind (.findActiveMembers _)]
          refine congrArg (call _) (funext fun reply => ?_)
          rcases reply with e | members
          · rfl
          · dsimp only
            cases Selection.selectOne? chance.draws members pr.author
                (pr.reviewerIds ++ [pr.author, old]) with
            | none => rfl
            | some new =>
              simp only [require_some_bind]
              cases pr.reassign (chance.clock 0) old new with
              | error e => rfl
              | ok changed =>
                simp only [ofChange_ok_bind]
                rw [ask_bind (.updatePullRequest _)]
                refine congrArg (call _) (funext fun reply => ?_)
                rcases reply with e | _
                · rfl
                · rfl

/-- The reviewers that are drawn for a new pull request, out of the active teammates. -/
def drawn (chance : Chance) (pr : PullRequest) (author : User) (members : List User) :
    List UserId :=
  Selection.select chance.draws members author.id pr.reviewerIds
    (maxReviewers - pr.reviewers.length)

theorem create_eq (chance : Chance) (pr : PullRequest) :
    create chance pr = call (.findPullRequest pr.id) fun
      | .error e => done (.error (.store e))
      | .ok (some _) => done (.error (.pullRequestAlreadyExists pr.id))
      | .ok none => call (.findUser pr.author) fun
        | .error e => done (.error (.store e))
        | .ok none => done (.error (.authorNotFound pr.author))
        | .ok (some author) => call (.findTeamOf author.id) fun
          | .error e => done (.error (.store e))
          | .ok none => done (.error (.teamNotFound author.id))
          | .ok (some team) => call (.findActiveMembers team.id) fun
            | .error e => done (.error (.store e))
            | .ok members =>
              note (.reviewersSelected pr.id members.length
                (drawn chance pr author members).length)
                (match pr.assignAll chance.clock (drawn chance pr author members) with
                | .error e => done (.error (.pullRequest e))
                | .ok filled => call (.createPullRequest filled) fun
                  | .error e => done (.error (.store e))
                  | .ok _ => note
                    (.pullRequestCreated filled.id filled.author filled.reviewerIds)
                    (done (.ok filled))) := by
  simp only [create, activeTeammates, bind_assoc]
  rw [ask_bind (.findPullRequest pr.id)]
  refine congrArg (call _) (funext fun reply => ?_)
  rcases reply with e | _ | stored
  · rfl
  · simp only [Option.isSome_none, Bool.false_eq_true, if_false]
    rw [ask_bind (.findUser pr.author)]
    refine congrArg (call _) (funext fun reply => ?_)
    rcases reply with e | _ | author
    · rfl
    · rfl
    · simp only [require_some_bind]
      rw [ask_bind (.findTeamOf author.id)]
      refine congrArg (call _) (funext fun reply => ?_)
      rcases reply with e | _ | team
      · rfl
      · rfl
      · simp only [require_some_bind]
        rw [ask_bind (.findActiveMembers team.id)]
        refine congrArg (call _) (funext fun reply => ?_)
        rcases reply with e | members
        · rfl
        · refine congrArg (note _) ?_
          unfold drawn
          cases pr.assignAll chance.clock (Selection.select chance.draws members author.id
              pr.reviewerIds (maxReviewers - pr.reviewers.length)) with
          | error e => rfl
          | ok filled =>
            refine congrArg (call _) (funext fun reply => ?_)
            rcases reply with e | _
            · rfl
            · rfl
  · rfl

theorem get_eq (id : PullRequestId) :
    get id = call (.findPullRequest id) fun
      | .error e => done (.error (.store e))
      | .ok none => done (.error (.pullRequestNotFound id))
      | .ok (some pr) => done (.ok pr) := by
  simp only [get, load]
  rw [ask_bind (.findPullRequest id)]
  refine congrArg (call _) (funext fun reply => ?_)
  rcases reply with e | _ | pr <;> rfl

/-! ## What is written, and after which replies -/

theorem get_asks {id : PullRequestId} {trail : List Exchange} {c : Call}
    (h : Asks (get id) trail c) : c.isWrite = false := by
  rw [get_eq, asks_call] at h
  rcases h with ⟨-, rfl⟩ | ⟨reply, rest, rfl, h⟩
  · rfl
  · rcases reply with e | _ | pr <;> simp only [asks_done] at h

/-- The replies after which a merge reads for the second time. -/
def mergeFailure (chance : Chance) (id : PullRequestId) (pr : PullRequest) (e : StoreError) :
    List Exchange :=
  [⟨.findPullRequest id, .ok (some pr)⟩,
    ⟨.updatePullRequest (pr.merge (chance.clock 0)), .error e⟩]

/-- What a merge asks, and after which replies. -/
inductive MergeAsks (chance : Chance) (id : PullRequestId) : List Exchange → Call → Prop
  | first : MergeAsks chance id [] (.findPullRequest id)
  | write {pr : PullRequest} : pr.isMerged = false →
      MergeAsks chance id [⟨.findPullRequest id, .ok (some pr)⟩]
        (.updatePullRequest (pr.merge (chance.clock 0)))
  | again {pr : PullRequest} (e : StoreError) : pr.isMerged = false →
      MergeAsks chance id (mergeFailure chance id pr e) (.findPullRequest id)

theorem mergeAsks_of_asks {chance : Chance} {id : PullRequestId} {trail : List Exchange} {c : Call}
    (h : Asks (merge chance id) trail c) : MergeAsks chance id trail c := by
  rw [merge_eq, asks_call] at h
  rcases h with ⟨rfl, rfl⟩ | ⟨reply, rest, rfl, h⟩
  · exact .first
  rcases reply with e | _ | pr
  · simp only [asks_done] at h
  · simp only [asks_done] at h
  dsimp only at h
  split at h
  · simp only [asks_done] at h
  rename_i opened
  have opened := eq_false_of_ne_true opened
  rw [asks_call] at h
  rcases h with ⟨rfl, rfl⟩ | ⟨reply, rest, rfl, h⟩
  · exact .write opened
  rcases reply with e | _
  · rw [asks_note, asks_call] at h
    rcases h with ⟨rfl, rfl⟩ | ⟨reply, rest, rfl, h⟩
    · exact .again e opened
    obtain ⟨a, ended, -⟩ := reread_done id e reply
    rw [ended] at h
    simp only [asks_done] at h
  · simp only [asks_note, asks_done] at h

/-- A merge writes what it makes of an open pull request. -/
theorem merge_asks {chance : Chance} {id : PullRequestId} {trail : List Exchange} {c : Call}
    (h : Asks (merge chance id) trail c) (write : c.isWrite = true) :
    ∃ pr : PullRequest, trail = [⟨.findPullRequest id, .ok (some pr)⟩] ∧ pr.isMerged = false ∧
      c = .updatePullRequest (pr.merge (chance.clock 0)) := by
  cases mergeAsks_of_asks h with
  | @write pr opened => exact ⟨pr, rfl, opened, rfl⟩
  | first | again => cases write

/-- The replies that a reassignment has read when it writes. -/
def reassignReads (id : PullRequestId) (pr : PullRequest) (team : Team) (members : List User) :
    List Exchange :=
  [⟨.findPullRequest id, .ok (some pr)⟩, ⟨.findTeamOf pr.author, .ok (some team)⟩,
    ⟨.findActiveMembers team.id, .ok members⟩]

/-- The reviewer that a reassignment chooses, and the pull request that it makes of it. -/
structure Replaces (chance : Chance) (pr : PullRequest) (members : List User) (old new : UserId)
    (changed : PullRequest) : Prop where
  chosen : Selection.selectOne? chance.draws members pr.author
    (pr.reviewerIds ++ [pr.author, old]) = some new
  made : pr.reassign (chance.clock 0) old new = .ok changed

/-- A reassignment writes what it makes of the chosen reviewer. -/
theorem reassign_asks {chance : Chance} {id : PullRequestId} {old : UserId}
    {trail : List Exchange} {c : Call} (h : Asks (reassign chance id old) trail c)
    (write : c.isWrite = true) :
    ∃ pr team members new changed, trail = reassignReads id pr team members ∧
      Replaces chance pr members old new changed ∧ c = .updatePullRequest changed := by
  rw [reassign_eq, asks_past rfl write] at h
  obtain ⟨reply, rest, rfl, h⟩ := h
  rcases reply with e | _ | pr
  · simp only [asks_done] at h
  · simp only [asks_done] at h
  dsimp only at h
  split at h
  · simp only [asks_done] at h
  split at h
  · simp only [asks_done] at h
  rw [asks_past rfl write] at h
  obtain ⟨reply, rest, rfl, h⟩ := h
  rcases reply with e | _ | team
  · simp only [asks_done] at h
  · simp only [asks_done] at h
  rw [asks_past rfl write] at h
  obtain ⟨reply, rest, rfl, h⟩ := h
  rcases reply with e | members
  · simp only [asks_done] at h
  dsimp only at h
  split at h
  · simp only [asks_done] at h
  rename_i new chosen
  split at h
  · simp only [asks_done] at h
  rename_i changed made
  rw [asks_call] at h
  rcases h with ⟨rfl, rfl⟩ | ⟨reply, rest, rfl, h⟩
  · exact ⟨pr, team, members, new, changed, rfl, ⟨chosen, made⟩, rfl⟩
  rcases reply with e | _
  · simp only [asks_done] at h
  · simp only [asks_note, asks_done] at h

/-- The replies that a creation has read when it writes. -/
def createReads (pr : PullRequest) (author : User) (team : Team) (members : List User) :
    List Exchange :=
  [⟨.findPullRequest pr.id, .ok none⟩, ⟨.findUser pr.author, .ok (some author)⟩,
    ⟨.findTeamOf author.id, .ok (some team)⟩, ⟨.findActiveMembers team.id, .ok members⟩]

/-- A creation writes the pull request with its roster filled. -/
theorem create_asks {chance : Chance} {pr : PullRequest} {trail : List Exchange} {c : Call}
    (h : Asks (create chance pr) trail c) (write : c.isWrite = true) :
    ∃ author team members filled, trail = createReads pr author team members ∧
      pr.assignAll chance.clock (drawn chance pr author members) = .ok filled ∧
      c = .createPullRequest filled := by
  rw [create_eq, asks_past rfl write] at h
  obtain ⟨reply, rest, rfl, h⟩ := h
  rcases reply with e | _ | stored
  · simp only [asks_done] at h
  · rw [asks_past rfl write] at h
    obtain ⟨reply, rest, rfl, h⟩ := h
    rcases reply with e | _ | author
    · simp only [asks_done] at h
    · simp only [asks_done] at h
    rw [asks_past rfl write] at h
    obtain ⟨reply, rest, rfl, h⟩ := h
    rcases reply with e | _ | team
    · simp only [asks_done] at h
    · simp only [asks_done] at h
    rw [asks_past rfl write] at h
    obtain ⟨reply, rest, rfl, h⟩ := h
    rcases reply with e | members
    · simp only [asks_done] at h
    dsimp only at h
    rw [asks_note] at h
    split at h
    · simp only [asks_done] at h
    rename_i filled made
    rw [asks_call] at h
    rcases h with ⟨rfl, rfl⟩ | ⟨reply, rest, rfl, h⟩
    · exact ⟨author, team, members, filled, rfl, made, rfl⟩
    rcases reply with e | _
    · simp only [asks_done] at h
    · simp only [asks_note, asks_done] at h
  · simp only [asks_done] at h

/-! ## How it ends, and after which replies -/

/-- The ways in which a merge ends. -/
inductive MergeEnds (chance : Chance) (id : PullRequestId) :
    List Exchange → Except AssignmentError PullRequest → Prop
  | unread (e : StoreError) :
      MergeEnds chance id [⟨.findPullRequest id, .error e⟩] (.error (.store e))
  | unknown :
      MergeEnds chance id [⟨.findPullRequest id, .ok none⟩] (.error (.pullRequestNotFound id))
  | already {pr : PullRequest} : pr.isMerged = true →
      MergeEnds chance id [⟨.findPullRequest id, .ok (some pr)⟩] (.ok pr)
  | written {pr : PullRequest} : pr.isMerged = false →
      MergeEnds chance id [⟨.findPullRequest id, .ok (some pr)⟩,
        ⟨.updatePullRequest (pr.merge (chance.clock 0)), .ok ()⟩] (.ok (pr.merge (chance.clock 0)))
  | overtaken {pr latest : PullRequest} (e : StoreError) : pr.isMerged = false →
      latest.isMerged = true →
      MergeEnds chance id [⟨.findPullRequest id, .ok (some pr)⟩,
        ⟨.updatePullRequest (pr.merge (chance.clock 0)), .error e⟩,
        ⟨.findPullRequest id, .ok (some latest)⟩] (.ok latest)
  | failed {pr : PullRequest} (e : StoreError) (reply : Except StoreError (Option PullRequest)) :
      pr.isMerged = false →
      (∀ latest, reply = .ok (some latest) → latest.isMerged = false) →
      MergeEnds chance id [⟨.findPullRequest id, .ok (some pr)⟩,
        ⟨.updatePullRequest (pr.merge (chance.clock 0)), .error e⟩,
        ⟨.findPullRequest id, reply⟩] (.error (.mergeFailed id e))

theorem merge_ends {chance : Chance} {id : PullRequestId} {trail : List Exchange}
    {a : Except AssignmentError PullRequest} (h : Ends (merge chance id) trail a) :
    MergeEnds chance id trail a := by
  rw [merge_eq, ends_call] at h
  obtain ⟨reply, rest, rfl, h⟩ := h
  rcases reply with e | _ | pr
  · obtain ⟨rfl, rfl⟩ := ends_done.1 h
    exact .unread e
  · obtain ⟨rfl, rfl⟩ := ends_done.1 h
    exact .unknown
  dsimp only at h
  split at h
  · rename_i merged
    obtain ⟨rfl, rfl⟩ := ends_done.1 h
    exact .already merged
  rename_i opened
  have opened := eq_false_of_ne_true opened
  rw [ends_call] at h
  obtain ⟨reply, rest, rfl, h⟩ := h
  rcases reply with e | _
  · rw [ends_note, ends_call] at h
    obtain ⟨reply, rest, rfl, h⟩ := h
    obtain ⟨b, ended, recovers⟩ := reread_done id e reply
    rw [ended] at h
    obtain ⟨rfl, rfl⟩ := ends_done.1 h
    cases recovers with
    | overtaken merged => exact .overtaken e opened merged
    | failed still => exact .failed e _ opened still
  · obtain ⟨rfl, rfl⟩ := ends_done.1 (ends_note.1 h)
    exact .written opened

/-- The ways in which a creation ends. -/
inductive CreateEnds (chance : Chance) (pr : PullRequest) :
    List Exchange → Except AssignmentError PullRequest → Prop
  | unread (reads : List Exchange) {c : Call} (e : StoreError) :
      (∀ x ∈ reads, x.call.isWrite = false) → c.isWrite = false →
      CreateEnds chance pr (reads ++ [⟨c, .error e⟩]) (.error (.store e))
  | taken (found : PullRequest) :
      CreateEnds chance pr [⟨.findPullRequest pr.id, .ok (some found)⟩]
        (.error (.pullRequestAlreadyExists pr.id))
  | authorUnknown :
      CreateEnds chance pr
        [⟨.findPullRequest pr.id, .ok none⟩, ⟨.findUser pr.author, .ok none⟩]
        (.error (.authorNotFound pr.author))
  | teamUnknown (author : User) :
      CreateEnds chance pr
        [⟨.findPullRequest pr.id, .ok none⟩, ⟨.findUser pr.author, .ok (some author)⟩,
          ⟨.findTeamOf author.id, .ok none⟩]
        (.error (.teamNotFound author.id))
  | unfilled {author : User} {team : Team} {members : List User} {flaw : PullRequestError} :
      pr.assignAll chance.clock (drawn chance pr author members) = .error flaw →
      CreateEnds chance pr (createReads pr author team members) (.error (.pullRequest flaw))
  | refused {author : User} {team : Team} {members : List User} {filled : PullRequest}
      (e : StoreError) :
      pr.assignAll chance.clock (drawn chance pr author members) = .ok filled →
      CreateEnds chance pr
        (createReads pr author team members ++ [⟨.createPullRequest filled, .error e⟩])
        (.error (.store e))
  | written {author : User} {team : Team} {members : List User} {filled : PullRequest} :
      pr.assignAll chance.clock (drawn chance pr author members) = .ok filled →
      CreateEnds chance pr
        (createReads pr author team members ++ [⟨.createPullRequest filled, .ok ()⟩])
        (.ok filled)

theorem create_ends {chance : Chance} {pr : PullRequest} {trail : List Exchange}
    {a : Except AssignmentError PullRequest} (h : Ends (create chance pr) trail a) :
    CreateEnds chance pr trail a := by
  rw [create_eq, ends_call] at h
  obtain ⟨reply, rest, rfl, h⟩ := h
  rcases reply with e | _ | found
  · obtain ⟨rfl, rfl⟩ := ends_done.1 h
    exact .unread [] e (by simp) rfl
  case ok.some =>
    obtain ⟨rfl, rfl⟩ := ends_done.1 h
    exact .taken found
  rw [ends_call] at h
  obtain ⟨reply, rest, rfl, h⟩ := h
  rcases reply with e | _ | author
  · obtain ⟨rfl, rfl⟩ := ends_done.1 h
    exact .unread [_] e (by simp [Call.isWrite]) rfl
  · obtain ⟨rfl, rfl⟩ := ends_done.1 h
    exact .authorUnknown
  rw [ends_call] at h
  obtain ⟨reply, rest, rfl, h⟩ := h
  rcases reply with e | _ | team
  · obtain ⟨rfl, rfl⟩ := ends_done.1 h
    exact .unread [_, _] e (by simp [Call.isWrite]) rfl
  · obtain ⟨rfl, rfl⟩ := ends_done.1 h
    exact .teamUnknown author
  rw [ends_call] at h
  obtain ⟨reply, rest, rfl, h⟩ := h
  rcases reply with e | members
  · obtain ⟨rfl, rfl⟩ := ends_done.1 h
    exact .unread [_, _, _] e (by simp [Call.isWrite]) rfl
  dsimp only at h
  rw [ends_note] at h
  split at h
  · rename_i flaw made
    obtain ⟨rfl, rfl⟩ := ends_done.1 h
    exact .unfilled made
  rename_i filled made
  rw [ends_call] at h
  obtain ⟨reply, rest, rfl, h⟩ := h
  rcases reply with e | _
  · obtain ⟨rfl, rfl⟩ := ends_done.1 h
    exact .refused e made
  · obtain ⟨rfl, rfl⟩ := ends_done.1 (ends_note.1 h)
    exact .written made

/-- The ways in which a reassignment ends. -/
inductive ReassignExits (chance : Chance) (id : PullRequestId) (old : UserId) :
    List Exchange → Except AssignmentError (UserId × PullRequest) → Prop
  | unread (reads : List Exchange) {c : Call} (e : StoreError) :
      (∀ x ∈ reads, x.call.isWrite = false) → c.isWrite = false →
      ReassignExits chance id old (reads ++ [⟨c, .error e⟩]) (.error (.store e))
  | unknown :
      ReassignExits chance id old [⟨.findPullRequest id, .ok none⟩]
        (.error (.pullRequestNotFound id))
  | merged {pr : PullRequest} : pr.isMerged = true →
      ReassignExits chance id old [⟨.findPullRequest id, .ok (some pr)⟩]
        (.error (.pullRequestAlreadyMerged pr.id))
  | notReviewer {pr : PullRequest} : pr.isMerged = false → pr.hasReviewer old = false →
      ReassignExits chance id old [⟨.findPullRequest id, .ok (some pr)⟩]
        (.error (.userNotReviewer pr.id old))
  | teamUnknown {pr : PullRequest} : pr.isMerged = false → pr.hasReviewer old = true →
      ReassignExits chance id old
        [⟨.findPullRequest id, .ok (some pr)⟩, ⟨.findTeamOf pr.author, .ok none⟩]
        (.error (.teamNotFound pr.author))
  | nobody {pr : PullRequest} {team : Team} {members : List User} :
      pr.isMerged = false → pr.hasReviewer old = true →
      Selection.selectOne? chance.draws members pr.author (pr.reviewerIds ++ [pr.author, old]) =
        none →
      ReassignExits chance id old (reassignReads id pr team members) (.error .noCandidate)
  | unplaced {pr : PullRequest} {team : Team} {members : List User} {new : UserId}
      {flaw : PullRequestError} : pr.isMerged = false → pr.hasReviewer old = true →
      Selection.selectOne? chance.draws members pr.author (pr.reviewerIds ++ [pr.author, old]) =
        some new →
      pr.reassign (chance.clock 0) old new = .error flaw →
      ReassignExits chance id old (reassignReads id pr team members) (.error (.pullRequest flaw))
  | refused {pr : PullRequest} {team : Team} {members : List User} {new : UserId}
      {changed : PullRequest} (e : StoreError) : Replaces chance pr members old new changed →
      ReassignExits chance id old
        (reassignReads id pr team members ++ [⟨.updatePullRequest changed, .error e⟩])
        (.error (.store e))
  | written {pr : PullRequest} {team : Team} {members : List User} {new : UserId}
      {changed : PullRequest} : Replaces chance pr members old new changed →
      ReassignExits chance id old
        (reassignReads id pr team members ++ [⟨.updatePullRequest changed, .ok ()⟩])
        (.ok (new, changed))

theorem reassign_exits {chance : Chance} {id : PullRequestId} {old : UserId}
    {trail : List Exchange} {a : Except AssignmentError (UserId × PullRequest)}
    (h : Ends (reassign chance id old) trail a) : ReassignExits chance id old trail a := by
  rw [reassign_eq, ends_call] at h
  obtain ⟨reply, rest, rfl, h⟩ := h
  rcases reply with e | _ | pr
  · obtain ⟨rfl, rfl⟩ := ends_done.1 h
    exact .unread [] e (by simp) rfl
  · obtain ⟨rfl, rfl⟩ := ends_done.1 h
    exact .unknown
  dsimp only at h
  split at h
  · rename_i merged
    obtain ⟨rfl, rfl⟩ := ends_done.1 h
    exact .merged merged
  rename_i opened
  have opened := eq_false_of_ne_true opened
  rcases listed : pr.hasReviewer old with _ | _
  · rw [listed] at h
    obtain ⟨rfl, rfl⟩ := ends_done.1 h
    exact .notReviewer opened listed
  simp only [listed, Bool.not_true, Bool.false_eq_true, if_false] at h
  rw [ends_call] at h
  obtain ⟨reply, rest, rfl, h⟩ := h
  rcases reply with e | _ | team
  · obtain ⟨rfl, rfl⟩ := ends_done.1 h
    exact .unread [_] e (by simp [Call.isWrite]) rfl
  · obtain ⟨rfl, rfl⟩ := ends_done.1 h
    exact .teamUnknown opened listed
  rw [ends_call] at h
  obtain ⟨reply, rest, rfl, h⟩ := h
  rcases reply with e | members
  · obtain ⟨rfl, rfl⟩ := ends_done.1 h
    exact .unread [_, _] e (by simp [Call.isWrite]) rfl
  dsimp only at h
  split at h
  · rename_i chosen
    obtain ⟨rfl, rfl⟩ := ends_done.1 h
    exact .nobody opened listed chosen
  rename_i new chosen
  split at h
  · rename_i flaw unplaced
    obtain ⟨rfl, rfl⟩ := ends_done.1 h
    exact .unplaced opened listed chosen unplaced
  rename_i changed made
  rw [ends_call] at h
  obtain ⟨reply, rest, rfl, h⟩ := h
  rcases reply with e | _
  · obtain ⟨rfl, rfl⟩ := ends_done.1 h
    exact .refused e ⟨chosen, made⟩
  · obtain ⟨rfl, rfl⟩ := ends_done.1 (ends_note.1 h)
    exact .written ⟨chosen, made⟩

/-- A reassignment ends well once its write is taken, and is refused otherwise. -/
inductive ReassignEnds (chance : Chance) (id : PullRequestId) (old : UserId) :
    List Exchange → Except AssignmentError (UserId × PullRequest) → Prop
  | written {pr : PullRequest} {team : Team} {members : List User} {new : UserId}
      {changed : PullRequest} : Replaces chance pr members old new changed →
      ReassignEnds chance id old
        (reassignReads id pr team members ++ [⟨.updatePullRequest changed, .ok ()⟩])
        (.ok (new, changed))
  | refused {trail : List Exchange} (e : AssignmentError) :
      (∀ changed, ⟨.updatePullRequest changed, .ok ()⟩ ∉ trail) →
      ReassignEnds chance id old trail (.error e)

theorem reassign_ends {chance : Chance} {id : PullRequestId} {old : UserId}
    {trail : List Exchange} {a : Except AssignmentError (UserId × PullRequest)}
    (h : Ends (reassign chance id old) trail a) : ReassignEnds chance id old trail a := by
  cases reassign_exits h with
  | written replaces => exact .written replaces
  | unread reads e before read =>
    refine .refused _ fun changed listed => ?_
    rcases List.mem_append.1 listed with earlier | last
    · cases before _ earlier
    · cases List.mem_singleton.1 last
  | unknown | merged | notReviewer | teamUnknown => exact .refused _ (by simp)
  | nobody | unplaced | refused => exact .refused _ (by simp [reassignReads])

end Assignment

end ReviewDesk
