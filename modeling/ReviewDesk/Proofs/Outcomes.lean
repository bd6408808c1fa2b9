-- What comes of a request where nobody else is and no call fails: the first refusal that applies,
-- with nothing changed, or just what was asked for. The laws speak of what is stored, and of no
-- step on the way.
import ReviewDesk.Proofs.Alone
import ReviewDesk.Proofs.Choice
import ReviewDesk.Proofs.Floor

namespace ReviewDesk

namespace Store

variable {s : Store} {user : UserId} {t : TeamId} {out : List UserId}

/-! ## Teams -/

/-- A stored user names a stored team. -/
def InTeam (s : Store) (user : UserId) (t : TeamId) : Prop :=
  ∃ known team, s.users.get? user = some known ∧ known.team = some t ∧ s.teams.get? t = some team

/-- The ids of the stored active users who name a team, but for those who are left out. -/
def pool (s : Store) (t : TeamId) (out : List UserId) : Finset UserId :=
  Selection.pool (s.users.entries.filter (·.team = some t)) out

theorem pool_activeMembers : Selection.pool (s.activeMembers t) out = s.pool t out := by
  ext u
  unfold pool activeMembers
  simp only [Selection.mem_pool, List.mem_filter, decide_eq_true_eq]
  constructor
  · rintro ⟨c, ⟨listed, named, -⟩, rest⟩
    exact ⟨c, ⟨listed, named⟩, rest⟩
  · rintro ⟨c, ⟨listed, named⟩, active, rest⟩
    exact ⟨c, ⟨listed, named, active⟩, active, rest⟩

theorem inTeam_of_teamOf {team : Team} (h : s.teamOf user = some team) : s.InTeam user team.id := by
  unfold teamOf at h
  obtain ⟨t, named, stored⟩ := Option.bind_eq_some_iff.1 h
  obtain ⟨known, found, names⟩ := Option.bind_eq_some_iff.1 named
  have key := Register.key_of_get? stored
  subst key
  exact ⟨known, team, found, names, stored⟩

theorem teamOf_of_inTeam (h : s.InTeam user t) : ∃ team, s.teamOf user = some team ∧ team.id = t := by
  obtain ⟨known, team, found, names, stored⟩ := h
  refine ⟨team, ?_, Register.key_of_get? stored⟩
  unfold teamOf
  rw [found, Option.bind_some, names, Option.bind_some, stored]

theorem teamOf_eq_none (h : ∀ t, ¬ s.InTeam user t) : s.teamOf user = none := by
  cases found : s.teamOf user with
  | none => rfl
  | some team => exact absurd (inTeam_of_teamOf found) (h team.id)

/-! ## Creating -/

/-- The places that a new pull request gets besides those it comes with. There are as many as are
free, or as there are teammates to take them, and each is given later than the one before. -/
structure Fills (s : Store) (pr : PullRequest) (t : TeamId) (added : List Reviewer) : Prop where
  count : added.length =
    min (maxReviewers - pr.reviewers.length) (s.pool t (pr.author :: pr.reviewerIds)).card
  distinct : (added.map Reviewer.user).Nodup
  eligible : ∀ r ∈ added, r.user ∈ s.pool t (pr.author :: pr.reviewerIds)
  ascending : added.Pairwise fun a b => a.assignedAt < b.assignedAt
  later : ∀ r ∈ added, ∀ time ∈ pr.instants, time < r.assignedAt

/-- What comes of a new pull request. -/
inductive Creation (s : Store) (pr : PullRequest) :
    Except AssignmentError PullRequest × Store → Prop
  | taken {found : PullRequest} (stands : s.pullRequests.get? pr.id = some found) :
      Creation s pr (.error (.pullRequestAlreadyExists pr.id), s)
  | authorUnknown (free : s.pullRequests.get? pr.id = none)
      (unknown : s.users.get? pr.author = none) :
      Creation s pr (.error (.authorNotFound pr.author), s)
  | teamUnknown {author : User} (free : s.pullRequests.get? pr.id = none)
      (known : s.users.get? pr.author = some author) (unknown : ∀ t, ¬ s.InTeam pr.author t) :
      Creation s pr (.error (.teamNotFound pr.author), s)
  | stored {t : TeamId} {added : List Reviewer} {filled : PullRequest}
      (free : s.pullRequests.get? pr.id = none) (inTeam : s.InTeam pr.author t)
      (fills : s.Fills pr t added)
      (made : filled = { pr with reviewers := pr.reviewers ++ added }) :
      Creation s pr (.ok filled, { s with pullRequests := s.pullRequests.put filled })

theorem fills_drawn {pr : PullRequest} {chance : Chance} {author : User} {added : List Reviewer}
    (wrote : author.id = pr.author)
    (adds : pr.Adds (Assignment.drawn chance pr author (s.activeMembers t)) added) :
    s.Fills pr t added := by
  have same : ∀ u, u ∈ author.id :: pr.reviewerIds ↔ u ∈ pr.author :: pr.reviewerIds := by
    rw [wrote]
    exact fun _ => Iff.rfl
  refine ⟨?_, ?_, ?_, adds.ascending, adds.later⟩
  · rw [← List.length_map Reviewer.user, adds.names]
    unfold Assignment.drawn
    rw [Selection.length_select, pool_activeMembers, wrote]
  · rw [adds.names]
    exact Selection.nodup_select
  · intro r listed
    have chosen : r.user ∈ Assignment.drawn chance pr author (s.activeMembers t) := by
      rw [← adds.names]
      exact List.mem_map_of_mem listed
    have eligible := Selection.mem_pool_of_mem_select chosen
    rw [pool_activeMembers, wrote] at eligible
    exact eligible

/-- A new pull request is refused because its id is taken, its author is unknown or has no team,
or else it is stored with its roster filled. Nobody is drawn whom the roster then refuses. -/
theorem create_outcome (s : Store) (chance : Chance) (pr : PullRequest)
    (opened : pr.isMerged = false) :
    s.Creation pr (s.run (Assignment.create chance pr)) ∧
    ∀ e, (s.run (Assignment.create chance pr)).1 = .error e →
      (s.run (Assignment.create chance pr)).2 = s ∧ ∀ flaw, e ≠ .pullRequest flaw := by
  have outcome : s.Creation pr (s.run (Assignment.create chance pr)) := by
    rcases free : s.pullRequests.get? pr.id with _ | found
    case some =>
      rw [run_create_of_taken free]
      exact .taken free
    rcases known : s.users.get? pr.author with _ | author
    case none =>
      rw [run_create_of_no_author free known]
      exact .authorUnknown free known
    have wrote : author.id = pr.author := Register.key_of_get? known
    by_cases inTeam : ∃ t, s.InTeam pr.author t
    · obtain ⟨t, inTeam⟩ := inTeam
      obtain ⟨team, found, rfl⟩ := teamOf_of_inTeam inTeam
      obtain ⟨added, made, adds⟩ :=
        Assignment.assignAll_drawn chance opened wrote (s.activeMembers team.id)
      rw [← wrote] at found
      rw [run_create free known found made rfl]
      exact .stored free inTeam (fills_drawn wrote adds) rfl
    · have unknown := not_exists.1 inTeam
      rw [run_create_of_no_team free known (teamOf_eq_none unknown)]
      exact .teamUnknown free known unknown
  refine ⟨outcome, ?_⟩
  intro e failed
  generalize s.run (Assignment.create chance pr) = came at outcome failed
  cases outcome with
  | taken | authorUnknown | teamUnknown =>
    cases failed
    exact ⟨rfl, by simp⟩
  | stored => cases failed

/-- Ann has written it and is on its roster herself, from later on than the clock shows. -/
def oddPullRequest : PullRequest :=
  { Sample.pr with reviewers := [⟨⟨"ann"⟩, ⟨9000⟩⟩] }

/-- It gets one more reviewer, from the next microsecond on. -/
theorem create_outcome_odd :
    oddPullRequest.isMerged = false ∧
    (Sample.staffed.run (Assignment.create Sample.chance oddPullRequest)).1 =
      .ok { oddPullRequest with
        reviewers := [⟨⟨"ann"⟩, ⟨9000⟩⟩, ⟨⟨"cid"⟩, ⟨10000⟩⟩] } ∧
    Sample.staffed.Creation oddPullRequest
      (Sample.staffed.run (Assignment.create Sample.chance oddPullRequest)) :=
  ⟨rfl, rfl, (create_outcome Sample.staffed Sample.chance oddPullRequest rfl).1⟩

/-! ## Reassigning -/

/-- What comes of asking for somebody else in the place of a reviewer. -/
inductive Reassignment (s : Store) (id : PullRequestId) (old : UserId) :
    Except AssignmentError (UserId × PullRequest) × Store → Prop
  | unknown (missing : s.pullRequests.get? id = none) :
      Reassignment s id old (.error (.pullRequestNotFound id), s)
  | merged {pr : PullRequest} (stands : s.pullRequests.get? id = some pr)
      (merged : pr.isMerged = true) :
      Reassignment s id old (.error (.pullRequestAlreadyMerged id), s)
  | notReviewer {pr : PullRequest} (stands : s.pullRequests.get? id = some pr)
      (opened : pr.isMerged = false) (unlisted : old ∉ pr.reviewerIds) :
      Reassignment s id old (.error (.userNotReviewer id old), s)
  | teamUnknown {pr : PullRequest} (stands : s.pullRequests.get? id = some pr)
      (opened : pr.isMerged = false) (listed : old ∈ pr.reviewerIds)
      (unknown : ∀ t, ¬ s.InTeam pr.author t) :
      Reassignment s id old (.error (.teamNotFound pr.author), s)
  | noCandidate {pr : PullRequest} {t : TeamId} (stands : s.pullRequests.get? id = some pr)
      (opened : pr.isMerged = false) (listed : old ∈ pr.reviewerIds)
      (inTeam : s.InTeam pr.author t)
      (nobody : s.pool t (old :: pr.author :: pr.reviewerIds) = ∅) :
      Reassignment s id old (.error .noCandidate, s)
  | replaced {pr changed : PullRequest} {t : TeamId} {new : UserId} {since : Instant}
      {before after : List Reviewer} {slot : Reviewer}
      (stands : s.pullRequests.get? id = some pr) (opened : pr.isMerged = false)
      (inTeam : s.InTeam pr.author t)
      (eligible : new ∈ s.pool t (old :: pr.author :: pr.reviewerIds))
      (places : pr.reviewers = before ++ slot :: after) (held : slot.user = old)
      (first : old ∉ before.map Reviewer.user) (later : ∀ time ∈ pr.instants, time < since)
      (made : changed = { pr with reviewers := before ++ ⟨new, since⟩ :: after }) :
      Reassignment s id old
        (.ok (new, changed), { s with pullRequests := s.pullRequests.put changed })

/-- Whom a reassignment leaves out: the reviewers, the author, and the one who is replaced. -/
theorem pool_excluded (s : Store) (t : TeamId) (pr : PullRequest) (old : UserId) :
    Selection.pool (s.activeMembers t) (pr.author :: (pr.reviewerIds ++ [pr.author, old])) =
      s.pool t (old :: pr.author :: pr.reviewerIds) := by
  rw [pool_activeMembers]
  refine Selection.pool_congr fun u => ?_
  simp only [List.mem_cons, List.mem_append, List.not_mem_nil, or_false]
  tauto

/-- A reassignment is refused because the pull request is unknown or merged, the one to replace
does not review it, the author has no team or nobody else there may review, or else the first
place of the one to replace goes to somebody who may. -/
theorem reassign_outcome (s : Store) (chance : Chance) (id : PullRequestId) (old : UserId) :
    s.Reassignment id old (s.run (Assignment.reassign chance id old)) ∧
    ∀ e, (s.run (Assignment.reassign chance id old)).1 = .error e →
      (s.run (Assignment.reassign chance id old)).2 = s ∧ ∀ flaw, e ≠ .pullRequest flaw := by
  have outcome : s.Reassignment id old (s.run (Assignment.reassign chance id old)) := by
    rcases stands : s.pullRequests.get? id with _ | pr
    case none =>
      rw [run_reassign_of_missing stands]
      exact .unknown stands
    rcases opened : pr.isMerged with _ | _
    case true =>
      rw [run_reassign_of_merged stands opened]
      exact .merged stands opened
    by_cases listed : old ∈ pr.reviewerIds
    case neg =>
      rw [run_reassign_of_unlisted stands opened listed]
      exact .notReviewer stands opened listed
    by_cases inTeam : ∃ t, s.InTeam pr.author t
    case neg =>
      have unknown := not_exists.1 inTeam
      rw [run_reassign_of_no_team stands opened listed (teamOf_eq_none unknown)]
      exact .teamUnknown stands opened listed unknown
    obtain ⟨t, inTeam⟩ := inTeam
    obtain ⟨team, found, rfl⟩ := teamOf_of_inTeam inTeam
    rcases chosen : Selection.selectOne? chance.draws (s.activeMembers team.id) pr.author
      (pr.reviewerIds ++ [pr.author, old]) with _ | new
    · have nobody := Selection.selectOne?_eq_none_iff.1 chosen
      rw [pool_excluded] at nobody
      rw [run_reassign_of_nobody stands opened listed found chosen]
      exact .noCandidate stands opened listed inTeam nobody
    · have eligible := Selection.mem_pool_of_selectOne? chosen
      rw [pool_excluded] at eligible
      obtain ⟨before, slot, after, places, held, first⟩ := PullRequest.first_place listed
      rw [run_reassign stands found (Assignment.replaces_of_chosen opened listed chosen)]
      refine .replaced stands opened inTeam eligible places held first
        (fun time => PullRequest.lt_nextInstant (chance.clock 0)) ?_
      rw [places, PullRequest.replaceFirst_split _ held first]
  refine ⟨outcome, ?_⟩
  intro e failed
  generalize s.run (Assignment.reassign chance id old) = came at outcome failed
  cases outcome with
  | unknown | merged | notReviewer | teamUnknown | noCandidate =>
    cases failed
    exact ⟨rfl, by simp⟩
  | replaced => cases failed

/-- Bea is on the roster twice, from later on than the clock shows. -/
def doubledPullRequest : PullRequest :=
  { Sample.pr with reviewers := [⟨⟨"bea"⟩, ⟨0⟩⟩, ⟨⟨"bea"⟩, ⟨9000⟩⟩] }

def doubledDesk : Store :=
  { Sample.staffed with pullRequests := ⟨[doubledPullRequest], List.pairwise_singleton ..⟩ }

/-- She keeps the second place. -/
theorem reassign_outcome_doubled :
    (doubledDesk.run (Assignment.reassign Sample.chance ⟨"p"⟩ ⟨"bea"⟩)).1 =
      .ok (⟨"dan"⟩, { doubledPullRequest with
        reviewers := [⟨⟨"dan"⟩, ⟨10000⟩⟩, ⟨⟨"bea"⟩, ⟨9000⟩⟩] }) ∧
    doubledDesk.Reassignment ⟨"p"⟩ ⟨"bea"⟩
      (doubledDesk.run (Assignment.reassign Sample.chance ⟨"p"⟩ ⟨"bea"⟩)) :=
  ⟨rfl, (reassign_outcome doubledDesk Sample.chance ⟨"p"⟩ ⟨"bea"⟩).1⟩

end Store

end ReviewDesk
