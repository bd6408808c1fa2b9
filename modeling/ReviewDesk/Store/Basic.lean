-- The store in memory: users, teams and pull requests, and how it answers each call.
-- Users and teams keep each other up to date: the members of a team follow the team
-- that each user names.
import ReviewDesk.Program
import ReviewDesk.Register

namespace ReviewDesk

structure Store where
  pullRequests : Register PullRequest.id
  users : Register User.id
  teams : Register Team.id
  deriving DecidableEq

namespace Store

def empty : Store := ⟨.empty, .empty, .empty⟩

/-! ## Users and teams -/

/-- The ids of the users who name a team, in ascending order. -/
def affiliated (s : Store) (team : TeamId) : List UserId :=
  (s.users.entries.filter (·.team = some team)).map User.id

/-- Stores a team, over the one with its id, and enrolls the users who name it. -/
def addTeam (s : Store) (team : Team) : Store :=
  { s with teams := s.teams.put (team.enrollAll (s.affiliated team.id)) }

/-- Takes a user out of a team that the user does not name. -/
def releaseFrom (user : User) (team : Team) : Team :=
  if user.team = some team.id then team else team.removeMember user.id

theorem id_releaseFrom (user : User) (team : Team) : (releaseFrom user team).id = team.id := by
  unfold releaseFrom
  split <;> rfl

/-- Stores a user, over the one with the same id. The user leaves every team but the one that
the user names, and joins that one if it is stored. -/
def addUser (s : Store) (user : User) : Store :=
  let teams := s.teams.map (releaseFrom user) (id_releaseFrom user)
  let teams :=
    match user.team.bind teams.get? with
    | some team => teams.put (team.enroll user.id).2
    | none => teams
  { s with teams, users := s.users.put user }

/-! ## Calls -/

/-- Stores a pull request whose id is free. -/
def create (s : Store) (pr : PullRequest) : Except StoreError Store :=
  if (s.pullRequests.get? pr.id).isSome then
    .error (.conflict ("pull request " ++ pr.id.value ++ " already exists"))
  else .ok { s with pullRequests := s.pullRequests.put pr }

/-- Stores a pull request over the open one that has its id. -/
def update (s : Store) (pr : PullRequest) : Except StoreError Store :=
  match s.pullRequests.get? pr.id with
  | none => .error (.notFound ("pull request " ++ pr.id.value))
  | some stored =>
    if stored.isMerged then
      .error (.conflict ("pull request " ++ pr.id.value ++ " is already merged"))
    else .ok { s with pullRequests := s.pullRequests.put pr }

/-- The pull requests that a user reviews, in ascending order of their ids. -/
def reviewedBy (s : Store) (user : UserId) : List PullRequest :=
  s.pullRequests.entries.filter (·.hasReviewer user)

/-- The stored team that a stored user names. -/
def teamOf (s : Store) (user : UserId) : Option Team :=
  ((s.users.get? user).bind User.team).bind s.teams.get?

/-- The active users who name a team, in ascending order of their ids. -/
def activeMembers (s : Store) (team : TeamId) : List User :=
  s.users.entries.filter fun u => u.team = some team ∧ u.active

/-- The outcome of a write: the new store, or the old one and the error. -/
def afterWrite (s : Store) : Except StoreError Store → Except StoreError Unit × Store
  | .ok s' => (.ok (), s')
  | .error e => (.error e, s)

/-- Answers a call. -/
def answer (s : Store) : (c : Call) → c.Reply × Store
  | .createPullRequest pr => s.afterWrite (s.create pr)
  | .findPullRequest id => (.ok (s.pullRequests.get? id), s)
  | .updatePullRequest pr => s.afterWrite (s.update pr)
  | .findAllPullRequests => (.ok s.pullRequests.entries, s)
  | .findPullRequestsByReviewer user => (.ok (s.reviewedBy user), s)
  | .findUser user => (.ok (s.users.get? user), s)
  | .findTeamOf user => (.ok (s.teamOf user), s)
  | .findActiveMembers team => (.ok (s.activeMembers team), s)

/-- Runs a program alone. -/
def run {α : Type} (s : Store) : Program α → α × Store
  | .done a => (a, s)
  | .note _ rest => s.run rest
  | .call c resume => (s.answer c).2.run (resume (s.answer c).1)

end Store

end ReviewDesk
