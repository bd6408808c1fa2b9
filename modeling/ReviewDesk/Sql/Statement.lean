-- The statements that the desk sends to its database, their parameters, and the commands
-- around them that make several statements one transaction.
import ReviewDesk.PullRequest
import ReviewDesk.Sql.Value
import ReviewDesk.User

namespace ReviewDesk.Sql

/-! ## Statements -/

inductive Statement where
  | insertPullRequest (pr : PullRequest)
  | insertReviewer (id : PullRequestId) (position : Nat) (reviewer : Reviewer)
  | findPullRequest (id : PullRequestId)
  | listPullRequests
  | findPullRequestsByReviewer (user : UserId)
  | loadReviewers (ids : List PullRequestId)
  | lockPullRequest (id : PullRequestId)
  | updatePullRequest (pr : PullRequest)
  | clearReviewers (id : PullRequestId)
  | findUser (user : UserId)
  | saveUser (user : User)
  | insertTeam (name : String)
  | findTeamOf (user : UserId)
  | loadMembers (team : TeamId)
  | findActiveMembers (team : TeamId)
  deriving DecidableEq, Repr

namespace Statement

def text : Statement → String
  | insertPullRequest _ =>
    "INSERT INTO pull_requests ( pull_request_id, pull_request_name, author_id, status, " ++
      "created_at, merged_at ) VALUES ($1, $2, $3, $4, $5, $6)"
  | insertReviewer _ _ _ =>
    "INSERT INTO pr_reviewers (pull_request_id, user_id, position, assigned_at) " ++
      "VALUES ($1, $2, $3, $4)"
  | findPullRequest _ =>
    "SELECT pull_request_id, pull_request_name, author_id, status, created_at, merged_at " ++
      "FROM pull_requests WHERE pull_request_id = $1"
  | listPullRequests =>
    "SELECT pull_request_id, pull_request_name, author_id, status, created_at, merged_at " ++
      "FROM pull_requests ORDER BY pull_request_id"
  | findPullRequestsByReviewer _ =>
    "SELECT pr.pull_request_id, pr.pull_request_name, pr.author_id, pr.status, " ++
      "pr.created_at, pr.merged_at FROM pull_requests pr " ++
      "JOIN pr_reviewers r ON r.pull_request_id = pr.pull_request_id " ++
      "WHERE r.user_id = $1 ORDER BY pr.pull_request_id"
  | loadReviewers _ =>
    "SELECT pull_request_id, user_id, assigned_at FROM pr_reviewers " ++
      "WHERE pull_request_id = ANY($1) ORDER BY pull_request_id, position"
  | lockPullRequest _ => "SELECT status FROM pull_requests WHERE pull_request_id = $1 FOR UPDATE"
  | updatePullRequest _ =>
    "UPDATE pull_requests SET status = $2, merged_at = $3 WHERE pull_request_id = $1"
  | clearReviewers _ => "DELETE FROM pr_reviewers WHERE pull_request_id = $1"
  | findUser _ => "SELECT user_id, username, is_active, team_id FROM users WHERE user_id = $1"
  | saveUser _ =>
    "INSERT INTO users (user_id, username, is_active, team_id) VALUES ($1, $2, $3, $4) " ++
      "ON CONFLICT (user_id) DO UPDATE SET username = EXCLUDED.username, " ++
      "is_active = EXCLUDED.is_active, team_id = EXCLUDED.team_id"
  | insertTeam _ => "INSERT INTO teams (team_name) VALUES ($1) RETURNING id"
  | findTeamOf _ =>
    "SELECT t.id, t.team_name FROM teams t JOIN users u ON u.team_id = t.id " ++
      "WHERE u.user_id = $1"
  | loadMembers _ => "SELECT user_id FROM users WHERE team_id = $1 ORDER BY user_id"
  | findActiveMembers _ =>
    "SELECT user_id, username, is_active, team_id FROM users " ++
      "WHERE team_id = $1 AND is_active ORDER BY user_id"

/-- What an error says has failed. -/
def context : Statement → String
  | insertPullRequest _ => "Failed to create pull request"
  | insertReviewer _ _ _ => "Failed to insert reviewer"
  | findPullRequest _ => "Failed to find pull request by id"
  | listPullRequests => "Failed to list pull requests"
  | findPullRequestsByReviewer _ => "Failed to find pull requests by reviewer"
  | loadReviewers _ => "Failed to load reviewers"
  | lockPullRequest _ => "Failed to lock pull request"
  | updatePullRequest _ => "Failed to update pull request"
  | clearReviewers _ => "Failed to clear reviewers"
  | findUser _ => "Failed to find user by id"
  | saveUser _ => "Failed to save user"
  | insertTeam _ => "Failed to create team"
  | findTeamOf _ => "Failed to find team by user id"
  | loadMembers _ => "Failed to load team members"
  | findActiveMembers _ => "Failed to find active team members"

/-! ### Parameters -/

def instantOrNull (t : Option Instant) : Value := (t.map fun t => .instant (kept t)).getD .null

def teamOrNull (team : Option TeamId) : Value :=
  (team.map fun t => .integer t.value.toInt).getD .null

/-- A place on a roster as the database counts it, in sixteen bits. -/
def place (position : Nat) : Value := .integer (Int16.ofNat position).toInt

def parameters : Statement → List Value
  | insertPullRequest pr =>
    [.text pr.id.value, .text pr.title, .text pr.author.value, .text pr.status.label,
      .instant (kept pr.createdAt), instantOrNull pr.mergedAt]
  | insertReviewer id position reviewer =>
    [.text id.value, .text reviewer.user.value, place position,
      .instant (kept reviewer.assignedAt)]
  | findPullRequest id | lockPullRequest id | clearReviewers id => [.text id.value]
  | listPullRequests => []
  | loadReviewers ids => [.texts (ids.map PullRequestId.value)]
  | updatePullRequest pr =>
    [.text pr.id.value, .text pr.status.label, instantOrNull pr.mergedAt]
  | findPullRequestsByReviewer user | findUser user | findTeamOf user => [.text user.value]
  | saveUser user =>
    [.text user.id.value, .text user.name, .boolean user.active, teamOrNull user.team]
  | insertTeam name => [.text name]
  | loadMembers team | findActiveMembers team => [.integer team.value.toInt]

/-- Whether a statement changes what the database holds. -/
def isWrite : Statement → Bool
  | insertPullRequest _ | insertReviewer _ _ _ | updatePullRequest _ | clearReviewers _
  | saveUser _ | insertTeam _ => true
  | _ => false

end Statement

/-! ## Transactions -/

/-- The commands that begin a transaction, choose what it sees, and end it. -/
inductive Control where
  | begin
  | isolate
  | commit
  | rollback
  deriving DecidableEq, Repr

def Control.text : Control → String
  | begin => "BEGIN"
  | isolate => "SET TRANSACTION ISOLATION LEVEL REPEATABLE READ READ ONLY"
  | commit => "COMMIT"
  | rollback => "ROLLBACK"

inductive Command where
  | control (c : Control)
  | statement (s : Statement)
  deriving DecidableEq, Repr

namespace Command

def text : Command → String
  | control c => c.text
  | statement s => s.text

def parameters : Command → List Value
  | control _ => []
  | statement s => s.parameters

end Command

end ReviewDesk.Sql
