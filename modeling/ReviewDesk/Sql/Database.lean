-- The store in a database: which statements answer each call. A pull request is a row,
-- and each place on its roster is a row of its own, so a write is one transaction and a
-- read sees both tables at one moment.
import ReviewDesk.Program
import ReviewDesk.Sql.Exchange
import ReviewDesk.Sql.Record

namespace ReviewDesk.Sql.Database

open Attempt

/-! ## Pull requests -/

/-- Inserts the places of a roster, from one position on. -/
def insertReviewers (id : PullRequestId) : Nat → List Reviewer → Attempt Unit
  | _, [] => return
  | position, reviewer :: rest => do
    execute (.insertReviewer id position reviewer)
    insertReviewers id (position + 1) rest

/-- Inserts a pull request and its roster. -/
def createPullRequest (pr : PullRequest) : Attempt Unit :=
  transaction "Failed to commit pull request" do
    execute (.insertPullRequest pr)
    insertReviewers pr.id 0 pr.reviewers

/-- Writes the status and the roster of an open pull request. Its row stays locked from the
look at its status on. -/
def updatePullRequest (pr : PullRequest) : Attempt Unit :=
  transaction "Failed to commit pull request update" do
    let status? ← fetchFirst? (.lockPullRequest pr.id) fun row => readStatus .only (row.get 0)
    match status? with
    | none => throw (.notFound ("pull request " ++ pr.id.value))
    | some .merged =>
      throw (.conflict ("pull request " ++ pr.id.value ++ " is already merged"))
    | some .opened =>
      execute (.updatePullRequest pr)
      execute (.clearReviewers pr.id)
      insertReviewers pr.id 0 pr.reviewers

/-- Loads the rosters of pull requests. -/
def loadRosters (prs : List PullRequest) : Attempt (List PullRequest) := do
  let places ← fetchAll (.loadReviewers (prs.map PullRequest.id)) readReviewer
  return (Rosters.ofPlaces places).handOut prs

def findPullRequest (id : PullRequestId) : Attempt (Option PullRequest) :=
  snapshot do
    match ← fetchFirst? (.findPullRequest id) readPullRequest with
    | some pr => return (← loadRosters [pr]).head?
    | none => return none

/-- Finds the pull requests that a statement selects. -/
def findPullRequests (s : Statement) : Attempt (List PullRequest) :=
  snapshot do
    loadRosters (← fetchAll s readPullRequest)

/-! ## Users and teams -/

def findUser (user : UserId) : Attempt (Option User) := fetchFirst? (.findUser user) readUser

/-- Inserts a user, or writes over the one with the same id. -/
def saveUser (user : User) : Attempt Unit := execute (.saveUser user)

/-- Inserts a team, which gets its number from the database. -/
def createTeam (name : String) : Attempt Team := do
  let s := .insertTeam name
  match ← fetchFirst? s fun row => readTeamId .only (row.get 0) with
  | some id => return .ofRecord id name []
  | none => throw (Cause.noRow.error s.context)

/-- The team of a user. Its members are loaded by a second statement. -/
def findTeamOf (user : UserId) : Attempt (Option Team) := do
  match ← fetchFirst? (.findTeamOf user) readTeam with
  | none => return none
  | some (id, name) =>
    let members ← fetchAll (.loadMembers id) fun row => readText .only (row.get 0)
    return some (.ofRecord id name (members.map UserId.mk))

def findActiveMembers (team : TeamId) : Attempt (List User) :=
  fetchAll (.findActiveMembers team) readUser

/-! ## Calls -/

/-- Answers a call. -/
def answer : (c : Call) → Exchange c.Reply
  | .createPullRequest pr => (createPullRequest pr).run
  | .findPullRequest id => (findPullRequest id).run
  | .updatePullRequest pr => (updatePullRequest pr).run
  | .findAllPullRequests => (findPullRequests .listPullRequests).run
  | .findPullRequestsByReviewer user => (findPullRequests (.findPullRequestsByReviewer user)).run
  | .findUser user => (findUser user).run
  | .findTeamOf user => (findTeamOf user).run
  | .findActiveMembers team => (findActiveMembers team).run

/-- The exchange that a program leads to. What it logs is left out. -/
def exchange {α : Type} (p : Program α) : Exchange α := p.interpret answer fun _ => return

end ReviewDesk.Sql.Database
