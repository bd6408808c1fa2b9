-- The operations of the desk. Each is a program over the store: what it reads, what it
-- decides, and the one write that it makes at the end, if any.
import ReviewDesk.Assignment.Selection
import ReviewDesk.Assignment.Statistics
import ReviewDesk.Program

namespace ReviewDesk

/-- What an operation takes from outside besides its arguments: the clock, each time that
it is read, and the draws of a shuffle. -/
structure Chance where
  clock : Nat → Instant
  draws : Draws

namespace Chance

/-- What is left after the clock was read once. -/
def afterReading (chance : Chance) : Chance :=
  { chance with clock := fun n => chance.clock (n + 1) }

end Chance

/-- A program that may be refused. -/
abbrev Operation (α : Type) := ExceptT AssignmentError Program α

namespace Operation

/-- Makes a call. An error of the store ends the operation. -/
def ask (c : Call) : Operation c.Answer :=
  ExceptT.mk do
    match ← Program.ask c with
    | .ok answer => pure (.ok answer)
    | .error e => pure (.error (.store e))

/-- Makes a call and goes on whatever the reply is. -/
def attempt (c : Call) : Operation c.Reply := ExceptT.lift (Program.ask c)

def log (event : Event) : Operation Unit := ExceptT.lift (Program.log event)

/-- Ends the operation unless there is a value. -/
def require {α : Type} (error : AssignmentError) : Option α → Operation α
  | some a => pure a
  | none => throw error

/-- Takes over the outcome of a change to a pull request. -/
def ofChange {α : Type} : Except PullRequestError α → Operation α
  | .ok a => pure a
  | .error e => throw (.pullRequest e)

end Operation

namespace Assignment

open Operation

/-! ## Parts -/

def load (id : PullRequestId) : Operation PullRequest := do
  require (.pullRequestNotFound id) (← ask (.findPullRequest id))

def findUser (user : UserId) : Operation User := do
  require (.userNotFound user) (← ask (.findUser user))

/-- The active members of the team that a user is in. -/
def activeTeammates (user : UserId) : Operation (List User) := do
  let team ← require (.teamNotFound user) (← ask (.findTeamOf user))
  ask (.findActiveMembers team.id)

/-! ## Pull requests -/

/-- Stores a new pull request, after filling the free places of its roster with active
teammates of the author. -/
def create (chance : Chance) (pr : PullRequest) : Operation PullRequest := do
  if (← ask (.findPullRequest pr.id)).isSome then
    throw (.pullRequestAlreadyExists pr.id)
  let author ← require (.authorNotFound pr.author) (← ask (.findUser pr.author))
  let candidates ← activeTeammates author.id
  let selected := Selection.select chance.draws candidates author.id pr.reviewerIds
    (maxReviewers - pr.reviewers.length)
  log (.reviewersSelected pr.id candidates.length selected.length)
  let pr ← ofChange (pr.assignAll chance.clock selected)
  let _ ← ask (.createPullRequest pr)
  log (.pullRequestCreated pr.id pr.author pr.reviewerIds)
  return pr

/-- Gives the place of one reviewer to another active teammate of the author. -/
def reassign (chance : Chance) (id : PullRequestId) (old : UserId) :
    Operation (UserId × PullRequest) := do
  let pr ← load id
  if pr.isMerged then throw (.pullRequestAlreadyMerged pr.id)
  if !pr.hasReviewer old then throw (.userNotReviewer pr.id old)
  let candidates ← activeTeammates pr.author
  let excluded := pr.reviewerIds ++ [pr.author, old]
  let new ← require .noCandidate
    (Selection.selectOne? chance.draws candidates pr.author excluded)
  let pr ← ofChange (pr.reassign (chance.clock 0) old new)
  let _ ← ask (.updatePullRequest pr)
  log (.reviewerReassigned pr.id old new)
  return (new, pr)

/-- Merges a pull request. When the write fails, somebody else may have merged it in the
meantime, and then that merge is the answer. -/
def merge (chance : Chance) (id : PullRequestId) : Operation PullRequest := do
  let pr ← load id
  if pr.isMerged then return pr
  let pr := pr.merge (chance.clock 0)
  match ← attempt (.updatePullRequest pr) with
  | .ok _ =>
    log (.pullRequestMerged pr.id)
    return pr
  | .error e =>
    log (.mergeWriteFailed id e)
    match ← attempt (.findPullRequest id) with
    | .ok (some latest) => if latest.isMerged then return latest else throw (.mergeFailed id e)
    | _ => throw (.mergeFailed id e)

def get (id : PullRequestId) : Operation PullRequest := load id

/-! ## Reviewers -/

/-- The pull requests that a known user reviews. -/
def reviewsFor (user : UserId) : Operation (List PullRequest) := do
  let _ ← findUser user
  ask (.findPullRequestsByReviewer user)

/-- Looks up the name of each reviewer. A reviewer whom the store does not know is left out. -/
def nameReviewers : List (UserId × Counts) → Operation (List ReviewerStats)
  | [] => return []
  | (user, counts) :: rest => do
    match ← ask (.findUser user) with
    | some known => return ⟨user, known.name, counts⟩ :: (← nameReviewers rest)
    | none =>
      log (.reviewerUnknown user)
      nameReviewers rest

/-- The assignments of every reviewer. -/
def reviewerStatistics : Operation (List ReviewerStats) := do
  let prs ← ask .findAllPullRequests
  nameReviewers (Statistics.assignmentCounts prs)

/-- The assignments of one user. -/
def reviewerStatisticsFor (user : UserId) : Operation ReviewerStats := do
  let known ← findUser user
  let prs ← ask (.findPullRequestsByReviewer user)
  return ⟨known.id, known.name, Statistics.countsFor prs user⟩

/-- The totals over all pull requests. -/
def pullRequestStatistics : Operation PullRequestStats := do
  let prs ← ask .findAllPullRequests
  return Statistics.totals prs

end Assignment

end ReviewDesk
