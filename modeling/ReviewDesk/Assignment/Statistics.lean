-- How much reviewing there is: per reviewer, and over all pull requests.
import ReviewDesk.Number.Binary64
import ReviewDesk.PullRequest
import ReviewDesk.Register

namespace ReviewDesk

/-- How many assignments there are: in all, and on open and on merged pull requests. -/
structure Counts where
  total : Nat
  opened : Nat
  merged : Nat
  deriving DecidableEq, Repr, Inhabited

/-- The assignments of one reviewer, under the name that the reviewer goes by. -/
structure ReviewerStats where
  user : UserId
  name : String
  counts : Counts
  deriving DecidableEq, Repr

/-- The totals over all pull requests. -/
structure PullRequestStats where
  total : Nat
  opened : Nat
  merged : Nat
  reviewers : Nat
  deriving DecidableEq, Repr

namespace Counts

/-- Counts one more assignment, to a pull request of a status. -/
def record (counts : Counts) : Status → Counts
  | .opened => { counts with total := counts.total + 1, opened := counts.opened + 1 }
  | .merged => { counts with total := counts.total + 1, merged := counts.merged + 1 }

end Counts

namespace Statistics

/-- Counts each place on the roster of a pull request. -/
def countRoster (counts : Keyed UserId Counts) (pr : PullRequest) : Keyed UserId Counts :=
  pr.reviewerIds.foldl (fun counts user => counts.change user (·.record pr.status)) counts

/-- The assignments of each reviewer, in the order of the reviewers. A reviewer who holds two
places of a roster is counted twice for it. -/
def assignmentCounts (prs : List PullRequest) : List (UserId × Counts) :=
  (prs.foldl countRoster .empty).entries

/-- The pull requests that a user reviews, counted once each. -/
def countsFor (prs : List PullRequest) (user : UserId) : Counts :=
  (prs.filter (·.hasReviewer user)).foldl (fun counts pr => counts.record pr.status) default

/-- The totals. What is not merged is open. -/
def totals (prs : List PullRequest) : PullRequestStats :=
  let merged := prs.countP PullRequest.isMerged
  { total := prs.length
    opened := prs.length - merged
    merged
    reviewers := prs.foldl (fun places pr => places + pr.reviewers.length) 0 }

end Statistics

namespace PullRequestStats

/-- The reviewers per pull request on average, and zero where there is no pull request. -/
def average (stats : PullRequestStats) : Binary64 := .ofRatio stats.reviewers stats.total

end PullRequestStats

end ReviewDesk
