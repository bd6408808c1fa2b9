-- The JSON that answers are made of.
import ReviewDesk.Assignment.Statistics
import ReviewDesk.Json.Value
import ReviewDesk.PullRequest
import ReviewDesk.Time.Calendar

namespace ReviewDesk

def UserId.toJson (user : UserId) : Json := .string user.value

def PullRequestId.toJson (id : PullRequestId) : Json := .string id.value

def Status.toJson (status : Status) : Json := .string status.label

def Instant.toJson (t : Instant) : Json := .string t.rfc3339

namespace Reviewer

def toJson (r : Reviewer) : Json :=
  .object [("user_id", r.user.toJson), ("assigned_at", r.assignedAt.toJson)]

end Reviewer

namespace PullRequest

/-- A pull request in full. The time of the merge is left out where there is none. -/
def toJson (pr : PullRequest) : Json :=
  .object <|
    [("pull_request_id", pr.id.toJson), ("pull_request_name", .string pr.title),
      ("author_id", pr.author.toJson), ("status", pr.status.toJson),
      ("assigned_reviewers", .array (pr.reviewerIds.map UserId.toJson)),
      ("createdAt", pr.createdAt.toJson)] ++
    pr.mergedAt.toList.map fun t => ("mergedAt", t.toJson)

/-- A pull request in short, as it stands in a list. -/
def toShortJson (pr : PullRequest) : Json :=
  .object
    [("pull_request_id", pr.id.toJson), ("pull_request_name", .string pr.title),
      ("author_id", pr.author.toJson), ("status", pr.status.toJson)]

/-- The answer about one pull request. -/
def envelope (pr : PullRequest) : Json := .object [("pr", pr.toJson)]

/-- The answer to a reassignment. -/
def reassigned (pr : PullRequest) (new : UserId) : Json :=
  .object [("pr", pr.toJson), ("replaced_by", new.toJson)]

end PullRequest

/-- The pull requests that a user reviews. -/
def reviewsJson (user : UserId) (prs : List PullRequest) : Json :=
  .object
    [("user_id", user.toJson), ("pull_requests", .array (prs.map PullRequest.toShortJson))]

namespace ReviewerStats

def toJson (stats : ReviewerStats) : Json :=
  .object
    [("user_id", stats.user.toJson), ("username", .string stats.name),
      ("total_assignments", .natural stats.counts.total),
      ("open_assignments", .natural stats.counts.opened),
      ("merged_assignments", .natural stats.counts.merged)]

end ReviewerStats

namespace PullRequestStats

def toJson (stats : PullRequestStats) : Json :=
  .object
    [("total_pull_requests", .natural stats.total),
      ("open_pull_requests", .natural stats.opened),
      ("merged_pull_requests", .natural stats.merged),
      ("total_reviewers", .natural stats.reviewers),
      ("avg_reviewers_per_pr", .float stats.average)]

end PullRequestStats

/-- The assignments of all reviewers, beside the number of pull requests. -/
def reviewersJson (users : List ReviewerStats) (total : Nat) : Json :=
  .object
    [("users", .array (users.map ReviewerStats.toJson)), ("total_pull_requests", .natural total)]

end ReviewDesk
