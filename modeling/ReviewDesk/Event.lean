-- What the desk writes into its log: a level, a text that is always the same for the
-- same kind of event, and named fields.
import ReviewDesk.Assignment.Error
import ReviewDesk.Text.Quoted

namespace ReviewDesk

inductive Level where
  | debug
  | info
  | warn
  | error
  deriving DecidableEq, Repr

/-- The value of a field. -/
inductive FieldValue where
  | text (s : String)
  | count (n : Nat)
  deriving DecidableEq, Repr

inductive Event where
  | reviewersSelected (id : PullRequestId) (pool selected : Nat)
  | pullRequestCreated (id : PullRequestId) (author : UserId) (reviewers : List UserId)
  | reviewerReassigned (id : PullRequestId) (old new : UserId)
  | pullRequestMerged (id : PullRequestId)
  | mergeWriteFailed (id : PullRequestId) (error : StoreError)
  | reviewerUnknown (user : UserId)
  | requestFailed (error : AssignmentError)
  deriving DecidableEq, Repr

namespace Event

def level : Event → Level
  | reviewersSelected _ _ _ | reviewerUnknown _ => .debug
  | pullRequestCreated _ _ _ | reviewerReassigned _ _ _ | pullRequestMerged _ => .info
  | mergeWriteFailed _ _ => .warn
  | requestFailed _ => .error

def text : Event → String
  | reviewersSelected _ _ _ => "Selected reviewers"
  | pullRequestCreated _ _ _ => "Pull request created"
  | reviewerReassigned _ _ _ => "Reviewer reassigned"
  | pullRequestMerged _ => "Pull request merged"
  | mergeWriteFailed _ _ => "Merge write failed, re-reading pull request"
  | reviewerUnknown _ => "Skipping stats for unknown reviewer"
  | requestFailed _ => "Request failed"

/-- A roster as a field shows it: each id quoted and marked as the id of a user. -/
def rosterText (users : List UserId) : String :=
  "[" ++ String.intercalate ", " (users.map fun u => "UserId(" ++ Quoted.quote u.value ++ ")") ++
    "]"

def fields : Event → List (String × FieldValue)
  | reviewersSelected id pool selected =>
    [("pull_request_id", .text id.value), ("pool", .count pool), ("selected", .count selected)]
  | pullRequestCreated id author reviewers =>
    [("pull_request_id", .text id.value), ("author_id", .text author.value),
      ("reviewers", .text (rosterText reviewers))]
  | reviewerReassigned id old new =>
    [("pull_request_id", .text id.value), ("old_reviewer_id", .text old.value),
      ("new_reviewer_id", .text new.value)]
  | pullRequestMerged id => [("pull_request_id", .text id.value)]
  | mergeWriteFailed id error =>
    [("pull_request_id", .text id.value), ("error", .text error.message)]
  | reviewerUnknown user => [("user_id", .text user.value)]
  | requestFailed error => [("error", .text error.message)]

end Event

end ReviewDesk
