-- Why the desk refuses what it is asked to do.
import ReviewDesk.PullRequest
import ReviewDesk.StoreError

namespace ReviewDesk

inductive AssignmentError where
  | pullRequestAlreadyExists (id : PullRequestId)
  | authorNotFound (user : UserId)
  | teamNotFound (user : UserId)
  | pullRequestNotFound (id : PullRequestId)
  | pullRequestAlreadyMerged (id : PullRequestId)
  | userNotFound (user : UserId)
  | userNotReviewer (id : PullRequestId) (user : UserId)
  | noCandidate
  | pullRequest (error : PullRequestError)
  | store (error : StoreError)
  | mergeFailed (id : PullRequestId) (error : StoreError)
  deriving DecidableEq, Repr

namespace AssignmentError

def kind : AssignmentError → ErrorKind
  | pullRequestAlreadyExists _ | pullRequestAlreadyMerged _ => .conflict
  | authorNotFound _ | teamNotFound _ | pullRequestNotFound _ | userNotFound _ => .notFound
  | userNotReviewer _ _ | noCandidate => .invalidState
  | pullRequest error => error.kind
  | store error => error.kind
  | mergeFailed _ _ => .transient

def message : AssignmentError → String
  | pullRequestAlreadyExists id => "pull request " ++ id.value ++ " already exists"
  | authorNotFound user => "author " ++ user.value ++ " not found"
  | teamNotFound user => "team not found for user " ++ user.value
  | pullRequestNotFound id => "pull request " ++ id.value ++ " not found"
  | pullRequestAlreadyMerged id => "pull request " ++ id.value ++ " already merged"
  | userNotFound user => "user " ++ user.value ++ " not found"
  | userNotReviewer id user =>
    "user " ++ user.value ++ " is not a reviewer of pull request " ++ id.value
  | noCandidate => "no active replacement candidate in team"
  | pullRequest error => error.message
  | store error => error.message
  | mergeFailed id error => "merge of pull request " ++ id.value ++ " failed: " ++ error.message

end AssignmentError

end ReviewDesk
