-- What the desk can ask of the store. Each call is answered at once and as a whole, or
-- fails with an error of the store.
import ReviewDesk.PullRequest
import ReviewDesk.StoreError
import ReviewDesk.Team
import ReviewDesk.User

namespace ReviewDesk

inductive Call where
  | createPullRequest (pr : PullRequest)
  | findPullRequest (id : PullRequestId)
  | updatePullRequest (pr : PullRequest)
  | findAllPullRequests
  | findPullRequestsByReviewer (user : UserId)
  | findUser (user : UserId)
  | findTeamOf (user : UserId)
  | findActiveMembers (team : TeamId)
  deriving DecidableEq, Repr

namespace Call

/-- What a call that does not fail is answered with. -/
@[reducible]
def Answer : Call → Type
  | createPullRequest _ => Unit
  | findPullRequest _ => Option PullRequest
  | updatePullRequest _ => Unit
  | findAllPullRequests => List PullRequest
  | findPullRequestsByReviewer _ => List PullRequest
  | findUser _ => Option User
  | findTeamOf _ => Option Team
  | findActiveMembers _ => List User

/-- What a call is answered with. -/
abbrev Reply (c : Call) : Type := Except StoreError c.Answer

/-- Whether a call can change the store. -/
def isWrite : Call → Bool
  | createPullRequest _ | updatePullRequest _ => true
  | _ => false

end Call

end ReviewDesk
