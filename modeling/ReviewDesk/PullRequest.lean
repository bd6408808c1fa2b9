-- A pull request and its roster of reviewers: how it is opened, how the roster
-- changes, and how it is merged. The roster holds at most two reviewers, nobody
-- twice and never the author, and nothing changes once the pull request is merged.
import ReviewDesk.ErrorKind
import ReviewDesk.Ids
import ReviewDesk.Time.Instant

namespace ReviewDesk

/-- The most reviewers that a roster holds. -/
def maxReviewers : Nat := 2

/-! ## Status -/

inductive Status where
  | opened
  | merged
  deriving DecidableEq, Repr

namespace Status

/-- The status as it is written. -/
def label : Status → String
  | opened => "OPEN"
  | merged => "MERGED"

def ofLabel? (text : String) : Option Status :=
  if text = "OPEN" then some opened else if text = "MERGED" then some merged else none

/-- An open pull request can be merged. There is no other change of status. -/
def canBecome : Status → Status → Bool
  | opened, merged => true
  | _, _ => false

end Status

/-! ## Refusals -/

/-- Why a roster cannot be the first one. -/
inductive RosterFlaw where
  | tooLong (count : Nat)
  | hasAuthor (user : UserId)
  | listedTwice (user : UserId)
  | other (text : String)
  deriving DecidableEq, Repr

namespace RosterFlaw

def text : RosterFlaw → String
  | tooLong count =>
    "at most " ++ toString maxReviewers ++ " reviewers allowed, got " ++ toString count
  | hasAuthor user => "author " ++ user.value ++ " cannot review their own pull request"
  | listedTwice user => "reviewer " ++ user.value ++ " listed twice"
  | other text => text

end RosterFlaw

/-- Why a pull request cannot be opened, or a change of it not made. -/
inductive PullRequestError where
  | missingId
  | missingTitle
  | missingAuthor
  | invalidRoster (flaw : RosterFlaw)
  | tooManyReviewers
  | alreadyMerged
  | authorIsReviewer (user : UserId)
  | alreadyAssigned (user : UserId)
  | reviewerNotAssigned (user : UserId)
  deriving DecidableEq, Repr

namespace PullRequestError

def kind : PullRequestError → ErrorKind
  | missingId | missingTitle | missingAuthor | invalidRoster _ => .validation
  | alreadyMerged => .conflict
  | tooManyReviewers | authorIsReviewer _ | alreadyAssigned _ | reviewerNotAssigned _ =>
    .invalidState

def message : PullRequestError → String
  | missingId => "pr: no pull_request_id"
  | missingTitle => "pr: no pull_request_name"
  | missingAuthor => "pr: no author_id"
  | invalidRoster flaw => "pr: invalid initial reviewers: " ++ flaw.text
  | tooManyReviewers => "pr: too many reviewers"
  | alreadyMerged => "pull request is already merged"
  | authorIsReviewer user => "pr: can't assign author " ++ user.value ++ " as reviewer"
  | alreadyAssigned user => "pr: user " ++ user.value ++ " is already a reviewer"
  | reviewerNotAssigned user => "reviewer " ++ user.value ++ " is not assigned to this PR"

end PullRequestError

/-! ## The pull request -/

/-- One place on a roster: who reviews, and since when. -/
structure Reviewer where
  user : UserId
  assignedAt : Instant
  deriving DecidableEq, Repr

/-- A pull request as it is kept. A value that was read back may hold any roster and any
times. -/
structure PullRequest where
  id : PullRequestId
  title : String
  author : UserId
  status : Status
  reviewers : List Reviewer
  createdAt : Instant
  mergedAt : Option Instant
  deriving DecidableEq, Repr

namespace PullRequest

/-- The reviewers in roster order. -/
def reviewerIds (pr : PullRequest) : List UserId := pr.reviewers.map Reviewer.user

def hasReviewer (pr : PullRequest) (user : UserId) : Bool :=
  pr.reviewers.any (·.user = user)

def hasEnoughReviewers (pr : PullRequest) : Bool := maxReviewers ≤ pr.reviewers.length

def isMerged (pr : PullRequest) : Bool := pr.status = .merged

/-! ### Opening -/

/-- Puts the first reviewers on the roster, all assigned when the pull request was made. -/
def listReviewers : List UserId → PullRequest → Except PullRequestError PullRequest
  | [], pr => .ok pr
  | user :: rest, pr =>
    if user = pr.author then .error (.invalidRoster (.hasAuthor user))
    else if pr.hasReviewer user then .error (.invalidRoster (.listedTwice user))
    else listReviewers rest { pr with reviewers := pr.reviewers ++ [⟨user, pr.createdAt⟩] }

/-- A new pull request is open. It needs an id, a title and an author, in this order, and
its first roster must be a good one. -/
def new (clock : Instant) (id : PullRequestId) (title : String) (author : UserId)
    (reviewers : List UserId) : Except PullRequestError PullRequest :=
  if id.value = "" then .error .missingId
  else if title = "" then .error .missingTitle
  else if author.value = "" then .error .missingAuthor
  else if maxReviewers < reviewers.length then
    .error (.invalidRoster (.tooLong reviewers.length))
  else
    listReviewers reviewers
      { id, title, author, status := .opened, reviewers := [],
        createdAt := clock.toMicrosecond, mergedAt := none }

/-! ### Time -/

/-- Every time that the pull request holds. -/
def instants (pr : PullRequest) : List Instant :=
  pr.createdAt :: pr.reviewers.map Reviewer.assignedAt ++ pr.mergedAt.toList

/-- The latest time that the pull request holds. -/
def latest (pr : PullRequest) : Instant :=
  (pr.reviewers.map Reviewer.assignedAt ++ pr.mergedAt.toList).foldl Instant.later pr.createdAt

/-- A time later than every time that the pull request holds: the clock, cut to a
microsecond, when it is late enough, and otherwise one microsecond after the latest. -/
def nextInstant (pr : PullRequest) (clock : Instant) : Instant :=
  if pr.latest < clock.toMicrosecond then clock.toMicrosecond else pr.latest.nextMicrosecond

/-! ### Changes -/

/-- Puts a reviewer at the end of the roster. -/
def assign (pr : PullRequest) (clock : Instant) (user : UserId) :
    Except PullRequestError PullRequest :=
  if pr.isMerged then .error .alreadyMerged
  else if user = pr.author then .error (.authorIsReviewer user)
  else if pr.hasEnoughReviewers then .error .tooManyReviewers
  else if pr.hasReviewer user then .error (.alreadyAssigned user)
  else .ok { pr with reviewers := pr.reviewers ++ [⟨user, pr.nextInstant clock⟩] }

/-- Assigns each user of a list in turn. The n-th assignment reads the clock the n-th time. -/
def assignAll (clock : Nat → Instant) : List UserId → PullRequest →
    Except PullRequestError PullRequest
  | [], pr => .ok pr
  | user :: rest, pr =>
    match pr.assign (clock 0) user with
    | .error e => .error e
    | .ok pr => assignAll (fun n => clock (n + 1)) rest pr

/-- Takes a reviewer off the roster. Nothing happens when the user is not on it. -/
def unassign (pr : PullRequest) (user : UserId) : Except PullRequestError PullRequest :=
  if pr.isMerged then .error .alreadyMerged
  else .ok { pr with reviewers := pr.reviewers.filter (·.user ≠ user) }

/-- Writes an entry over the first place that a user holds. -/
def replaceFirst (old : UserId) (entry : Reviewer) : List Reviewer → List Reviewer
  | [] => []
  | r :: rest => if r.user = old then entry :: rest else r :: replaceFirst old entry rest

/-- Gives the place of one reviewer to another user. -/
def reassign (pr : PullRequest) (clock : Instant) (old new : UserId) :
    Except PullRequestError PullRequest :=
  if pr.isMerged then .error .alreadyMerged
  else if !pr.hasReviewer old then .error (.reviewerNotAssigned old)
  else if new = pr.author then .error (.authorIsReviewer new)
  else if pr.hasReviewer new then .error (.alreadyAssigned new)
  else .ok { pr with reviewers := replaceFirst old ⟨new, pr.nextInstant clock⟩ pr.reviewers }

/-- Merges an open pull request. A merged one stays as it is. -/
def merge (pr : PullRequest) (clock : Instant) : PullRequest :=
  if pr.status.canBecome .merged then
    { pr with status := .merged, mergedAt := some (pr.nextInstant clock) }
  else pr

end PullRequest

end ReviewDesk
