-- The HTTP interface of the desk: which targets there are, which methods they allow, and
-- what each request does.
import ReviewDesk.Assignment.Operations
import ReviewDesk.Http.Rendering
import ReviewDesk.Http.Request
import ReviewDesk.Http.Response

namespace ReviewDesk

/-- The targets. A pull request is shown under its id, which is one part of the path. -/
inductive Route where
  | health
  | create
  | merge
  | reassign
  | pullRequest (part : List Char)
  | reviews
  | reviewerStatistics
  | pullRequestStatistics
  deriving DecidableEq, Repr

namespace Route

/-- The targets whose path is always the same. -/
def fixed : List (String × Route) :=
  [("/health", health), ("/pullRequest/create", create), ("/pullRequest/merge", merge),
    ("/pullRequest/reassign", reassign), ("/users/getReview", reviews),
    ("/stats/reviewers", reviewerStatistics), ("/stats/pullRequests", pullRequestStatistics)]

/-- What stands before the id of a pull request. -/
def pullRequestPath : List Char := "/pullRequest/".toList

/-- The target of a path. A fixed path comes before the id of a pull request. -/
def ofPath? (path : List Char) : Option Route :=
  match fixed.find? (·.1.toList = path) with
  | some (_, route) => some route
  | none =>
    let part := path.drop pullRequestPath.length
    if path.take pullRequestPath.length = pullRequestPath ∧ part ≠ [] ∧ '/' ∉ part then
      some (pullRequest part)
    else none

/-- The methods that a target allows. -/
def methods : Route → List String
  | create | merge | reassign => ["POST"]
  | _ => ["GET", "HEAD"]

end Route

namespace Api

open Program

/-- Ends a request with the response of an operation, or with its refusal. Only a failure of
what the desk stands on is logged. -/
def respond (operation : Operation Response) : Program Response := do
  match ← operation.run with
  | .ok response => return response
  | .error e =>
    if e.kind = .infrastructure then log (.requestFailed e)
    return (ApiError.ofAssignment e).response

def refuse (message : String) : Program Response := return (ApiError.badRequest message).response

/-- Goes on with a body that can be used. -/
def withBody {α : Type} (read : Json.Input → Except Json.Refusal (α × Json.Input))
    (request : Request) (go : α → Operation Response) : Program Response :=
  match request.readBody read with
  | .ok body => respond (go body)
  | .error flaw => refuse ("invalid request body: " ++ flaw.text)

/-- Goes on with a query that can be used. -/
def withQuery (request : Request) (go : UserQuery → Program Response) : Program Response :=
  match UserQuery.ofQuery? request.query with
  | some query => go query
  | none => refuse "Failed to deserialize query string"

def create (chance : Chance) (body : CreateRequest) : Operation Response := do
  let pr ← Operation.ofChange
    (PullRequest.new (chance.clock 0) ⟨body.pullRequest⟩ body.title ⟨body.author⟩ [])
  let pr ← Assignment.create chance.afterReading pr
  return .json 201 pr.envelope

def merge (chance : Chance) (body : MergeRequest) : Operation Response := do
  let pr ← Assignment.merge chance ⟨body.pullRequest⟩
  return .json 200 pr.envelope

def reassign (chance : Chance) (body : ReassignRequest) : Operation Response := do
  let (new, pr) ← Assignment.reassign chance ⟨body.pullRequest⟩ ⟨body.oldUser⟩
  return .json 200 (pr.reassigned new)

/-- Shows the pull request whose id a part of a path spells. -/
def pullRequest (part : List Char) : Program Response :=
  match Utf8.decode? (Percent.decodeText (String.ofList part)) with
  | none => return .plain 400 "Invalid URL: Invalid UTF-8 in `id`"
  | some id => respond do
    let pr ← Assignment.get ⟨id⟩
    return .json 200 pr.envelope

def reviews (query : UserQuery) : Program Response :=
  match query.user? with
  | none => refuse "user_id is required"
  | some user => respond do
    let prs ← Assignment.reviewsFor user
    return .json 200 (reviewsJson user prs)

def reviewerStatistics (query : UserQuery) : Program Response :=
  respond <|
    match query.user? with
    | some user => do
      let stats ← Assignment.reviewerStatisticsFor user
      return .json 200 stats.toJson
    | none => do
      let users ← Assignment.reviewerStatistics
      let totals ← Assignment.pullRequestStatistics
      return .json 200 (reviewersJson users totals.total)

def pullRequestStatistics : Operation Response := do
  let stats ← Assignment.pullRequestStatistics
  return .json 200 stats.toJson

/-- What a request to a target does, by a method that the target allows. -/
def handle (chance : Chance) (request : Request) : Route → Program Response
  | .health => return .plain 200 "OK"
  | .create => withBody CreateRequest.read request (create chance)
  | .merge => withBody MergeRequest.read request (merge chance)
  | .reassign => withBody ReassignRequest.read request (reassign chance)
  | .pullRequest part => pullRequest part
  | .reviews => withQuery request reviews
  | .reviewerStatistics => withQuery request reviewerStatistics
  | .pullRequestStatistics => respond pullRequestStatistics

/-- Serves a request. `HEAD` is `GET` without the body. -/
def serve (chance : Chance) (request : Request) : Program Response :=
  match Route.ofPath? request.path with
  | none => return .notFound
  | some route =>
    if request.method ∉ route.methods then return .notAllowed route.methods
    else if request.method = "HEAD" then do
      let response ← handle chance request route
      return response.withoutBody
    else handle chance request route

end Api

end ReviewDesk
