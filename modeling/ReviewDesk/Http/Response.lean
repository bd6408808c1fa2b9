-- Responses, and how a refusal becomes one: a status, a code that a program can tell
-- apart, and a message for a reader.
import ReviewDesk.Assignment.Error
import ReviewDesk.Json.Value

namespace ReviewDesk

/-- A response. The methods are those that a target allows, where that is the answer. -/
structure Response where
  status : Nat
  contentType : Option String
  allow : List String
  body : String
  deriving DecidableEq, Repr

namespace Response

def json (status : Nat) (value : Json) : Response :=
  { status, contentType := some "application/json", allow := [], body := value.text }

def plain (status : Nat) (text : String) : Response :=
  { status, contentType := some "text/plain; charset=utf-8", allow := [], body := text }

/-- The target does not exist. -/
def notFound : Response := { status := 404, contentType := none, allow := [], body := "" }

/-- The target exists, for other methods. -/
def notAllowed (allow : List String) : Response :=
  { status := 405, contentType := none, allow, body := "" }

def withoutBody (r : Response) : Response := { r with body := "" }

/-- Whether the response says that all went well. -/
def isSuccess (r : Response) : Bool := 200 ≤ r.status && r.status < 300

end Response

/-! ## Refusals -/

def ErrorKind.status : ErrorKind → Nat
  | .notFound => 404
  | .conflict | .invalidState => 409
  | .validation => 400
  | .transient => 503
  | .infrastructure => 500

def ErrorKind.code : ErrorKind → String
  | .notFound => "NOT_FOUND"
  | .conflict => "CONFLICT"
  | .invalidState => "INVALID_STATE"
  | .validation => "INVALID_REQUEST"
  | .transient => "SERVICE_UNAVAILABLE"
  | .infrastructure => "INTERNAL_ERROR"

/-- A refusal as a client sees it. -/
structure ApiError where
  status : Nat
  code : String
  message : String
  deriving DecidableEq, Repr

namespace ApiError

/-- The code of an error: one of its own where a client may act on it, and else that of its
kind. -/
def codeOf : AssignmentError → String
  | .pullRequestAlreadyExists _ => "PR_EXISTS"
  | .pullRequestAlreadyMerged _ | .pullRequest .alreadyMerged => "PR_MERGED"
  | .userNotReviewer _ _ | .pullRequest (.reviewerNotAssigned _) => "NOT_ASSIGNED"
  | .noCandidate => "NO_CANDIDATE"
  | .mergeFailed _ _ => "SERVICE_UNAVAILABLE"
  | e => e.kind.code

def ofAssignment (e : AssignmentError) : ApiError := ⟨e.kind.status, codeOf e, e.message⟩

def badRequest (message : String) : ApiError := ⟨400, "INVALID_REQUEST", message⟩

def response (e : ApiError) : Response :=
  .json e.status (.object
    [("error", .object [("code", .string e.code), ("message", .string e.message)])])

end ApiError

end ReviewDesk
