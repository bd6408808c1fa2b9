-- Requests: where they go, and what their bodies and queries hold.
import ReviewDesk.Http.MediaType
import ReviewDesk.Ids
import ReviewDesk.Json.Record
import ReviewDesk.Text.Blank
import ReviewDesk.Text.Percent

namespace ReviewDesk

/-- A request as it comes in. The target is the path with whatever follows it, or a URL. -/
structure Request where
  method : String
  target : String
  contentType : Option String
  body : ByteArray

namespace Request

/-! ## Targets -/

/-- What follows the scheme of a URL, which ends with a colon and two slashes. -/
def afterScheme? : List Char → Option (List Char)
  | ':' :: '/' :: '/' :: rest => some rest
  | [] => none
  | _ :: rest => afterScheme? rest

/-- The target without the scheme and the host of a URL. -/
def place (cs : List Char) : List Char :=
  if cs.head? = some '/' then cs
  else
    match afterScheme? cs with
    | some rest => rest.dropWhile fun c => c ≠ '/' && c ≠ '?'
    | none => cs

/-- The target without its fragment, and without the scheme and the host of a URL. -/
def resource (r : Request) : List Char := place (r.target.toList.takeWhile (· ≠ '#'))

def path (r : Request) : List Char := r.resource.takeWhile (· ≠ '?')

/-- What follows the first question mark. -/
def query (r : Request) : List Char := (r.resource.dropWhile (· ≠ '?')).drop 1

end Request

/-! ## Names -/

def UserId.read : Json.Input → Except Json.Refusal (UserId × Json.Input) :=
  Json.readTextAs UserId.mk

def PullRequestId.read : Json.Input → Except Json.Refusal (PullRequestId × Json.Input) :=
  Json.readTextAs PullRequestId.mk

/-! ## Bodies -/

structure CreateRequest where
  pullRequest : String
  title : String
  author : String
  deriving DecidableEq, Repr

structure MergeRequest where
  pullRequest : String
  deriving DecidableEq, Repr

structure ReassignRequest where
  pullRequest : String
  oldUser : String
  deriving DecidableEq, Repr

open Json in
def CreateRequest.read (cs : Input) : Except Refusal (CreateRequest × Input) := do
  let (values, rest) ← readRecord
    [⟨["pull_request_id"], false⟩, ⟨["pull_request_name"], false⟩, ⟨["author_id"], false⟩] cs
  match values with
  | [some pullRequest, some title, some author] => .ok (⟨pullRequest, title, author⟩, rest)
  | _ => .error .mismatch

open Json in
def MergeRequest.read (cs : Input) : Except Refusal (MergeRequest × Input) := do
  let (values, rest) ← readRecord [⟨["pull_request_id"], false⟩] cs
  match values with
  | [some pullRequest] => .ok (⟨pullRequest⟩, rest)
  | _ => .error .mismatch

open Json in
/-- The reviewer to be replaced has two names, of which a request uses one. -/
def ReassignRequest.read (cs : Input) : Except Refusal (ReassignRequest × Input) := do
  let (values, rest) ← readRecord
    [⟨["pull_request_id"], false⟩, ⟨["old_user_id", "old_reviewer_id"], false⟩] cs
  match values with
  | [some pullRequest, some oldUser] => .ok (⟨pullRequest, oldUser⟩, rest)
  | _ => .error .mismatch

/-- The most bytes that a body may have. -/
def maxBodyBytes : Nat := 2097152

/-- Why a body cannot be used. -/
inductive BodyFlaw where
  | notJsonType
  | tooLong
  | unreadable
  | wrongShape
  deriving DecidableEq, Repr

namespace BodyFlaw

def text : BodyFlaw → String
  | notJsonType => "Expected request with `Content-Type: application/json`"
  | tooLong => "Failed to buffer the request body"
  | unreadable => "Failed to parse the request body as JSON"
  | wrongShape => "Failed to deserialize the JSON body into the target type"

/-- The flaw of a body that is refused as JSON. -/
def ofRefusal : Json.Refusal → BodyFlaw
  | .mismatch => wrongShape
  | .malformed | .truncated => unreadable

end BodyFlaw

namespace Request

/-- Whether the request says that its body is JSON. -/
def saysJson (r : Request) : Bool :=
  ((r.contentType.bind MediaType.parse?).map MediaType.isJson).getD false

/-- Reads the body. Its type comes first, then its length, then what it holds. Whatever
follows the first JSON value does not count. -/
def readBody {α : Type} (read : Json.Input → Except Json.Refusal (α × Json.Input))
    (r : Request) : Except BodyFlaw α :=
  if !r.saysJson then .error .notJsonType
  else if maxBodyBytes < r.body.size then .error .tooLong
  else (Json.readFront read (Utf8.decode r.body.toList)).mapError BodyFlaw.ofRefusal

end Request

/-! ## Queries -/

/-- The user that a query names. -/
structure UserQuery where
  raw : Option String
  deriving DecidableEq, Repr

namespace UserQuery

open Json in
def read (cs : Input) : Except Refusal (UserQuery × Input) := do
  let (values, rest) ← readRecord [⟨["user_id"], true⟩] cs
  match values with
  | [raw] => .ok (⟨raw⟩, rest)
  | _ => .error .mismatch

/-- Reads a query. A user that is named twice makes it unusable. -/
def ofQuery? (query : List Char) : Option UserQuery :=
  match (Percent.formPairs (String.ofList query)).filter (·.1 = "user_id") with
  | [] => some ⟨none⟩
  | [(_, value)] => some ⟨some value⟩
  | _ => none

/-- The user, without blanks at the ends. A blank name names nobody. -/
def user? (q : UserQuery) : Option UserId :=
  match q.raw with
  | none => none
  | some raw => if trim raw = "" then none else some ⟨trim raw⟩

end UserQuery

end ReviewDesk
