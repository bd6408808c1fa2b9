-- What the rows of a reply mean. The columns of a row are read from left to right, and
-- the first that holds nothing of use is the one that is reported.
import ReviewDesk.PullRequest
import ReviewDesk.Register
import ReviewDesk.Sql.Value
import ReviewDesk.User

namespace ReviewDesk.Sql

/-! ## Columns -/

/-- The value in a column. A row that is too short ends in nulls. -/
def Row.get (row : Row) (place : Nat) : Value := row.getD place .null

def readText (column : Column) : Value → Except Cause String
  | .text s => .ok s
  | _ => .error (.missing column)

def readTeamId (column : Column) : Value → Except Cause TeamId
  | .integer n => .ok ⟨Int32.ofInt n⟩
  | _ => .error (.missing column)

def readBoolean (column : Column) : Value → Except Cause Bool
  | .boolean b => .ok b
  | _ => .error (.missing column)

def readInstant (column : Column) : Value → Except Cause Instant
  | .instant t => .ok t
  | _ => .error (.missing column)

def readStatus (column : Column) : Value → Except Cause Status
  | .text label =>
    match Status.ofLabel? label with
    | some status => .ok status
    | none => .error (.unknownStatus column label)
  | _ => .error (.missing column)

/-- Reads a column that may hold nothing. -/
def readNullable {α : Type} (read : Value → Except Cause α) : Value → Except Cause (Option α)
  | .null => .ok none
  | value => (read value).map some

/-! ## Rows -/

/-- A pull request whose roster is still to be loaded. -/
def readPullRequest (row : Row) : Except Cause PullRequest := do
  let id ← readText (.named "pull_request_id") (row.get 0)
  let title ← readText (.named "pull_request_name") (row.get 1)
  let author ← readText (.named "author_id") (row.get 2)
  let status ← readStatus (.named "status") (row.get 3)
  let createdAt ← readInstant (.named "created_at") (row.get 4)
  let mergedAt ← readNullable (readInstant (.named "merged_at")) (row.get 5)
  return { id := ⟨id⟩, title, author := ⟨author⟩, status, reviewers := [], createdAt, mergedAt }

/-- A place on the roster of a pull request. -/
def readReviewer (row : Row) : Except Cause (PullRequestId × Reviewer) := do
  let id ← readText (.named "pull_request_id") (row.get 0)
  let user ← readText (.named "user_id") (row.get 1)
  let assignedAt ← readInstant (.named "assigned_at") (row.get 2)
  return (⟨id⟩, ⟨⟨user⟩, assignedAt⟩)

def readUser (row : Row) : Except Cause User := do
  let id ← readText (.named "user_id") (row.get 0)
  let name ← readText (.named "username") (row.get 1)
  let active ← readBoolean (.named "is_active") (row.get 2)
  let team ← readNullable (readTeamId (.named "team_id")) (row.get 3)
  return { id := ⟨id⟩, name, active, team }

/-- The number and the name of a team. -/
def readTeam (row : Row) : Except Cause (TeamId × String) := do
  let id ← readTeamId (.named "id") (row.get 0)
  let name ← readText (.named "team_name") (row.get 1)
  return (id, name)

/-! ## Rosters -/

/-- Rosters, each under its pull request. -/
abbrev Rosters := Keyed PullRequestId (List Reviewer)

namespace Rosters

/-- Puts a place at the end of the roster that it is on. -/
def add (rosters : Rosters) (place : PullRequestId × Reviewer) : Rosters :=
  rosters.change place.1 (· ++ [place.2])

/-- Sorts places into rosters. -/
def ofPlaces (places : List (PullRequestId × Reviewer)) : Rosters := places.foldl add .empty

/-- Gives each pull request its roster, and no roster twice. Of pull requests with the same id,
the first takes it. -/
def handOut : Rosters → List PullRequest → List PullRequest
  | _, [] => []
  | rosters, pr :: rest =>
    { pr with reviewers := rosters.value pr.id } :: handOut (rosters.remove pr.id) rest

end Rosters

end ReviewDesk.Sql
