-- Values as a relational database takes them and gives them back, and what can go wrong
-- on the way.
import ReviewDesk.StoreError
import ReviewDesk.Text.Quoted
import ReviewDesk.Time.Instant

namespace ReviewDesk.Sql

inductive Value where
  | null
  | text (s : String)
  | integer (n : Int)
  | boolean (b : Bool)
  | instant (t : Instant)
  | texts (list : List String)
  deriving DecidableEq, Repr

/-- The values of a row, in the order in which the statement names its columns. -/
abbrev Row := List Value

/-! ## Time -/

/-- The start of the year 2000, from which the database counts. -/
def epoch : Instant := .ofSeconds 946684800 0

/-- An instant as the database keeps it: a whole number of microseconds from its epoch, cut
towards the epoch. -/
def kept (t : Instant) : Instant :=
  ⟨epoch.nanos + (t.nanos - epoch.nanos).tdiv 1000 * 1000⟩

/-! ## Failures -/

/-- A column of a row: by its name, or as the only one that is read. -/
inductive Column where
  | named (name : String)
  | only
  deriving DecidableEq, Repr

def Column.text : Column → String
  | named name => Quoted.quote name
  | only => "0"

/-- Why a statement comes to nothing. -/
inductive Cause where
  /-- The server refuses, and says why by a code of five characters and a message. -/
  | refused (code message : String)
  /-- There are no more connections to be had. -/
  | closed
  /-- There is no row where there has to be one. -/
  | noRow
  /-- A column holds nothing that can be used. -/
  | missing (column : Column)
  /-- A column holds a status that nobody knows. -/
  | unknownStatus (column : Column) (label : String)
  deriving DecidableEq, Repr

namespace Cause

def text : Cause → String
  | refused _ message => "error returned from database: " ++ message
  | closed => "attempted to acquire a connection on a closed pool"
  | noRow => "no rows returned by a query that expected to return at least one row"
  | missing column =>
    "error occurred while decoding column " ++ column.text ++
      ": unexpected null; try decoding as an `Option`"
  | unknownStatus column label =>
    "error occurred while decoding column " ++ column.text ++ ": invalid value " ++
      Quoted.quote label ++ " for enum PullRequestStatus"

/-- Whether a key is there already that may be there once. -/
def isTakenKey : Cause → Bool
  | refused code _ => code = "23505"
  | _ => false

/-- The error of the store, where the context says what failed. A taken key is a conflict. -/
def error (context : String) (cause : Cause) : StoreError :=
  let text := context ++ ": " ++ cause.text
  if cause.isTakenKey then .conflict text else .database text

end Cause

end ReviewDesk.Sql
