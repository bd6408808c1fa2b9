-- A peer that takes the place of a database: it answers from a script, whatever the
-- statements say, and keeps the commands that it was sent.
import ReviewDesk.Sql.Exchange

namespace ReviewDesk.Sql

/-- The replies for the statements to come, the failures for the next command of each
control, and the commands sent. A closed peer is sent nothing. -/
structure Script where
  replies : List Reply
  failures : List (Control × Cause)
  closed : Bool
  sent : List Command

namespace Script

/-- The first failure for a control, and the others. -/
def takeFailure (control : Control) :
    List (Control × Cause) → Option Cause × List (Control × Cause)
  | [] => (none, [])
  | (c, cause) :: rest =>
    if c = control then (some cause, rest)
    else ((takeFailure control rest).1, (c, cause) :: (takeFailure control rest).2)

/-- Answers a command. When the script is over, every command succeeds without rows. -/
def answer (s : Script) (c : Command) : Reply × Script :=
  if s.closed then (.error .closed, s)
  else
    let s := { s with sent := s.sent ++ [c] }
    match c with
    | .control control =>
      let (failure?, failures) := takeFailure control s.failures
      ((failure?.map .error).getD (.ok []), { s with failures })
    | .statement _ =>
      match s.replies with
      | [] => (.ok [], s)
      | reply :: replies => (reply, { s with replies })

/-- Runs an exchange to its end. -/
def run {α : Type} (s : Script) : Exchange α → α × Script
  | .done a => (a, s)
  | .send c resume => (s.answer c).2.run (resume (s.answer c).1)

end Script

end ReviewDesk.Sql
