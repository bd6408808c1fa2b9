-- A team and its members, each listed once, in the order in which they joined.
import ReviewDesk.ErrorKind
import ReviewDesk.Ids

namespace ReviewDesk

/-- Why a team cannot be made, or a member not added. -/
inductive TeamError where
  | missingName
  | memberAlreadyPresent (user : UserId)
  deriving DecidableEq, Repr

namespace TeamError

def kind : TeamError → ErrorKind
  | missingName => .validation
  | memberAlreadyPresent _ => .invalidState

def message : TeamError → String
  | missingName => "team: no team name"
  | memberAlreadyPresent user => "team: user " ++ user.value ++ " already in this team"

end TeamError

structure Team where
  id : TeamId
  name : String
  members : List UserId
  deriving DecidableEq, Repr

namespace Team

/-- A new team has a name and no members. -/
def new (id : TeamId) (name : String) : Except TeamError Team :=
  if name = "" then .error .missingName else .ok { id, name, members := [] }

def hasMember (t : Team) (user : UserId) : Bool := t.members.contains user

/-- Puts a user at the end of the members, unless the user is one of them. The answer
says whether the team changed. -/
def enroll (t : Team) (user : UserId) : Bool × Team :=
  if t.hasMember user then (false, t) else (true, { t with members := t.members ++ [user] })

/-- Puts a user at the end of the members. A user who is one of them is refused. -/
def addMember (t : Team) (user : UserId) : Except TeamError Team :=
  if t.hasMember user then .error (.memberAlreadyPresent user)
  else .ok { t with members := t.members ++ [user] }

/-- Takes a user out of the members. Nothing happens to a team that the user is not in. -/
def removeMember (t : Team) (user : UserId) : Team :=
  { t with members := t.members.filter (· ≠ user) }

/-- Enrolls each user of a list in turn. -/
def enrollAll (t : Team) (users : List UserId) : Team :=
  users.foldl (fun t user => (t.enroll user).2) t

/-- Adds each user of a list in turn, up to the first that is refused. -/
def addMembers (t : Team) (users : List UserId) : Except TeamError Team :=
  users.foldlM addMember t

/-- A team as it was kept. A member listed again counts once, at its first place. -/
def ofRecord (id : TeamId) (name : String) (members : List UserId) : Team :=
  enrollAll { id, name, members := [] } members

end Team

end ReviewDesk
