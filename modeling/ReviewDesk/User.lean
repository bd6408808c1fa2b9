-- A user of the desk: a name, a display name, whether the user is active, and the
-- team that the user is in, if any.
import ReviewDesk.ErrorKind
import ReviewDesk.Ids

namespace ReviewDesk

/-- Why a user cannot be made. -/
inductive UserError where
  | missingId
  | missingName
  deriving DecidableEq, Repr

namespace UserError

def kind : UserError → ErrorKind := fun _ => .validation

def message : UserError → String
  | missingId => "user: no user_id"
  | missingName => "user: no username"

end UserError

structure User where
  id : UserId
  name : String
  active : Bool
  team : Option TeamId
  deriving DecidableEq, Repr

namespace User

/-- A new user needs an id and then a name. Both are kept as they are given. -/
def new (id : UserId) (name : String) (active : Bool) (team : Option TeamId) :
    Except UserError User :=
  if id.value = "" then .error .missingId
  else if name = "" then .error .missingName
  else .ok { id, name, active, team }

def setActive (u : User) (active : Bool) : User := { u with active }

def setTeam (u : User) (team : Option TeamId) : User := { u with team }

end User

end ReviewDesk
