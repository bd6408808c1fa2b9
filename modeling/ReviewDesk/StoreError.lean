-- Why the store that keeps users, teams and pull requests cannot do what it is asked.
import ReviewDesk.ErrorKind

namespace ReviewDesk

inductive StoreError where
  | conflict (text : String)
  | notFound (text : String)
  | database (text : String)
  deriving DecidableEq, Repr

namespace StoreError

def kind : StoreError → ErrorKind
  | conflict _ => .conflict
  | notFound _ => .notFound
  | database _ => .infrastructure

def message : StoreError → String
  | conflict text => "conflict: " ++ text
  | notFound text => "not found: " ++ text
  | database text => "database error: " ++ text

end StoreError

end ReviewDesk
