-- The six kinds of failure. A caller needs no more than the kind to choose an answer.

namespace ReviewDesk

inductive ErrorKind where
  | notFound
  | conflict
  | invalidState
  | validation
  | transient
  | infrastructure
  deriving DecidableEq, Repr

namespace ErrorKind

/-- The name of the kind, as it is written. -/
def name : ErrorKind → String
  | notFound => "not_found"
  | conflict => "conflict"
  | invalidState => "invalid_state"
  | validation => "validation"
  | transient => "transient"
  | infrastructure => "infrastructure"

end ErrorKind

end ReviewDesk
