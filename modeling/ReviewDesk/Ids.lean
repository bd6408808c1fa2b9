-- The names by which users, teams and pull requests are known. Two names are the
-- same only when they are the same text, and they are ordered by code points.

namespace ReviewDesk

/-- The name of a user. -/
structure UserId where
  value : String
  deriving DecidableEq, Repr, Inhabited

/-- The name of a pull request. -/
structure PullRequestId where
  value : String
  deriving DecidableEq, Repr, Inhabited

/-- The number of a team. -/
structure TeamId where
  value : Int32
  deriving DecidableEq, Repr, Inhabited

/-! ## Order -/

instance : Ord UserId := ⟨compareOn UserId.value⟩
instance : Ord PullRequestId := ⟨compareOn PullRequestId.value⟩
instance : Ord TeamId := ⟨compareOn TeamId.value⟩

instance : Std.TransOrd UserId := inferInstanceAs (Std.TransCmp (compareOn UserId.value))
instance : Std.TransOrd PullRequestId :=
  inferInstanceAs (Std.TransCmp (compareOn PullRequestId.value))
instance : Std.TransOrd TeamId := inferInstanceAs (Std.TransCmp (compareOn TeamId.value))

instance : Std.LawfulEqOrd UserId where
  eq_of_compare {a b} h := by
    cases a; cases b
    simpa [compare, compareOn] using Std.LawfulEqOrd.eq_of_compare (α := String) h

instance : Std.LawfulEqOrd PullRequestId where
  eq_of_compare {a b} h := by
    cases a; cases b
    simpa [compare, compareOn] using Std.LawfulEqOrd.eq_of_compare (α := String) h

instance : Std.LawfulEqOrd TeamId where
  eq_of_compare {a b} h := by
    cases a; cases b
    simpa [compare, compareOn] using Std.LawfulEqOrd.eq_of_compare (α := Int32) h

end ReviewDesk
