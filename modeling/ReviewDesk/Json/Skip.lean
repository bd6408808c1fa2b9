-- Passing over a JSON value of any depth, one token after the other. What is open
-- around the place of reading is a list of brackets, so that the depth of a text costs
-- no more than its length.
import ReviewDesk.Json.Token

namespace ReviewDesk.Json

/-- A bracket that waits for its end. -/
inductive Bracket where
  | square
  | curly
  deriving DecidableEq, Repr

/-- What may come next: a value, the first item or the end of an array, the first member
or the end of an object, a member, or what follows a value. -/
inductive Expected where
  | value
  | firstItem
  | firstMember
  | member
  | follower
  deriving DecidableEq, Repr

/-- A place in a value: what may come next, and what is open, innermost first. -/
structure Place where
  expected : Expected
  opened : List Bracket
  deriving DecidableEq, Repr

/-! ## One token -/

/-- Passes over a string, a numeral or a word that begins with a character. -/
def skipScalar (c : Option Char) (rest : Input) : Except Refusal Input :=
  if c = some '"' then skipChars rest
  else if c = some '-' then skipNumeral rest
  else if isDigitPlace c then skipNumeral (c :: rest)
  else if c = some 'n' then readWord ['u', 'l', 'l'] rest
  else if c = some 't' then readWord ['r', 'u', 'e'] rest
  else if c = some 'f' then readWord ['a', 'l', 's', 'e'] rest
  else .error .malformed

/-- Reads the colon of a member. -/
def readColon (cs : Input) : Except Refusal Input :=
  match skipBlanks cs with
  | [] => .error .truncated
  | c :: rest => if c = some ':' then .ok rest else .error .malformed

/-- Begins a value with a character. -/
def beginValue (opened : List Bracket) (c : Option Char) (rest : Input) :
    Except Refusal (Place × Input) :=
  if c = some '[' then .ok (⟨.firstItem, .square :: opened⟩, rest)
  else if c = some '{' then .ok (⟨.firstMember, .curly :: opened⟩, rest)
  else (skipScalar c rest).map fun rest => (⟨.follower, opened⟩, rest)

/-- Passes over the name of a member and its colon. -/
def beginMember (opened : List Bracket) (c : Option Char) (rest : Input) :
    Except Refusal (Place × Input) :=
  if c = some '"' then
    match skipChars rest with
    | .error e => .error e
    | .ok rest => (readColon rest).map fun rest => (⟨.value, opened⟩, rest)
  else .error .malformed

/-- Goes on after a value. -/
def follow (opened : List Bracket) (c : Option Char) (rest : Input) :
    Except Refusal (Place × Input) :=
  match opened with
  | [] => .error .malformed
  | .square :: outer =>
    if c = some ',' then .ok (⟨.value, opened⟩, rest)
    else if c = some ']' then .ok (⟨.follower, outer⟩, rest)
    else .error .malformed
  | .curly :: outer =>
    if c = some ',' then .ok (⟨.member, opened⟩, rest)
    else if c = some '}' then .ok (⟨.follower, outer⟩, rest)
    else .error .malformed

/-- Moves over one token, which begins with a character that is no blank. -/
def move (place : Place) (c : Option Char) (rest : Input) : Except Refusal (Place × Input) :=
  match place.expected with
  | .value => beginValue place.opened c rest
  | .firstItem =>
    if c = some ']' then .ok (⟨.follower, place.opened.tail⟩, rest)
    else beginValue place.opened c rest
  | .firstMember =>
    if c = some '}' then .ok (⟨.follower, place.opened.tail⟩, rest)
    else beginMember place.opened c rest
  | .member => beginMember place.opened c rest
  | .follower => follow place.opened c rest

/-! ## Every token only shortens the text -/

theorem length_skipScalar_le {c : Option Char} {cs rest : Input} (h : skipScalar c cs = .ok rest) :
    rest.length ≤ cs.length := by
  unfold skipScalar at h
  repeat' split at h
  · exact Nat.le_of_lt (length_skipChars_lt h)
  · exact Nat.le_of_lt (length_skipNumeral_lt h)
  · exact Nat.le_of_lt_succ (length_skipNumeral_lt h)
  · exact length_readWord_le h
  · exact length_readWord_le h
  · exact length_readWord_le h
  · cases h

theorem length_readColon_lt {cs rest : Input} (h : readColon cs = .ok rest) :
    rest.length < cs.length := by
  have hb := length_skipBlanks_le cs
  unfold readColon at h
  split at h
  · cases h
  · rename_i e
    split at h
    · cases h
      rw [e] at hb
      exact hb
    · cases h

theorem length_beginValue_le {opened : List Bracket} {c : Option Char} {cs : Input}
    {r : Place × Input} (h : beginValue opened c cs = .ok r) : r.2.length ≤ cs.length := by
  unfold beginValue at h
  split at h
  · cases h; exact Nat.le_refl _
  · split at h
    · cases h; exact Nat.le_refl _
    · cases hs : skipScalar c cs with
      | error e => simp [hs, Except.map] at h
      | ok rest =>
        simp only [hs, Except.map, Except.ok.injEq] at h
        cases h
        exact length_skipScalar_le hs

theorem length_beginMember_le {opened : List Bracket} {c : Option Char} {cs : Input}
    {r : Place × Input} (h : beginMember opened c cs = .ok r) : r.2.length ≤ cs.length := by
  unfold beginMember at h
  split at h
  · split at h
    · cases h
    · rename_i rest hs
      cases hc : readColon rest with
      | error e => simp [hc, Except.map] at h
      | ok rest' =>
        simp only [hc, Except.map, Except.ok.injEq] at h
        cases h
        have := length_skipChars_lt hs
        have := length_readColon_lt hc
        dsimp only
        omega
  · cases h

theorem length_follow_le {opened : List Bracket} {c : Option Char} {cs : Input}
    {r : Place × Input} (h : follow opened c cs = .ok r) : r.2.length ≤ cs.length := by
  unfold follow at h
  repeat' split at h
  all_goals cases h
  all_goals exact Nat.le_refl _

theorem length_move_le {place : Place} {c : Option Char} {cs : Input} {r : Place × Input}
    (h : move place c cs = .ok r) : r.2.length ≤ cs.length := by
  unfold move at h
  split at h
  · exact length_beginValue_le h
  · split at h
    · cases h; exact Nat.le_refl _
    · exact length_beginValue_le h
  · split at h
    · cases h; exact Nat.le_refl _
    · exact length_beginMember_le h
  · exact length_beginMember_le h
  · exact length_follow_le h

/-! ## A whole value -/

/-- Moves on until nothing is open and a value is over. -/
def skipFrom (place : Place) (cs : Input) : Except Refusal Input :=
  if place = ⟨.follower, []⟩ then .ok cs
  else
    match _ : skipBlanks cs with
    | [] => .error .truncated
    | c :: rest =>
      match _ : move place c rest with
      | .error e => .error e
      | .ok (place, rest) => skipFrom place rest
termination_by cs.length
decreasing_by
  rename_i hb hm
  have hb' := length_skipBlanks_le cs
  have hm' := length_move_le hm
  rw [hb] at hb'
  exact Nat.lt_of_le_of_lt hm' hb'

/-- Passes over a value. -/
def skipValue (cs : Input) : Except Refusal Input := skipFrom ⟨.value, []⟩ cs

theorem length_skipFrom_le {place : Place} {cs rest : Input} (h : skipFrom place cs = .ok rest) :
    rest.length ≤ cs.length := by
  fun_induction skipFrom place cs with
  | case1 => cases h; exact Nat.le_refl _
  | case2 => cases h
  | case3 => cases h
  | case4 place cs _ c rest' hb place' rest'' hm ih =>
    have hb' := length_skipBlanks_le cs
    have hm' := length_move_le hm
    have := ih h
    rw [hb] at hb'
    simp only [List.length_cons] at hb'
    dsimp only at hm'
    omega

end ReviewDesk.Json
