-- Reading JSON into the few shapes that a request has: a text, a whole number, one of
-- a list of labels, and a record of texts. A record is written as an object, where
-- unknown members do not count, or as an array of its fields in order.
import ReviewDesk.Json.Skip

namespace ReviewDesk.Json

/-! ## Single values -/

/-- How a value that does not begin like the one asked for is refused. Words, numerals and
strings are read to their end first, and a problem in them comes before their kind. -/
def refuseOther : Input → Refusal
  | [] => .malformed
  | c :: rest =>
    let ofWord (word : List Char) : Refusal :=
      match readWord word rest with
      | .ok _ => .mismatch
      | .error e => e
    let ofNumber (negative : Bool) (cs : Input) : Refusal :=
      match readNumber negative cs with
      | .ok _ => .mismatch
      | .error e => e
    if c = some 'n' then ofWord ['u', 'l', 'l']
    else if c = some 't' then ofWord ['r', 'u', 'e']
    else if c = some 'f' then ofWord ['a', 'l', 's', 'e']
    else if c = some '-' then ofNumber true rest
    else if isDigitPlace c then ofNumber false (c :: rest)
    else if c = some '"' then
      match readChars [] true rest with
      | .ok _ => .mismatch
      | .error e => e
    else if c = some '[' ∨ c = some '{' then .mismatch
    else .malformed

/-- Reads a text. -/
def readText (cs : Input) : Except Refusal (String × Input) :=
  match skipBlanks cs with
  | [] => .error .truncated
  | c :: rest =>
    if c = some '"' then readChars [] true rest else .error (refuseOther (c :: rest))

/-- Reads a text as what is made of it. -/
def readTextAs {α : Type} (make : String → α) (cs : Input) : Except Refusal (α × Input) :=
  (readText cs).map fun (s, rest) => (make s, rest)

/-- Reads a text or the word `null`. -/
def readNullable (cs : Input) : Except Refusal (Option String × Input) :=
  match skipBlanks cs with
  | some 'n' :: rest => do
    let rest ← readWord ['u', 'l', 'l'] rest
    .ok (none, rest)
  | cs => do
    let (s, rest) ← readText cs
    .ok (some s, rest)

/-- Reads a whole number of 32 bits with a sign. -/
def readInt32 (cs : Input) : Except Refusal (Int32 × Input) :=
  let ofNumber (negative : Bool) (cs : Input) : Except Refusal (Int32 × Input) := do
    let (x, rest) ← readNumber negative cs
    match x.integer? with
    | some n =>
      if -2147483648 ≤ n ∧ n ≤ 2147483647 then .ok (Int32.ofInt n, rest) else .error .mismatch
    | none => .error .mismatch
  match skipBlanks cs with
  | [] => .error .truncated
  | c :: rest =>
    if c = some '-' then ofNumber true rest
    else if isDigitPlace c then ofNumber false (c :: rest)
    else .error (refuseOther (c :: rest))

/-- Reads one of the labels that have a meaning. Anything but a text is malformed. -/
def readLabel {α : Type} (meaning : String → Option α) (cs : Input) :
    Except Refusal (α × Input) :=
  match skipBlanks cs with
  | [] => .error .truncated
  | some '"' :: rest => do
    let (s, rest) ← readChars [] true rest
    match meaning s with
    | some a => .ok (a, rest)
    | none => .error .mismatch
  | _ => .error .malformed

/-- Reads a choice: a label, or an object whose one member has the label as its name and
`null` as its value. -/
def readChoice {α : Type} (meaning : String → Option α) (cs : Input) :
    Except Refusal (α × Input) :=
  match skipBlanks cs with
  | some '{' :: rest => do
    let (a, rest) ← readLabel meaning rest
    let rest ← readColon rest
    match skipBlanks rest with
    | [] => .error .truncated
    | some 'n' :: rest =>
      let rest ← readWord ['u', 'l', 'l'] rest
      match skipBlanks rest with
      | [] => .error .truncated
      | c :: rest => if c = some '}' then .ok (a, rest) else .error .malformed
    | cs => .error (refuseOther cs)
  | cs => readLabel meaning cs

/-! ## Records -/

/-- A field of a record: the names that a member for it may have, and whether it may be
missing or `null`. -/
structure Field where
  names : List String
  optional : Bool
  deriving DecidableEq, Repr

/-- What is known of each field: nothing yet, or its value, which is `none` for `null`. -/
abbrev Slots := List (Option (Option String))

/-- Reads the value of a field. -/
def Field.read (field : Field) (cs : Input) : Except Refusal (Option String × Input) :=
  if field.optional then readNullable cs
  else do
    let (s, rest) ← readText cs
    .ok (some s, rest)

/-- The values of a record that is over. A field that must not be missing is a mismatch. -/
def settle : List Field → Slots → Except Refusal (List (Option String))
  | [], _ => .ok []
  | _ :: _, [] => .error .mismatch
  | field :: fields, slot :: slots => do
    let value ← match slot with
      | some value => .ok value
      | none => if field.optional then .ok none else .error .mismatch
    let rest ← settle fields slots
    .ok (value :: rest)

/-- The place of the field that a member name belongs to. -/
def fieldIndex? (fields : List Field) (name : String) : Option Nat :=
  fields.findIdx? (·.names.contains name)

/-- Reads the value of a member into its slot. A member that was read before is a mismatch
before its value is looked at, and the value of an unknown one is passed over. -/
def readMember (fields : List Field) (slots : Slots) (name : String) (cs : Input) :
    Except Refusal (Slots × Input) :=
  match fieldIndex? fields name with
  | none =>
    match readColon cs with
    | .error e => .error e
    | .ok rest => (skipValue rest).map fun rest => (slots, rest)
  | some i =>
    if ((slots[i]?).getD none).isSome then .error .mismatch
    else
      match readColon cs with
      | .error e => .error e
      | .ok rest =>
        (((fields[i]?).getD ⟨[], false⟩).read rest).map fun (value, rest) =>
          (slots.set i (some value), rest)

/-- Reads a member name, which has to be there. -/
def readDueName (cs : Input) : Except Refusal (Option String × Input) :=
  match skipBlanks cs with
  | [] => .error .truncated
  | c :: rest =>
    if c = some '"' then (readChars [] true rest).map fun r => (some r.1, r.2)
    else .error .malformed

/-- Reads the name of the next member, or `none` at the end of the object. -/
def readName (first : Bool) (cs : Input) : Except Refusal (Option String × Input) :=
  match skipBlanks cs with
  | [] => .error .truncated
  | c :: rest =>
    if c = some '}' then .ok (none, rest)
    else if first then readDueName (c :: rest)
    else if c = some ',' then readDueName rest
    else .error .malformed

/-! ### Every member only shortens the text -/

theorem length_readText_le {cs : Input} {r : String × Input} (h : readText cs = .ok r) :
    r.2.length ≤ cs.length := by
  have hb := length_skipBlanks_le cs
  unfold readText at h
  split at h
  · cases h
  · rename_i c rest e
    rw [e] at hb
    split at h
    · have := length_readChars_lt h
      simp only [List.length_cons] at hb
      omega
    · cases h

theorem length_readNullable_le {cs : Input} {r : Option String × Input}
    (h : readNullable cs = .ok r) : r.2.length ≤ cs.length := by
  have hb := length_skipBlanks_le cs
  unfold readNullable at h
  split at h
  · rename_i rest e
    rw [e] at hb
    cases hw : readWord ['u', 'l', 'l'] rest with
    | error e => simp [hw, bind, Except.bind] at h
    | ok rest' =>
      have := length_readWord_le hw
      simp only [hw, bind, Except.bind, Except.ok.injEq] at h
      cases h
      simp only [List.length_cons] at hb
      dsimp only
      omega
  · cases ht : readText (skipBlanks cs) with
    | error e => simp [ht, bind, Except.bind] at h
    | ok r' =>
      have := length_readText_le ht
      simp only [ht, bind, Except.bind, Except.ok.injEq] at h
      cases h
      dsimp only
      omega

theorem length_read_le {field : Field} {cs : Input} {r : Option String × Input}
    (h : field.read cs = .ok r) : r.2.length ≤ cs.length := by
  unfold Field.read at h
  split at h
  · exact length_readNullable_le h
  · cases ht : readText cs with
    | error e => simp [ht, bind, Except.bind] at h
    | ok r' =>
      simp only [ht, bind, Except.bind, Except.ok.injEq] at h
      cases h
      exact length_readText_le ht

theorem length_readMember_le {fields : List Field} {slots : Slots} {name : String} {cs : Input}
    {r : Slots × Input} (h : readMember fields slots name cs = .ok r) :
    r.2.length ≤ cs.length := by
  unfold readMember at h
  split at h
  · split at h
    · cases h
    · rename_i rest hc
      have := length_readColon_lt hc
      cases hs : skipValue rest with
      | error e => simp [hs, Except.map] at h
      | ok rest' =>
        have := length_skipFrom_le hs
        simp only [hs, Except.map, Except.ok.injEq] at h
        cases h
        dsimp only
        omega
  · rename_i i _
    split at h
    · cases h
    · split at h
      · cases h
      · rename_i rest hc
        have := length_readColon_lt hc
        cases hs : ((fields[i]?).getD ⟨[], false⟩).read rest with
        | error e => simp [hs, Except.map] at h
        | ok r' =>
          have := length_read_le hs
          simp only [hs, Except.map, Except.ok.injEq] at h
          cases h
          dsimp only
          omega

theorem length_readDueName_lt {cs : Input} {r : Option String × Input}
    (h : readDueName cs = .ok r) : r.2.length < cs.length := by
  have hb := length_skipBlanks_le cs
  unfold readDueName at h
  split at h
  · cases h
  · rename_i c rest e
    rw [e, List.length_cons] at hb
    split at h
    · cases hr : readChars [] true rest with
      | error e => simp [hr, Except.map] at h
      | ok q =>
        have := length_readChars_lt hr
        simp only [hr, Except.map, Except.ok.injEq] at h
        cases h
        dsimp only
        omega
    · cases h

theorem length_readName_lt {first : Bool} {cs : Input} {r : Option String × Input}
    (h : readName first cs = .ok r) : r.2.length < cs.length := by
  have hb := length_skipBlanks_le cs
  unfold readName at h
  split at h
  · cases h
  · rename_i c rest e
    rw [e, List.length_cons] at hb
    repeat' split at h
    · cases h
      exact hb
    · have := length_readDueName_lt h
      rw [List.length_cons] at this
      omega
    · have := length_readDueName_lt h
      omega
    · cases h

/-! ### Whole records -/

/-- Reads members up to the end of the object. -/
def readMembers (fields : List Field) (slots : Slots) (first : Bool) (cs : Input) :
    Except Refusal (List (Option String) × Input) :=
  match _ : readName first cs with
  | .error e => .error e
  | .ok (none, rest) => (settle fields slots).map fun values => (values, rest)
  | .ok (some name, rest) =>
    match _ : readMember fields slots name rest with
    | .error e => .error e
    | .ok (slots, rest) => readMembers fields slots false rest
termination_by cs.length
decreasing_by
  rename_i hn hm
  exact Nat.lt_of_le_of_lt (length_readMember_le hm) (length_readName_lt hn)

/-- Reads one item for each field and then the end of the array. -/
def readItems (first : Bool) : List Field → Input → Except Refusal (List (Option String) × Input)
  | [], cs =>
    match skipBlanks cs with
    | [] => .error .truncated
    | c :: rest => if c = some ']' then .ok ([], rest) else .error .malformed
  | field :: fields, cs => do
    match skipBlanks cs with
    | [] => .error .truncated
    | c :: rest =>
      if c = some ']' then .error .mismatch
      else
        let cs ←
          if first then .ok (c :: rest)
          else if c ≠ some ',' then .error .malformed
          else
            match skipBlanks rest with
            | [] => .error .truncated
            | d :: rest => if d = some ']' then .error .malformed else .ok (d :: rest)
        let (value, rest) ← field.read cs
        let (values, rest) ← readItems false fields rest
        .ok (value :: values, rest)

/-- Reads a record. -/
def readRecord (fields : List Field) (cs : Input) :
    Except Refusal (List (Option String) × Input) :=
  match skipBlanks cs with
  | [] => .error .truncated
  | c :: rest =>
    if c = some '[' then readItems true fields rest
    else if c = some '{' then readMembers fields (fields.map fun _ => none) true rest
    else .error (refuseOther (c :: rest))

/-! ## Whole texts -/

/-- Reads a text that holds one value and nothing else but blanks. -/
def readWhole {α : Type} (read : Input → Except Refusal (α × Input)) (text : String) :
    Except Refusal α := do
  let (a, rest) ← read (input text)
  if skipBlanks rest = [] then .ok a else .error .malformed

/-- Reads the first value of a text, whatever follows it. -/
def readFront {α : Type} (read : Input → Except Refusal (α × Input)) (cs : Input) :
    Except Refusal α := (read cs).map Prod.fst

end ReviewDesk.Json
