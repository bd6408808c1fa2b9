-- Reading an object into the slots of a record. What is read depends on the names of the members
-- and on the texts under them, and not on how the object is written or on what else it holds.
import ReviewDesk.Json.Record
import ReviewDesk.Proofs.Passage

namespace ReviewDesk.Json

theorem eq_ok_iff_toOption {α : Type} {x : Except Refusal α} {a : α} :
    x = .ok a ↔ x.toOption = some a := by
  cases x <;> simp [Except.toOption]

theorem toOption_map {α β : Type} (f : α → β) (x : Except Refusal α) :
    (x.map f).toOption = x.toOption.map f := by
  cases x <;> rfl

variable {written : Padded} {tree : Tree} {rest : Input}

/-- A string is read from its text, and nothing else is. -/
theorem toOption_readText (sound : written.Sound) (isValue : ValueText written.core tree)
    (rest : Input) :
    (readText (written.text.map some ++ rest)).toOption =
      tree.string?.map (·, written.after.map some ++ rest) := by
  obtain ⟨c, tail, core, free, quoted⟩ := isValue.begins
  unfold readText Padded.text
  simp only [List.map_append, List.append_assoc]
  rw [skipBlanks_blanks sound.1, core, List.map_cons, List.cons_append,
    skipBlanks_cons (isSpace_of_not_stranger free)]
  dsimp only
  by_cases quote : c = '"'
  · rw [if_pos quote] at quoted
    obtain ⟨s, rfl, read⟩ := quoted
    rw [if_pos (congrArg some quote), read]
    rfl
  · rw [if_neg quote] at quoted
    rw [if_neg (by simpa using quote), quoted]
    rfl

/-! ## Members -/

variable {fields : List Field} {slots : Slots} {m : Member}

/-- What a member does to the slots, going by its name and by the text that it holds, if any. A slot
is filled with a text, and not twice. -/
def absorb (fields : List Field) (slots : Slots) (entry : String × Option String) : Option Slots :=
  match fieldIndex? fields entry.1 with
  | none => some slots
  | some i =>
    if ((slots[i]?).getD none).isSome then none
    else entry.2.map fun s => slots.set i (some (some s))

/-- Fields that have to be there, each with a text. -/
def Required (fields : List Field) : Prop := ∀ field ∈ fields, field.optional = false

instance : Decidable (Required fields) := inferInstanceAs (Decidable (∀ field ∈ fields, _))

theorem Required.getD (required : Required fields) (i : Nat) :
    ((fields[i]?).getD ⟨[], false⟩).optional = false := by
  rcases here : fields[i]? with _ | field
  · rfl
  · exact required field (List.mem_of_getElem? here)

theorem toOption_read {field : Field} (required : field.optional = false) (sound : written.Sound)
    (isValue : ValueText written.core tree) (rest : Input) :
    (field.read (written.text.map some ++ rest)).toOption =
      tree.string?.map fun s => (some s, written.after.map some ++ rest) := by
  have read := toOption_readText sound isValue rest
  have plain : field.read (written.text.map some ++ rest) =
      (readText (written.text.map some ++ rest)).map fun r => (some r.1, r.2) := by
    unfold Field.read
    rw [required]
    cases readText (written.text.map some ++ rest) <;> rfl
  rw [plain, toOption_map, read, Option.map_map]
  rfl

theorem toOption_readMember (required : Required fields) (sound : m.Sound)
    (isValue : ValueText m.valueWritten.core m.tree) (stops : Stops rest) :
    (readMember fields slots m.name (m.afterName rest)).toOption =
      (absorb fields slots (m.name, m.tree.string?)).map
        (·, m.valueWritten.after.map some ++ rest) := by
  unfold readMember absorb
  dsimp only
  cases place : fieldIndex? fields m.name with
  | none =>
    dsimp only
    rw [readColon_afterName sound]
    dsimp only [skipValue]
    rw [passed_padded sound.aroundValue (passed_value isValue) stops, skipFrom, if_pos rfl]
    rfl
  | some i =>
    dsimp only
    by_cases filled : ((slots[i]?).getD none).isSome = true
    · rw [if_pos filled, if_pos filled]
      rfl
    · rw [if_neg filled, if_neg filled, readColon_afterName sound]
      dsimp only
      rw [toOption_map, toOption_read (required.getD i) sound.aroundValue isValue, Option.map_map,
        Option.map_map]
      rfl

/-- A name is read from its quote on, whatever blanks stand before it. -/
theorem readDueName_quote {blanks : List Char} {name : String} {tail after : Input}
    (isBlanks : Blanks blanks) (read : readChars [] true tail = .ok (name, after)) :
    readDueName (blanks.map some ++ some '"' :: tail) = .ok (some name, after) := by
  unfold readDueName
  rw [skipBlanks_blanks isBlanks, skipBlanks_cons (by decide)]
  dsimp only
  rw [if_pos rfl, read]
  rfl

/-- The name of the first member is read. -/
theorem readName_first (sound : m.Sound) (rest : Input) :
    readName true (m.text.map some ++ rest) = .ok (some m.name, m.afterName rest) := by
  obtain ⟨tail, text, read, -⟩ := sound.begins rest
  have none : Blanks [] := fun _ listed => absurd listed List.not_mem_nil
  unfold readName
  rw [text, skipBlanks_blanks sound.aroundName.1, skipBlanks_cons (by decide)]
  dsimp only
  rw [if_neg (by decide), if_pos rfl]
  exact readDueName_quote none read

/-- The name of the next member is read, behind a comma. -/
theorem readName_next (sound : m.Sound) {blanks : List Char} (isBlanks : Blanks blanks)
    (rest : Input) :
    readName false (blanks.map some ++ some ',' :: (m.text.map some ++ rest)) =
      .ok (some m.name, m.afterName rest) := by
  obtain ⟨tail, text, read, -⟩ := sound.begins rest
  unfold readName
  rw [skipBlanks_blanks isBlanks, skipBlanks_cons (by decide)]
  dsimp only
  rw [if_neg (by decide), if_neg (by decide), if_pos rfl, text,
    readDueName_quote sound.aroundName.1 read]

theorem readName_end {first : Bool} {blanks : List Char} (isBlanks : Blanks blanks) (rest : Input) :
    readName first (blanks.map some ++ some '}' :: rest) = .ok (none, rest) := by
  unfold readName
  rw [skipBlanks_blanks isBlanks, skipBlanks_cons (by decide)]
  exact if_pos rfl

/-! ## All members -/

theorem readMembers_eq (fields : List Field) (slots : Slots) (first : Bool) (cs : Input) :
    readMembers fields slots first cs =
      match readName first cs with
      | .error e => .error e
      | .ok (none, rest) => (settle fields slots).map fun values => (values, rest)
      | .ok (some name, rest) =>
        match readMember fields slots name rest with
        | .error e => .error e
        | .ok (slots, rest) => readMembers fields slots false rest := by
  rw [readMembers]
  split <;> rename_i same <;> rw [same]
  dsimp only
  split <;> rename_i same' <;> rw [same']

theorem toOption_readMembers_end {first : Bool} {blanks : List Char} (isBlanks : Blanks blanks)
    (rest : Input) :
    (readMembers fields slots first (blanks.map some ++ some '}' :: rest)).toOption =
      (settle fields slots).toOption.map (·, rest) := by
  rw [readMembers_eq, readName_end isBlanks]
  exact toOption_map _ _

theorem toOption_readMembers_step (required : Required fields) (sound : m.Sound)
    (isValue : ValueText m.valueWritten.core m.tree) (stops : Stops rest) {first : Bool}
    {cs : Input}
    (named : readName first cs = .ok (some m.name, m.afterName rest)) :
    (readMembers fields slots first cs).toOption =
      (absorb fields slots (m.name, m.tree.string?)).bind fun slots =>
        (readMembers fields slots false (m.valueWritten.after.map some ++ rest)).toOption := by
  have member := @toOption_readMember rest fields slots m required sound isValue stops
  rw [readMembers_eq, named]
  dsimp only
  generalize readMember fields slots m.name _ = read at member
  cases read with
  | error e =>
    cases here : absorb fields slots (m.name, m.tree.string?) with
    | none => rfl
    | some slots' =>
      rw [here] at member
      cases member
  | ok r =>
    cases here : absorb fields slots (m.name, m.tree.string?) with
    | none =>
      rw [here] at member
      cases member
    | some slots' =>
      rw [here] at member
      cases member
      rfl

/-- What the members of an object say: a text under a name, or nothing that is a text. -/
def told (members : List (String × Tree)) : List (String × Option String) :=
  members.map fun entry => (entry.1, entry.2.string?)

theorem told_cons (entry : String × Tree) (members : List (String × Tree)) :
    told (entry :: members) = (entry.1, entry.2.string?) :: told members := rfl

/-- Members are read one after the other, whatever is written between them. -/
theorem toOption_readMembers (required : Required fields) {members : List Member}
    (sound : ∀ m ∈ members, m.Sound)
    (values : ∀ m ∈ members, ValueText m.valueWritten.core m.tree) {blanks : List Char}
    (isBlanks : Blanks blanks) (rest : Input) :
    (readMembers fields slots false (blanks.map some ++
        ((afterFirst Member.text members).map some ++ some '}' :: rest))).toOption =
      ((told (members.map Member.entry)).foldlM (absorb fields) slots).bind fun slots =>
        (settle fields slots).toOption.map (·, rest) := by
  induction members generalizing slots blanks with
  | nil => exact toOption_readMembers_end isBlanks rest
  | cons m members ih =>
    have first := sound m List.mem_cons_self
    rw [afterFirst_cons, List.map_cons, List.cons_append, List.map_append, List.append_assoc,
      toOption_readMembers_step required first (values m List.mem_cons_self)
        (stops_afterFirst (by decide) members rest) (readName_next first isBlanks _),
      List.map_cons, told_cons, List.foldlM_cons, Option.bind_eq_bind, Option.bind_assoc]
    congr 1
    funext slots
    exact ih (fun m here => sound m (.tail _ here)) (fun m here => values m (.tail _ here))
      first.aroundValue.2

/-- What is read of an object depends on its members alone. -/
theorem toOption_readRecord (required : Required fields) {members : List (String × Tree)}
    (sound : written.Sound) (isObject : ValueText written.core (.object members)) (rest : Input) :
    (readRecord fields (written.text.map some ++ rest)).toOption =
      ((told members).foldlM (absorb fields) (fields.map fun _ => none)).bind fun slots =>
        (settle fields slots).toOption.map (·, written.after.map some ++ rest) := by
  obtain ⟨before, core, after⟩ := written
  have begin : ∀ inner : Input,
      readRecord fields (before.map some ++ (some '{' :: inner)) =
        readMembers fields (fields.map fun _ => none) true inner := by
    intro inner
    unfold readRecord
    rw [skipBlanks_blanks sound.1, skipBlanks_cons (by decide)]
    dsimp only
    rw [if_neg (by decide), if_pos rfl]
  dsimp only [Padded.text] at isObject ⊢
  rw [List.map_append, List.map_append, List.append_assoc, List.append_assoc]
  cases isObject with
  | emptyObject isBlanks =>
    simp only [List.map_cons, List.map_append, List.map_nil, List.cons_append, List.append_assoc,
      List.nil_append]
    rw [begin]
    exact toOption_readMembers_end isBlanks _
  | @object members nonempty each values =>
    cases members with
    | nil => exact absurd rfl nonempty
    | cons m members =>
      have first := each m List.mem_cons_self
      simp only [joined, List.map_cons, List.map_append, List.map_nil, List.cons_append,
        List.append_assoc, List.nil_append]
      rw [begin, toOption_readMembers_step required first (values m List.mem_cons_self)
        (stops_afterFirst (by decide) members _) (readName_first first _), told_cons,
        List.foldlM_cons, Option.bind_eq_bind, Option.bind_assoc]
      congr 1
      funext slots
      exact toOption_readMembers required (fun m here => each m (.tail _ here))
        (fun m here => values m (.tail _ here)) first.aroundValue.2 _

end ReviewDesk.Json
