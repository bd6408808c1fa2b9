-- Request bodies. A body that is an object is accepted just if it names each field once, with a
-- text under the name, and then these texts are what is read, however the object is written.
import Mathlib.Data.List.Forall2
import Mathlib.Data.List.Perm.Basic
import ReviewDesk.Http.Request
import ReviewDesk.Proofs.Objects
import ReviewDesk.Proofs.Quotation

namespace ReviewDesk

namespace Json

/-! ## Slots -/

section Slots

variable {fields : List Field} {slots slots' : Slots} {entries : List (String × Option String)}

/-- The entries for a field. -/
def chosen (fields : List Field) (i : Nat) (entries : List (String × Option String)) :
    List (String × Option String) :=
  entries.filter fun entry => fieldIndex? fields entry.1 = some i

/-- How a slot is left by entries: as it was if none is for it, filled by one if it was empty. -/
def Left (fields : List Field) (entries : List (String × Option String)) (i : Nat)
    (before after : Option (Option String)) : Prop :=
  (chosen fields i entries = [] ∧ after = before) ∨
    (before = none ∧ ∃ name s, chosen fields i entries = [(name, some s)] ∧ after = some (some s))

theorem left_nil {i : Nat} {before after : Option (Option String)} :
    Left fields [] i before after ↔ after = before := by
  simp [Left, chosen]

theorem left_cons_of_ne {i : Nat} {before after : Option (Option String)}
    {entry : String × Option String}
    (other : fieldIndex? fields entry.1 ≠ some i) :
    Left fields (entry :: entries) i before after ↔ Left fields entries i before after := by
  unfold Left chosen
  rw [List.filter_cons_of_neg (by simpa using other)]

theorem left_cons_of_eq {i : Nat} {before after : Option (Option String)}
    {entry : String × Option String}
    (same : fieldIndex? fields entry.1 = some i) :
    Left fields (entry :: entries) i before after ↔
      before = none ∧ ∃ s, entry.2 = some s ∧
        Left fields entries i (some (some s)) after := by
  have first : chosen fields i (entry :: entries) = entry :: chosen fields i entries :=
    List.filter_cons_of_pos (by simpa using same)
  obtain ⟨name, said⟩ := entry
  unfold Left
  rw [first]
  constructor
  · rintro (⟨none, -⟩ | ⟨empty, name', s, sole, filled⟩)
    · cases none
    · obtain ⟨head, others⟩ := List.cons.inj sole
      cases head
      exact ⟨empty, s, rfl, .inl ⟨others, filled⟩⟩
  · rintro ⟨empty, s, isString, ⟨none, filled⟩ | ⟨empty', -⟩⟩
    · cases isString
      exact .inr ⟨empty, name, s, by rw [none], filled⟩
    · cases empty'

theorem fieldIndex?_lt {name : String} {i : Nat} (here : fieldIndex? fields name = some i) :
    i < fields.length :=
  (List.findIdx?_eq_some_iff_getElem.1 here).1

/-- An entry passes the slots by, or it fills an empty one with a text. -/
theorem absorb_eq_some_iff {entry : String × Option String} :
    absorb fields slots entry = some slots' ↔
      (fieldIndex? fields entry.1 = none ∧ slots' = slots) ∨
        ∃ j s, fieldIndex? fields entry.1 = some j ∧ (slots[j]?).getD none = none ∧
          entry.2 = some s ∧ slots' = slots.set j (some (some s)) := by
  unfold absorb
  cases fieldIndex? fields entry.1 with
  | none => simp [eq_comm]
  | some j =>
    dsimp only
    split
    case isTrue filled =>
      refine iff_of_false (by simp) ?_
      rintro (⟨none, -⟩ | ⟨j', s, same, empty, -⟩)
      · cases none
      · cases same
        rw [empty] at filled
        cases filled
    case isFalse unfilled =>
      rw [Option.map_eq_some_iff]
      constructor
      · rintro ⟨s, isString, rfl⟩
        exact .inr ⟨j, s, rfl, Option.not_isSome_iff_eq_none.1 unfilled, isString, rfl⟩
      · rintro (⟨none, -⟩ | ⟨j', s, same, -, isString, rfl⟩)
        · cases none
        · cases same
          exact ⟨s, isString, rfl⟩

/-- An entry that is taken leaves each slot as the entries behind it find it. -/
theorem left_cons_of_absorb {entry : String × Option String}
    (taken : absorb fields slots entry = some slots') :
    slots'.length = slots.length ∧ ∀ i < slots.length, ∀ after,
      Left fields (entry :: entries) i ((slots[i]?).getD none) after ↔
        Left fields entries i ((slots'[i]?).getD none) after := by
  rcases absorb_eq_some_iff.1 taken with ⟨other, rfl⟩ | ⟨j, s, here, empty, isString, rfl⟩
  · exact ⟨rfl, fun i _ after => left_cons_of_ne (by simp [other])⟩
  · refine ⟨List.length_set, fun i inside after => ?_⟩
    by_cases same : j = i
    · subst same
      rw [left_cons_of_eq here, List.getElem?_set_self inside]
      simp [empty, isString]
    · rw [left_cons_of_ne (by simpa [here] using same), List.getElem?_set_ne same]

/-- An entry that is not taken has a slot that nothing can be left in. -/
theorem not_left_of_absorb (all : slots.length = fields.length) {entry : String × Option String}
    (refused : absorb fields slots entry = none) :
    ∃ i < slots.length, ∀ after,
      ¬ Left fields (entry :: entries) i ((slots[i]?).getD none) after := by
  cases place : fieldIndex? fields entry.1 with
  | none => cases refused.symm.trans (absorb_eq_some_iff.2 (.inl ⟨place, rfl⟩))
  | some j =>
    refine ⟨j, all ▸ fieldIndex?_lt place, fun after left => ?_⟩
    obtain ⟨empty, s, isString, -⟩ := (left_cons_of_eq place).1 left
    cases refused.symm.trans (absorb_eq_some_iff.2 (.inr ⟨j, s, place, empty, isString, rfl⟩))

/-- Members fill the slots, each field being named at most once and with a string. -/
theorem foldlM_absorb_eq_some_iff (all : slots.length = fields.length) :
    entries.foldlM (absorb fields) slots = some slots' ↔
      slots'.length = slots.length ∧
        ∀ i < slots.length,
          Left fields entries i ((slots[i]?).getD none) ((slots'[i]?).getD none) := by
  induction entries generalizing slots with
  | nil =>
    constructor
    · rintro ⟨⟩
      exact ⟨rfl, fun i _ => left_nil.2 rfl⟩
    · rintro ⟨same, each⟩
      refine congrArg some (List.ext_getElem same.symm fun i inside inside' => ?_)
      have slot := left_nil.1 (each i inside)
      rw [List.getElem?_eq_getElem inside, List.getElem?_eq_getElem inside'] at slot
      exact slot.symm
  | cons entry entries ih =>
    rw [List.foldlM_cons, Option.bind_eq_bind]
    cases step : absorb fields slots entry with
    | none =>
      obtain ⟨i, inside, none_left⟩ := not_left_of_absorb all step
      exact iff_of_false (by simp) fun ⟨_, each⟩ => none_left _ (each i inside)
    | some mid =>
      obtain ⟨same, left⟩ := left_cons_of_absorb step
      rw [Option.bind_some, ih (same.trans all), same]
      exact and_congr_right fun _ => forall₂_congr fun i inside => (left i inside _).symm

/-- The values of required fields are those of the slots, all of which have to be filled. -/
theorem toOption_settle (required : Required fields) (all : slots.length = fields.length)
    {values : List (Option String)} :
    (settle fields slots).toOption = some values ↔ slots = values.map some := by
  induction fields generalizing slots values with
  | nil =>
    rw [List.length_nil, List.length_eq_zero_iff] at all
    subst all
    cases values <;> simp [settle, Except.toOption]
  | cons field fields ih =>
    cases slots with
    | nil => cases all
    | cons slot slots =>
      have others : ∀ values,
          (settle fields slots).toOption = some values ↔ slots = values.map some := fun values =>
        ih (fun other listed => required other (.tail _ listed)) (Nat.succ.inj all)
      cases slot with
      | none =>
        have stuck : settle (field :: fields) (none :: slots) = .error .mismatch := by
          unfold settle
          rw [required field List.mem_cons_self]
          rfl
        rw [stuck]
        refine iff_of_false (by simp [Except.toOption]) ?_
        cases values <;> simp
      | some value =>
        have goes : settle (field :: fields) (some value :: slots) =
            (settle fields slots).map (value :: ·) := by
          rw [settle]
          cases settle fields slots <;> rfl
        rw [goes, toOption_map, Option.map_eq_some_iff]
        constructor
        · rintro ⟨rest, settled, rfl⟩
          rw [(others rest).1 settled]
          rfl
        · intro same
          cases values with
          | nil => cases same
          | cons first rest =>
            obtain ⟨head, tail⟩ := List.cons.inj same
            exact ⟨rest, (others rest).2 tail, by rw [Option.some.inj head]⟩

end Slots

/-! ## Records -/

/-- Of the entries that have one of some names there is just one, and it is a text. -/
def Sole (entries : List (String × Option String)) (names : List String) (s : String) : Prop :=
  ∃ name, entries.filter (fun entry => entry.1 ∈ names) = [(name, some s)]

section Record

variable {fields : List Field} {entries : List (String × Option String)}

/-- The fields of a record have different names. -/
def Apart (fields : List Field) : Prop :=
  fields.Pairwise fun field other => ∀ name ∈ field.names, name ∉ other.names

instance : Decidable (Apart fields) :=
  inferInstanceAs <| Decidable <|
    fields.Pairwise fun field other => ∀ name ∈ field.names, name ∉ other.names

theorem fieldIndex?_eq_some_iff (apart : Apart fields) {i : Nat} (inside : i < fields.length)
    {name : String} : fieldIndex? fields name = some i ↔ name ∈ fields[i].names := by
  unfold fieldIndex?
  rw [List.findIdx?_eq_some_iff_getElem]
  simp only [List.contains_iff_mem, exists_prop_of_true inside]
  refine and_iff_left_of_imp fun here j before there => ?_
  exact List.pairwise_iff_getElem.1 apart j i (by omega) inside before name there here

theorem chosen_eq (apart : Apart fields) {i : Nat} (inside : i < fields.length) :
    chosen fields i entries = entries.filter fun entry => entry.1 ∈ fields[i].names := by
  unfold chosen
  simp only [fieldIndex?_eq_some_iff apart inside]

theorem left_iff_sole (apart : Apart fields) {i : Nat} (inside : i < fields.length)
    {value : Option String} :
    Left fields entries i none (some value) ↔
      ∃ s, value = some s ∧ Sole entries fields[i].names s := by
  unfold Left Sole
  rw [chosen_eq apart inside]
  constructor
  · rintro (⟨-, filled⟩ | ⟨-, name, s, sole, filled⟩)
    · cases filled
    · exact ⟨s, Option.some.inj filled, name, sole⟩
  · rintro ⟨s, rfl, name, sole⟩
    exact .inr ⟨rfl, name, s, sole, rfl⟩

/-- The slots are all filled just if each field is named once, and with a text. -/
theorem foldlM_absorb_empty (apart : Apart fields) (values : List (Option String)) :
    entries.foldlM (absorb fields) (fields.map fun _ => none) = some (values.map some) ↔
      List.Forall₂ (fun field value => ∃ s, value = some s ∧ Sole entries field.names s)
        fields values := by
  have empty : ∀ i : Nat,
      ((fields.map fun _ => (none : Option (Option String)))[i]?).getD none = none := by
    intro i
    rw [List.getElem?_map]
    cases fields[i]? <;> rfl
  rw [foldlM_absorb_eq_some_iff (List.length_map _), List.forall₂_iff_get, List.length_map,
    List.length_map]
  rw [@eq_comm _ values.length]
  refine and_congr_right fun length => forall₂_congr fun i inside => ?_
  have inside' : i < values.length := length ▸ inside
  rw [empty, List.getElem?_map, List.getElem?_eq_getElem inside']
  exact (left_iff_sole apart inside).trans ⟨fun here _ => here, fun here => here inside'⟩

/-- An object is read as a record of required fields just if each of them is named once, and with a
text. -/
theorem readRecord_eq_ok_iff (required : Required fields) (apart : Apart fields) {written : Padded}
    (sound : written.Sound) {members : List (String × Tree)}
    (isObject : ValueText written.core (.object members)) (rest left : Input)
    (values : List (Option String)) :
    readRecord fields (written.text.map some ++ rest) = .ok (values, left) ↔
      List.Forall₂ (fun field value => ∃ s, value = some s ∧ Sole (told members) field.names s)
          fields values ∧
        left = written.after.map some ++ rest := by
  rw [eq_ok_iff_toOption, toOption_readRecord required sound isObject, Option.bind_eq_some_iff,
    ← foldlM_absorb_empty apart]
  constructor
  · rintro ⟨slots, filled, settled⟩
    obtain ⟨values', done, same⟩ := Option.map_eq_some_iff.1 settled
    cases same
    have length := ((foldlM_absorb_eq_some_iff (List.length_map _)).1 filled).1
    have slots_eq := (toOption_settle required (length.trans (List.length_map _))).1 done
    exact ⟨slots_eq ▸ filled, rfl⟩
  · rintro ⟨filled, rfl⟩
    have length := ((foldlM_absorb_eq_some_iff (List.length_map _)).1 filled).1
    have settled := (toOption_settle required (length.trans (List.length_map _))).2 rfl
    exact ⟨values.map some, filled, by rw [settled]; rfl⟩

end Record

/-! ## Whole texts -/

/-- A text that spells an object holds nothing else. -/
theorem readWhole_eq_ok_iff {α : Type} {read : Input → Except Refusal (α × Input)} {P : α → Prop}
    {written : Padded} (sound : written.Sound)
    (reads : ∀ rest a left, read (written.text.map some ++ rest) = .ok (a, left) ↔
      P a ∧ left = written.after.map some ++ rest) (a : α) :
    readWhole read (String.ofList written.text) = .ok a ↔ P a := by
  have whole : input (String.ofList written.text) = written.text.map some ++ [] := by
    rw [input, String.toList_ofList, List.append_nil]
  have empty : skipBlanks (written.after.map some ++ []) = [] := skipBlanks_blanks sound.2 []
  unfold readWhole
  rw [whole]
  constructor
  · intro accepted
    cases first : read (written.text.map some ++ []) with
    | error e =>
      rw [first] at accepted
      cases accepted
    | ok r =>
      obtain ⟨b, left⟩ := r
      rw [first] at accepted
      obtain ⟨holds, rfl⟩ := (reads [] b left).1 first
      simp only [bind, Except.bind, empty, if_true] at accepted
      cases accepted
      exact holds
  · intro holds
    rw [(reads [] a _).2 ⟨holds, rfl⟩]
    simp only [bind, Except.bind, empty, if_true]

/-! ## Readers of records -/

/-- Two outcomes with the same values are the same, up to the refusal. -/
theorem toOption_eq_of_ok_iff {α : Type} {x y : Except Refusal α}
    (same : ∀ a, x = .ok a ↔ y = .ok a) : x.toOption = y.toOption := by
  refine Option.ext fun a => ?_
  rw [← eq_ok_iff_toOption, ← eq_ok_iff_toOption]
  exact same a

section Layout

variable {entries others : List (String × Option String)} {known names : List String}

theorem filter_names (part : ∀ name ∈ names, name ∈ known) :
    (entries.filter (·.1 ∈ known)).filter (·.1 ∈ names) = entries.filter (·.1 ∈ names) := by
  rw [List.filter_filter]
  refine List.filter_congr fun entry _ => ?_
  simpa using part entry.1

/-- Members in another order, and other members, do not matter. -/
theorem Sole.of_perm {s : String} (sole : Sole entries names s)
    (part : ∀ name ∈ names, name ∈ known)
    (same : (entries.filter (·.1 ∈ known)).Perm (others.filter (·.1 ∈ known))) :
    Sole others names s := by
  obtain ⟨name, only⟩ := sole
  have perm := same.filter (·.1 ∈ names)
  rw [filter_names part, filter_names part, only] at perm
  exact ⟨name, List.perm_singleton.1 perm.symm⟩

end Layout

/-- A reader of things that are made of texts, one for each field of a record. -/
structure ReadsRecord {α : Type} (read : Input → Except Refusal (α × Input)) (fields : List Field)
    (texts : α → List String) : Prop where
  required : Required fields
  apart : Apart fields
  reads : ∀ cs a left, read cs = .ok (a, left) ↔
    readRecord fields cs = .ok ((texts a).map some, left)

section Reader

variable {α : Type} {read : Input → Except Refusal (α × Input)} {fields : List Field}
  {texts : α → List String} {members others : List (String × Tree)} {text other : String}

/-- It is enough that the reader reads the record and then makes a thing of the texts of this thing,
and of nothing else. -/
theorem reads_of_bind {next : List (Option String) × Input → Except Refusal (α × Input)}
    (reader : ∀ cs, read cs = readRecord fields cs >>= next)
    (makes : ∀ a left, next ((texts a).map some, left) = .ok (a, left))
    (only : ∀ values rest a left, next (values, rest) = .ok (a, left) →
      values = (texts a).map some ∧ rest = left) (cs : Input) (a : α) (left : Input) :
    read cs = .ok (a, left) ↔ readRecord fields cs = .ok ((texts a).map some, left) := by
  rw [reader]
  cases readRecord fields cs with
  | error e => exact iff_of_false (by simp [bind, Except.bind]) (by simp)
  | ok r =>
    rw [Except.ok.injEq]
    constructor
    · intro made
      obtain ⟨values, rest⟩ := only r.1 r.2 a left made
      exact Prod.ext values rest
    · rintro rfl
      exact makes a left

/-- A body that is an object is read just if each field is named once, with a text. -/
theorem ReadsRecord.readWhole_eq_ok_iff (reader : ReadsRecord read fields texts)
    (spelled : Spells text (.object members)) (a : α) :
    readWhole read text = .ok a ↔
      List.Forall₂ (fun field s => Sole (told members) field.names s) fields (texts a) := by
  cases spelled with
  | @intro written _ sound isObject =>
    have reads : ∀ rest a left, read (written.text.map some ++ rest) = .ok (a, left) ↔
        List.Forall₂ (fun field s => Sole (told members) field.names s) fields (texts a) ∧
          left = written.after.map some ++ rest := by
      intro rest a left
      rw [reader.reads, readRecord_eq_ok_iff reader.required reader.apart sound isObject rest left,
        List.forall₂_map_right_iff]
      simp
    exact Json.readWhole_eq_ok_iff sound reads a

/-- Nothing else of a body matters. -/
theorem ReadsRecord.toOption_eq (reader : ReadsRecord read fields texts) {names : List String}
    (known : ∀ field ∈ fields, ∀ name ∈ field.names, name ∈ names)
    (spelled : Spells text (.object members)) (spelled' : Spells other (.object others))
    (same : ((told members).filter (·.1 ∈ names)).Perm ((told others).filter (·.1 ∈ names))) :
    (readWhole read text).toOption = (readWhole read other).toOption := by
  refine toOption_eq_of_ok_iff fun a => ?_
  rw [reader.readWhole_eq_ok_iff spelled, reader.readWhole_eq_ok_iff spelled',
    List.forall₂_iff_get, List.forall₂_iff_get]
  refine and_congr_right fun _ => forall_congr' fun i => forall₂_congr fun inside _ => ?_
  have part := known _ (List.get_mem fields ⟨i, inside⟩)
  exact ⟨fun sole => sole.of_perm part same, fun sole => sole.of_perm part same.symm⟩

end Reader

end Json

open Json

/-! ## Requests -/

variable {members : List (String × Tree)}

namespace ReassignRequest

/-- The names that count in a request for a reassignment. -/
def names : List String := ["pull_request_id", "old_user_id", "old_reviewer_id"]

def fields : List Field :=
  [⟨["pull_request_id"], false⟩, ⟨["old_user_id", "old_reviewer_id"], false⟩]

theorem readsRecord : ReadsRecord read fields fun r => [r.pullRequest, r.oldUser] where
  required := by decide
  apart := by decide
  reads := by
    refine reads_of_bind (fun _ => rfl) (fun _ _ => rfl) fun values rest a left made => ?_
    dsimp only at made
    split at made <;> cases made
    exact ⟨rfl, rfl⟩

end ReassignRequest

namespace CreateRequest

/-- The names that count in a request for a new pull request. -/
def names : List String := ["pull_request_id", "pull_request_name", "author_id"]

def fields : List Field :=
  [⟨["pull_request_id"], false⟩, ⟨["pull_request_name"], false⟩, ⟨["author_id"], false⟩]

theorem readsRecord : ReadsRecord read fields fun r => [r.pullRequest, r.title, r.author] where
  required := by decide
  apart := by decide
  reads := by
    refine reads_of_bind (fun _ => rfl) (fun _ _ => rfl) fun values rest a left made => ?_
    dsimp only at made
    split at made <;> cases made
    exact ⟨rfl, rfl⟩

end CreateRequest

/-! ## Any layout -/

/-- What is read of a body that is an object. -/
theorem requests_are_read_in_any_layout {text : String} (spelled : Spells text (.object members)) :
    (∀ r : ReassignRequest, readWhole ReassignRequest.read text = .ok r ↔
      Sole (told members) ["pull_request_id"] r.pullRequest ∧
        Sole (told members) ["old_user_id", "old_reviewer_id"] r.oldUser) ∧
    (∀ r : CreateRequest, readWhole CreateRequest.read text = .ok r ↔
      Sole (told members) ["pull_request_id"] r.pullRequest ∧
        Sole (told members) ["pull_request_name"] r.title ∧
        Sole (told members) ["author_id"] r.author) ∧
    ∀ (other : String) (others : List (String × Tree)), Spells other (.object others) →
      (((told members).filter (·.1 ∈ ReassignRequest.names)).Perm
          ((told others).filter (·.1 ∈ ReassignRequest.names)) →
        (readWhole ReassignRequest.read text).toOption =
          (readWhole ReassignRequest.read other).toOption) ∧
      (((told members).filter (·.1 ∈ CreateRequest.names)).Perm
          ((told others).filter (·.1 ∈ CreateRequest.names)) →
        (readWhole CreateRequest.read text).toOption =
          (readWhole CreateRequest.read other).toOption) := by
  refine ⟨fun r => ?_, fun r => ?_, fun other others spelled' => ⟨?_, ?_⟩⟩
  · rw [ReassignRequest.readsRecord.readWhole_eq_ok_iff spelled]
    simp [ReassignRequest.fields]
  · rw [CreateRequest.readsRecord.readWhole_eq_ok_iff spelled]
    simp [CreateRequest.fields]
  · exact ReassignRequest.readsRecord.toOption_eq (by decide) spelled spelled'
  · exact CreateRequest.readsRecord.toOption_eq (by decide) spelled spelled'

/-- A member whose name is written as it stands, without blanks. -/
def Json.Member.bare (name : String) (tree : Tree) (value : List Char) : Member :=
  ⟨name, ⟨[], stringText name, []⟩, tree, ⟨[], value, []⟩⟩

theorem Json.Member.sound_bare (name : String) (tree : Tree) (value : List Char) :
    (Member.bare name tree value).Sound :=
  have none : Blanks [] := fun _ listed => absurd listed List.not_mem_nil
  ⟨stringText_spells name, ⟨none, none⟩, ⟨none, none⟩⟩

/-- A body in which the old reviewer goes by the second name, a character is escaped, and a member
of no concern is written with a blank. -/
theorem aliasedBody_spells :
    Spells "\x7b\"old_reviewer_id\":\"u\\u0031\",\"note\":[ ],\"pull_request_id\":\"p\"\x7d"
      (.object [("old_reviewer_id", .string "u1"), ("note", .array []),
        ("pull_request_id", .string "p")]) := by
  have none : Blanks [] := fun _ listed => absurd listed List.not_mem_nil
  have space : Blanks [' '] := fun c listed => by rw [List.mem_singleton.1 listed]; decide
  have digit : ∀ n < 10, HexDigit (Nat.digitChar n) n := fun n small => ⟨by omega, .inl rfl⟩
  have one : CharText ['\\', 'u', '0', '0', '3', '1'] '1' :=
    .numbered (.intro (digit 0 (by decide)) (digit 0 (by decide)) (digit 3 (by decide))
      (digit 1 (by decide)))
  have letter : CharText ['u'] 'u' := .plain (by decide) (by decide) (by decide)
  have user : StringText ['"', 'u', '\\', 'u', '0', '0', '3', '1', '"'] "u1" :=
    @StringText.intro ['u', '\\', 'u', '0', '0', '3', '1'] "u1" (.cons letter (.cons one .nil))
  have members := @ValueText.object
    [.bare "old_reviewer_id" (.string "u1") ['"', 'u', '\\', 'u', '0', '0', '3', '1', '"'],
      .bare "note" (.array []) ['[', ' ', ']'],
      .bare "pull_request_id" (.string "p") (stringText "p")] (by simp)
    (by simp [Member.sound_bare])
    (by simpa [Member.bare] using
      ⟨ValueText.string user, ValueText.emptyArray space, ValueText.string (stringText_spells "p")⟩)
  exact @Spells.intro ⟨[], _, []⟩ _ ⟨none, none⟩ members

/-- A body with the same members of concern, in the other order. -/
theorem compactBody_spells :
    Spells "\x7b\"pull_request_id\":\"p\",\"old_reviewer_id\":\"u1\"\x7d"
      (.object [("pull_request_id", .string "p"), ("old_reviewer_id", .string "u1")]) := by
  have none : Blanks [] := fun _ listed => absurd listed List.not_mem_nil
  have members := @ValueText.object
    [.bare "pull_request_id" (.string "p") (stringText "p"),
      .bare "old_reviewer_id" (.string "u1") (stringText "u1")] (by simp)
    (by simp [Member.sound_bare])
    (by simpa [Member.bare] using
      ⟨ValueText.string (stringText_spells "p"), ValueText.string (stringText_spells "u1")⟩)
  exact @Spells.intro ⟨[], _, []⟩ _ ⟨none, none⟩ members

/-- The two bodies ask for the same. -/
theorem aliasedBody_is_read :
    readWhole ReassignRequest.read
        "\x7b\"old_reviewer_id\":\"u\\u0031\",\"note\":[ ],\"pull_request_id\":\"p\"\x7d" =
      .ok ⟨"p", "u1"⟩ ∧
    (readWhole ReassignRequest.read
        "\x7b\"old_reviewer_id\":\"u\\u0031\",\"note\":[ ],\"pull_request_id\":\"p\"\x7d").toOption =
      (readWhole ReassignRequest.read
        "\x7b\"pull_request_id\":\"p\",\"old_reviewer_id\":\"u1\"\x7d").toOption := by
  obtain ⟨reassign, -, alike⟩ := requests_are_read_in_any_layout aliasedBody_spells
  refine ⟨(reassign ⟨"p", "u1"⟩).2 ⟨⟨"pull_request_id", rfl⟩, ⟨"old_reviewer_id", rfl⟩⟩, ?_⟩
  refine (alike _ _ compactBody_spells).1 ?_
  decide

end ReviewDesk
