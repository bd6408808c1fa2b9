-- Passing over a value. Whatever the grammar allows as a value is passed over to its end, however
-- deep it is and however it is written.
import ReviewDesk.Proofs.Tokens

namespace ReviewDesk.Json

variable {cs : List Char} {c : Char} {rest : Input}

/-! ## What a value begins with -/

/-- The characters that no value begins with, as far as the readers look. -/
def strangers : List Char := [' ', '\n', '\t', '\r', ']', '}']

theorem numeralStart_not_mem (start : c = '-' ∨ '0' ≤ c ∧ c ≤ '9') :
    c ∉ ['[', '{', '"'] ++ strangers := by
  intro listed
  simp only [strangers, List.mem_cons, List.mem_append, List.not_mem_nil, or_false] at listed
  rcases listed with (rfl | rfl | rfl) | rfl | rfl | rfl | rfl | rfl | rfl <;> revert start <;> decide

/-- A value begins with a quote just if it is a string, and behind the quote it is read. -/
theorem ValueText.begins {tree : Tree} (written : ValueText cs tree) :
    ∃ c tail, cs = c :: tail ∧ c ∉ strangers ∧
      if c = '"' then
        ∃ s, tree = .string s ∧
          ∀ rest : Input, readChars [] true (tail.map some ++ rest) = .ok (s, rest)
      else tree.string? = none := by
  cases written with
  | @word name listed =>
    simp only [List.mem_cons, List.not_mem_nil, or_false] at listed
    rcases listed with rfl | rfl | rfl <;> exact ⟨_, _, rfl, by decide, rfl⟩
  | numeral numeral =>
    obtain ⟨c, tail, rfl, start, -⟩ := numeral.begins
    have free := numeralStart_not_mem start
    refine ⟨c, tail, rfl, fun listed => free (List.mem_append_right _ listed), ?_⟩
    rw [if_neg]
    · rfl
    · rintro rfl
      exact free (by decide)
  | string isString =>
    obtain ⟨tail, rfl, read⟩ := isString.begins
    exact ⟨'"', tail, rfl, by decide, _, rfl, fun rest => (read rest).1⟩
  | emptyArray _ | array _ _ _ => exact ⟨'[', _, rfl, by decide, rfl⟩
  | emptyObject _ | object _ _ _ => exact ⟨'{', _, rfl, by decide, rfl⟩

theorem isSpace_of_not_stranger (free : c ∉ strangers) : isSpace (some c) = false :=
  Bool.eq_false_iff.2 fun space => free (List.mem_append_left [']', '}'] (isSpace_iff.1 space))

/-! ## What may follow a value -/

theorem stops_cons (free : c ∈ [' ', '\n', '\t', '\r', ',', ']', '}']) (rest : Input) :
    Stops (some c :: rest) := by
  simp only [List.mem_cons, List.not_mem_nil, or_false] at free
  rcases free with rfl | rfl | rfl | rfl | rfl | rfl | rfl <;>
    exact ⟨rfl, by simp, by simp, by simp⟩

theorem stops_blanks (blanks : Blanks cs) (stops : Stops rest) : Stops (cs.map some ++ rest) := by
  cases cs with
  | nil => exact stops
  | cons c cs =>
    exact stops_cons (List.mem_append_left [',', ']', '}'] (blanks c List.mem_cons_self)) _

theorem afterFirst_cons {α : Type} (text : α → List Char) (a : α) (as : List α) :
    afterFirst text (a :: as) = ',' :: (text a ++ afterFirst text as) := rfl

theorem stops_afterFirst {α : Type} {text : α → List Char} {close : Char}
    (isClose : close ∈ [']', '}'])
    (as : List α) (rest : Input) :
    Stops ((afterFirst text as).map some ++ some close :: rest) := by
  cases as with
  | nil => exact stops_cons (List.mem_append_right [' ', '\n', '\t', '\r', ','] isClose) rest
  | cons a as => exact stops_cons (by decide) _

/-! ## Passing over a value -/

section Skip

variable {place next : Place} {opened : List Bracket} {after left : Input}

theorem skipFrom_eq (busy : place ≠ ⟨.follower, []⟩) (cs : Input) :
    skipFrom place cs =
      match skipBlanks cs with
      | [] => .error .truncated
      | c :: rest =>
        match move place c rest with
        | .error e => .error e
        | .ok (next, left) => skipFrom next left := by
  rw [skipFrom, if_neg busy]
  split <;> rename_i same <;> rw [same]
  dsimp only
  split <;> rename_i same' <;> rw [same']

theorem skipFrom_step (busy : place ≠ ⟨.follower, []⟩) (solid : isSpace (some c) = false)
    (moved : move place (some c) after = .ok (next, left)) :
    skipFrom place (some c :: after) = skipFrom next left := by
  rw [skipFrom_eq busy, skipBlanks_cons solid]
  dsimp only
  rw [moved]

theorem skipFrom_blanks (busy : place ≠ ⟨.follower, []⟩) (blanks : Blanks cs) (rest : Input) :
    skipFrom place (cs.map some ++ rest) = skipFrom place rest := by
  rw [skipFrom_eq busy, skipFrom_eq busy, skipBlanks_blanks blanks]

/-- A text that is passed over where a value is expected. -/
def Passed (cs : List Char) : Prop :=
  ∀ opened rest, Stops rest →
    skipFrom ⟨.value, opened⟩ (cs.map some ++ rest) = skipFrom ⟨.follower, opened⟩ rest

theorem passed_padded {written : Padded} (sound : written.Sound) (passed : Passed written.core)
    (stops : Stops rest) :
    skipFrom ⟨.value, opened⟩ (written.text.map some ++ rest) =
      skipFrom ⟨.follower, opened⟩ (written.after.map some ++ rest) := by
  unfold Padded.text
  simp only [List.map_append, List.append_assoc]
  rw [skipFrom_blanks (by simp) sound.1, passed _ _ (stops_blanks sound.2 stops)]

theorem passed_item {bracket : Bracket} {written : Padded} (sound : written.Sound)
    (passed : Passed written.core) (stops : Stops rest) :
    skipFrom ⟨.value, bracket :: opened⟩ (written.text.map some ++ rest) =
      skipFrom ⟨.follower, bracket :: opened⟩ rest := by
  rw [passed_padded sound passed stops, skipFrom_blanks (by simp) sound.2]

/-! ### Between brackets -/

end Skip

namespace Bracket

def opening : Bracket → Char
  | square => '['
  | curly => '{'

def closing : Bracket → Char
  | square => ']'
  | curly => '}'

/-- What may come behind the opening bracket. -/
def first : Bracket → Expected
  | square => .firstItem
  | curly => .firstMember

/-- What has to come behind a comma. -/
def next : Bracket → Expected
  | square => .value
  | curly => .member

theorem closing_mem (bracket : Bracket) : bracket.closing ∈ [']', '}'] := by
  cases bracket <;> decide

end Bracket

section Between

variable {bracket : Bracket} {opened : List Bracket}

theorem skipFrom_opening (bracket : Bracket) (opened : List Bracket) (rest : Input) :
    skipFrom ⟨.value, opened⟩ (some bracket.opening :: rest) =
      skipFrom ⟨bracket.first, bracket :: opened⟩ rest := by
  cases bracket <;> exact skipFrom_step (by simp) (by decide) rfl

theorem skipFrom_comma (bracket : Bracket) (opened : List Bracket) (rest : Input) :
    skipFrom ⟨.follower, bracket :: opened⟩ (some ',' :: rest) =
      skipFrom ⟨bracket.next, bracket :: opened⟩ rest := by
  cases bracket <;> exact skipFrom_step (by simp) (by decide) rfl

theorem skipFrom_closing (bracket : Bracket) (opened : List Bracket) (rest : Input) :
    skipFrom ⟨.follower, bracket :: opened⟩ (some bracket.closing :: rest) =
      skipFrom ⟨.follower, opened⟩ rest := by
  cases bracket <;> exact skipFrom_step (by simp) (by decide) rfl

theorem skipFrom_closing_first (bracket : Bracket) (opened : List Bracket) (rest : Input) :
    skipFrom ⟨bracket.first, bracket :: opened⟩ (some bracket.closing :: rest) =
      skipFrom ⟨.follower, opened⟩ rest := by
  cases bracket <;> exact skipFrom_step (by simp) (by decide) rfl

/-- A text that is passed over between brackets where something is expected. -/
def PassedIn (bracket : Bracket) (expected : Expected) (cs : List Char) : Prop :=
  ∀ opened rest, Stops rest →
    skipFrom ⟨expected, bracket :: opened⟩ (cs.map some ++ rest) =
      skipFrom ⟨.follower, bracket :: opened⟩ rest

section Lists

variable {α : Type} {text : α → List Char} {as : List α}

theorem passed_afterFirst (each : ∀ a ∈ as, PassedIn bracket bracket.next (text a)) :
    skipFrom ⟨.follower, bracket :: opened⟩
        ((afterFirst text as).map some ++ some bracket.closing :: rest) =
      skipFrom ⟨.follower, opened⟩ rest := by
  induction as with
  | nil => exact skipFrom_closing bracket opened rest
  | cons a as ih =>
    rw [afterFirst_cons, List.map_cons, List.cons_append, skipFrom_comma, List.map_append,
      List.append_assoc, each a List.mem_cons_self _ _ (stops_afterFirst bracket.closing_mem as rest)]
    exact ih fun a here => each a (.tail _ here)

theorem passed_joined (bracket : Bracket) (nonempty : as ≠ [])
    (first : ∀ a ∈ as, PassedIn bracket bracket.first (text a))
    (each : ∀ a ∈ as, PassedIn bracket bracket.next (text a)) :
    Passed (bracket.opening :: joined text as ++ [bracket.closing]) := by
  intro opened rest _
  cases as with
  | nil => exact absurd rfl nonempty
  | cons a as =>
    simp only [joined, List.map_cons, List.map_append, List.map_nil, List.cons_append,
      List.append_assoc, List.nil_append]
    rw [skipFrom_opening,
      first a List.mem_cons_self _ _ (stops_afterFirst bracket.closing_mem as rest)]
    exact passed_afterFirst fun a here => each a (.tail _ here)

theorem passed_empty (bracket : Bracket) {blanks : List Char} (isBlanks : Blanks blanks) :
    Passed (bracket.opening :: blanks ++ [bracket.closing]) := by
  intro opened rest _
  have busy : (⟨bracket.first, bracket :: opened⟩ : Place) ≠ ⟨.follower, []⟩ := by simp
  simp only [List.map_cons, List.map_append, List.map_nil, List.cons_append, List.append_assoc,
    List.nil_append]
  rw [skipFrom_opening, skipFrom_blanks busy isBlanks, skipFrom_closing_first]

end Lists

/-! ### Items and members -/

theorem passedIn_item {written : Padded} (sound : written.Sound) (passed : Passed written.core) :
    PassedIn .square .value written.text :=
  fun _ _ stops => passed_item sound passed stops

/-- The first item of an array is taken like any other value. -/
theorem passedIn_firstItem {tree : Tree} {written : Padded} (sound : written.Sound)
    (isValue : ValueText written.core tree) (passed : Passed written.core) :
    PassedIn .square .firstItem written.text := by
  intro opened rest stops
  rw [← passed_item sound passed stops]
  obtain ⟨c, tail, begins, free, -⟩ := isValue.begins
  unfold Padded.text
  simp only [List.map_append, List.append_assoc]
  rw [skipFrom_blanks (by simp) sound.1, skipFrom_blanks (by simp) sound.1, begins, List.map_cons,
    List.cons_append, skipFrom_eq (by simp), skipFrom_eq (by simp),
    skipBlanks_cons (isSpace_of_not_stranger free)]
  dsimp only [move]
  rw [if_neg]
  rintro ⟨⟩
  exact free (by decide)

theorem readColon_text (blanks : Blanks cs) (rest : Input) :
    readColon (cs.map some ++ some ':' :: rest) = .ok rest := by
  unfold readColon
  rw [skipBlanks_blanks blanks, skipBlanks_cons (by decide)]
  exact if_pos rfl

/-- What is left of a member behind its name, and what follows the member. -/
def Member.afterName (m : Member) (rest : Input) : Input :=
  m.nameWritten.after.map some ++ some ':' :: (m.valueWritten.text.map some ++ rest)

theorem readColon_afterName {m : Member} (sound : m.Sound) (rest : Input) :
    readColon (m.afterName rest) = .ok (m.valueWritten.text.map some ++ rest) :=
  readColon_text sound.aroundName.2 _

/-- A member begins with a quote, behind which its name is read and passed over. -/
theorem Member.Sound.begins {m : Member} (sound : m.Sound) (rest : Input) :
    ∃ tail, m.text.map some ++ rest = m.nameWritten.before.map some ++ some '"' :: tail ∧
      readChars [] true tail = .ok (m.name, m.afterName rest) ∧
        skipChars tail = .ok (m.afterName rest) := by
  obtain ⟨tail, core, read⟩ := sound.name.begins
  refine ⟨tail.map some ++ m.afterName rest, ?_, read _⟩
  rw [Member.text, Padded.text, core, Member.afterName]
  simp only [List.map_append, List.map_cons, List.append_assoc, List.cons_append]

theorem passedIn_member {expected : Expected} (due : expected = .firstMember ∨ expected = .member)
    {m : Member} (sound : m.Sound) (passed : Passed m.valueWritten.core) :
    PassedIn .curly expected m.text := by
  intro opened rest stops
  obtain ⟨tail, text, -, skipped⟩ := sound.begins rest
  have busy : (⟨expected, .curly :: opened⟩ : Place) ≠ ⟨.follower, []⟩ := by simp
  have begin : ∀ more, move ⟨expected, .curly :: opened⟩ (some '"') more =
      beginMember (.curly :: opened) (some '"') more := by
    intro more
    rcases due with rfl | rfl <;> rfl
  have named : move ⟨expected, .curly :: opened⟩ (some '"') tail =
      .ok (⟨.value, .curly :: opened⟩, m.valueWritten.text.map some ++ rest) := by
    rw [begin, beginMember, if_pos rfl, skipped]
    dsimp only
    rw [readColon_afterName sound]
    rfl
  rw [text, skipFrom_blanks busy sound.aroundName.1, skipFrom_step busy (by decide) named,
    passed_item sound.aroundValue passed stops]

end Between

/-! ### Any value -/

theorem passed_scalar {tail : List Char} (notArray : c ≠ '[') (notObject : c ≠ '{')
    (solid : isSpace (some c) = false)
    (skipped : ∀ rest, Stops rest → skipScalar (some c) (tail.map some ++ rest) = .ok rest) :
    Passed (c :: tail) := by
  intro opened rest stops
  have begun : beginValue opened (some c) (tail.map some ++ rest) =
      .ok (⟨.follower, opened⟩, rest) := by
    rw [beginValue, if_neg (by simpa using notArray), if_neg (by simpa using notObject),
      skipped rest stops]
    rfl
  exact skipFrom_step (by simp) solid begun

/-- Every value is passed over, however it is written. -/
theorem passed_value {tree : Tree} (written : ValueText cs tree) : Passed cs := by
  induction written with
  | @word name listed =>
    simp only [List.mem_cons, List.not_mem_nil, or_false] at listed
    rcases listed with rfl | rfl | rfl <;>
      exact passed_scalar (by decide) (by decide) (by decide) fun rest _ => readWord_text _ rest
  | numeral numeral =>
    obtain ⟨c, tail, rfl, start, skipped⟩ := numeral.begins
    have free := numeralStart_not_mem start
    refine passed_scalar ?_ ?_ ?_ skipped
    · rintro rfl
      exact free (by decide)
    · rintro rfl
      exact free (by decide)
    · exact isSpace_of_not_stranger fun listed => free (List.mem_append_right ['[', '{', '"'] listed)
  | string isString =>
    obtain ⟨tail, rfl, read⟩ := isString.begins
    exact passed_scalar (by decide) (by decide) (by decide) fun rest _ => (read rest).2
  | emptyArray blanks => exact passed_empty .square blanks
  | array nonempty sound values ih =>
    exact passed_joined .square nonempty
      (fun item here => passedIn_firstItem (sound item here) (values item here) (ih item here))
      (fun item here => passedIn_item (sound item here) (ih item here))
  | emptyObject blanks => exact passed_empty .curly blanks
  | object nonempty sound _ ih =>
    exact passed_joined .curly nonempty
      (fun m here => passedIn_member (.inl rfl) (sound m here) (ih m here))
      (fun m here => passedIn_member (.inr rfl) (sound m here) (ih m here))

end ReviewDesk.Json
