-- What a write sends to the database. A pull request and its roster go there in one transaction,
-- command by command, and nothing is kept of it unless all of them have succeeded.
import ReviewDesk.Proofs.Shelf
import ReviewDesk.Proofs.Transcript
import ReviewDesk.Sql.Database

namespace ReviewDesk.Sql

/-! ## Plans -/

/-- What is said where the commands of a plan are sent one after the other, and what comes of it.
One that fails is the last, and so is one whose rows will not do. -/
inductive Follows {α : Type} (fits : Command → List Row → Prop) :
    List Command → List Line → Except StoreError α → Prop
  | done {a : α} : Follows fits [] [] (.ok a)
  | failed {c : Command} {rest : List Command} (context : String) (cause : Cause) :
      Follows fits (c :: rest) [⟨c, .error cause⟩] (.error (cause.error context))
  | unfit {c : Command} {rest : List Command} {rows : List Row} (e : StoreError)
      (unfit : ¬ fits c rows) : Follows fits (c :: rest) [⟨c, .ok rows⟩] (.error e)
  | next {c : Command} {rest : List Command} {rows : List Row} {lines : List Line}
      {outcome : Except StoreError α} (fit : fits c rows) (later : Follows fits rest lines outcome) :
      Follows fits (c :: rest) (⟨c, .ok rows⟩ :: lines) outcome

namespace Follows

variable {α β : Type} {fits : Command → List Row → Prop} {plan more : List Command}
  {lines : List Line} {outcome : Except StoreError α} {c : Command}

theorem append_ok {lines' : List Line} {b : β} (h : Follows fits plan lines (.ok b))
    (h' : Follows fits more lines' outcome) : Follows fits (plan ++ more) (lines ++ lines') outcome := by
  -- The outcome is told apart from the one of the first plan, so that the induction can be on it.
  generalize ended : (.ok b : Except StoreError β) = first at h
  induction h with
  | done => exact h'
  | failed | unfit => cases ended
  | next fit _ ih => exact .next fit (ih ended)

theorem append_error {e : StoreError} (h : Follows (α := α) fits plan lines (.error e))
    (more : List Command) : Follows (α := α) fits (plan ++ more) lines (.error e) := by
  generalize ended : (.error e : Except StoreError α) = first at h
  induction h with
  | done => cases ended
  | failed context cause => exact .failed context cause
  | unfit e unfit => exact .unfit e unfit
  | next fit _ ih => exact .next fit (ih ended)

theorem commands_prefix (h : Follows fits plan lines outcome) : commands lines <+: plan := by
  induction h with
  | done => exact List.prefix_refl []
  | failed | unfit => exact List.prefix_append [_] _
  | next _ _ ih => exact (List.prefix_cons_inj _).2 ih

/-- A command that fails, or is replied to with what will not do, is the last. An error of the
reply is what comes of all. -/
theorem last_of_flawed (h : Follows fits plan lines outcome) {before after : List Line} {line : Line}
    (split : lines = before ++ line :: after)
    (flawed : ∀ rows, line.reply = .ok rows → ¬ fits line.command rows) :
    after = [] ∧ ∃ e, outcome = .error e ∧
      ∀ cause, line.reply = .error cause → ∃ context, e = cause.error context := by
  induction h generalizing before with
  | done => simp at split
  | failed context cause =>
    obtain ⟨rfl, rest⟩ | ⟨rest, -, none⟩ := List.append_eq_cons_iff.1 split.symm
    · cases rest
      refine ⟨rfl, _, rfl, ?_⟩
      rintro cause ⟨⟩
      exact ⟨context, rfl⟩
    · simp at none
  | unfit e unfit =>
    obtain ⟨rfl, rest⟩ | ⟨rest, -, none⟩ := List.append_eq_cons_iff.1 split.symm
    · cases rest
      exact ⟨rfl, e, rfl, nofun⟩
    · simp at none
  | next fit _ ih =>
    obtain ⟨rfl, rest⟩ | ⟨rest, -, later⟩ := List.append_eq_cons_iff.1 split.symm
    · cases rest
      exact absurd fit (flawed _ rfl)
    · exact ih later

/-- A command that fails is the last, and its error is what comes of all. -/
theorem last_of_failed (h : Follows fits plan lines outcome) {before after : List Line} {line : Line}
    {cause : Cause} (split : lines = before ++ line :: after) (failed : line.reply = .error cause) :
    after = [] ∧ ∃ context, outcome = .error (cause.error context) := by
  obtain ⟨last, e, rfl, told⟩ := h.last_of_flawed split (by simp [failed])
  obtain ⟨context, rfl⟩ := told cause failed
  exact ⟨last, context, rfl⟩

/-- A plan is left only for a reply that is an error or will not do. -/
theorem whole_or_cut (h : Follows fits plan lines outcome) :
    commands lines = plan ∨ ∃ before line, lines = before ++ [line] ∧
      ∀ rows, line.reply = .ok rows → ¬ fits line.command rows := by
  induction h with
  | done => exact .inl rfl
  | failed => exact .inr ⟨[], _, rfl, nofun⟩
  | unfit e unfit =>
    refine .inr ⟨[], _, rfl, ?_⟩
    rintro rows ⟨⟩
    exact unfit
  | @next c _ rows _ _ _ _ ih =>
    rcases ih with whole | ⟨before, line, rfl, cut⟩
    · exact .inl (congrArg (c :: ·) whole)
    · exact .inr ⟨⟨c, .ok rows⟩ :: before, line, rfl, cut⟩

/-- The last command of a plan is sent just when all before it have succeeded. -/
theorem sent_iff (h : Follows fits (plan ++ [c]) lines outcome) (new : c ∉ plan) :
    c ∈ commands lines ↔ ∃ earlier later, lines = earlier ++ later ∧ commands earlier = plan ∧
      ∀ line ∈ earlier, ∃ rows, line.reply = .ok rows ∧ fits line.command rows := by
  -- By induction on what is planned before the last command: each step of it is sent, and the
  -- last one is not among them.
  induction plan generalizing lines with
  | nil =>
    have first : c ∈ commands lines := by cases h <;> exact List.mem_cons_self
    exact iff_of_true first ⟨[], lines, rfl, rfl, by simp⟩
  | cons d plan ih =>
    rw [List.mem_cons, not_or] at new
    constructor
    · intro sent
      cases h with
      | failed | unfit => exact absurd (List.mem_singleton.1 sent) new.1
      | next fit later =>
        have sent := (List.mem_cons.1 sent).resolve_left new.1
        obtain ⟨earlier, rest, rfl, all, well⟩ := (ih later new.2).1 sent
        refine ⟨_ :: earlier, rest, rfl, congrArg (d :: ·) all, ?_⟩
        intro line listed
        rcases List.mem_cons.1 listed with rfl | listed
        · exact ⟨_, rfl, fit⟩
        · exact well line listed
    · rintro ⟨earlier, rest, split, all, well⟩
      obtain ⟨first, earlier, rfl, command, all⟩ := List.map_eq_cons_iff.1 all
      obtain ⟨rows, ok, fit⟩ := well first List.mem_cons_self
      cases h with
      | failed =>
        obtain ⟨rfl, -⟩ := List.cons.inj split
        cases ok
      | unfit e unfit =>
        obtain ⟨rfl, -⟩ := List.cons.inj split
        cases ok
        exact absurd fit unfit
      | next _ later =>
        obtain ⟨-, rfl⟩ := List.cons.inj split
        exact List.mem_cons_of_mem _ ((ih later new.2).2
          ⟨earlier, rest, rfl, all, fun line listed => well line (List.mem_cons_of_mem _ listed)⟩)

/-- All goes well just when the last command of the plan has succeeded. -/
theorem ok_iff (h : Follows fits (plan ++ [c]) lines outcome) (new : c ∉ plan)
    (fit : ∀ rows, fits c rows) : (∃ a, outcome = .ok a) ↔ ∃ rows, ⟨c, .ok rows⟩ ∈ lines := by
  induction plan generalizing lines with
  | nil =>
    cases h with
    | failed => simp
    | unfit e unfit => exact absurd (fit _) unfit
    | next _ later =>
      cases later
      exact iff_of_true ⟨_, rfl⟩ ⟨_, List.mem_cons_self⟩
  | cons d plan ih =>
    rw [List.mem_cons, not_or] at new
    cases h with
    | failed => simp
    | unfit e unfit => simp [new.1]
    | next _ later =>
      rw [ih later new.2]
      simp [new.1]

/-- All goes well just when the whole plan was sent and every reply will do. -/
theorem ok_iff_whole (h : Follows fits plan lines outcome) :
    (∃ a, outcome = .ok a) ↔ commands lines = plan ∧
      ∀ line ∈ lines, ∃ rows, line.reply = .ok rows ∧ fits line.command rows := by
  induction h with
  | done => simp [commands]
  | failed context cause => simp
  | unfit e unfit => simp [unfit]
  | next fit _ ih => simp [ih, fit, commands]

end Follows

/-! ## Transactions -/

/-- The commands of a transaction that sends some statements. -/
def inTransaction (statements : List Statement) : List Command :=
  .control .begin :: statements.map .statement ++ [.control .commit]

/-- What is said but for the end of a transaction that is given up. -/
def forward (lines : List Line) : List Line :=
  lines.filter fun line => line.command ≠ .control .rollback

/-- A write that is one transaction. Its commands are sent in their order, up to the first that
fails or is replied to with what will not do, and one that fails says what comes of it. The last is
sent when all before it have succeeded, and it decides about all of them. What is not committed is
rolled back. -/
structure OneTransaction (fits : Command → List Row → Prop) (statements : List Statement)
    (lines : List Line) (outcome : Except StoreError Unit) : Prop where
  in_order : commands (forward lines) <+: inTransaction statements
  goes_on : commands (forward lines) = inTransaction statements ∨
    ∃ before line, forward lines = before ++ [line] ∧
      ∀ rows, line.reply = .ok rows → ¬ fits line.command rows
  stops : ∀ before line after cause, forward lines = before ++ line :: after →
    line.reply = .error cause → after = [] ∧
      ∃ text, outcome = .error (if cause.isTakenKey then .conflict text else .database text)
  commits : .control .commit ∈ commands (forward lines) ↔ ∃ earlier later,
    forward lines = earlier ++ later ∧ commands earlier = (inTransaction statements).dropLast ∧
      ∀ line ∈ earlier, ∃ rows, line.reply = .ok rows ∧ fits line.command rows
  succeeds : outcome = .ok () ↔ ∃ rows, ⟨.control .commit, .ok rows⟩ ∈ forward lines
  kept : outcome = .ok () → lines = forward lines
  undone : outcome ≠ .ok () → ∃ reply, lines = forward lines ++ [⟨.control .rollback, reply⟩]

section Transactions

variable {α : Type} {fits : Command → List Row → Prop} {ending : String} {body : Attempt α}
  {lines : List Line} {outcome : Except StoreError α}

theorem forward_of_follows {plan : List Command} {steps : List Line}
    (h : Follows fits plan steps outcome) (free : .control .rollback ∉ plan) :
    forward steps = steps := by
  refine List.filter_eq_self.2 fun line listed => decide_eq_true ?_
  intro rollback
  have planned := h.commands_prefix.subset (List.mem_map_of_mem (f := Line.command) listed)
  exact free (rollback ▸ planned)

/-- A transaction that follows a plan, which may depend on what is said inside of it. -/
structure Followed (fits : Command → List Row → Prop) (plan : List Line → List Command)
    (body : Attempt α) (inner lines : List Line) (outcome : Except StoreError α) : Prop where
  inside : inner = [] ∨ ∃ result, body.run.Says inner result
  around : ∃ first closing, lines = first :: inner ++ closing ∧
    ∀ line ∈ first :: closing, ∃ c, line.command = .control c
  follows : Follows fits (.control .begin :: plan inner ++ [.control .commit]) (forward lines) outcome
  kept : ∀ a, outcome = .ok a → body.run.Says inner (.ok a) ∧ lines = forward lines
  undone : ∀ e, outcome = .error e → ∃ reply, lines = forward lines ++ [⟨.control .rollback, reply⟩]

/-- A transaction follows its plan, and is rolled back unless it gets to its end. -/
theorem followed_of_transacts {plan : List Line → List Command}
    (free : ∀ inner, .control .rollback ∉ plan inner) (controls : ∀ c rows, fits (.control c) rows)
    (follows : ∀ inner outcome, body.run.Says inner outcome → Follows fits (plan inner) inner outcome)
    (h : Attempt.Transacts ending body lines outcome) :
    ∃ inner, Followed fits plan body inner lines outcome := by
  -- The steps are what was said but for the end of a transaction that is given up.
  obtain ⟨inner, steps, inside, around, followed, ends⟩ :
      ∃ inner steps, (inner = [] ∨ ∃ result, body.run.Says inner result) ∧
        (∃ first closing, lines = first :: inner ++ closing ∧
          ∀ line ∈ first :: closing, ∃ c, line.command = .control c) ∧
        Follows fits (.control .begin :: plan inner ++ [.control .commit]) steps outcome ∧
        ((∃ a, outcome = .ok a ∧ body.run.Says inner (.ok a)) ∧ lines = steps ∨
          (∃ e, outcome = .error e) ∧ ∃ reply, lines = steps ++ [⟨.control .rollback, reply⟩]) := by
    cases h with
    | notBegun reply =>
      exact ⟨[], _, .inl rfl, ⟨_, [_], rfl, by simp⟩, .failed _ _, .inr ⟨⟨_, rfl⟩, reply, rfl⟩⟩
    | failed reply said =>
      exact ⟨_, _, .inr ⟨_, said⟩, ⟨_, [_], rfl, by simp⟩,
        .next (controls _ _) ((follows _ _ said).append_error _), .inr ⟨⟨_, rfl⟩, reply, rfl⟩⟩
    | notCommitted reply said =>
      exact ⟨_, _, .inr ⟨_, said⟩, ⟨_, [_, _], List.append_assoc (_ :: _) [_] [_], by simp⟩,
        .next (controls _ _) ((follows _ _ said).append_ok (.failed ending _)),
        .inr ⟨⟨_, rfl⟩, reply, rfl⟩⟩
    | committed said =>
      exact ⟨_, _, .inr ⟨_, said⟩, ⟨_, [_], rfl, by simp⟩,
        .next (controls _ _) ((follows _ _ said).append_ok (.next (controls _ _) .done)),
        .inl ⟨⟨_, rfl, said⟩, rfl⟩⟩
  have same : forward steps = steps := forward_of_follows followed (by simp [free])
  rcases ends with ⟨⟨a, rfl, said⟩, rfl⟩ | ⟨⟨e, rfl⟩, reply, rfl⟩
  · refine ⟨inner, inside, around, same.symm ▸ followed, ?_, nofun⟩
    rintro a ⟨⟩
    exact ⟨said, same.symm⟩
  · have undone : forward (steps ++ [⟨.control .rollback, reply⟩]) = steps := by
      unfold forward at same ⊢
      rw [List.filter_append, same]
      simp
    exact ⟨inner, inside, around, undone.symm ▸ followed, nofun, fun _ _ => ⟨reply, by rw [undone]⟩⟩

theorem oneTransaction_of_transacts {statements : List Statement} {body : Attempt Unit}
    {outcome : Except StoreError Unit} (controls : ∀ c rows, fits (.control c) rows)
    (follows : ∀ inner outcome, body.run.Says inner outcome →
      Follows fits (statements.map .statement) inner outcome)
    (h : Attempt.Transacts ending body lines outcome) :
    OneTransaction fits statements lines outcome := by
  have free : ∀ _ : List Line, Command.control .rollback ∉ statements.map .statement := by simp
  obtain ⟨inner, followed⟩ := followed_of_transacts free controls follows h
  have follows := followed.follows
  have new : .control .commit ∉ (.control .begin :: statements.map .statement : List Command) := by
    simp
  have plan : (inTransaction statements).dropLast = .control .begin :: statements.map .statement :=
    List.dropLast_concat
  refine ⟨follows.commands_prefix, follows.whole_or_cut, ?_, ?_, ?_, ?_, ?_⟩
  · intro before line after cause split failed
    obtain ⟨last, context, rfl⟩ := follows.last_of_failed split failed
    exact ⟨last, _, rfl⟩
  · rw [plan]
    exact follows.sent_iff new
  · rw [← follows.ok_iff new (controls _)]
    exact ⟨fun well => ⟨(), well⟩, fun ⟨(), well⟩ => well⟩
  · exact fun well => (followed.kept () well).2
  · intro error
    rcases outcome with e | a
    · exact followed.undone e rfl
    · exact absurd rfl error

end Transactions

/-! ## Rosters -/

namespace Database

variable {pr : PullRequest} {lines : List Line} {outcome : Except StoreError Unit}

/-- The insertions of a roster, from one position on. -/
def placements (id : PullRequestId) (position : Nat) (roster : List Reviewer) : List Statement :=
  (roster.zipIdx position).map fun place => .insertReviewer id place.2 place.1

theorem placements_cons (id : PullRequestId) (position : Nat) (r : Reviewer)
    (roster : List Reviewer) : placements id position (r :: roster) =
      .insertReviewer id position r :: placements id (position + 1) roster := rfl

theorem getElem?_placements {roster : List Reviewer} {i : Nat} {r : Reviewer}
    (listed : roster[i]? = some r) (id : PullRequestId) :
    (placements id 0 roster)[i]? = some (.insertReviewer id i r) := by
  simp [placements, List.getElem?_zipIdx, listed]

theorem follows_insertReviewers {fits : Command → List Row → Prop} {id : PullRequestId}
    {position : Nat} {roster : List Reviewer}
    (fit : ∀ position r rows, fits (.statement (.insertReviewer id position r)) rows)
    (h : (insertReviewers id position roster).run.Says lines outcome) :
    Follows fits ((placements id position roster).map .statement) lines outcome := by
  induction roster generalizing position lines with
  | nil =>
    obtain ⟨rfl, rfl⟩ := Attempt.says_pure h
    exact .done
  | cons r roster ih =>
    unfold insertReviewers at h
    rw [placements_cons, List.map_cons]
    rcases Attempt.says_execute_bind h with ⟨cause, rfl, rfl⟩ | ⟨rows, rest, went, rfl⟩
    · exact .failed _ cause
    · exact .next (fit _ _ _) (ih went)

/-- A position is kept as it is as long as sixteen bits are enough for it. -/
theorem place_eq {position : Nat} (short : position < 32768) :
    Statement.place position = .integer position := by
  unfold Statement.place
  rw [Int16.toInt_ofNat_of_lt short]

/-! ## Creating -/

/-- The statements that create a pull request. -/
def creation (pr : PullRequest) : List Statement :=
  .insertPullRequest pr :: placements pr.id 0 pr.reviewers

theorem oneTransaction_create (h : (createPullRequest pr).run.Says lines outcome) :
    OneTransaction (fun _ _ => True) (creation pr) lines outcome := by
  refine oneTransaction_of_transacts (fun _ _ => trivial) ?_ (Attempt.says_transaction h)
  intro inner outcome said
  rcases Attempt.says_execute_bind said with ⟨cause, rfl, rfl⟩ | ⟨rows, rest, went, rfl⟩
  · exact .failed _ cause
  · exact .next trivial (follows_insertReviewers (fun _ _ _ => trivial) went)

/-! ## Updating -/

/-- The statements that update a pull request. -/
def revision (pr : PullRequest) : List Statement :=
  .lockPullRequest pr.id :: .updatePullRequest pr :: .clearReviewers pr.id ::
    placements pr.id 0 pr.reviewers

/-- An update goes on only when the pull request that it has locked is open. -/
def LockedOpen (pr : PullRequest) (c : Command) (rows : List Row) : Prop :=
  c = .statement (.lockPullRequest pr.id) →
    ∃ row rest, rows = row :: rest ∧ row.get 0 = .text Status.opened.label

theorem readStatus_eq_ok_iff {column : Column} {value : Value} {status : Status} :
    readStatus column value = .ok status ↔ value = .text status.label := by
  constructor
  · intro read
    cases value with
    | text label =>
      unfold readStatus at read
      dsimp only at read
      cases known : Status.ofLabel? label with
      | none =>
        rw [known] at read
        cases read
      | some found =>
        rw [known] at read
        cases read
        unfold Status.ofLabel? at known
        split at known
        · rename_i same
          cases known
          rw [same]
          rfl
        · split at known
          · rename_i same
            cases known
            rw [same]
            rfl
          · cases known
    | null | integer | boolean | instant | texts => cases read
  · rintro rfl
    cases status <;> rfl

theorem head?_mapM {α : Type} (read : Row → Except Cause α) (row : Row) (rest : List Row) :
    (row :: rest).head?.mapM read = (read row).map some := rfl

/-- What is said of a pull request that is updated, from the look at its status on. -/
inductive Revises (pr : PullRequest) : List Line → Except StoreError Unit → Prop
  | unlocked (cause : Cause) :
      Revises pr [⟨.statement (.lockPullRequest pr.id), .error cause⟩]
        (.error (cause.error (Statement.lockPullRequest pr.id).context))
  | unreadable {rows : List Row} {cause : Cause}
      (flawed : ∀ status : Status, ∀ row rest, rows = row :: rest → row.get 0 ≠ .text status.label)
      (some_row : rows ≠ []) :
      Revises pr [⟨.statement (.lockPullRequest pr.id), .ok rows⟩]
        (.error (cause.error (Statement.lockPullRequest pr.id).context))
  | missing : Revises pr [⟨.statement (.lockPullRequest pr.id), .ok []⟩]
      (.error (.notFound ("pull request " ++ pr.id.value)))
  | merged {row : Row} {rest : List Row} (status : row.get 0 = .text Status.merged.label) :
      Revises pr [⟨.statement (.lockPullRequest pr.id), .ok (row :: rest)⟩]
        (.error (Store.frozen pr.id))
  | opened {row : Row} {rest : List Row} {later : List Line} {outcome : Except StoreError Unit}
      (status : row.get 0 = .text Status.opened.label)
      (follows : Follows (LockedOpen pr) ((revision pr).tail.map .statement) later outcome) :
      Revises pr (⟨.statement (.lockPullRequest pr.id), .ok (row :: rest)⟩ :: later) outcome

/-- Only the look at its status makes a difference for an update. -/
theorem lockedOpen_of_ne {c : Command} (other : c ≠ .statement (.lockPullRequest pr.id))
    (rows : List Row) : LockedOpen pr c rows := fun same => absurd same other

theorem follows_rewrite (h : (do
      Attempt.execute (.updatePullRequest pr)
      Attempt.execute (.clearReviewers pr.id)
      insertReviewers pr.id 0 pr.reviewers : Attempt Unit).run.Says lines outcome) :
    Follows (LockedOpen pr) ((revision pr).tail.map .statement) lines outcome := by
  rcases Attempt.says_execute_bind h with ⟨cause, rfl, rfl⟩ | ⟨rows, lines, updated, rfl⟩
  · exact .failed _ cause
  refine .next (lockedOpen_of_ne (by simp) _) ?_
  rcases Attempt.says_execute_bind updated with ⟨cause, rfl, rfl⟩ | ⟨rows, lines, cleared, rfl⟩
  · exact .failed _ cause
  exact .next (lockedOpen_of_ne (by simp) _)
    (follows_insertReviewers (fun _ _ => lockedOpen_of_ne (by simp)) cleared)

theorem Revises.follows (h : Revises pr lines outcome) :
    Follows (LockedOpen pr) ((revision pr).map .statement) lines outcome := by
  cases h with
  | unlocked cause => exact .failed _ cause
  | unreadable flawed =>
    refine .unfit _ fun fit => ?_
    obtain ⟨row, rest, same, status⟩ := fit rfl
    exact flawed .opened row rest same status
  | missing =>
    refine .unfit _ fun fit => ?_
    obtain ⟨row, rest, same, -⟩ := fit rfl
    cases same
  | merged status =>
    refine .unfit _ fun fit => ?_
    obtain ⟨row, rest, same, opened⟩ := fit rfl
    cases same
    rw [status] at opened
    simp [Status.label] at opened
  | opened status follows => exact .next (fun _ => ⟨_, _, rfl, status⟩) follows

/-- What an update does inside of its transaction. -/
theorem says_update (h : (updatePullRequest pr).run.Says lines outcome) :
    ∃ ending body, Attempt.Transacts ending body lines outcome ∧
      ∀ inner outcome, body.run.Says inner outcome → Revises pr inner outcome := by
  refine ⟨_, _, Attempt.says_transaction h, ?_⟩
  intro inner outcome said
  rcases Attempt.says_read_bind said with
    ⟨cause, rfl, rfl⟩ | ⟨rows, cause, flawed, rfl, rfl⟩ | ⟨rows, found, rest, read, went, rfl⟩
  · exact .unlocked cause
  · cases rows with
    | nil => cases flawed
    | cons row rest =>
      refine .unreadable ?_ (List.cons_ne_nil _ _)
      rintro status row' rest' same label
      cases same
      rw [head?_mapM, readStatus_eq_ok_iff.2 label] at flawed
      cases flawed
  · cases rows with
    | nil =>
      cases read
      obtain ⟨rfl, rfl⟩ := Attempt.says_throw went
      exact .missing
    | cons row others =>
      rw [head?_mapM] at read
      cases status : readStatus .only (row.get 0) with
      | error cause =>
        rw [status] at read
        cases read
      | ok known =>
        rw [status] at read
        cases read
        have label := readStatus_eq_ok_iff.1 status
        cases known with
        | merged =>
          obtain ⟨rfl, rfl⟩ := Attempt.says_throw went
          exact .merged label
        | opened => exact .opened label (follows_rewrite went)

theorem oneTransaction_update (h : (updatePullRequest pr).run.Says lines outcome) :
    OneTransaction (LockedOpen pr) (revision pr) lines outcome := by
  obtain ⟨ending, body, transacts, revises⟩ := says_update h
  exact oneTransaction_of_transacts (fun c => lockedOpen_of_ne (by simp))
    (fun inner outcome said => (revises inner outcome said).follows) transacts

/-- Where the lock finds nothing to write over, the update ends there. -/
theorem Revises.refused (h : Revises pr lines outcome) {rows : List Row}
    (locked : ⟨.statement (.lockPullRequest pr.id), .ok rows⟩ ∈ lines) :
    (rows = [] → lines = [⟨.statement (.lockPullRequest pr.id), .ok rows⟩] ∧
      outcome = .error (.notFound ("pull request " ++ pr.id.value))) ∧
    ∀ row rest, rows = row :: rest → row.get 0 = .text Status.merged.label →
      lines = [⟨.statement (.lockPullRequest pr.id), .ok rows⟩] ∧
      outcome = .error (Store.frozen pr.id) := by
  cases h with
  | unlocked => simp at locked
  | unreadable flawed some_row =>
    cases List.mem_singleton.1 locked
    refine ⟨fun none => absurd none some_row, ?_⟩
    intro row rest same status
    exact absurd status (flawed .merged row rest same)
  | missing =>
    cases List.mem_singleton.1 locked
    exact ⟨fun _ => ⟨rfl, rfl⟩, nofun⟩
  | merged =>
    cases List.mem_singleton.1 locked
    exact ⟨nofun, fun _ _ _ _ => ⟨rfl, rfl⟩⟩
  | opened status follows =>
    rcases List.mem_cons.1 locked with here | later
    · cases here
      refine ⟨nofun, ?_⟩
      intro row rest same merged
      cases same
      rw [status] at merged
      simp [Status.label] at merged
    · -- The lock is taken only once.
      have again := follows.commands_prefix.subset (List.mem_map_of_mem (f := Line.command) later)
      simp [revision, placements] at again

/-- A write over a pull request is refused as it is by every store in memory of some kind, and
changes nothing. -/
def RefusedAsBy (stores : Store → Prop) (pr : PullRequest) (lines : List Line)
    (outcome : Except StoreError Unit) : Prop :=
  ∃ e, outcome = .error e ∧ (∀ s, stores s → s.update pr = .error e) ∧
    ∀ statement, .statement statement ∈ commands lines → statement.isWrite = false

theorem refused_update (h : (updatePullRequest pr).run.Says lines outcome) {rows : List Row}
    (locked : ⟨.statement (.lockPullRequest pr.id), .ok rows⟩ ∈ lines) :
    (rows = [] → RefusedAsBy (fun s => s.pullRequests.get? pr.id = none) pr lines outcome) ∧
    ∀ row rest, rows = row :: rest → row.get 0 = .text Status.merged.label →
      RefusedAsBy (fun s => ∃ stored, s.pullRequests.get? pr.id = some stored ∧
        stored.isMerged = true) pr lines outcome := by
  obtain ⟨ending, body, transacts, revises⟩ := says_update h
  obtain ⟨inner, result, said, inside, failed, others⟩ := transacts.inside locked
  obtain ⟨missing, merged⟩ := (revises inner result said).refused inside
  have reads : inner = [⟨.statement (.lockPullRequest pr.id), .ok rows⟩] →
      ∀ statement, .statement statement ∈ commands lines → statement.isWrite = false := by
    intro ended statement sent
    obtain ⟨line, there, command⟩ := List.mem_map.1 sent
    rcases others line there with within | ⟨c, control⟩
    · rw [ended, List.mem_singleton] at within
      subst within
      cases command
      rfl
    · rw [control] at command
      cases command
  constructor
  · intro none
    obtain ⟨ended, error⟩ := missing none
    exact ⟨_, failed _ error, fun s => Store.update_of_missing, reads ended⟩
  · intro row rest same status
    obtain ⟨ended, error⟩ := merged row rest same status
    refine ⟨_, failed _ error, ?_, reads ended⟩
    rintro s ⟨stored, stands, late⟩
    exact Store.update_of_merged stands late

/-! ## Both -/

/-- Whatever the database replies, a pull request is created in one transaction, and updated in one.
Each sends its commands in a fixed order and no further than the first that fails, which says what
comes of it, and succeeds just when the commit at the end does. Each reviewer is written at the
place that the reviewer has on the roster. An update of what is not there or already merged writes
nothing, and says what the store in memory says. -/
theorem writes_are_all_or_nothing (pr : PullRequest) (short : pr.reviewers.length ≤ 32768)
    (replies : Nat → Reply) :
    let create := (createPullRequest pr).run.play replies
    let update := (updatePullRequest pr).run.play replies
    OneTransaction (fun _ _ => True) (creation pr) create.1 create.2 ∧
    OneTransaction (LockedOpen pr) (revision pr) update.1 update.2 ∧
    (∀ i (r : Reviewer), pr.reviewers[i]? = some r →
      (creation pr)[i + 1]? = some (.insertReviewer pr.id i r) ∧
      (revision pr)[i + 3]? = some (.insertReviewer pr.id i r) ∧
      (Statement.insertReviewer pr.id i r).parameters =
        [.text pr.id.value, .text r.user.value, .integer i, .instant (kept r.assignedAt)]) ∧
    (creation pr).length = pr.reviewers.length + 1 ∧
    (revision pr).length = pr.reviewers.length + 3 ∧
    ∀ rows, ⟨.statement (.lockPullRequest pr.id), .ok rows⟩ ∈ update.1 →
      (rows = [] →
        RefusedAsBy (fun s => s.pullRequests.get? pr.id = none) pr update.1 update.2) ∧
      ∀ row rest, rows = row :: rest → row.get 0 = .text Status.merged.label →
        RefusedAsBy (fun s => ∃ stored, s.pullRequests.get? pr.id = some stored ∧
          stored.isMerged = true) pr update.1 update.2 := by
  intro create update
  have created : (createPullRequest pr).run.Says create.1 create.2 := Exchange.says_play _ replies
  have updated : (updatePullRequest pr).run.Says update.1 update.2 := Exchange.says_play _ replies
  refine ⟨oneTransaction_create created, oneTransaction_update updated, ?_, ?_, ?_,
    fun rows locked => refused_update updated locked⟩
  · intro i r listed
    have inside : i < 32768 := by
      have within := (List.getElem?_eq_some_iff.1 listed).1
      omega
    refine ⟨getElem?_placements listed pr.id, getElem?_placements listed pr.id, ?_⟩
    simp only [Statement.parameters, place_eq inside]
  · simp [creation, placements]
  · simp [revision, placements]

/-- A pull request with two reviewers. -/
def paired : PullRequest where
  id := ⟨"p"⟩
  title := "One"
  author := ⟨"ann"⟩
  status := .opened
  reviewers := [⟨⟨"bea"⟩, ⟨1000⟩⟩, ⟨⟨"cid"⟩, ⟨2000⟩⟩]
  createdAt := ⟨1000⟩
  mergedAt := none

/-- A database where the first reviewer is there already, and every row says merged. -/
def crossed : Nat → Reply
  | 2 => .error (.refused "23505" "duplicate key")
  | _ => .ok [[.text "MERGED"]]

theorem crossed_writes_leave_nothing :
    let create := (createPullRequest paired).run.play crossed
    let update := (updatePullRequest paired).run.play crossed
    commands create.1 = [.control .begin, .statement (.insertPullRequest paired),
      .statement (.insertReviewer ⟨"p"⟩ 0 ⟨⟨"bea"⟩, ⟨1000⟩⟩), .control .rollback] ∧
    (∃ text, create.2 = .error (.conflict text)) ∧
    .control .commit ∉ commands (forward create.1) ∧
    RefusedAsBy (fun s => ∃ stored, s.pullRequests.get? ⟨"p"⟩ = some stored ∧
      stored.isMerged = true) paired update.1 update.2 := by
  intro create update
  obtain ⟨created, -, -, -, -, refused⟩ := writes_are_all_or_nothing paired (by decide) crossed
  obtain ⟨-, text, conflict⟩ := created.stops
    [⟨.control .begin, crossed 0⟩, ⟨.statement (.insertPullRequest paired), crossed 1⟩]
    ⟨.statement (.insertReviewer ⟨"p"⟩ 0 ⟨⟨"bea"⟩, ⟨1000⟩⟩), crossed 2⟩ [] _ rfl rfl
  refine ⟨rfl, ⟨text, conflict⟩, by decide, ?_⟩
  exact (refused _ (List.mem_cons_of_mem _ List.mem_cons_self)).2 [.text "MERGED"] [] rfl rfl

end Database

end ReviewDesk.Sql
