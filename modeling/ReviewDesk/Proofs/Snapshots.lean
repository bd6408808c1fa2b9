-- What a read of pull requests says to the database. Their rows and the places on their rosters
-- are selected one after the other in a transaction that sees one state of both tables, and each
-- pull request gets the places with its id, however they come.
import ReviewDesk.Proofs.Rows

namespace ReviewDesk.Sql

/-! ## Replies -/

/-- The rows of the first reply to a statement, none where it was not replied to with rows. -/
def replied (s : Statement) (lines : List Line) : List Row :=
  (lines.findSome? fun line =>
    if line.command = .statement s then line.reply.toOption else none).getD []

/-- A statement that is sent between controls is none of them. -/
theorem mem_commands_of_controls {first : Line} {inner closing : List Line} {s : Statement}
    (control : ∀ line ∈ first :: closing, ∃ c, line.command = .control c)
    (sent : .statement s ∈ commands (first :: inner ++ closing)) :
    .statement s ∈ commands inner := by
  obtain ⟨line, listed, command⟩ := List.mem_map.1 sent
  have other : line ∉ first :: closing := by
    intro outside
    obtain ⟨c, same⟩ := control line outside
    cases command.symm.trans same
  refine List.mem_map.2 ⟨line, ?_, command⟩
  simp only [List.mem_cons, List.cons_append, List.mem_append] at listed other
  tauto

/-- Controls say nothing about a statement. -/
theorem replied_of_controls {first : Line} {inner closing : List Line} (s : Statement)
    (control : ∀ line ∈ first :: closing, ∃ c, line.command = .control c) :
    replied s (first :: inner ++ closing) = replied s inner := by
  have silent : ∀ line ∈ first :: closing,
      (if line.command = .statement s then line.reply.toOption else none) = none := by
    intro line listed
    obtain ⟨c, command⟩ := control line listed
    simp [command]
  have front : [first].findSome? (fun line : Line =>
      if line.command = .statement s then line.reply.toOption else none) = none := by
    simpa using silent first List.mem_cons_self
  have back : closing.findSome? (fun line : Line =>
      if line.command = .statement s then line.reply.toOption else none) = none :=
    List.findSome?_eq_none_iff.2 fun line listed => silent line (List.mem_cons_of_mem _ listed)
  unfold replied
  rw [List.findSome?_append, back, ← List.singleton_append, List.findSome?_append, front]
  simp

namespace Database

/-! ## Queries -/

/-- Which pull requests are read: the one with an id, all of them, or those of a reviewer. -/
inductive Query where
  | one (id : PullRequestId)
  | all
  | reviewedBy (user : UserId)

/-- The ids that rows begin with. -/
def idsOf (rows : List Row) : List PullRequestId :=
  rows.filterMap fun row => match row.get 0 with
    | .text id => some ⟨id⟩
    | _ => none

namespace Query

/-- The statement that selects the pull requests. -/
def select : Query → Statement
  | one id => .findPullRequest id
  | all => .listPullRequests
  | reviewedBy user => .findPullRequestsByReviewer user

/-- The rows of the reply that count. It is the first one where one pull request is read. -/
def rows : Query → List Row → List Row
  | one _, rows => rows.take 1
  | _, rows => rows

/-- The statement that selects the places on the rosters of the pull requests. It is left out
where one pull request is read and there is none. -/
def load : Query → List Row → List Statement
  | one _, [] => []
  | q, rows => [.loadReviewers (idsOf (q.rows rows))]

/-- The commands of a read, where some rows are replied to the selection. -/
def plan (q : Query) (rows : List Row) : List Command :=
  .control .begin :: (.control .isolate :: .statement q.select :: (q.load rows).map .statement) ++
    [.control .commit]

/-- Whether the rows of a reply can be read. -/
def Fits (q : Query) : Command → List Row → Prop
  | .control _, _ => True
  | .statement (.loadReviewers _), rows => ∀ row ∈ rows, ∃ id r, TellsPlace row id r
  | .statement _, rows => ∀ row ∈ q.rows rows, ∃ pr, TellsPullRequest row pr

/-- A command that succeeds. -/
def WentWell (q : Query) (line : Line) : Prop :=
  ∃ rows, line.reply = .ok rows ∧ q.Fits line.command rows

theorem fits_select (q : Query) (rows : List Row) : q.Fits (.statement q.select) rows ↔
    ∀ row ∈ q.rows rows, ∃ pr, TellsPullRequest row pr := by
  cases q <;> rfl

theorem load_ne_select (q : Query) (ids : List PullRequestId) :
    Statement.loadReviewers ids ≠ q.select := by
  cases q <;> simp [select]

end Query

/-- A read that is one snapshot. Its commands are sent in their order, up to the first that fails,
and it succeeds just when all of them do. What is not committed is rolled back. It asks for the
places of the pull requests in the rows that it found. Where these have different ids, each row
makes one pull request, and the places with its id are its roster, both in the order in which they
came. -/
structure IsSnapshot (q : Query) (lines : List Line)
    (outcome : Except StoreError (List PullRequest)) : Prop where
  in_order : commands (forward lines) <+: q.plan (replied q.select lines)
  goes_on : commands (forward lines) = q.plan (replied q.select lines) ∨
    ∃ before line, forward lines = before ++ [line] ∧ ¬ q.WentWell line
  stops : ∀ before line after, forward lines = before ++ line :: after → ¬ q.WentWell line →
    after = [] ∧ ∃ e, outcome = .error e ∧ ∀ cause, line.reply = .error cause →
      ∃ text, e = if cause.isTakenKey then .conflict text else .database text
  succeeds : (∃ prs, outcome = .ok prs) ↔
    commands (forward lines) = q.plan (replied q.select lines) ∧
      ∀ line ∈ forward lines, q.WentWell line
  kept : ∀ prs, outcome = .ok prs → lines = forward lines
  undone : ∀ e, outcome = .error e → ∃ reply, lines = forward lines ++ [⟨.control .rollback, reply⟩]
  asks : ∀ ids, .statement (.loadReviewers ids) ∈ commands lines →
    (q.rows (replied q.select lines)).map (·.get 0) = ids.map fun id => .text id.value
  finds : ∀ prs, outcome = .ok prs →
    ∀ rows, rows = q.rows (replied q.select lines) → (rows.map (·.get 0)).Nodup →
      ∀ places, places = replied (.loadReviewers (idsOf rows)) lines →
        List.Forall₂ (fun row pr => TellsPullRequest row pr ∧
          List.Forall₂ (fun place r => TellsPlace place pr.id r)
            (places.filter fun place => place.get 0 = row.get 0) pr.reviewers) rows prs

/-! ## What is said inside -/

/-- What is said where the rosters of pull requests are loaded. -/
inductive Loads (heads : List PullRequest) :
    List Line → Except StoreError (List PullRequest) → Prop
  | notLoaded (cause : Cause) :
      Loads heads [⟨.statement (.loadReviewers (heads.map PullRequest.id)), .error cause⟩]
        (.error (cause.error (Statement.loadReviewers (heads.map PullRequest.id)).context))
  | unreadable {rows : List Row} (cause : Cause) (flawed : ¬ ∀ row ∈ rows, ∃ id r, TellsPlace row id r) :
      Loads heads [⟨.statement (.loadReviewers (heads.map PullRequest.id)), .ok rows⟩]
        (.error (cause.error (Statement.loadReviewers (heads.map PullRequest.id)).context))
  | loaded {rows : List Row} {places : List (PullRequestId × Reviewer)}
      (told : List.Forall₂ (fun row place => TellsPlace row place.1 place.2) rows places) :
      Loads heads [⟨.statement (.loadReviewers (heads.map PullRequest.id)), .ok rows⟩]
        (.ok ((Rosters.ofPlaces places).handOut heads))

/-- What is said where pull requests are selected. -/
inductive Finds (q : Query) : List Line → Except StoreError (List PullRequest) → Prop
  | notSelected (cause : Cause) :
      Finds q [⟨.statement q.select, .error cause⟩] (.error (cause.error q.select.context))
  | unreadable {rows : List Row} (cause : Cause)
      (flawed : ¬ ∀ row ∈ q.rows rows, ∃ pr, TellsPullRequest row pr) :
      Finds q [⟨.statement q.select, .ok rows⟩] (.error (cause.error q.select.context))
  | nothing (none : q.load [] = []) : Finds q [⟨.statement q.select, .ok []⟩] (.ok [])
  | loading {rows : List Row} {heads : List PullRequest} {later : List Line}
      {outcome : Except StoreError (List PullRequest)}
      (told : List.Forall₂ TellsPullRequest (q.rows rows) heads)
      (load : q.load rows = [.loadReviewers (heads.map PullRequest.id)])
      (loads : Loads heads later outcome) :
      Finds q (⟨.statement q.select, .ok rows⟩ :: later) outcome

variable {q : Query} {heads : List PullRequest} {lines : List Line}
  {outcome : Except StoreError (List PullRequest)}

theorem Loads.follows (h : Loads heads lines outcome) :
    Follows q.Fits [.statement (.loadReviewers (heads.map PullRequest.id))] lines outcome := by
  cases h with
  | notLoaded cause => exact .failed _ cause
  | unreadable cause flawed => exact .unfit _ flawed
  | loaded told =>
    refine .next ?_ .done
    exact ((List.forall₂_and_left _ _).1
      (told.imp fun _ place here => ⟨⟨place.1, place.2, here⟩, here⟩)).1

theorem Finds.follows (h : Finds q lines outcome) :
    Follows q.Fits (.statement q.select :: (q.load (replied q.select lines)).map .statement) lines
      outcome := by
  have replies : ∀ rows later,
      replied q.select (⟨.statement q.select, .ok rows⟩ :: later) = rows := by
    intro rows later
    simp [replied, Except.toOption]
  cases h with
  | notSelected cause => exact .failed _ cause
  | unreadable cause flawed => exact .unfit _ (mt (q.fits_select _).1 flawed)
  | nothing none =>
    rw [replies, none]
    exact .next ((q.fits_select _).2 (by cases q <;> simp [Query.rows])) .done
  | loading told load loads =>
    rw [replies, load]
    refine .next ((q.fits_select _).2 ?_) loads.follows
    exact ((List.forall₂_and_left _ _).1 (told.imp fun _ pr here => ⟨⟨pr, here⟩, here⟩)).1

/-! ## What is found -/

theorem keys_of_told {rows : List Row} (told : List.Forall₂ TellsPullRequest rows heads) :
    rows.map (·.get 0) = heads.map fun pr => .text pr.id.value := by
  induction told with
  | nil => rfl
  | cons here _ ih => rw [List.map_cons, List.map_cons, here.id, ih]

theorem idsOf_of_told {rows : List Row} (told : List.Forall₂ TellsPullRequest rows heads) :
    idsOf rows = heads.map PullRequest.id := by
  induction told with
  | nil => rfl
  | cons here _ ih =>
    unfold idsOf at ih ⊢
    simp [here.id, ih]

/-- The places of one pull request are those in the rows that begin with its id. -/
theorem forall₂_rosterOf {rows : List Row} {places : List (PullRequestId × Reviewer)}
    (told : List.Forall₂ (fun row place => TellsPlace row place.1 place.2) rows places)
    (id : PullRequestId) :
    List.Forall₂ (fun row r => TellsPlace row id r)
      (rows.filter fun row => row.get 0 = .text id.value) (Rosters.rosterOf id places) := by
  have chosen := List.rel_filter
    (p := fun row : Row => decide (row.get 0 = .text id.value))
    (q := fun place : PullRequestId × Reviewer => decide (place.1 = id))
    (fun row place here => by rcases place with ⟨⟨key⟩, r⟩; cases id; simp [here.id]) told
  have keyed : ∀ row ∈ rows.filter (fun row => row.get 0 = .text id.value),
      row.get 0 = .text id.value := fun row listed => of_decide_eq_true (List.mem_filter.1 listed).2
  unfold Rosters.rosterOf
  rw [List.forall₂_map_right_iff]
  exact ((List.forall₂_and_left _ _).2 ⟨keyed, chosen⟩).imp
    fun row place ⟨key, here⟩ => ⟨key, here.user, here.assignedAt⟩

/-- Each row makes a pull request with the places of its id. -/
theorem forall₂_handOut {rows placeRows : List Row} {places : List (PullRequestId × Reviewer)}
    (told : List.Forall₂ TellsPullRequest rows heads)
    (placed : List.Forall₂ (fun row place => TellsPlace row place.1 place.2) placeRows places)
    (distinct : (rows.map (·.get 0)).Nodup) :
    List.Forall₂ (fun row pr => TellsPullRequest row pr ∧
      List.Forall₂ (fun place r => TellsPlace place pr.id r)
        (placeRows.filter fun place => place.get 0 = row.get 0) pr.reviewers) rows
      ((Rosters.ofPlaces places).handOut heads) := by
  have ids : (heads.map PullRequest.id).Nodup := by
    rw [keys_of_told told] at distinct
    refine List.Nodup.of_map (fun id : PullRequestId => Value.text id.value) ?_
    rw [List.map_map]
    exact distinct
  rw [Rosters.handOut_of_nodup _ ids, List.forall₂_map_right_iff]
  refine told.imp fun row pr here => ⟨here.with_roster _, ?_⟩
  dsimp only
  rw [Rosters.value_ofPlaces, here.id]
  exact forall₂_rosterOf placed pr.id

/-- What is found in the end, told by the rows of both replies. -/
theorem Finds.finds {prs : List PullRequest} (h : Finds q lines (.ok prs))
    (distinct : ((q.rows (replied q.select lines)).map (·.get 0)).Nodup) :
    List.Forall₂ (fun row pr => TellsPullRequest row pr ∧
      List.Forall₂ (fun place r => TellsPlace place pr.id r)
        ((replied (.loadReviewers (idsOf (q.rows (replied q.select lines)))) lines).filter
          fun place => place.get 0 = row.get 0) pr.reviewers)
      (q.rows (replied q.select lines)) prs := by
  -- The outcome is told apart, so that the cases can be on it.
  generalize ended : (.ok prs : Except StoreError (List PullRequest)) = outcome at h
  cases h with
  | notSelected | unreadable => cases ended
  | nothing none =>
    cases ended
    have no_rows : q.rows (replied q.select [⟨.statement q.select, .ok []⟩]) = [] := by
      cases q <;> simp [replied, Query.rows, Except.toOption]
    rw [no_rows]
    exact .nil
  | @loading rows heads later _ told load loads =>
    have selected : replied q.select (⟨.statement q.select, .ok rows⟩ :: later) = rows := by
      simp [replied, Except.toOption]
    rw [selected] at distinct ⊢
    rw [idsOf_of_told told]
    cases loads with
    | notLoaded | unreadable => cases ended
    | @loaded placeRows places placed =>
      cases ended
      have loaded : replied (.loadReviewers (heads.map PullRequest.id))
          [⟨.statement q.select, .ok rows⟩,
            ⟨.statement (.loadReviewers (heads.map PullRequest.id)), .ok placeRows⟩] = placeRows := by
        simp [replied, Except.toOption, (q.load_ne_select _).symm]
      rw [loaded]
      exact forall₂_handOut told placed distinct

/-- The places are asked for by the ids in the rows. -/
theorem Finds.asks (h : Finds q lines outcome) {ids : List PullRequestId}
    (asked : .statement (.loadReviewers ids) ∈ commands lines) :
    (q.rows (replied q.select lines)).map (·.get 0) = ids.map fun id => .text id.value := by
  have other := q.load_ne_select ids
  cases h with
  | notSelected | unreadable | nothing => simp [commands, other] at asked
  | @loading rows heads later _ told load loads =>
    have selected : replied q.select (⟨.statement q.select, .ok rows⟩ :: later) = rows := by
      simp [replied, Except.toOption]
    have same : ids = heads.map PullRequest.id := by
      cases loads <;> simpa [commands, other] using asked
    rw [selected, keys_of_told told, same, List.map_map]
    rfl

/-! ## The whole read -/

section Whole

variable {α : Type} {shown : α → List PullRequest} {body : Attempt α} {lines : List Line}
  {outcome : Except StoreError α}

/-- A plan does not depend on how the outcome is shown. -/
theorem follows_of_shown {fits : Command → List Row → Prop} {plan : List Command}
    (h : Follows fits plan lines (outcome.map shown)) : Follows fits plan lines outcome := by
  generalize ended : outcome.map shown = result at h
  induction h generalizing outcome with
  | done =>
    cases outcome with
    | error e => cases ended
    | ok a => exact .done
  | failed context cause =>
    cases outcome with
    | error e => cases ended; exact .failed context cause
    | ok a => cases ended
  | unfit e unfit =>
    cases outcome with
    | error e => cases ended; exact .unfit _ unfit
    | ok a => cases ended
  | next fit _ ih => exact .next fit (ih ended)

/-- What is said in a read, from the choice of what it sees on. -/
inductive Isolates (body : Attempt α) : List Line → Except StoreError α → Prop
  | notIsolated (cause : Cause) : Isolates body [⟨.control .isolate, .error cause⟩]
      (.error (cause.error "Failed to set isolation level"))
  | isolated {rows : List Row} {inner : List Line} {outcome : Except StoreError α}
      (said : body.run.Says inner outcome) :
      Isolates body (⟨.control .isolate, .ok rows⟩ :: inner) outcome

theorem isolates_of_said (h : (do
      let _ ← Attempt.send "Failed to set isolation level" (.control .isolate)
      body : Attempt α).run.Says lines outcome) : Isolates body lines outcome := by
  rcases Attempt.says_send_bind h with ⟨cause, rfl, rfl⟩ | ⟨rows, rest, said, rfl⟩
  · exact .notIsolated cause
  · exact .isolated said

theorem replied_isolated (s : Statement) (rows : List Row) (inner : List Line) :
    replied s (⟨.control .isolate, .ok rows⟩ :: inner) = replied s inner := by
  simp [replied]

theorem Isolates.follows
    (finds : ∀ inner result, body.run.Says inner result → Finds q inner (result.map shown))
    (h : Isolates body lines outcome) :
    Follows q.Fits (.control .isolate :: .statement q.select ::
      (q.load (replied q.select lines)).map .statement) lines outcome := by
  cases h with
  | notIsolated cause => exact .failed _ cause
  | isolated said =>
    rw [replied_isolated]
    exact .next trivial (follows_of_shown (finds _ _ said).follows)

/-- A snapshot that finds pull requests sends its commands one after the other. -/
theorem isSnapshot_of_says
    (finds : ∀ inner result, body.run.Says inner result → Finds q inner (result.map shown))
    (h : (Attempt.snapshot body).run.Says lines outcome) :
    IsSnapshot q lines (outcome.map shown) := by
  have free : ∀ inner, Command.control .rollback ∉ .control .isolate :: .statement q.select ::
      (q.load (replied q.select inner)).map .statement := by simp
  have controls : ∀ c rows, q.Fits (.control c) rows := fun _ _ => trivial
  obtain ⟨inner, followed⟩ := followed_of_transacts free controls
    (fun _ _ said => (isolates_of_said said).follows finds) (Attempt.says_transaction h)
  obtain ⟨first, closing, split, control⟩ := followed.around
  have same : ∀ s, replied s lines = replied s inner :=
    fun s => split ▸ replied_of_controls s control
  have follows := followed.follows
  rw [← same q.select] at follows
  have well : (∃ prs, outcome.map shown = .ok prs) ↔ ∃ a, outcome = .ok a := by
    cases outcome <;> simp [Except.map]
  refine ⟨follows.commands_prefix, ?_, ?_, well.trans follows.ok_iff_whole, ?_, ?_, ?_, ?_⟩
  · rcases follows.whole_or_cut with whole | ⟨before, line, cut, flawed⟩
    · exact .inl whole
    · exact .inr ⟨before, line, cut, fun ⟨rows, ok, fit⟩ => flawed rows ok fit⟩
  · intro before line after cut flawed
    obtain ⟨last, e, rfl, told⟩ := follows.last_of_flawed cut
      fun rows ok fit => flawed ⟨rows, ok, fit⟩
    refine ⟨last, e, rfl, fun cause failed => ?_⟩
    obtain ⟨context, rfl⟩ := told cause failed
    exact ⟨_, rfl⟩
  · intro prs found
    obtain ⟨a, rfl⟩ := well.1 ⟨prs, found⟩
    exact (followed.kept a rfl).2
  · intro e failed
    cases outcome with
    | ok a => cases failed
    | error e => exact followed.undone e rfl
  · intro ids asked
    have inside := mem_commands_of_controls control (split ▸ asked)
    rw [same]
    rcases followed.inside with rfl | ⟨result, said⟩
    · simp [commands] at inside
    · cases isolates_of_said said with
      | notIsolated => simp [commands] at inside
      | isolated said =>
        rw [replied_isolated]
        exact (finds _ _ said).asks (by simpa [commands] using inside)
  · rintro prs found rows rfl distinct places rfl
    obtain ⟨a, rfl⟩ := well.1 ⟨prs, found⟩
    cases found
    rw [same] at distinct ⊢
    rw [same]
    cases isolates_of_said (followed.kept a rfl).1 with
    | isolated said =>
      rw [replied_isolated] at distinct ⊢
      rw [replied_isolated]
      exact (finds _ _ said).finds distinct

end Whole

/-! ## The reads -/

/-- Rosters are loaded for pull requests that were read without them. -/
theorem loads_of_says_bind {α : Type} (shown : α → List PullRequest)
    {f : List PullRequest → Attempt α} {outcome : Except StoreError α}
    (h : (loadRosters heads >>= f).run.Says lines outcome)
    (ends : ∀ prs, prs.length = heads.length → ∀ rest result, (f prs).run.Says rest result →
      rest = [] ∧ result.map shown = .ok prs) :
    Loads heads lines (outcome.map shown) := by
  unfold loadRosters at h
  rw [bind_assoc] at h
  rcases Attempt.says_read_bind h with
    ⟨cause, rfl, rfl⟩ | ⟨rows, cause, flawed, rfl, rfl⟩ | ⟨rows, places, rest, read, went, rfl⟩
  · exact .notLoaded cause
  · refine .unreadable cause fun told => exists_flawed_of_mapM flawed fun row listed => ?_
    obtain ⟨id, r, here⟩ := told row listed
    exact ⟨(id, r), readReviewer_eq_ok_iff.2 here⟩
  · obtain ⟨rfl, shown⟩ := ends _ (Rosters.length_handOut _ _) _ _ went
    rw [shown]
    exact .loaded ((mapM_eq_ok_iff.1 read).imp fun row place => readReviewer_eq_ok_iff.1)

/-- Where no pull request is read, that is because of a row that counts. -/
theorem Finds.of_flawed {rows : List Row} {cause : Cause}
    (flawed : (q.rows rows).mapM readPullRequest = .error cause) :
    Finds q [⟨.statement q.select, .ok rows⟩] (.error (cause.error q.select.context)) :=
  .unreadable cause fun told => exists_flawed_of_mapM flawed fun row listed =>
    exists_readPullRequest_iff.2 (told row listed)

/-- Where pull requests are read, their rosters are loaded. -/
theorem Finds.of_read {rows : List Row} {later : List Line}
    (read : (q.rows rows).mapM readPullRequest = .ok heads)
    (load : q.load rows = [.loadReviewers (idsOf (q.rows rows))]) (loads : Loads heads later outcome) :
    Finds q (⟨.statement q.select, .ok rows⟩ :: later) outcome := by
  have told : List.Forall₂ TellsPullRequest (q.rows rows) heads :=
    (mapM_eq_ok_iff.1 read).imp fun row pr here => (readPullRequest_eq_ok_iff.1 here).1
  rw [idsOf_of_told told] at load
  exact .loading told load loads

theorem finds_of_says_many {s : Statement} (h : (do
      loadRosters (← Attempt.fetchAll s readPullRequest) : Attempt (List PullRequest)).run.Says lines
        outcome) (select : q.select = s) (many : ∀ rows, q.rows rows = rows)
    (load : ∀ rows, q.load rows = [.loadReviewers (idsOf (q.rows rows))]) :
    Finds q lines outcome := by
  subst select
  rcases Attempt.says_read_bind h with
    ⟨cause, rfl, rfl⟩ | ⟨rows, cause, flawed, rfl, rfl⟩ | ⟨rows, heads, rest, read, went, rfl⟩
  · exact .notSelected cause
  · exact .of_flawed ((many rows).symm ▸ flawed)
  · rw [← bind_pure (loadRosters heads)] at went
    have loads := loads_of_says_bind id went fun prs _ rest result ended => by
      obtain ⟨rfl, rfl⟩ := Attempt.says_pure ended
      exact ⟨rfl, rfl⟩
    rw [Except.map_id] at loads
    exact .of_read ((many rows).symm ▸ read) (load rows) loads

theorem finds_of_says_one {id : PullRequestId} {outcome : Except StoreError (Option PullRequest)}
    (h : (do
      match ← Attempt.fetchFirst? (.findPullRequest id) readPullRequest with
      | some pr => return (← loadRosters [pr]).head?
      | none => return none : Attempt (Option PullRequest)).run.Says lines outcome) :
    Finds (.one id) lines (outcome.map Option.toList) := by
  rcases Attempt.says_read_bind h with
    ⟨cause, rfl, rfl⟩ | ⟨rows, cause, flawed, rfl, rfl⟩ | ⟨rows, head, rest, read, went, rfl⟩
  · exact .notSelected cause
  · cases rows with
    | nil => cases flawed
    | cons row others =>
      rw [head?_mapM] at flawed
      cases one : readPullRequest row with
      | ok pr => simp [one, Except.map] at flawed
      | error cause' =>
        rw [one] at flawed
        cases flawed
        have first : [row].mapM readPullRequest = .error cause := by
          rw [mapM_singleton, one]
          rfl
        exact .of_flawed (q := .one id) first
  · cases rows with
    | nil =>
      cases read
      obtain ⟨rfl, rfl⟩ := Attempt.says_pure went
      exact .nothing rfl
    | cons row others =>
      rw [head?_mapM] at read
      cases one : readPullRequest row with
      | error cause => simp [one, Except.map] at read
      | ok pr =>
        rw [one] at read
        cases read
        have first : [row].mapM readPullRequest = .ok [pr] := by
          rw [mapM_singleton, one]
          rfl
        -- A single pull request goes in, so a single one comes back.
        have loads := loads_of_says_bind Option.toList went fun prs single rest result ended => by
          obtain ⟨rfl, rfl⟩ := Attempt.says_pure ended
          obtain ⟨found, rfl⟩ := List.length_eq_one_iff.1 single
          exact ⟨rfl, rfl⟩
        exact .of_read (q := .one id) first rfl loads

/-- Whatever the database replies, each of the three reads is one snapshot: its commands are sent
in their order, the first that fails is the last, and where none fails, the rows of the replies
make the pull requests, each with its own roster. -/
theorem reads_are_snapshots (replies : Nat → Reply) :
    (∀ id, let said := (findPullRequest id).run.play replies;
      IsSnapshot (.one id) said.1 (said.2.map Option.toList)) ∧
    (let said := (findPullRequests .listPullRequests).run.play replies;
      IsSnapshot .all said.1 said.2) ∧
    ∀ user, let said := (findPullRequests (.findPullRequestsByReviewer user)).run.play replies;
      IsSnapshot (.reviewedBy user) said.1 said.2 := by
  have many : ∀ (q : Query), (∀ rows, q.rows rows = rows) →
      (∀ rows, q.load rows = [.loadReviewers (idsOf (q.rows rows))]) →
      IsSnapshot q ((findPullRequests q.select).run.play replies).1
        ((findPullRequests q.select).run.play replies).2 := by
    intro q many load
    have finds : ∀ inner result, (do
        loadRosters (← Attempt.fetchAll q.select readPullRequest)
          : Attempt (List PullRequest)).run.Says inner result → Finds q inner (result.map id) := by
      intro inner result said
      rw [Except.map_id]
      exact finds_of_says_many said rfl many load
    have whole := isSnapshot_of_says finds
      (Exchange.says_play (findPullRequests q.select).run replies)
    rw [Except.map_id] at whole
    exact whole
  refine ⟨fun id => ?_, many .all (fun _ => rfl) fun _ => rfl,
    fun user => many (.reviewedBy user) (fun _ => rfl) fun _ => rfl⟩
  exact isSnapshot_of_says (fun inner result said => finds_of_says_one said)
    (Exchange.says_play (findPullRequest id).run replies)

/-- A database with two pull requests. The places on their rosters come mixed, and one is of a
third pull request. -/
def mixedReplies : Nat → Reply
  | 2 => .ok [
      [.text "q", .text "two", .text "ann", .text "OPEN", .instant ⟨1000⟩, .null],
      [.text "p", .text "one", .text "bea", .text "MERGED", .instant ⟨2000⟩, .instant ⟨5000⟩]]
  | 3 => .ok [
      [.text "p", .text "cid", .instant ⟨3000⟩],
      [.text "q", .text "dan", .instant ⟨4000⟩],
      [.text "r", .text "eve", .instant ⟨1000⟩],
      [.text "p", .text "ann", .instant ⟨2000⟩]]
  | _ => .ok []

theorem mixedReplies_are_sorted :
    let said := (findPullRequests .listPullRequests).run.play mixedReplies
    said.2 = .ok [
      { id := ⟨"q"⟩, title := "two", author := ⟨"ann"⟩, status := .opened,
        reviewers := [⟨⟨"dan"⟩, ⟨4000⟩⟩], createdAt := ⟨1000⟩, mergedAt := none },
      { id := ⟨"p"⟩, title := "one", author := ⟨"bea"⟩, status := .merged,
        reviewers := [⟨⟨"cid"⟩, ⟨3000⟩⟩, ⟨⟨"ann"⟩, ⟨2000⟩⟩], createdAt := ⟨2000⟩,
        mergedAt := some ⟨5000⟩ }] ∧
      IsSnapshot .all said.1 said.2 := by
  intro said
  exact ⟨rfl, (reads_are_snapshots mixedReplies).2.1⟩

end Database

end ReviewDesk.Sql
