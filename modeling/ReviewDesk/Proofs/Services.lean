-- Everything that the desk can be asked for, step by step: the calls with their replies, and what
-- goes into the log between them. Each service reads until a read fails, until there is nothing
-- more to read, or until it writes. After that a merge may read once more, and nobody else makes
-- another call.
import ReviewDesk.Proofs.Conduct
import ReviewDesk.Proofs.Roster

namespace ReviewDesk

/-- The call was answered without an error. -/
def Exchange.Succeeded (x : Exchange) : Prop := ∃ a, x.reply = .ok a

/-- A read that was answered, or an event that tells of no result. -/
def Act.Quiet : Act → Prop
  | exchange x => x.call.isWrite = false ∧ x.Succeeded
  | event e => e.level ≠ .info

namespace Program

variable {α β : Type}

/-! ## Programs that heed failures -/

/-- How a program goes on after its write and the reply to it. -/
abbrev Closing (α : Type) :=
  (c : Call) → c.Reply → List Act → Program (Except AssignmentError α) → Prop

/-- No way to go on after a write. Nothing is ever written. -/
def neverWrites (α : Type) : Closing α := fun _ _ _ _ => False

variable {closes : Closing α}

/-- The program tells of no result before its write, and stops at a read that fails. -/
def Heeds (closes : Closing α) : Program (Except AssignmentError α) → Prop
  | done _ => True
  | note event rest => event.level ≠ .info ∧ rest.Heeds closes
  | call c resume =>
    (c.isWrite = false ∧ (∀ e, resume (.error e) = done (.error (.store e))) ∧
      ∀ a, (resume (.ok a)).Heeds closes) ∨
    (c.isWrite = true ∧ ∀ reply after q, (resume reply).Performs after q → closes c reply after q)

/-- How far a program that heeds failures has come: it is still reading, a read has stopped it, or
it has written. -/
inductive Course (closes : Closing α) : List Act → Program (Except AssignmentError α) → Prop
  | reading {acts : List Act} {q : Program (Except AssignmentError α)} :
      (∀ act ∈ acts, act.Quiet) → q.Heeds closes → Course closes acts q
  | stopped {acts : List Act} {c : Call} {e : StoreError} : (∀ act ∈ acts, act.Quiet) →
      c.isWrite = false →
      Course closes (acts ++ [.exchange ⟨c, .error e⟩]) (done (.error (.store e)))
  | wrote {acts after : List Act} {c : Call} {reply : c.Reply}
      {q : Program (Except AssignmentError α)} : (∀ act ∈ acts, act.Quiet) →
      c.isWrite = true → closes c reply after q →
      Course closes (acts ++ .exchange ⟨c, reply⟩ :: after) q

theorem Course.cons {act : Act} {acts : List Act} {q : Program (Except AssignmentError α)}
    (quiet : act.Quiet) (h : Course closes acts q) : Course closes (act :: acts) q := by
  cases h with
  | reading still heeds => exact .reading (List.forall_mem_cons.2 ⟨quiet, still⟩) heeds
  | stopped still read =>
    rw [← List.cons_append]
    exact .stopped (List.forall_mem_cons.2 ⟨quiet, still⟩) read
  | wrote still write closing =>
    rw [← List.cons_append]
    exact .wrote (List.forall_mem_cons.2 ⟨quiet, still⟩) write closing

theorem course_of_performs {p q : Program (Except AssignmentError α)} {acts : List Act}
    (h : p.Heeds closes) (performs : p.Performs acts q) : Course closes acts q := by
  have nothing : ∀ act ∈ ([] : List Act), act.Quiet := by simp
  -- What is left heeds failures as long as each read up to here was answered.
  induction performs with
  | here p => exact .reading nothing h
  | @note event _ _ _ _ ih => exact Course.cons h.1 (ih h.2)
  | @call c resume q acts reply performs ih =>
    rcases h with ⟨read, stops, goes⟩ | ⟨write, closing⟩
    · rcases reply with e | a
      · rw [stops e] at performs
        obtain ⟨rfl, rfl⟩ := performs_done.1 performs
        exact .stopped nothing read
      · exact .cons ⟨read, a, rfl⟩ (ih (goes a))
    · exact .wrote nothing write (closing reply acts q performs)

theorem Heeds.bind {p : Program (Except AssignmentError α)}
    {f : Except AssignmentError α → Program (Except AssignmentError β)} {closes : Closing β}
    (h : p.Heeds (neverWrites α)) (fails : ∀ e, f (.error e) = done (.error e))
    (next : ∀ a, (f (.ok a)).Heeds closes) : (p >>= f).Heeds closes := by
  induction p with
  | done outcome =>
    rcases outcome with e | a
    · rw [done_bind, fails e]
      trivial
    · exact next a
  | note event rest ih => exact ⟨h.1, ih h.2⟩
  | call c resume ih =>
    rcases h with ⟨read, stops, goes⟩ | ⟨-, closing⟩
    · refine .inl ⟨read, fun e => ?_, fun a => ih _ (goes a)⟩
      dsimp only
      rw [stops e]
      exact fails (.store e)
    · exact (closing (.error (.database "")) [] _ (.here _)).elim

theorem Heeds.reads {p : Program (Except AssignmentError α)} (h : p.Heeds (neverWrites α)) :
    p.Reads := by
  induction p with
  | done outcome => exact only_done
  | note event rest ih => exact only_note.2 (ih h.2)
  | call c resume ih =>
    rcases h with ⟨read, stops, goes⟩ | ⟨-, closing⟩
    · refine ⟨read, fun reply _ => ?_⟩
      rcases reply with e | a
      · rw [stops e]
        exact only_done
      · exact ih _ (goes a)
    · exact (closing (.error (.database "")) [] _ (.here _)).elim

end Program

/-! ## Reading operations -/

namespace Operation

open Program

variable {α β : Type} {closes : Closing β}

theorem heeds_bind {operation : Operation α} {f : α → Operation β}
    (h : operation.run.Heeds (neverWrites α)) (next : ∀ a, (f a).run.Heeds closes) :
    (operation >>= f).run.Heeds closes :=
  Heeds.bind h (fun _ => rfl) next

theorem heeds_ask {c : Call} {closes : Closing c.Answer} (read : c.isWrite = false) :
    (ask c).run.Heeds closes := .inl ⟨read, fun _ => rfl, fun _ => trivial⟩

theorem heeds_log {event : Event} {closes : Closing Unit} (quiet : event.level ≠ .info) :
    (log event).run.Heeds closes := ⟨quiet, trivial⟩

theorem heeds_require (error : AssignmentError) (found : Option β) :
    (require error found).run.Heeds closes := by
  cases found <;> trivial

end Operation

namespace Assignment

open Operation Program

theorem heeds_get {closes : Closing PullRequest} (id : PullRequestId) : (get id).run.Heeds closes :=
  heeds_bind (heeds_ask rfl) (heeds_require _)

theorem heeds_findUser {closes : Closing User} (user : UserId) : (findUser user).run.Heeds closes :=
  heeds_bind (heeds_ask rfl) (heeds_require _)

/-- The loop stops at the first look-up that fails, however many come before it. -/
theorem heeds_nameReviewers {closes : Closing (List ReviewerStats)}
    (counts : List (UserId × Counts)) : (nameReviewers counts).run.Heeds closes := by
  induction counts generalizing closes with
  | nil => trivial
  | cons first rest ih =>
    refine heeds_bind (heeds_ask rfl) ?_
    rintro (_ | known)
    · exact heeds_bind (heeds_log (by simp [Event.level])) fun _ => ih
    · exact heeds_bind ih fun _ => trivial

theorem heeds_reviewsFor {closes : Closing (List PullRequest)} (user : UserId) :
    (reviewsFor user).run.Heeds closes :=
  heeds_bind (heeds_findUser user) fun _ => heeds_ask rfl

theorem heeds_reviewerStatistics {closes : Closing (List ReviewerStats)} :
    reviewerStatistics.run.Heeds closes :=
  heeds_bind (heeds_ask rfl) fun _ => heeds_nameReviewers _

theorem heeds_reviewerStatisticsFor {closes : Closing ReviewerStats} (user : UserId) :
    (reviewerStatisticsFor user).run.Heeds closes :=
  heeds_bind (heeds_findUser user) fun _ => heeds_bind (heeds_ask rfl) fun _ => trivial

theorem heeds_pullRequestStatistics {closes : Closing PullRequestStats} :
    pullRequestStatistics.run.Heeds closes := heeds_bind (heeds_ask rfl) fun _ => trivial

end Assignment

/-! ## Services -/

/-- What the desk can be asked for. -/
inductive Service where
  | create (pr : PullRequest)
  | reassign (id : PullRequestId) (old : UserId)
  | merge (id : PullRequestId)
  | get (id : PullRequestId)
  | reviewsFor (user : UserId)
  | reviewerStatistics
  | reviewerStatisticsFor (user : UserId)
  | pullRequestStatistics

namespace Service

open Program Assignment

/-- What a service that goes well is answered with. -/
@[reducible]
def Answer : Service → Type
  | create _ => PullRequest
  | reassign _ _ => UserId × PullRequest
  | merge _ => PullRequest
  | get _ => PullRequest
  | reviewsFor _ => List PullRequest
  | reviewerStatistics => List ReviewerStats
  | reviewerStatisticsFor _ => ReviewerStats
  | pullRequestStatistics => PullRequestStats

def program (chance : Chance) : (s : Service) → Program (Except AssignmentError s.Answer)
  | create pr => Assignment.create chance pr
  | reassign id old => Assignment.reassign chance id old
  | merge id => Assignment.merge chance id
  | get id => Assignment.get id
  | reviewsFor user => Assignment.reviewsFor user
  | reviewerStatistics => Assignment.reviewerStatistics
  | reviewerStatisticsFor user => Assignment.reviewerStatisticsFor user
  | pullRequestStatistics => Assignment.pullRequestStatistics

/-- The event that tells of a write, and what the service is answered with then. -/
inductive Announces : (s : Service) → Call → Event → s.Answer → Prop
  | created {pr filled : PullRequest} :
      Announces (.create pr) (.createPullRequest filled)
        (.pullRequestCreated filled.id filled.author filled.reviewerIds) filled
  | reassigned {id : PullRequestId} {old new : UserId} {pr changed : PullRequest}
      {clock : Instant} : pr.reassign clock old new = .ok changed →
      Announces (.reassign id old) (.updatePullRequest changed)
        (.reviewerReassigned changed.id old new) (new, changed)
  | merged {id : PullRequestId} {changed : PullRequest} : changed.isMerged = true →
      Announces (.merge id) (.updatePullRequest changed) (.pullRequestMerged changed.id) changed

/-- How a service goes on after its write. A write that was taken is told and ends it. One that
was refused ends it too, but for a merge. -/
inductive Closes : (s : Service) → (c : Call) → c.Reply → List Act →
    Program (Except AssignmentError s.Answer) → Prop
  | taken {s : Service} {c : Call} {a : c.Answer} {event : Event} {answer : s.Answer} :
      s.Announces c event answer → Closes s c (.ok a) [] (note event (done (.ok answer)))
  | told {s : Service} {c : Call} {a : c.Answer} {event : Event} {answer : s.Answer} :
      s.Announces c event answer → Closes s c (.ok a) [.event event] (done (.ok answer))
  | refused {s : Service} {c : Call} {e : StoreError} : (∀ id, s ≠ .merge id) →
      Closes s c (.error e) [] (done (.error (.store e)))
  | unsettled {id : PullRequestId} {changed : PullRequest} {e : StoreError}
      {again : Except StoreError (Option PullRequest) →
        Program (Except AssignmentError PullRequest)} :
      Closes (.merge id) (.updatePullRequest changed) (.error e) []
        (note (.mergeWriteFailed id e) (call (.findPullRequest id) again))
  | rereads {id : PullRequestId} {changed : PullRequest} {e : StoreError}
      {again : Except StoreError (Option PullRequest) →
        Program (Except AssignmentError PullRequest)} :
      Closes (.merge id) (.updatePullRequest changed) (.error e)
        [.event (.mergeWriteFailed id e)] (call (.findPullRequest id) again)
  | recovers {id : PullRequestId} {changed : PullRequest} {e : StoreError}
      {reply : Except StoreError (Option PullRequest)} {a : Except AssignmentError PullRequest} :
      Recovers id e reply a →
      Closes (.merge id) (.updatePullRequest changed) (.error e)
        [.event (.mergeWriteFailed id e), .exchange ⟨.findPullRequest id, reply⟩] (done a)

variable {s : Service} {chance : Chance} {c : Call} {event : Event} {answer : s.Answer}
  {acts after : List Act} {q : Program (Except AssignmentError s.Answer)}

theorem Closes.of_taken (announces : s.Announces c event answer) {a : c.Answer}
    (performs : (note event (done (.ok answer))).Performs after q) :
    s.Closes c (.ok a) after q := by
  cases performs with
  | here => exact .taken announces
  | note performs =>
    obtain ⟨rfl, rfl⟩ := performs_done.1 performs
    exact .told announces

theorem Closes.of_refused (other : ∀ id, s ≠ .merge id) {e : StoreError}
    (performs : (done (.error (.store e))).Performs after q) : s.Closes c (.error e) after q := by
  obtain ⟨rfl, rfl⟩ := performs_done.1 performs
  exact .refused other

theorem heeds_create (chance : Chance) (pr : PullRequest) :
    Heeds (Closes (.create pr)) (Assignment.create chance pr) := by
  rw [create_eq]
  refine .inl ⟨rfl, fun _ => rfl, ?_⟩
  rintro (_ | found)
  case some => trivial
  refine .inl ⟨rfl, fun _ => rfl, ?_⟩
  rintro (_ | author)
  · trivial
  refine .inl ⟨rfl, fun _ => rfl, ?_⟩
  rintro (_ | team)
  · trivial
  refine .inl ⟨rfl, fun _ => rfl, fun members => ⟨by simp [Event.level], ?_⟩⟩
  cases pr.assignAll chance.clock (drawn chance pr author members) with
  | error flaw => trivial
  | ok filled =>
    refine .inr ⟨rfl, ?_⟩
    rintro (e | _) after q performs
    · exact .of_refused (by simp) performs
    · exact .of_taken .created performs

theorem heeds_reassign (chance : Chance) (id : PullRequestId) (old : UserId) :
    Heeds (Closes (.reassign id old)) (Assignment.reassign chance id old) := by
  rw [reassign_eq]
  refine .inl ⟨rfl, fun _ => rfl, ?_⟩
  rintro (_ | pr)
  · trivial
  dsimp only
  split
  · trivial
  split
  · trivial
  refine .inl ⟨rfl, fun _ => rfl, ?_⟩
  rintro (_ | team)
  · trivial
  refine .inl ⟨rfl, fun _ => rfl, fun members => ?_⟩
  dsimp only
  split
  · trivial
  rename_i new chosen
  split
  · trivial
  rename_i changed made
  refine .inr ⟨rfl, ?_⟩
  rintro (e | _) after q performs
  · exact .of_refused (by simp) performs
  · exact .of_taken (.reassigned made) performs

theorem heeds_merge (chance : Chance) (id : PullRequestId) :
    Heeds (Closes (.merge id)) (Assignment.merge chance id) := by
  rw [merge_eq]
  refine .inl ⟨rfl, fun _ => rfl, ?_⟩
  rintro (_ | pr)
  · trivial
  dsimp only
  split
  · trivial
  refine .inr ⟨rfl, ?_⟩
  rintro (e | _) after q performs
  case ok => exact .of_taken (.merged (PullRequest.isMerged_merge _ _)) performs
  cases performs with
  | here => exact .unsettled
  | note performs =>
    cases performs with
    | here => exact .rereads
    | @call _ _ _ _ reply performs =>
      obtain ⟨a, ended, recovers⟩ := reread_done id e reply
      rw [ended] at performs
      obtain ⟨rfl, rfl⟩ := performs_done.1 performs
      exact .recovers recovers

/-- Every service heeds the failures of its reads, and closes in its own way after its write. -/
theorem heeds_program (chance : Chance) (s : Service) : (s.program chance).Heeds s.Closes := by
  cases s with
  | create pr => exact heeds_create chance pr
  | reassign id old => exact heeds_reassign chance id old
  | merge id => exact heeds_merge chance id
  | get id => exact heeds_get id
  | reviewsFor user => exact heeds_reviewsFor user
  | reviewerStatistics => exact heeds_reviewerStatistics
  | reviewerStatisticsFor user => exact heeds_reviewerStatisticsFor user
  | pullRequestStatistics => exact heeds_pullRequestStatistics

theorem course (performs : (s.program chance).Performs acts q) : Course s.Closes acts q :=
  course_of_performs (heeds_program chance s) performs

end Service

end ReviewDesk
