-- What a service does with a call that fails. It makes no other call and comes back with the error
-- as it is. Only a merge whose write has failed reads once more. Nothing is ever written after a
-- failure, and nothing but that one read comes after a write.
import ReviewDesk.Proofs.Floor
import ReviewDesk.Proofs.Services

namespace ReviewDesk

namespace Service

open Program Assignment

/-- What comes of the first call that fails: the trail after it, and what is left of the service. -/
inductive Fails : (s : Service) → Call → StoreError → List Exchange →
    Program (Except AssignmentError s.Answer) → Prop
  | ends {s : Service} {c : Call} {e : StoreError} : (∀ id, s = .merge id → c.isWrite = false) →
      Fails s c e [] (done (.error (.store e)))
  | rereads {id : PullRequestId} {changed : PullRequest} {e : StoreError}
      {q : Program (Except AssignmentError PullRequest)} :
      q.Asks [] (.findPullRequest id) → Fails (.merge id) (.updatePullRequest changed) e [] q
  | recovers {id : PullRequestId} {changed : PullRequest} {e : StoreError}
      {reply : Except StoreError (Option PullRequest)} {a : Except AssignmentError PullRequest} :
      Recovers id e reply a →
      Fails (.merge id) (.updatePullRequest changed) e [⟨.findPullRequest id, reply⟩] (done a)

/-! ## The trail of a service -/

theorem reads_of_quiet {acts : List Act} (quiet : ∀ act ∈ acts, act.Quiet) :
    ∀ x ∈ trailOf acts, x.call.isWrite = false ∧ x.Succeeded := by
  intro x listed
  obtain ⟨act, member, shows⟩ := List.mem_filterMap.1 listed
  cases act with
  | exchange y =>
    cases shows
    exact quiet _ member
  | event e => cases shows

/-- Where the first part of a list is of one kind and an entry is not, the entry stands after that
part. -/
theorem split_behind {P : Exchange → Prop} {reads rest before after : List Exchange} {x : Exchange}
    (path : before ++ x :: after = reads ++ rest) (kind : ∀ y ∈ reads, P y) (other : ¬ P x) :
    ∃ between, before = reads ++ between ∧ rest = between ++ x :: after := by
  rcases List.append_eq_append_iff.1 path with ⟨between, rfl, h⟩ | ⟨between, rfl, h⟩
  · rcases between with _ | ⟨y, between⟩
    · exact ⟨[], by simp, h.symm⟩
    · obtain ⟨rfl, -⟩ := List.cons.inj h
      exact absurd (kind x (by simp)) other
  · exact ⟨between, rfl, h⟩

/-- After its reads a service has been stopped by one of them, or has written, or neither. -/
inductive Progress (s : Service) :
    List Exchange → Program (Except AssignmentError s.Answer) → Prop
  | reading {reads : List Exchange} {q : Program (Except AssignmentError s.Answer)} :
      (∀ x ∈ reads, x.call.isWrite = false ∧ x.Succeeded) → Progress s reads q
  | stopped {reads : List Exchange} {c : Call} {e : StoreError} :
      (∀ x ∈ reads, x.call.isWrite = false ∧ x.Succeeded) → c.isWrite = false →
      Progress s (reads ++ [⟨c, .error e⟩]) (done (.error (.store e)))
  | wrote {reads : List Exchange} {after : List Act} {c : Call} {reply : c.Reply}
      {q : Program (Except AssignmentError s.Answer)} :
      (∀ x ∈ reads, x.call.isWrite = false ∧ x.Succeeded) → c.isWrite = true →
      s.Closes c reply after q → Progress s (reads ++ ⟨c, reply⟩ :: trailOf after) q

variable {s : Service} {chance : Chance} {c : Call} {e : StoreError} {reply : c.Reply}
  {before after : List Exchange} {acts : List Act} {q : Program (Except AssignmentError s.Answer)}

theorem progress_of_reaches {trail : List Exchange} (h : (s.program chance).Reaches trail q) :
    Progress s trail q := by
  obtain ⟨acts, performs, rfl⟩ := reaches_iff_performs.1 h
  cases course performs with
  | reading quiet heeds => exact .reading (reads_of_quiet quiet)
  | stopped quiet read =>
    rw [trailOf, List.filterMap_append]
    exact .stopped (reads_of_quiet quiet) read
  | wrote quiet write closing =>
    rw [trailOf, List.filterMap_append]
    exact .wrote (reads_of_quiet quiet) write closing

theorem not_succeeded : ¬ (⟨c, .error e⟩ : Exchange).Succeeded := by
  rintro ⟨a, same⟩
  cases same

/-- What follows a write that failed. -/
theorem Closes.fails (h : s.Closes c (.error e) acts q) : s.Fails c e (trailOf acts) q := by
  generalize failed : (.error e : c.Reply) = reply at h
  cases h with
  | taken | told => cases failed
  | refused other =>
    cases failed
    exact .ends fun id same => absurd same (other id)
  | unsettled =>
    cases failed
    exact .rereads ⟨_, .note (.here _)⟩
  | rereads =>
    cases failed
    exact .rereads ⟨_, .here _⟩
  | recovers recovers =>
    cases failed
    exact .recovers recovers

/-- After a write there is at most one more call, the second read of a merge that failed to
write. -/
theorem Closes.trailOf_eq (h : s.Closes c reply acts q) :
    trailOf acts = [] ∨ (∃ e, reply = .error e) ∧
      ∃ id again, s = .merge id ∧ trailOf acts = [⟨.findPullRequest id, again⟩] := by
  cases h with
  | taken | told | refused | unsettled | rereads => exact .inl rfl
  | recovers => exact .inr ⟨⟨_, rfl⟩, _, _, rfl, rfl⟩

/-- Everything before a write has succeeded, and what follows it is how the service closes. -/
theorem Progress.write (h : Progress s (before ++ ⟨c, reply⟩ :: after) q)
    (write : c.isWrite = true) :
    (∀ x ∈ before, x.Succeeded) ∧ ∃ acts, after = trailOf acts ∧ s.Closes c reply acts q := by
  have no_read : ¬ c.isWrite = false := by simp [write]
  generalize path : before ++ ⟨c, reply⟩ :: after = trail at h
  cases h with
  | reading reads =>
    subst path
    exact absurd (reads ⟨c, reply⟩ (by simp)).1 no_read
  | stopped reads read =>
    obtain ⟨between, rfl, last⟩ := split_behind path (fun x listed => (reads x listed).1) no_read
    rcases between with _ | ⟨y, between⟩
    · cases last
      exact absurd read no_read
    · simp at last
  | wrote reads first closing =>
    obtain ⟨between, rfl, rest⟩ := split_behind path (fun x listed => (reads x listed).1) no_read
    rcases between with _ | ⟨y, between⟩
    · cases rest
      rw [List.append_nil]
      exact ⟨fun x listed => (reads x listed).2, _, rfl, closing⟩
    · -- The one call that may come after a write is a read.
      obtain ⟨-, rest⟩ := List.cons.inj rest
      rcases closing.trailOf_eq with none | ⟨-, id, again, -, one⟩
      · simp [none] at rest
      · rw [one] at rest
        rcases between with _ | ⟨z, between⟩
        · cases rest
          cases write
        · simp at rest

theorem Progress.fails (h : Progress s (before ++ ⟨c, .error e⟩ :: after) q)
    (succeeded : ∀ x ∈ before, x.Succeeded) : s.Fails c e after q := by
  by_cases write : c.isWrite = true
  · obtain ⟨-, acts, rfl, closing⟩ := h.write write
    exact closing.fails
  generalize path : before ++ ⟨c, .error e⟩ :: after = trail at h
  cases h with
  | reading reads =>
    subst path
    exact absurd (reads ⟨c, .error e⟩ (by simp)).2 not_succeeded
  | stopped reads read =>
    obtain ⟨between, rfl, last⟩ := split_behind path (fun x listed => (reads x listed).2)
      not_succeeded
    rcases between with _ | ⟨y, between⟩
    · cases last
      exact .ends fun _ _ => read
    · simp at last
  | @wrote reads acts d reply q reads wrote closing =>
    obtain ⟨between, rfl, rest⟩ := split_behind path (fun x listed => (reads x listed).2)
      not_succeeded
    rcases between with _ | ⟨y, between⟩
    · cases rest
      exact absurd wrote write
    · -- A write that succeeded is the last call, so none can have failed after it.
      obtain ⟨rfl, rest⟩ := List.cons.inj rest
      obtain ⟨a, taken⟩ := succeeded ⟨d, reply⟩ (by simp)
      rcases closing.trailOf_eq with none | ⟨⟨e', failed⟩, -⟩
      · simp [none] at rest
      · cases taken.symm.trans failed

/-- Whatever the replies are, the first call that fails is the last one, and the service comes back
with its error. A merge that cannot write reads once more and goes by that. Everything before a
write has succeeded, and nothing comes after it but that one read. -/
theorem failures_are_heeded (chance : Chance) (s : Service) :
    (∀ before c e after q, (s.program chance).Reaches (before ++ ⟨c, .error e⟩ :: after) q →
      (∀ x ∈ before, x.Succeeded) → s.Fails c e after q) ∧
    (∀ trail c, (s.program chance).Asks trail c → c.isWrite = true →
      ∀ x ∈ trail, x.Succeeded) ∧
    ∀ before c reply after q, (s.program chance).Reaches (before ++ ⟨c, reply⟩ :: after) q →
      c.isWrite = true → after = [] ∨ (∃ e, reply = .error e) ∧
        ∃ id again, s = .merge id ∧ after = [⟨.findPullRequest id, again⟩] := by
  refine ⟨?_, ?_, ?_⟩
  · intro before c e after q reaches succeeded
    exact (progress_of_reaches reaches).fails succeeded
  · intro trail c asks write
    obtain ⟨resume, reaches⟩ := asks
    have answered := reaches_trans reaches (.call (.error (.database "")) (.here _))
    exact ((progress_of_reaches answered).write write).1
  · intro before c reply after q reaches write
    obtain ⟨-, acts, rfl, closing⟩ := (progress_of_reaches reaches).write write
    exact closing.trailOf_eq

/-- The name of the second reviewer cannot be looked up. -/
def unnamed : List Exchange :=
  [⟨.findAllPullRequests, .ok [Sample.pr]⟩, ⟨.findUser ⟨"bea"⟩, .ok (some (Sample.member "bea"))⟩,
    ⟨.findUser ⟨"cid"⟩, .error (.database "gone")⟩]

/-- Then nobody is told of, and nobody else is looked up. -/
theorem unnamed_is_heeded :
    (Service.reviewerStatistics.program Sample.chance).Reaches unnamed
      (done (.error (.store (.database "gone")))) ∧
    ∀ after q, (Service.reviewerStatistics.program Sample.chance).Reaches (unnamed ++ after) q →
      after = [] ∧ q = done (.error (.store (.database "gone"))) := by
  refine ⟨.call _ (.call _ (.call _ (.here _))), ?_⟩
  intro after q reaches
  obtain ⟨failed, -, -⟩ := failures_are_heeded Sample.chance .reviewerStatistics
  cases failed (unnamed.take 2) _ _ after q reaches (by simp [unnamed, Exchange.Succeeded]) with
  | ends => exact ⟨rfl, rfl⟩

end Service

end ReviewDesk
