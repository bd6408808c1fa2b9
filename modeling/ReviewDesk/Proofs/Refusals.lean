-- What can be said against a change of a pull request, and what the change makes where nothing can.
-- The objections stand in a list: the first that applies is the answer, and then nothing changes.
-- No rule of the roster is assumed, so all this also holds of what was read back.
import ReviewDesk.Proofs.Changes

namespace ReviewDesk

/-! ## Objections -/

/-- Something that can be said against a change: when it applies, and how the change is refused. -/
structure Objection where
  applies : Prop
  refusal : PullRequestError

/-- How a change is refused by the first objection that applies. -/
inductive Objection.First : List Objection → PullRequestError → Prop
  | here {o : Objection} {rest : List Objection} (applies : o.applies) : First (o :: rest) o.refusal
  | later {o : Objection} {rest : List Objection} {e : PullRequestError} (passed : ¬ o.applies)
      (first : First rest e) : First (o :: rest) e

namespace PullRequest

/-- What can be said against a change, in the order in which it counts. -/
def objections (pr : PullRequest) : Change → List Objection
  | .assign _ user =>
    [⟨pr.status = .merged, .alreadyMerged⟩,
     ⟨user = pr.author, .authorIsReviewer user⟩,
     ⟨maxReviewers ≤ pr.reviewers.length, .tooManyReviewers⟩,
     ⟨user ∈ pr.reviewerIds, .alreadyAssigned user⟩]
  | .unassign _ => [⟨pr.status = .merged, .alreadyMerged⟩]
  | .reassign _ old new =>
    [⟨pr.status = .merged, .alreadyMerged⟩,
     ⟨old ∉ pr.reviewerIds, .reviewerNotAssigned old⟩,
     ⟨new = pr.author, .authorIsReviewer new⟩,
     ⟨new ∈ pr.reviewerIds, .alreadyAssigned new⟩]
  | .merge _ => []

/-- The answer to a change that is refused by the first objection that applies, and made where none
does. -/
structure Heard (against : List Objection) (made : PullRequest)
    (answer : Except PullRequestError PullRequest) : Prop where
  refused : ∀ e, answer = .error e ↔ Objection.First against e
  accepted : ∀ changed, answer = .ok changed ↔ (∀ o ∈ against, ¬ o.applies) ∧ changed = made

variable {pr made changed : PullRequest} {against : List Objection}
  {answer : Except PullRequestError PullRequest}

theorem Heard.nothing (made : PullRequest) : Heard [] made (.ok made) := by
  constructor
  · intro e
    constructor
    · intro failed
      cases failed
    · intro first
      cases first
  · intro changed
    simp [eq_comm]

/-- A check stands for the objection that it looks at. -/
theorem Heard.check {p : Prop} [Decidable p] {o : Objection} (same : p ↔ o.applies)
    (rest : Heard against made answer) :
    Heard (o :: against) made (if p then .error o.refusal else answer) := by
  by_cases applies : p
  · rw [if_pos applies]
    have objected := same.1 applies
    constructor
    · intro e
      constructor
      · intro refused
        cases refused
        exact .here objected
      · intro first
        cases first with
        | here => rfl
        | later passed => exact absurd objected passed
    · intro changed
      constructor
      · intro accepted
        cases accepted
      · rintro ⟨free, -⟩
        exact absurd objected (free o List.mem_cons_self)
  · rw [if_neg applies]
    have passed : ¬ o.applies := fun objected => applies (same.2 objected)
    constructor
    · intro e
      rw [rest.refused]
      constructor
      · exact .later passed
      · intro first
        cases first with
        | here objected => exact absurd objected passed
        | later _ first => exact first
    · intro changed
      rw [rest.accepted, List.forall_mem_cons]
      simp [passed]

/-! ## What is looked at -/

theorem heard_assign (clock : Instant) (user : UserId) :
    Heard (pr.objections (.assign clock user))
      { pr with reviewers := pr.reviewers ++ [⟨user, pr.nextInstant clock⟩] }
      (pr.assign clock user) := by
  unfold assign
  apply Heard.check isMerged_iff
  apply Heard.check (Iff.refl (user = pr.author))
  apply Heard.check hasEnoughReviewers_iff
  apply Heard.check hasReviewer_iff
  exact .nothing _

theorem heard_unassign (user : UserId) :
    Heard (pr.objections (.unassign user))
      { pr with reviewers := pr.reviewers.filter (·.user ≠ user) } (pr.unassign user) := by
  unfold unassign
  apply Heard.check isMerged_iff
  exact .nothing _

theorem heard_reassign (clock : Instant) (old new : UserId) :
    Heard (pr.objections (.reassign clock old new))
      { pr with reviewers := replaceFirst old ⟨new, pr.nextInstant clock⟩ pr.reviewers }
      (pr.reassign clock old new) := by
  have unlisted : (!pr.hasReviewer old) = true ↔ old ∉ pr.reviewerIds := by
    simp [← hasReviewer_iff]
  unfold reassign
  apply Heard.check isMerged_iff
  apply Heard.check unlisted
  apply Heard.check (Iff.refl (new = pr.author))
  apply Heard.check hasReviewer_iff
  exact .nothing _

/-! ## What is made -/

/-- What a change makes of a pull request. The roster gets one more place at its end, or it loses
all places of one user and keeps the others in their order, or the first place of one user goes to
another. A place that is given is given later than all times before, and all else stays. -/
inductive Makes (pr : PullRequest) : Change → PullRequest → Prop
  | assigned {clock since : Instant} {user : UserId} (later : ∀ t ∈ pr.instants, t < since) :
      Makes pr (.assign clock user) { pr with reviewers := pr.reviewers ++ [⟨user, since⟩] }
  | unassigned {user : UserId} {left : List Reviewer} (order : left.Sublist pr.reviewers)
      (gone : ∀ r ∈ left, r.user ≠ user)
      (kept : ∀ r, r.user ≠ user → left.count r = pr.reviewers.count r) :
      Makes pr (.unassign user) { pr with reviewers := left }
  | reassigned {clock since : Instant} {old new : UserId} {before after : List Reviewer}
      {slot : Reviewer} (places : pr.reviewers = before ++ slot :: after) (held : slot.user = old)
      (first : ∀ r ∈ before, r.user ≠ old) (later : ∀ t ∈ pr.instants, t < since) :
      Makes pr (.reassign clock old new)
        { pr with reviewers := before ++ ⟨new, since⟩ :: after }
  | merged {clock since : Instant} (opened : pr.status = .opened)
      (later : ∀ t ∈ pr.instants, t < since) :
      Makes pr (.merge clock) { pr with status := .merged, mergedAt := some since }
  | stays {clock : Instant} (merged : pr.status = .merged) : Makes pr (.merge clock) pr

theorem makes_unassign (pr : PullRequest) (user : UserId) :
    pr.Makes (.unassign user) { pr with reviewers := pr.reviewers.filter (·.user ≠ user) } := by
  apply Makes.unassigned
  · exact List.filter_sublist
  · intro r listed
    simpa using (List.mem_filter.1 listed).2
  · intro r other
    exact List.count_filter (by simpa using other)

theorem makes_reassign (clock : Instant) (new : UserId) {old : UserId}
    (listed : old ∈ pr.reviewerIds) :
    pr.Makes (.reassign clock old new)
      { pr with reviewers := replaceFirst old ⟨new, pr.nextInstant clock⟩ pr.reviewers } := by
  obtain ⟨before, slot, after, places, held, first⟩ := first_place listed
  rw [places, replaceFirst_split _ held first]
  apply Makes.reassigned places held
  · intro r before_it same
    exact first (same ▸ List.mem_map_of_mem before_it)
  · exact fun t => lt_nextInstant clock

theorem makes_merge (pr : PullRequest) (clock : Instant) :
    pr.Makes (.merge clock) (pr.merge clock) := by
  cases status : pr.status with
  | opened =>
    have opened : pr.isMerged = false := by simp [isMerged, status]
    rw [merge_of_open opened]
    exact .merged status fun t => lt_nextInstant clock
  | merged =>
    rw [merge_of_merged (isMerged_iff.2 status)]
    exact .stays status

/-- A change is answered as it is heard, and what is made where nothing is said against it is what
such a change makes. -/
theorem heard_respond (pr : PullRequest) (c : Change) :
    ∃ made, Heard (pr.objections c) made (pr.respond c) ∧
      ((∀ o ∈ pr.objections c, ¬ o.applies) → pr.Makes c made) := by
  cases c with
  | assign clock user =>
    refine ⟨_, heard_assign clock user, fun _ => ?_⟩
    exact .assigned fun t => lt_nextInstant clock
  | unassign user => exact ⟨_, heard_unassign user, fun _ => makes_unassign pr user⟩
  | reassign clock old new =>
    refine ⟨_, heard_reassign clock old new, fun free => makes_reassign clock new ?_⟩
    -- The second objection is that the old user is not on the roster.
    exact Decidable.not_not.1 (free _ (List.mem_cons_of_mem _ List.mem_cons_self))
  | merge clock => exact ⟨_, .nothing _, fun _ => makes_merge pr clock⟩

/-- A change is refused by the first objection that applies, and made just when none does. Refused,
it leaves the pull request as it was. Made, it changes the roster and nothing else (a merge the
status and its time), and there only what it is about. -/
theorem change_contract (pr : PullRequest) (c : Change) :
    (∀ e, pr.respond c = .error e ↔ Objection.First (pr.objections c) e) ∧
    ((∃ changed, pr.respond c = .ok changed) ↔ ∀ o ∈ pr.objections c, ¬ o.applies) ∧
    (∀ e, pr.respond c = .error e → pr.change c = pr) ∧
    ∀ changed, pr.respond c = .ok changed → pr.change c = changed ∧ pr.Makes c changed := by
  obtain ⟨made, heard, makes⟩ := heard_respond pr c
  refine ⟨heard.refused, ?_, ?_, ?_⟩
  · constructor
    · rintro ⟨changed, accepted⟩
      exact ((heard.accepted changed).1 accepted).1
    · intro free
      exact ⟨made, (heard.accepted made).2 ⟨free, rfl⟩⟩
  · intro e refused
    exact change_of_error refused
  · intro changed accepted
    obtain ⟨free, rfl⟩ := (heard.accepted changed).1 accepted
    exact ⟨change_of_ok accepted, makes free⟩

/-- Three places are one too many, bea holds two of them, and ann, who is the author, the other. -/
def crowdedDraft : PullRequest :=
  { firstDraft with reviewers :=
      [⟨⟨"bea"⟩, ⟨5000⟩⟩, ⟨⟨"ann"⟩, ⟨9000⟩⟩, ⟨⟨"bea"⟩, ⟨6000⟩⟩] }

/-- The author is refused as the author, however full the roster is and whoever is on it already.
Bea loses the first place only to somebody else, and both when she is taken off. -/
theorem crowdedDraft_contract :
    Objection.First (crowdedDraft.objections (.assign ⟨0⟩ ⟨"ann"⟩)) (.authorIsReviewer ⟨"ann"⟩) ∧
    Objection.First (crowdedDraft.objections (.assign ⟨0⟩ ⟨"bea"⟩)) .tooManyReviewers ∧
    Objection.First (crowdedDraft.objections (.reassign ⟨0⟩ ⟨"bea"⟩ ⟨"ann"⟩))
      (.authorIsReviewer ⟨"ann"⟩) ∧
    Objection.First (crowdedDraft.objections (.reassign ⟨0⟩ ⟨"bea"⟩ ⟨"bea"⟩))
      (.alreadyAssigned ⟨"bea"⟩) ∧
    crowdedDraft.change (.assign ⟨0⟩ ⟨"bea"⟩) = crowdedDraft ∧
    crowdedDraft.Makes (.reassign ⟨0⟩ ⟨"bea"⟩ ⟨"cid"⟩) { crowdedDraft with reviewers :=
      [⟨⟨"cid"⟩, ⟨10000⟩⟩, ⟨⟨"ann"⟩, ⟨9000⟩⟩, ⟨⟨"bea"⟩, ⟨6000⟩⟩] } ∧
    crowdedDraft.Makes (.unassign ⟨"bea"⟩)
      { crowdedDraft with reviewers := [⟨⟨"ann"⟩, ⟨9000⟩⟩] } := by
  have refused := fun c => (change_contract crowdedDraft c).1
  have same := fun c => (change_contract crowdedDraft c).2.2.1
  have makes := fun c changed accepted =>
    ((change_contract crowdedDraft c).2.2.2 changed accepted).2
  exact ⟨(refused _ _).1 rfl, (refused _ _).1 rfl, (refused _ _).1 rfl, (refused _ _).1 rfl,
    same _ .tooManyReviewers rfl, makes _ _ rfl, makes _ _ rfl⟩

end PullRequest

end ReviewDesk
