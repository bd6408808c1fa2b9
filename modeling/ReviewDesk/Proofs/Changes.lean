-- A pull request through any number of changes, under any clock. Whatever is asked of it, it stays
-- a good one with its times in order, and from its merge on it stays as it is.
import ReviewDesk.Proofs.Roster

namespace ReviewDesk

/-! ## Changes -/

/-- What can be asked of a pull request, and what the clock shows then. -/
inductive Change where
  | assign (clock : Instant) (user : UserId)
  | unassign (user : UserId)
  | reassign (clock : Instant) (old new : UserId)
  | merge (clock : Instant)
  deriving DecidableEq, Repr

namespace PullRequest

/-- What comes of a change. -/
def respond (pr : PullRequest) : Change → Except PullRequestError PullRequest
  | .assign clock user => pr.assign clock user
  | .unassign user => pr.unassign user
  | .reassign clock old new => pr.reassign clock old new
  | .merge clock => .ok (pr.merge clock)

/-- The pull request after a change. One that is refused leaves it as it was. -/
def change (pr : PullRequest) (c : Change) : PullRequest :=
  match pr.respond c with
  | .ok changed => changed
  | .error _ => pr

/-- The pull request after some changes, one after the other. -/
def changeAll (pr : PullRequest) (changes : List Change) : PullRequest := changes.foldl change pr

variable {pr changed : PullRequest} {clock : Instant} {changes : List Change} {c : Change}

theorem change_of_ok (made : pr.respond c = .ok changed) : pr.change c = changed := by
  unfold change
  rw [made]

theorem change_of_error {e : PullRequestError} (refused : pr.respond c = .error e) :
    pr.change c = pr := by
  unfold change
  rw [refused]

theorem changeAll_append (pr : PullRequest) (first second : List Change) :
    pr.changeAll (first ++ second) = (pr.changeAll first).changeAll second :=
  List.foldl_append

/-! ## One change -/

/-- All that a change can do. A merge that comes too late does nothing. -/
inductive Step (pr : PullRequest) : PullRequest → Prop
  | nothing : Step pr pr
  | added {clock : Instant} {user : UserId} (opened : pr.isMerged = false)
      (room : pr.reviewers.length < maxReviewers) (other : user ≠ pr.author)
      (fresh : user ∉ pr.reviewerIds) :
      Step pr { pr with reviewers := pr.reviewers ++ [⟨user, pr.nextInstant clock⟩] }
  | removed {user : UserId} (opened : pr.isMerged = false) :
      Step pr { pr with reviewers := pr.reviewers.filter (·.user ≠ user) }
  | replaced {clock : Instant} {old new : UserId} (opened : pr.isMerged = false)
      (listed : old ∈ pr.reviewerIds) (other : new ≠ pr.author) (fresh : new ∉ pr.reviewerIds) :
      Step pr { pr with reviewers := replaceFirst old ⟨new, pr.nextInstant clock⟩ pr.reviewers }
  | merged {clock : Instant} (opened : pr.isMerged = false) :
      Step pr { pr with status := .merged, mergedAt := some (pr.nextInstant clock) }

theorem unassign_of_open (opened : pr.isMerged = false) (user : UserId) :
    pr.unassign user = .ok { pr with reviewers := pr.reviewers.filter (·.user ≠ user) } := by
  unfold unassign
  simp only [opened, Bool.false_eq_true, if_false]

theorem merge_of_merged (merged : pr.isMerged = true) (clock : Instant) : pr.merge clock = pr := by
  unfold merge
  rw [isMerged_iff.1 merged]
  rfl

/-- Only a merge is not refused by a merged pull request, and it does nothing. -/
theorem respond_of_merged (merged : pr.isMerged = true) (c : Change) :
    pr.respond c = .error .alreadyMerged ∨ (∃ clock, c = .merge clock) ∧ pr.respond c = .ok pr := by
  cases c with
  | assign clock user => exact .inl (if_pos merged)
  | unassign user => exact .inl (if_pos merged)
  | reassign clock old new => exact .inl (if_pos merged)
  | merge clock => exact .inr ⟨⟨clock, rfl⟩, congrArg Except.ok (merge_of_merged merged clock)⟩

theorem step_of_respond (made : pr.respond c = .ok changed) : Step pr changed := by
  rcases opened : pr.isMerged with _ | _
  case true =>
    rcases respond_of_merged opened c with refused | ⟨-, same⟩
    · rw [refused] at made
      cases made
    · rw [same] at made
      cases made
      exact .nothing
  cases c with
  | assign clock user =>
    obtain ⟨-, other, room, fresh, rfl⟩ := assign_ok made
    exact .added opened room other fresh
  | unassign user =>
    cases (unassign_of_open opened user).symm.trans made
    exact .removed opened
  | reassign clock old new =>
    obtain ⟨-, listed, other, fresh, rfl⟩ := reassign_ok made
    exact .replaced opened listed other fresh
  | merge clock =>
    cases (congrArg Except.ok (merge_of_open opened)).symm.trans made
    exact .merged opened

theorem step_change (pr : PullRequest) (c : Change) : Step pr (pr.change c) := by
  unfold change
  split
  · rename_i changed made
    exact step_of_respond made
  · exact .nothing

/-- What every step keeps is kept by any number of changes. -/
theorem changeAll_keeps {P : PullRequest → Prop} (step : ∀ {pr next}, Step pr next → P pr → P next)
    (h : P pr) (changes : List Change) : P (pr.changeAll changes) := by
  induction changes generalizing pr with
  | nil => exact h
  | cons c rest ih => exact ih (step (step_change pr c) h)

/-! ## What every change keeps -/

theorem Step.sound (step : Step pr changed) (h : Sound pr) : Sound changed := by
  cases step with
  | nothing => exact h
  | added _ room other fresh => exact sound_add h room other fresh
  | removed =>
    refine ⟨h.id_given, h.title_given, h.author_given, ?_, ?_, ?_, h.merge_time⟩
    · exact Nat.le_trans (List.length_filter_le ..) h.short
    · exact h.distinct.sublist (List.filter_sublist.map _)
    · intro listed
      exact h.not_author ((List.filter_sublist.map _).subset listed)
  | replaced opened listed other fresh =>
    exact sound_of_reassign h (reassign_of_open _ opened listed other fresh)
  | merged opened =>
    rw [← merge_of_open opened]
    exact sound_merge h _

/-- The name, the title, the author and the time that a pull request was opened with. -/
structure SameOpening (pr now : PullRequest) : Prop where
  id : now.id = pr.id
  title : now.title = pr.title
  author : now.author = pr.author
  createdAt : now.createdAt = pr.createdAt

theorem SameOpening.refl (pr : PullRequest) : SameOpening pr pr := ⟨rfl, rfl, rfl, rfl⟩

theorem Step.sameOpening {start : PullRequest} (step : Step pr changed)
    (h : SameOpening start pr) : SameOpening start changed := by
  cases step <;> exact ⟨h.id, h.title, h.author, h.createdAt⟩

/-! ## Times -/

theorem mem_replaceFirst {old : UserId} {entry r : Reviewer} {roster : List Reviewer}
    (h : r ∈ replaceFirst old entry roster) : r = entry ∨ r ∈ roster := by
  induction roster with
  | nil => cases h
  | cons s rest ih =>
    unfold replaceFirst at h
    split at h
    · rcases List.mem_cons.1 h with same | later
      · exact .inl same
      · exact .inr (List.mem_cons_of_mem _ later)
    · rcases List.mem_cons.1 h with same | later
      · exact .inr (same ▸ List.mem_cons_self)
      · exact (ih later).imp_right (List.mem_cons_of_mem _)

/-- A place on the roster is one that was there, or it is given at the next time. -/
theorem Step.reviewer (step : Step pr changed) {r : Reviewer} (listed : r ∈ changed.reviewers) :
    r ∈ pr.reviewers ∨ ∃ clock, r.assignedAt = pr.nextInstant clock := by
  cases step with
  | nothing => exact .inl listed
  | @added clock =>
    rcases List.mem_append.1 listed with before | last
    · exact .inl before
    · rw [List.mem_singleton.1 last]
      exact .inr ⟨clock, rfl⟩
  | removed => exact .inl (List.mem_filter.1 listed).1
  | @replaced clock =>
    rcases mem_replaceFirst listed with rfl | before
    · exact .inr ⟨clock, rfl⟩
    · exact .inl before
  | merged => exact .inl listed

/-- The time of a merge was there before, or it is the next time, and then the roster is as it
was. -/
theorem Step.mergedAt (step : Step pr changed) {t : Instant} (merged : changed.mergedAt = some t) :
    pr.mergedAt = some t ∧ (pr.isMerged = false ∨ changed = pr) ∨
      changed.reviewers = pr.reviewers ∧ ∃ clock, t = pr.nextInstant clock := by
  cases step with
  | nothing => exact .inl ⟨merged, .inr rfl⟩
  | added opened => exact .inl ⟨merged, .inl opened⟩
  | removed opened => exact .inl ⟨merged, .inl opened⟩
  | replaced opened => exact .inl ⟨merged, .inl opened⟩
  | @merged clock opened => exact .inr ⟨rfl, clock, (Option.some.inj merged).symm⟩

/-- Nobody is on the roster since before the pull request was made, and it was merged after all
else. -/
structure Timely (pr : PullRequest) : Prop where
  since : ∀ r ∈ pr.reviewers, pr.createdAt ≤ r.assignedAt
  merged_last : ∀ t, pr.mergedAt = some t → pr.createdAt < t ∧ ∀ r ∈ pr.reviewers, r.assignedAt < t

theorem createdAt_mem (pr : PullRequest) : pr.createdAt ∈ pr.instants := by simp [instants]

theorem assignedAt_mem {r : Reviewer} (listed : r ∈ pr.reviewers) : r.assignedAt ∈ pr.instants := by
  simp only [instants, List.cons_append, List.mem_cons, List.mem_append]
  exact .inr (.inl (List.mem_map_of_mem listed))

theorem mem_instants {t : Instant} : t ∈ pr.instants ↔
    t = pr.createdAt ∨ (∃ r ∈ pr.reviewers, r.assignedAt = t) ∨ pr.mergedAt = some t := by
  simp [instants]

theorem Step.timely (step : Step pr changed) (sound : Sound pr) (h : Timely pr) :
    Timely changed := by
  have created : changed.createdAt = pr.createdAt :=
    (step.sameOpening (.refl pr)).createdAt
  constructor
  · intro r listed
    rw [created]
    rcases step.reviewer listed with before | ⟨clock, next⟩
    · exact h.since r before
    · rw [next]
      exact Int.le_of_lt (lt_nextInstant clock pr.createdAt_mem)
  · intro t merged
    rw [created]
    rcases step.mergedAt merged with ⟨before, opened | rfl⟩ | ⟨roster, clock, rfl⟩
    · -- An open pull request has no merge time.
      have status : pr.status = .merged := sound.merge_time.2 (by rw [before]; rfl)
      rw [isMerged_iff.2 status] at opened
      cases opened
    · exact h.merged_last t before
    · rw [roster]
      exact ⟨lt_nextInstant clock pr.createdAt_mem,
        fun r listed => lt_nextInstant clock (assignedAt_mem listed)⟩

/-- A pull request that holds the time it was made at and no other. -/
def Fresh (pr : PullRequest) : Prop := ∀ t ∈ pr.instants, t = pr.createdAt

theorem fresh_of_new {id : PullRequestId} {title : String} {author : UserId}
    {users : List UserId} (made : new clock id title author users = .ok pr) : pr.Fresh := by
  rw [new_ok made]
  intro t held
  rcases mem_instants.1 held with rfl | ⟨r, listed, rfl⟩ | merged
  · rfl
  · obtain ⟨user, -, rfl⟩ := List.mem_map.1 listed
    rfl
  · cases merged

/-! ## Whole microseconds -/

/-- A pull request whose times are all whole microseconds. -/
def Whole (pr : PullRequest) : Prop := ∀ t ∈ pr.instants, t.Whole

theorem Whole.nextInstant (h : pr.Whole) (clock : Instant) : (pr.nextInstant clock).Whole := by
  unfold PullRequest.nextInstant
  split
  · exact Instant.whole_toMicrosecond clock
  · exact (h _ pr.latest_mem).nextMicrosecond

theorem Step.whole (step : Step pr changed) (h : pr.Whole) : changed.Whole := by
  intro t held
  rcases mem_instants.1 held with rfl | ⟨r, listed, rfl⟩ | merged
  · rw [(step.sameOpening (.refl pr)).createdAt]
    exact h _ pr.createdAt_mem
  · rcases step.reviewer listed with before | ⟨clock, next⟩
    · exact h _ (assignedAt_mem before)
    · rw [next]
      exact h.nextInstant clock
  · rcases step.mergedAt merged with ⟨before, -⟩ | ⟨-, clock, rfl⟩
    · exact h _ (mem_instants.2 (.inr (.inr before)))
    · exact h.nextInstant clock

theorem whole_of_new {id : PullRequestId} {title : String} {author : UserId}
    {users : List UserId} (made : new clock id title author users = .ok pr) : pr.Whole := by
  intro t held
  rw [fresh_of_new made t held, new_ok made]
  exact clock.whole_toMicrosecond

/-! ## Whole histories -/

theorem changeAll_of_merged (merged : pr.isMerged = true) (changes : List Change) :
    pr.changeAll changes = pr := by
  induction changes with
  | nil => rfl
  | cons c rest ih =>
    have same : pr.change c = pr := by
      rcases respond_of_merged merged c with refused | ⟨-, same⟩
      · exact change_of_error refused
      · exact change_of_ok same
    unfold changeAll at ih ⊢
    rw [List.foldl_cons, same, ih]

theorem timely_of_new {id : PullRequestId} {title : String} {author : UserId}
    {users : List UserId} (made : new clock id title author users = .ok pr) : Timely pr := by
  rw [new_ok made]
  constructor
  · intro r listed
    obtain ⟨user, -, rfl⟩ := List.mem_map.1 listed
    exact Instant.le_refl _
  · intro t merged
    cases merged

/-- However the clock goes and whatever is asked of a pull request since it was made, it is a good
one at any time, it is what it was opened as, and its times are in order. From its first merge on
nothing about it changes, and all but another merge is refused. -/
theorem any_history_is_sound {start : Instant} {id : PullRequestId} {title : String}
    {author : UserId} {users : List UserId} (made : new start id title author users = .ok pr)
    (changes : List Change) :
    (pr.changeAll changes).Sound ∧ (pr.changeAll changes).Timely ∧
    SameOpening pr (pr.changeAll changes) ∧
    ∀ before clock after, changes = before ++ .merge clock :: after →
      (pr.changeAll changes).isMerged = true ∧
      pr.changeAll changes = pr.changeAll (before ++ [.merge clock]) ∧
      ∀ c, (∀ clock, c ≠ .merge clock) →
        (pr.changeAll changes).respond c = .error .alreadyMerged := by
  obtain ⟨sound, timely⟩ : (pr.changeAll changes).Sound ∧ (pr.changeAll changes).Timely :=
    changeAll_keeps (P := fun pr => pr.Sound ∧ pr.Timely)
      (fun step h => ⟨step.sound h.1, step.timely h.1 h.2⟩)
      ⟨sound_of_new made, timely_of_new made⟩ changes
  have opening : SameOpening pr (pr.changeAll changes) :=
    changeAll_keeps Step.sameOpening (.refl pr) changes
  refine ⟨sound, timely, opening, ?_⟩
  rintro before clock after rfl
  have merged : (pr.changeAll (before ++ [.merge clock])).isMerged = true := by
    rw [changeAll_append]
    exact isMerged_merge _ clock
  have same : pr.changeAll (before ++ .merge clock :: after) =
      pr.changeAll (before ++ [.merge clock]) := by
    rw [List.append_cons, changeAll_append, changeAll_of_merged merged]
  rw [same]
  refine ⟨merged, rfl, ?_⟩
  intro c other
  rcases respond_of_merged merged c with refused | ⟨⟨clock', rfl⟩, -⟩
  · exact refused
  · exact absurd rfl (other clock')

/-- Ann opens it with bea on its roster, a nanosecond before the sixth microsecond. -/
def firstDraft : PullRequest :=
  { id := ⟨"p"⟩, title := "a change", author := ⟨"ann"⟩, status := .opened,
    reviewers := [⟨⟨"bea"⟩, ⟨5000⟩⟩], createdAt := ⟨5000⟩, mergedAt := none }

/-- The clock goes back and stands still, and some ask for what cannot be. -/
def busyHistory : List Change :=
  [.assign ⟨0⟩ ⟨"ann"⟩, .assign ⟨0⟩ ⟨"cid"⟩, .reassign ⟨5000⟩ ⟨"bea"⟩ ⟨"cid"⟩,
    .reassign ⟨5000⟩ ⟨"bea"⟩ ⟨"dan"⟩, .unassign ⟨"cid"⟩, .merge ⟨0⟩, .merge ⟨90000⟩,
    .unassign ⟨"dan"⟩]

theorem busyHistory_is_sound :
    new ⟨5999⟩ ⟨"p"⟩ "a change" ⟨"ann"⟩ [⟨"bea"⟩] = .ok firstDraft ∧
    firstDraft.changeAll busyHistory =
      { firstDraft with status := .merged, reviewers := [⟨⟨"dan"⟩, ⟨7000⟩⟩],
                        mergedAt := some ⟨8000⟩ } ∧
    (firstDraft.changeAll busyHistory).Sound ∧ (firstDraft.changeAll busyHistory).Timely ∧
    (firstDraft.changeAll busyHistory).respond (.assign ⟨90000⟩ ⟨"cid"⟩) =
      .error .alreadyMerged := by
  have made : new ⟨5999⟩ ⟨"p"⟩ "a change" ⟨"ann"⟩ [⟨"bea"⟩] = .ok firstDraft := rfl
  obtain ⟨sound, timely, -, late⟩ := any_history_is_sound made busyHistory
  obtain ⟨-, -, refused⟩ := late (busyHistory.take 5) ⟨0⟩ [.merge ⟨90000⟩, .unassign ⟨"dan"⟩] rfl
  exact ⟨made, rfl, sound, timely, refused _ (fun _ => by simp)⟩

end PullRequest

end ReviewDesk
