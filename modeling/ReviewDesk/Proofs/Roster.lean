-- What every change keeps of a pull request: the roster stays a good one, and what a pull
-- request was opened with stays as it was.
import ReviewDesk.PullRequest

namespace ReviewDesk

namespace PullRequest

variable {pr changed : PullRequest} {clock : Instant}

/-! ## The invariant -/

/-- A pull request that the desk has made. Names are not empty, the roster is short, lists nobody
twice and never the author, and there is a merge time just when it is merged. -/
structure Sound (pr : PullRequest) : Prop where
  id_given : pr.id.value ≠ ""
  title_given : pr.title ≠ ""
  author_given : pr.author.value ≠ ""
  short : pr.reviewers.length ≤ maxReviewers
  distinct : pr.reviewerIds.Nodup
  not_author : pr.author ∉ pr.reviewerIds
  merge_time : pr.status = .merged ↔ pr.mergedAt.isSome = true

/-- Two states of one pull request. The roster may have other names, but not more or fewer. -/
structure SameOrigin (pr changed : PullRequest) : Prop where
  id : changed.id = pr.id
  title : changed.title = pr.title
  author : changed.author = pr.author
  createdAt : changed.createdAt = pr.createdAt
  places : changed.reviewers.length = pr.reviewers.length

theorem SameOrigin.refl (pr : PullRequest) : SameOrigin pr pr := ⟨rfl, rfl, rfl, rfl, rfl⟩

theorem SameOrigin.trans {a b c : PullRequest} (h : SameOrigin a b) (h' : SameOrigin b c) :
    SameOrigin a c :=
  ⟨h'.id.trans h.id, h'.title.trans h.title, h'.author.trans h.author,
    h'.createdAt.trans h.createdAt, h'.places.trans h.places⟩

theorem SameOrigin.symm {a b : PullRequest} (h : SameOrigin a b) : SameOrigin b a :=
  ⟨h.id.symm, h.title.symm, h.author.symm, h.createdAt.symm, h.places.symm⟩

theorem isMerged_iff : pr.isMerged = true ↔ pr.status = .merged := by
  simp [isMerged]

theorem hasEnoughReviewers_iff :
    pr.hasEnoughReviewers = true ↔ maxReviewers ≤ pr.reviewers.length := by
  simp [hasEnoughReviewers]

theorem hasReviewer_iff {user : UserId} : pr.hasReviewer user = true ↔ user ∈ pr.reviewerIds := by
  unfold hasReviewer reviewerIds
  simp [List.mem_map]

theorem length_reviewerIds (pr : PullRequest) : pr.reviewerIds.length = pr.reviewers.length :=
  List.length_map _

theorem reviewerIds_add (pr : PullRequest) (entry : Reviewer) :
    ({ pr with reviewers := pr.reviewers ++ [entry] } : PullRequest).reviewerIds =
      pr.reviewerIds ++ [entry.user] := by
  simp [reviewerIds]

/-! ## Opening -/

theorem sound_add {entry : Reviewer} (h : Sound pr) (room : pr.reviewers.length < maxReviewers)
    (other : entry.user ≠ pr.author) (fresh : entry.user ∉ pr.reviewerIds) :
    Sound { pr with reviewers := pr.reviewers ++ [entry] } := by
  refine ⟨h.id_given, h.title_given, h.author_given, ?_, ?_, ?_, h.merge_time⟩
  · simp only [List.length_append, List.length_singleton]
    omega
  · rw [reviewerIds_add, List.nodup_append]
    refine ⟨h.distinct, by simp, ?_⟩
    intro a listed b last same
    rw [List.mem_singleton] at last
    subst last
    subst same
    exact fresh listed
  · rw [reviewerIds_add]
    intro listed
    rcases List.mem_append.1 listed with listed | last
    · exact h.not_author listed
    · exact other (List.mem_singleton.1 last).symm

theorem sound_of_listReviewers {users : List UserId} (h : Sound pr)
    (room : pr.reviewers.length + users.length ≤ maxReviewers)
    (made : listReviewers users pr = .ok changed) : Sound changed := by
  induction users generalizing pr with
  | nil =>
    cases made
    exact h
  | cons user rest ih =>
    unfold listReviewers at made
    simp only [List.length_cons] at room
    split at made
    · cases made
    · rename_i other
      split at made
      · cases made
      · rename_i fresh
        rw [hasReviewer_iff] at fresh
        refine ih (sound_add h (by omega) other fresh) ?_ made
        simp only [List.length_append, List.length_singleton]
        omega

/-- The first roster lists the users in their order, all from the time the pull request was made. -/
theorem listReviewers_ok {users : List UserId} (made : listReviewers users pr = .ok changed) :
    changed = { pr with
      reviewers := pr.reviewers ++ users.map fun user => ⟨user, pr.createdAt⟩ } := by
  induction users generalizing pr with
  | nil =>
    cases made
    simp
  | cons user rest ih =>
    unfold listReviewers at made
    split at made
    · cases made
    · split at made
      · cases made
      · rw [ih made]
        simp

theorem new_ok {id : PullRequestId} {title : String} {author : UserId} {users : List UserId}
    (made : new clock id title author users = .ok pr) :
    pr = { id, title, author, status := .opened,
           reviewers := users.map fun user => ⟨user, clock.toMicrosecond⟩,
           createdAt := clock.toMicrosecond, mergedAt := none } := by
  unfold new at made
  split at made
  · cases made
  · split at made
    · cases made
    · split at made
      · cases made
      · split at made
        · cases made
        · rw [listReviewers_ok made]
          rfl

/-- A new pull request is a good one. -/
theorem sound_of_new {id : PullRequestId} {title : String} {author : UserId}
    {users : List UserId} (made : new clock id title author users = .ok pr) : Sound pr := by
  unfold new at made
  split at made
  · cases made
  · rename_i id_given
    split at made
    · cases made
    · rename_i title_given
      split at made
      · cases made
      · rename_i author_given
        split at made
        · cases made
        · rename_i room
          refine sound_of_listReviewers ?_ ?_ made
          · exact ⟨id_given, title_given, author_given, Nat.zero_le _, .nil, by simp [reviewerIds],
              by simp⟩
          · simp only [List.length_nil]
            omega

/-! ## Time -/

theorem le_foldl_later (start : Instant) (l : List Instant) {t : Instant} (h : t ∈ start :: l) :
    t ≤ l.foldl Instant.later start := by
  induction l generalizing start t with
  | nil =>
    rw [List.mem_singleton.1 h]
    exact Instant.le_refl start
  | cons u l ih =>
    have upto := ih (start.later u) List.mem_cons_self
    rw [List.foldl_cons]
    rcases List.mem_cons.1 h with rfl | h
    · exact Instant.le_trans (Instant.le_later_left t u) upto
    · rcases List.mem_cons.1 h with rfl | listed
      · exact Instant.le_trans (Instant.le_later_right start t) upto
      · exact ih _ (List.mem_cons_of_mem _ listed)

theorem le_latest {t : Instant} (h : t ∈ pr.instants) : t ≤ pr.latest := le_foldl_later _ _ h

theorem foldl_later_mem (start : Instant) (l : List Instant) :
    l.foldl Instant.later start ∈ start :: l := by
  induction l generalizing start with
  | nil => exact List.mem_singleton_self start
  | cons t l ih =>
    rw [List.foldl_cons]
    rcases List.mem_cons.1 (ih (start.later t)) with last | listed
    · rw [last]
      unfold Instant.later
      split
      · exact List.mem_cons_of_mem _ List.mem_cons_self
      · exact List.mem_cons_self
    · exact List.mem_cons_of_mem _ (List.mem_cons_of_mem _ listed)

theorem latest_mem (pr : PullRequest) : pr.latest ∈ pr.instants := foldl_later_mem _ _

/-- The next time comes after every time that there is, however the clock goes. -/
theorem lt_nextInstant (clock : Instant) {t : Instant} (h : t ∈ pr.instants) :
    t < pr.nextInstant clock := by
  have upto := Instant.le_iff.1 (le_latest h)
  rw [Instant.lt_iff]
  unfold nextInstant
  split
  · rename_i after
    have after := Instant.lt_iff.1 after
    omega
  · unfold Instant.nextMicrosecond
    dsimp only
    omega

/-! ## Filling the roster -/

theorem assign_ok {user : UserId} (made : pr.assign clock user = .ok changed) :
    pr.isMerged = false ∧ user ≠ pr.author ∧ pr.reviewers.length < maxReviewers ∧
      user ∉ pr.reviewerIds ∧
      changed = { pr with reviewers := pr.reviewers ++ [⟨user, pr.nextInstant clock⟩] } := by
  unfold assign at made
  split at made
  · cases made
  · rename_i opened
    split at made
    · cases made
    · rename_i other
      split at made
      · cases made
      · rename_i room
        split at made
        · cases made
        · rename_i fresh
          rw [hasReviewer_iff] at fresh
          rw [hasEnoughReviewers_iff, Nat.not_le] at room
          exact ⟨eq_false_of_ne_true opened, other, room, fresh, (Except.ok.inj made).symm⟩

theorem sound_of_assign {user : UserId} (h : Sound pr)
    (made : pr.assign clock user = .ok changed) : Sound changed := by
  obtain ⟨-, other, room, fresh, rfl⟩ := assign_ok made
  exact sound_add h room other fresh

theorem sound_of_assignAll {clock : Nat → Instant} {users : List UserId} (h : Sound pr)
    (made : assignAll clock users pr = .ok changed) : Sound changed := by
  induction users generalizing pr clock with
  | nil =>
    cases made
    exact h
  | cons user rest ih =>
    unfold assignAll at made
    split at made
    · cases made
    · rename_i next assigned
      exact ih (sound_of_assign h assigned) made

/-- Whoever is given a place, the pull request is the same one. -/
theorem id_of_assignAll {clock : Nat → Instant} {users : List UserId}
    (made : assignAll clock users pr = .ok changed) : changed.id = pr.id := by
  induction users generalizing pr clock with
  | nil =>
    cases made
    rfl
  | cons user rest ih =>
    unfold assignAll at made
    split at made
    · cases made
    · rename_i next assigned
      obtain ⟨-, -, -, -, rfl⟩ := assign_ok assigned
      have same := ih made
      exact same

theorem assign_of_open {user : UserId} (clock : Instant) (opened : pr.isMerged = false)
    (other : user ≠ pr.author) (room : pr.reviewers.length < maxReviewers)
    (fresh : user ∉ pr.reviewerIds) :
    pr.assign clock user =
      .ok { pr with reviewers := pr.reviewers ++ [⟨user, pr.nextInstant clock⟩] } := by
  rw [← hasReviewer_iff] at fresh
  rw [← Nat.not_le, ← hasEnoughReviewers_iff] at room
  unfold assign
  simp only [opened, other, room, fresh, Bool.false_eq_true, if_false]

/-- The places that are added for some users, in their order. Each place is given at a later time
than all that was before it. -/
structure Adds (pr : PullRequest) (users : List UserId) (added : List Reviewer) : Prop where
  names : added.map Reviewer.user = users
  ascending : added.Pairwise fun a b => a.assignedAt < b.assignedAt
  later : ∀ r ∈ added, ∀ t ∈ pr.instants, t < r.assignedAt

theorem Adds.nil (pr : PullRequest) : Adds pr [] [] := ⟨rfl, .nil, by simp⟩

theorem Adds.cons {user : UserId} {users : List UserId} {added : List Reviewer}
    (clock : Instant)
    (h : Adds { pr with reviewers := pr.reviewers ++ [⟨user, pr.nextInstant clock⟩] } users added) :
    Adds pr (user :: users) (⟨user, pr.nextInstant clock⟩ :: added) := by
  have first : ∀ t ∈ pr.instants, t < pr.nextInstant clock := fun t => lt_nextInstant clock
  refine ⟨by rw [List.map_cons, h.names], List.pairwise_cons.2 ⟨?_, h.ascending⟩, ?_⟩
  · intro r listed
    exact h.later r listed _ (by simp [instants])
  · intro r listed t held
    rcases List.mem_cons.1 listed with rfl | listed
    · exact first t held
    · refine h.later r listed t ?_
      simp only [instants, List.map_append, List.mem_append, List.mem_cons] at held ⊢
      exact held.imp_left fun held => held.imp_right .inl

/-- An open pull request takes as many new reviewers as there is room for. -/
theorem assignAll_of_open {clock : Nat → Instant} {users : List UserId}
    (opened : pr.isMerged = false) (room : users.length ≤ maxReviewers - pr.reviewers.length)
    (distinct : users.Nodup) (others : pr.author ∉ users)
    (fresh : ∀ user ∈ users, user ∉ pr.reviewerIds) :
    ∃ added, pr.assignAll clock users =
      .ok { pr with reviewers := pr.reviewers ++ added } ∧ pr.Adds users added := by
  induction users generalizing pr clock with
  | nil => exact ⟨[], by simp [assignAll], Adds.nil pr⟩
  | cons user users ih =>
    rw [List.nodup_cons] at distinct
    rw [List.mem_cons, not_or] at others
    rw [List.length_cons] at room
    have assigned := assign_of_open (clock 0) opened (Ne.symm others.1) (by omega)
      (fresh user List.mem_cons_self)
    let next : PullRequest :=
      { pr with reviewers := pr.reviewers ++ [⟨user, pr.nextInstant (clock 0)⟩] }
    have next_length : next.reviewers.length = pr.reviewers.length + 1 := by simp [next]
    have next_ids : next.reviewerIds = pr.reviewerIds ++ [user] := reviewerIds_add pr _
    have next_fresh : ∀ other ∈ users, other ∉ next.reviewerIds := by
      intro other listed known
      rw [next_ids, List.mem_append] at known
      rcases known with known | last
      · exact fresh other (List.mem_cons_of_mem _ listed) known
      · exact distinct.1 (List.mem_singleton.1 last ▸ listed)
    obtain ⟨added, made, adds⟩ : ∃ added, next.assignAll (fun n => clock (n + 1)) users =
        .ok { next with reviewers := next.reviewers ++ added } ∧ next.Adds users added :=
      ih opened (by omega) distinct.2 others.2 next_fresh
    refine ⟨_, ?_, adds.cons (clock 0)⟩
    unfold assignAll
    rw [assigned]
    dsimp only
    rw [made]
    simp [next]

/-! ## Giving a place to somebody else -/

/-- The names on a roster, after one place went to somebody else. -/
theorem names_replaceFirst (old : UserId) (entry : Reviewer) (roster : List Reviewer) :
    (replaceFirst old entry roster).map Reviewer.user =
      (roster.map Reviewer.user).replace old entry.user := by
  induction roster with
  | nil => rfl
  | cons r rest ih =>
    unfold replaceFirst
    rw [List.map_cons, List.replace_cons]
    by_cases here : r.user = old
    · simp [here]
    · have differ : (old == r.user) = false := beq_false_of_ne (Ne.symm here)
      simp [here, differ, ih]

/-- Only the first place changes, and where it stands stays as it was. -/
theorem replaceFirst_split {old : UserId} {before after : List Reviewer} {slot : Reviewer}
    (entry : Reviewer) (held : slot.user = old) (first : old ∉ before.map Reviewer.user) :
    replaceFirst old entry (before ++ slot :: after) = before ++ entry :: after := by
  induction before with
  | nil => simp [replaceFirst, held]
  | cons r before ih =>
    rw [List.map_cons, List.mem_cons, not_or] at first
    have differ : r.user ≠ old := Ne.symm first.1
    simp only [List.cons_append, replaceFirst, differ, if_false, ih first.2]

/-- Whoever is listed holds a first place. -/
theorem first_place {old : UserId} (listed : old ∈ pr.reviewerIds) :
    ∃ before slot after, pr.reviewers = before ++ slot :: after ∧ slot.user = old ∧
      old ∉ before.map Reviewer.user := by
  obtain ⟨names, names', split, first⟩ := List.eq_append_cons_of_mem listed
  obtain ⟨before, rest, whole, rfl, said⟩ := List.map_eq_append_iff.1 split
  obtain ⟨slot, after, rfl, held, -⟩ := List.map_eq_cons_iff.1 said
  exact ⟨before, slot, after, whole, held, first⟩

theorem length_replaceFirst (old : UserId) (entry : Reviewer) (roster : List Reviewer) :
    (replaceFirst old entry roster).length = roster.length := by
  have names := congrArg List.length (names_replaceFirst old entry roster)
  simpa using names

theorem mem_replace {a b c : UserId} {l : List UserId} (h : c ∈ l.replace a b) :
    c = b ∨ c ∈ l := by
  induction l with
  | nil => simp at h
  | cons d l ih =>
    rw [List.replace_cons] at h
    split at h
    · rcases List.mem_cons.1 h with same | later
      · exact .inl same
      · exact .inr (List.mem_cons_of_mem _ later)
    · rcases List.mem_cons.1 h with same | later
      · exact .inr (same ▸ List.mem_cons_self)
      · exact (ih later).imp_right (List.mem_cons_of_mem _)

theorem nodup_replace {a b : UserId} {l : List UserId} (h : l.Nodup) (fresh : b ∉ l) :
    (l.replace a b).Nodup := by
  induction l with
  | nil => simp
  | cons d l ih =>
    rw [List.nodup_cons] at h
    rw [List.mem_cons, not_or] at fresh
    rw [List.replace_cons]
    split
    · exact List.nodup_cons.2 ⟨fresh.2, h.2⟩
    · refine List.nodup_cons.2 ⟨?_, ih h.2 fresh.2⟩
      intro listed
      rcases mem_replace listed with same | listed
      · exact fresh.1 same.symm
      · exact h.1 listed

theorem reassign_ok {old user : UserId} (made : pr.reassign clock old user = .ok changed) :
    pr.isMerged = false ∧ old ∈ pr.reviewerIds ∧ user ≠ pr.author ∧ user ∉ pr.reviewerIds ∧
      changed = { pr with
        reviewers := replaceFirst old ⟨user, pr.nextInstant clock⟩ pr.reviewers } := by
  unfold reassign at made
  split at made
  · cases made
  · rename_i opened
    split at made
    · cases made
    · rename_i listed
      split at made
      · cases made
      · rename_i other
        split at made
        · cases made
        · rename_i fresh
          rw [hasReviewer_iff] at fresh
          have listed : old ∈ pr.reviewerIds := hasReviewer_iff.1 (by simpa using listed)
          exact ⟨eq_false_of_ne_true opened, listed, other, fresh, (Except.ok.inj made).symm⟩

theorem reassign_of_open {old user : UserId} (clock : Instant) (opened : pr.isMerged = false)
    (listed : old ∈ pr.reviewerIds) (other : user ≠ pr.author) (fresh : user ∉ pr.reviewerIds) :
    pr.reassign clock old user = .ok { pr with
      reviewers := replaceFirst old ⟨user, pr.nextInstant clock⟩ pr.reviewers } := by
  rw [← hasReviewer_iff] at listed fresh
  unfold reassign
  simp only [opened, listed, other, fresh, Bool.false_eq_true, Bool.not_true, if_false]

theorem reviewerIds_of_reassign {old user : UserId}
    (made : pr.reassign clock old user = .ok changed) :
    changed.reviewerIds = pr.reviewerIds.replace old user := by
  obtain ⟨-, -, -, -, rfl⟩ := reassign_ok made
  exact names_replaceFirst old _ pr.reviewers

theorem sound_of_reassign {old user : UserId} (h : Sound pr)
    (made : pr.reassign clock old user = .ok changed) : Sound changed := by
  have names := reviewerIds_of_reassign made
  obtain ⟨-, -, other, fresh, rfl⟩ := reassign_ok made
  refine ⟨h.id_given, h.title_given, h.author_given, ?_, ?_, ?_, h.merge_time⟩
  · rw [length_replaceFirst]
    exact h.short
  · rw [names]
    exact nodup_replace h.distinct fresh
  · rw [names]
    intro listed
    rcases mem_replace listed with same | listed
    · exact other same.symm
    · exact h.not_author listed

theorem sameOrigin_of_reassign {old user : UserId}
    (made : pr.reassign clock old user = .ok changed) : SameOrigin pr changed := by
  obtain ⟨-, -, -, -, rfl⟩ := reassign_ok made
  exact ⟨rfl, rfl, rfl, rfl, length_replaceFirst ..⟩

/-! ## Merging -/

theorem merge_of_open (opened : pr.isMerged = false) :
    pr.merge clock = { pr with status := .merged, mergedAt := some (pr.nextInstant clock) } := by
  have status : pr.status = .opened := by
    cases h : pr.status with
    | opened => rfl
    | merged => exact absurd (isMerged_iff.2 h) (ne_true_of_eq_false opened)
  unfold merge
  rw [status]
  rfl

theorem isMerged_merge (pr : PullRequest) (clock : Instant) :
    (pr.merge clock).isMerged = true := by
  by_cases merged : pr.isMerged = true
  · unfold merge
    split
    · rfl
    · exact merged
  · rw [merge_of_open (eq_false_of_ne_true merged)]
    rfl

theorem sound_merge (h : Sound pr) (clock : Instant) : Sound (pr.merge clock) := by
  unfold merge
  split
  · exact ⟨h.id_given, h.title_given, h.author_given, h.short, h.distinct, h.not_author, by simp⟩
  · exact h

theorem sameOrigin_merge (pr : PullRequest) (clock : Instant) :
    SameOrigin pr (pr.merge clock) := by
  unfold merge
  split
  · exact ⟨rfl, rfl, rfl, rfl, rfl⟩
  · exact SameOrigin.refl pr

theorem reviewerIds_merge (pr : PullRequest) (clock : Instant) :
    (pr.merge clock).reviewerIds = pr.reviewerIds := by
  unfold merge
  split <;> rfl

end PullRequest

end ReviewDesk
