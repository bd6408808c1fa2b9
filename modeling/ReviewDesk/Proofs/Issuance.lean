-- The times that a pull request issues, at one change and over its whole life. Each comes after all
-- times that are held then. It keeps no record of them beside the times that it holds, and whoever
-- is taken off the roster takes a time along. So the times ascend just as long as, whenever one is
-- issued, the one before it is still held or the clock has passed it.
import Mathlib.Data.List.Induction
import ReviewDesk.Proofs.Changes

namespace ReviewDesk

/-- What the clock shows at a change that looks at it. -/
def Change.clock? : Change → Option Instant
  | .assign clock _ | .reassign clock _ _ | .merge clock => some clock
  | .unassign _ => none

theorem Instant.toMicrosecond_le (t : Instant) : t.toMicrosecond ≤ t := by
  rw [le_iff]
  unfold toMicrosecond
  dsimp only
  omega

namespace PullRequest

/-! ## Times that are issued -/

/-- The times that a change issues are those that are held after it and were not held before. -/
def issued (pr : PullRequest) (c : Change) : List Instant :=
  (pr.change c).instants.filter (· ∉ pr.instants)

/-- The times that some changes issue, in their order. -/
def issuedAll : PullRequest → List Change → List Instant
  | _, [] => []
  | pr, c :: rest => pr.issued c ++ (pr.change c).issuedAll rest

/-- When a pull request was made, and all times that it issued since. -/
def timeline (pr : PullRequest) (changes : List Change) : List Instant :=
  pr.createdAt :: pr.issuedAll changes

/-- The time at the end of the timeline. -/
def lastIssued (pr : PullRequest) (changes : List Change) : Instant :=
  (pr.issuedAll changes).getLastD pr.createdAt

/-- Where a change after some others issues a time, the one before it is still held, or the clock
has passed it. -/
def Recalls (pr : PullRequest) (before : List Change) (c : Change) : Prop :=
  (pr.changeAll before).issued c ≠ [] →
    pr.lastIssued before ∈ (pr.changeAll before).instants ∨
    ∃ clock, c.clock? = some clock ∧ pr.lastIssued before < clock.toMicrosecond

/-- No time is issued while the one before it is forgotten. -/
def Remembers (pr : PullRequest) (changes : List Change) : Prop :=
  ∀ before c, before ++ [c] <+: changes → pr.Recalls before c

variable {pr changed : PullRequest} {clock t : Instant} {changes : List Change} {c : Change}

/-! ## One change -/

theorem not_mem_of_nextInstant (pr : PullRequest) (clock : Instant) :
    pr.nextInstant clock ∉ pr.instants := by
  intro held
  have later := Instant.lt_iff.1 (lt_nextInstant clock held)
  omega

/-- The one time that is not held already is the one that is issued. -/
theorem filter_new {before after : List Instant}
    (known : ∀ t ∈ before ++ after, t ∈ pr.instants) :
    (before ++ pr.nextInstant clock :: after).filter (· ∉ pr.instants) =
      [pr.nextInstant clock] := by
  have none_before : before.filter (· ∉ pr.instants) = [] := by
    rw [List.filter_eq_nil_iff]
    intro t listed
    simpa using known t (List.mem_append_left _ listed)
  have none_after : after.filter (· ∉ pr.instants) = [] := by
    rw [List.filter_eq_nil_iff]
    intro t listed
    simpa using known t (List.mem_append_right _ listed)
  have fresh := not_mem_of_nextInstant pr clock
  rw [List.filter_append, List.filter_cons, none_before, none_after]
  simp [fresh]

theorem issued_of_held (held : ∀ t ∈ (pr.change c).instants, t ∈ pr.instants) :
    pr.issued c = [] := by
  unfold issued
  rw [List.filter_eq_nil_iff]
  intro t listed
  simpa using held t listed

/-- What becomes of the times. Taking somebody off brings none, a merge that comes too late leaves
them, and any other change that is made puts the next time among those that were held. -/
theorem instants_of_ok (made : pr.respond c = .ok changed) :
    (∃ user, c = .unassign user) ∧ (∀ t ∈ changed.instants, t ∈ pr.instants) ∨ changed = pr ∨
    ∃ clock before after, c.clock? = some clock ∧
      changed.instants = before ++ pr.nextInstant clock :: after ∧
      ∀ t ∈ before ++ after, t ∈ pr.instants := by
  rcases merged : pr.isMerged with _ | _
  case true =>
    rcases respond_of_merged merged c with refused | ⟨-, same⟩
    · cases refused.symm.trans made
    · exact .inr (.inl (Except.ok.inj (made.symm.trans same)))
  cases c with
  | assign clock user =>
    obtain ⟨-, -, -, -, rfl⟩ := assign_ok made
    refine .inr (.inr ⟨clock, pr.createdAt :: pr.reviewers.map Reviewer.assignedAt,
      pr.mergedAt.toList, rfl, ?_, ?_⟩)
    · simp [instants]
    · simp [instants]
  | unassign user =>
    cases (unassign_of_open merged user).symm.trans made
    refine .inl ⟨⟨user, rfl⟩, ?_⟩
    intro t held
    rcases mem_instants.1 held with first | ⟨r, listed, rfl⟩ | last
    · exact mem_instants.2 (.inl first)
    · exact assignedAt_mem (List.mem_filter.1 listed).1
    · exact mem_instants.2 (.inr (.inr last))
  | reassign clock old new =>
    obtain ⟨-, listed, -, -, rfl⟩ := reassign_ok made
    obtain ⟨before, slot, after, places, held, first⟩ := first_place listed
    refine .inr (.inr ⟨clock, pr.createdAt :: before.map Reviewer.assignedAt,
      after.map Reviewer.assignedAt ++ pr.mergedAt.toList, rfl, ?_, ?_⟩)
    · simp [instants, places, replaceFirst_split _ held first]
    · intro t known
      simp only [instants, places]
      simp only [List.map_append, List.map_cons, List.cons_append, List.append_assoc,
        List.mem_cons, List.mem_append] at known ⊢
      tauto
  | merge clock =>
    cases (congrArg Except.ok (merge_of_open merged)).symm.trans made
    refine .inr (.inr ⟨clock, pr.createdAt :: pr.reviewers.map Reviewer.assignedAt, [], rfl, ?_,
      ?_⟩)
    · simp [instants]
    · intro t known
      simp only [instants, List.append_nil] at known ⊢
      exact List.mem_append_left _ known

/-- A change issues at most one time, and that is the next one. It issues none where somebody is
taken off or nothing changes. -/
theorem issued_cases (pr : PullRequest) (c : Change) :
    pr.issued c = [] ∧ ((∃ user, c = .unassign user) ∨ pr.change c = pr) ∨
    ∃ clock, c.clock? = some clock ∧ pr.issued c = [pr.nextInstant clock] := by
  rcases answer : pr.respond c with e | changed
  · have same := change_of_error answer
    refine .inl ⟨issued_of_held ?_, .inr same⟩
    rw [same]
    exact fun t held => held
  · have now := change_of_ok answer
    rcases instants_of_ok answer with
      ⟨off, kept⟩ | same | ⟨clock, before, after, looked, split, known⟩
    · refine .inl ⟨issued_of_held ?_, .inl off⟩
      rw [now]
      exact kept
    · refine .inl ⟨issued_of_held ?_, .inr (now.trans same)⟩
      rw [now, same]
      exact fun t held => held
    · refine .inr ⟨clock, looked, ?_⟩
      unfold issued
      rw [now, split]
      exact filter_new known

/-- A time that is issued is later than all that are held. -/
theorem lt_issued {held : Instant} (there : held ∈ pr.instants) (new : t ∈ pr.issued c) :
    held < t := by
  rcases issued_cases pr c with ⟨nothing, -⟩ | ⟨clock, -, next⟩
  · rw [nothing] at new
    cases new
  · rw [next] at new
    rw [List.mem_singleton.1 new]
    exact lt_nextInstant clock there

/-- Where all times are whole microseconds, and none that is held is later than a certain one, the
next time is later than it just when it is held itself or the clock has passed it. -/
theorem lt_nextInstant_iff (whole : pr.Whole) (at_whole : t.Whole)
    (upto : ∀ held ∈ pr.instants, held ≤ t) :
    t < pr.nextInstant clock ↔ t ∈ pr.instants ∨ t < clock.toMicrosecond := by
  have latest_whole := whole _ pr.latest_mem
  have latest_upto := Instant.le_iff.1 (upto _ pr.latest_mem)
  constructor
  · intro later
    by_cases passed : t < clock.toMicrosecond
    · exact .inr passed
    · left
      -- The next time is a microsecond after the latest, so the latest is no earlier.
      have same : t = pr.latest := by
        unfold nextInstant at later
        split at later
        · exact absurd later passed
        · have later := Instant.lt_iff.1 later
          unfold Instant.Whole at latest_whole at_whole
          unfold Instant.nextMicrosecond at later
          dsimp only at later
          exact Instant.eq_of_nanos (by omega)
      rw [same]
      exact pr.latest_mem
  · rintro (held | passed)
    · exact lt_nextInstant clock held
    · have passed := Instant.lt_iff.1 passed
      have ahead : pr.latest < clock.toMicrosecond := Instant.lt_iff.2 (by omega)
      unfold nextInstant
      rw [if_pos ahead]
      exact Instant.lt_iff.2 passed

/-! ## The time of a change -/

/-- The time that goes to a change, beside all times that are held. It is what the clock shows, cut
to a microsecond, where that is later than all of them, and else a microsecond after the latest. It
stays within every limit that the clock keeps to and the held times are a microsecond short of. -/
structure Issues (pr : PullRequest) (clock t : Instant) : Prop where
  later : ∀ held ∈ pr.instants, held < t
  shown : (∀ held ∈ pr.instants, held < clock.toMicrosecond) → t = clock.toMicrosecond
  stepped : ¬ (∀ held ∈ pr.instants, held < clock.toMicrosecond) →
    ∃ latest ∈ pr.instants, (∀ held ∈ pr.instants, held ≤ latest) ∧ t = latest.nextMicrosecond
  within : ∀ limit, clock ≤ limit → (∀ held ∈ pr.instants, held.nextMicrosecond ≤ limit) →
    t ≤ limit

/-- A time is later than the latest just when it is later than all that are held. -/
theorem latest_lt_iff : pr.latest < t ↔ ∀ held ∈ pr.instants, held < t := by
  constructor
  · intro later held there
    have upto := Instant.le_iff.1 (le_latest there)
    have later := Instant.lt_iff.1 later
    exact Instant.lt_iff.2 (by omega)
  · intro later
    exact later _ pr.latest_mem

theorem issues_nextInstant (pr : PullRequest) (clock : Instant) :
    pr.Issues clock (pr.nextInstant clock) := by
  have later : ∀ held ∈ pr.instants, held < pr.nextInstant clock :=
    fun _ there => lt_nextInstant clock there
  by_cases ahead : pr.latest < clock.toMicrosecond
  · have now : pr.nextInstant clock = clock.toMicrosecond := if_pos ahead
    refine ⟨later, fun _ => now, ?_, ?_⟩
    · intro behind
      exact absurd (latest_lt_iff.1 ahead) behind
    · intro limit clock_within _
      rw [now]
      exact Instant.le_trans clock.toMicrosecond_le clock_within
  · have now : pr.nextInstant clock = pr.latest.nextMicrosecond := if_neg ahead
    refine ⟨later, ?_, ?_, ?_⟩
    · intro passed
      exact absurd (latest_lt_iff.2 passed) ahead
    · intro _
      exact ⟨pr.latest, pr.latest_mem, fun held there => le_latest there, now⟩
    · intro limit _ room
      rw [now]
      exact room _ pr.latest_mem

/-- Whoever is put on the roster, whoever takes the place of somebody else, and a merge that changes
anything get a time that comes after all times that the pull request holds, whatever these are and
whatever the clock shows. -/
theorem changes_come_after_all (pr : PullRequest) (clock : Instant) :
    (∀ user changed, pr.assign clock user = .ok changed →
      ∃ t, changed = { pr with reviewers := pr.reviewers ++ [⟨user, t⟩] } ∧ pr.Issues clock t) ∧
    (∀ old new changed, pr.reassign clock old new = .ok changed →
      ∃ before slot after t, pr.reviewers = before ++ slot :: after ∧ slot.user = old ∧
        old ∉ before.map Reviewer.user ∧
        changed = { pr with reviewers := before ++ ⟨new, t⟩ :: after } ∧
        slot.assignedAt < t ∧ pr.Issues clock t) ∧
    (pr.merge clock ≠ pr →
      ∃ t, pr.merge clock = { pr with status := .merged, mergedAt := some t } ∧
        pr.Issues clock t) := by
  have issues := issues_nextInstant pr clock
  refine ⟨?_, ?_, ?_⟩
  · intro user changed made
    obtain ⟨-, -, -, -, rfl⟩ := assign_ok made
    exact ⟨_, rfl, issues⟩
  · intro old new changed made
    obtain ⟨-, listed, -, -, rfl⟩ := reassign_ok made
    obtain ⟨before, slot, after, places, held, first⟩ := first_place listed
    refine ⟨before, slot, after, pr.nextInstant clock, places, held, first, ?_, ?_, issues⟩
    · rw [places, replaceFirst_split _ held first]
    · exact issues.later _ (assignedAt_mem (by simp [places]))
  · intro changes
    have opened : pr.isMerged = false :=
      eq_false_of_ne_true fun merged => changes (merge_of_merged merged clock)
    exact ⟨_, merge_of_open opened, issues⟩

/-- It was read back with times that the desk would not have written: bea's lies a nanosecond after
a whole microsecond, and there is a merge time although the pull request is open. -/
def oddTimes : PullRequest :=
  { firstDraft with reviewers := [⟨⟨"bea"⟩, ⟨8001⟩⟩], mergedAt := some ⟨7999⟩ }

/-- At 8999 the clock is past bea's time, but cut to 8000 it is not. At 9000 it is. -/
theorem oddTimes_come_after_all :
    oddTimes.Issues ⟨8999⟩ ⟨9001⟩ ∧ oddTimes.Issues ⟨9000⟩ ⟨9000⟩ ∧
    oddTimes.assign ⟨8999⟩ ⟨"cid"⟩ =
      .ok { oddTimes with reviewers := [⟨⟨"bea"⟩, ⟨8001⟩⟩, ⟨⟨"cid"⟩, ⟨9001⟩⟩] } ∧
    oddTimes.reassign ⟨9000⟩ ⟨"bea"⟩ ⟨"cid"⟩ =
      .ok { oddTimes with reviewers := [⟨⟨"cid"⟩, ⟨9000⟩⟩] } ∧
    oddTimes.merge ⟨8999⟩ = { oddTimes with status := .merged, mergedAt := some ⟨9001⟩ } := by
  have given : oddTimes.reassign ⟨9000⟩ ⟨"bea"⟩ ⟨"cid"⟩ =
      .ok { oddTimes with reviewers := [⟨⟨"cid"⟩, ⟨9000⟩⟩] } := by decide
  have merged : oddTimes.merge ⟨8999⟩ =
      { oddTimes with status := .merged, mergedAt := some ⟨9001⟩ } := by decide
  obtain ⟨t, same, late⟩ := (changes_come_after_all oddTimes ⟨8999⟩).2.2 (by decide)
  obtain ⟨before, slot, after, u, -, -, -, same', -, early⟩ :=
    (changes_come_after_all oddTimes ⟨9000⟩).2.1 _ _ _ given
  have merge_time : t = ⟨9001⟩ := by
    rw [merged] at same
    injection same with _ _ _ _ _ _ time
    exact (Option.some.inj time).symm
  have entry_time : u = ⟨9000⟩ := by
    injection same' with _ _ _ _ roster
    cases before with
    | nil =>
      injection roster with entry
      exact (congrArg Reviewer.assignedAt entry).symm
    | cons r before => simp at roster
  exact ⟨merge_time ▸ late, entry_time ▸ early, by decide, given, merged⟩

/-! ## Timelines -/

theorem issuedAll_append (pr : PullRequest) (first second : List Change) :
    pr.issuedAll (first ++ second) =
      pr.issuedAll first ++ (pr.changeAll first).issuedAll second := by
  induction first generalizing pr with
  | nil => rfl
  | cons c rest ih =>
    simp only [List.cons_append, issuedAll, ih, List.append_assoc]
    rfl

theorem issuedAll_concat (pr : PullRequest) (changes : List Change) (c : Change) :
    pr.issuedAll (changes ++ [c]) = pr.issuedAll changes ++ (pr.changeAll changes).issued c := by
  rw [issuedAll_append]
  simp [issuedAll]

theorem changeAll_concat (pr : PullRequest) (changes : List Change) (c : Change) :
    pr.changeAll (changes ++ [c]) = (pr.changeAll changes).change c := by
  rw [changeAll_append]
  rfl

/-- A time that is held after a change was held before it or is issued by it. -/
theorem issued_or_held (held : t ∈ (pr.change c).instants) : t ∈ pr.instants ∨ t ∈ pr.issued c := by
  by_cases before : t ∈ pr.instants
  · exact .inl before
  · right
    unfold issued
    rw [List.mem_filter]
    exact ⟨held, by simpa using before⟩

theorem held_of_issued (new : t ∈ pr.issued c) : t ∈ (pr.change c).instants :=
  (List.mem_filter.1 new).1

/-- All times that are held have been issued. -/
theorem held_on_timeline (fresh : pr.Fresh) (held : t ∈ (pr.changeAll changes).instants) :
    t ∈ pr.timeline changes := by
  induction changes using List.reverseRecOn with
  | nil => exact List.mem_cons.2 (.inl (fresh t held))
  | append_singleton changes c ih =>
    unfold timeline at ih ⊢
    rw [issuedAll_concat, ← List.cons_append, List.mem_append]
    rw [changeAll_concat] at held
    exact (issued_or_held held).imp_left ih

theorem whole_of_timeline (whole : pr.Whole) (there : t ∈ pr.timeline changes) : t.Whole := by
  induction changes using List.reverseRecOn with
  | nil =>
    rw [List.mem_singleton.1 there]
    exact whole _ pr.createdAt_mem
  | append_singleton changes c ih =>
    unfold timeline at ih there
    rw [issuedAll_concat, ← List.cons_append, List.mem_append] at there
    rcases there with before | new
    · exact ih before
    · have since : ((pr.changeAll changes).change c).Whole := by
        rw [← changeAll_concat]
        exact changeAll_keeps Step.whole whole (changes ++ [c])
      exact since t (held_of_issued new)

theorem lastIssued_mem (pr : PullRequest) (changes : List Change) :
    pr.lastIssued changes ∈ pr.timeline changes := List.getLastD_mem_cons

/-- On a timeline that ascends, no time is later than the last. -/
theorem le_lastIssued (ascends : (pr.timeline changes).Pairwise (· < ·))
    (there : t ∈ pr.timeline changes) : t ≤ pr.lastIssued changes := by
  unfold lastIssued
  unfold timeline at ascends there
  generalize pr.createdAt = first at ascends there ⊢
  generalize pr.issuedAll changes = rest at ascends there ⊢
  induction rest generalizing first t with
  | nil =>
    rw [List.mem_singleton.1 there]
    exact Instant.le_refl first
  | cons second rest ih =>
    rw [List.getLastD_cons]
    rw [List.pairwise_cons] at ascends
    rcases List.mem_cons.1 there with rfl | later
    · have step := ascends.1 second List.mem_cons_self
      exact Instant.le_trans (Int.le_of_lt step) (ih second ascends.2 List.mem_cons_self)
    · exact ih second ascends.2 later

/-- A timeline ascends as long as each time that is issued is later than the one before it. -/
theorem ascends_concat_iff : (pr.timeline (changes ++ [c])).Pairwise (· < ·) ↔
    (pr.timeline changes).Pairwise (· < ·) ∧
      ∀ t ∈ (pr.changeAll changes).issued c, pr.lastIssued changes < t := by
  have whole_line : pr.timeline (changes ++ [c]) =
      pr.timeline changes ++ (pr.changeAll changes).issued c := by
    unfold timeline
    rw [issuedAll_concat, List.cons_append]
  rw [whole_line, List.pairwise_append]
  constructor
  · rintro ⟨ascends, -, across⟩
    exact ⟨ascends, across _ (lastIssued_mem pr changes)⟩
  · rintro ⟨ascends, last⟩
    refine ⟨ascends, ?_, ?_⟩
    · rcases issued_cases (pr.changeAll changes) c with ⟨nothing, -⟩ | ⟨clock, -, next⟩
      · rw [nothing]
        exact .nil
      · rw [next]
        exact List.pairwise_singleton ..
    · intro t there new issued
      have upto := Instant.le_iff.1 (le_lastIssued ascends there)
      have later := Instant.lt_iff.1 (last new issued)
      exact Instant.lt_iff.2 (by omega)

/-! ## What is remembered -/

theorem remembers_nil (pr : PullRequest) : pr.Remembers [] := by
  intro before c part
  simp at part

theorem remembers_concat_iff :
    pr.Remembers (changes ++ [c]) ↔ pr.Remembers changes ∧ pr.Recalls changes c := by
  constructor
  · intro whole
    refine ⟨?_, whole changes c List.prefix_rfl⟩
    intro before d part
    exact whole before d (part.trans (List.prefix_append ..))
  · rintro ⟨remembers, recalls⟩ before d part
    rcases List.prefix_concat_iff.1 part with same | part
    · obtain ⟨rfl, last⟩ := List.append_inj' same rfl
      cases last
      exact recalls
    · exact remembers before d part

theorem recalls_iff (fresh : pr.Fresh) (whole : pr.Whole)
    (ascends : (pr.timeline changes).Pairwise (· < ·)) :
    pr.Recalls changes c ↔
      ∀ t ∈ (pr.changeAll changes).issued c, pr.lastIssued changes < t := by
  unfold Recalls
  rcases issued_cases (pr.changeAll changes) c with ⟨nothing, -⟩ | ⟨clock, looked, next⟩
  · simp [nothing]
  · have now : (pr.changeAll changes).Whole := changeAll_keeps Step.whole whole changes
    have last := whole_of_timeline whole (lastIssued_mem pr changes)
    have upto : ∀ held ∈ (pr.changeAll changes).instants, held ≤ pr.lastIssued changes :=
      fun held there => le_lastIssued ascends (held_on_timeline fresh there)
    simp [next, looked, lt_nextInstant_iff now last upto]

/-- The times that a pull request issues ascend just as long as it remembers them. -/
theorem ascends_iff_remembers (fresh : pr.Fresh) (whole : pr.Whole) (changes : List Change) :
    (pr.timeline changes).Pairwise (· < ·) ↔ pr.Remembers changes := by
  -- From the end, where the timeline grows. That it ascends so far makes its last time the latest
  -- of all, those that are held included, so one comparison is enough.
  induction changes using List.reverseRecOn with
  | nil =>
    constructor
    · intro _
      exact remembers_nil pr
    · intro _
      exact List.pairwise_singleton ..
  | append_singleton changes c ih =>
    rw [ascends_concat_iff, remembers_concat_iff, ← ih]
    constructor
    · rintro ⟨ascends, later⟩
      exact ⟨ascends, (recalls_iff fresh whole ascends).2 later⟩
    · rintro ⟨ascends, recalls⟩
      exact ⟨ascends, (recalls_iff fresh whole ascends).1 recalls⟩

/-- Where nobody is taken off, the last time that was issued is held. -/
theorem lastIssued_held (stay : ∀ user, .unassign user ∉ changes) :
    pr.lastIssued changes ∈ (pr.changeAll changes).instants := by
  induction changes using List.reverseRecOn with
  | nil => exact pr.createdAt_mem
  | append_singleton changes c ih =>
    have before := ih fun user off => stay user (List.mem_append_left _ off)
    unfold lastIssued at before ⊢
    rw [changeAll_concat, issuedAll_concat]
    rcases issued_cases (pr.changeAll changes) c with ⟨nothing, off | same⟩ | ⟨clock, -, next⟩
    · obtain ⟨user, rfl⟩ := off
      exact absurd (List.mem_append_right _ List.mem_cons_self) (stay user)
    · rw [nothing, List.append_nil, same]
      exact before
    · rw [next, List.getLastD_concat]
      exact held_of_issued (by rw [next]; exact List.mem_cons_self)

theorem remembers_of_stay (stay : ∀ user, .unassign user ∉ changes) : pr.Remembers changes := by
  intro before c part _
  left
  apply lastIssued_held
  intro user off
  exact stay user (part.subset (List.mem_append_left _ off))

/-- The times that are issued since a pull request was made ascend exactly as long as no time is
issued while the one before it is forgotten, that is, neither held nor passed by the clock. They do
where nobody is taken off. However that is, a change that is made issues one time, but for taking
somebody off, and it is later than all times that are held then. -/
theorem timeline_ascends_iff {start : Instant} {id : PullRequestId} {title : String}
    {author : UserId} {users : List UserId} (made : new start id title author users = .ok pr)
    (changes : List Change) :
    ((pr.timeline changes).Pairwise (· < ·) ↔ pr.Remembers changes) ∧
    ((∀ user, .unassign user ∉ changes) → (pr.timeline changes).Pairwise (· < ·)) ∧
    ∀ c,
      ((pr.changeAll changes).change c ≠ pr.changeAll changes → (∀ user, c ≠ .unassign user) →
        ∃ t, (pr.changeAll changes).issued c = [t]) ∧
      ∀ held ∈ (pr.changeAll changes).instants, ∀ t ∈ (pr.changeAll changes).issued c,
        held < t := by
  have ascends := ascends_iff_remembers (fresh_of_new made) (whole_of_new made) changes
  refine ⟨ascends, ?_, ?_⟩
  · intro stay
    exact ascends.2 (remembers_of_stay stay)
  · intro c
    constructor
    · intro changed kept
      rcases issued_cases (pr.changeAll changes) c with ⟨-, ⟨user, off⟩ | same⟩ | ⟨clock, -, next⟩
      · exact absurd off (kept user)
      · exact absurd same changed
      · exact ⟨_, next⟩
    · intro held there t new
      exact lt_issued there new

/-- Dan takes the last time along, but the clock has passed it when eve comes. -/
def carefulHistory : List Change :=
  [.assign ⟨0⟩ ⟨"cid"⟩, .unassign ⟨"bea"⟩, .reassign ⟨5000⟩ ⟨"cid"⟩ ⟨"dan"⟩, .unassign ⟨"dan"⟩,
    .assign ⟨8000⟩ ⟨"eve"⟩, .merge ⟨0⟩]

theorem carefulHistory_ascends :
    new ⟨5999⟩ ⟨"p"⟩ "a change" ⟨"ann"⟩ [⟨"bea"⟩] = .ok firstDraft ∧
    firstDraft.timeline carefulHistory = [⟨5000⟩, ⟨6000⟩, ⟨7000⟩, ⟨8000⟩, ⟨9000⟩] ∧
    firstDraft.Remembers carefulHistory ∧
    (firstDraft.timeline (carefulHistory.take 1)).Pairwise (· < ·) := by
  have made : new ⟨5999⟩ ⟨"p"⟩ "a change" ⟨"ann"⟩ [⟨"bea"⟩] = .ok firstDraft := rfl
  have line : firstDraft.timeline carefulHistory = [⟨5000⟩, ⟨6000⟩, ⟨7000⟩, ⟨8000⟩, ⟨9000⟩] := by
    decide
  refine ⟨made, line, ?_, ?_⟩
  · apply (timeline_ascends_iff made carefulHistory).1.1
    rw [line]
    decide
  · apply (timeline_ascends_iff made (carefulHistory.take 1)).2.1
    intro user
    simp [carefulHistory]

/-- Ann opens it without reviewers. -/
def lonelyDraft : PullRequest := { firstDraft with reviewers := [] }

/-- Bea takes the last time along. Where the clock stands still, cid gets the same time again, and
where it goes back, an earlier one. -/
theorem a_time_can_be_issued_again :
    new ⟨5999⟩ ⟨"p"⟩ "a change" ⟨"ann"⟩ [] = .ok lonelyDraft ∧
    lonelyDraft.timeline
      [.assign ⟨5999⟩ ⟨"bea"⟩, .unassign ⟨"bea"⟩, .assign ⟨5999⟩ ⟨"cid"⟩] =
        [⟨5000⟩, ⟨6000⟩, ⟨6000⟩] ∧
    lonelyDraft.timeline
      [.assign ⟨90000⟩ ⟨"bea"⟩, .unassign ⟨"bea"⟩, .assign ⟨5999⟩ ⟨"cid"⟩] =
        [⟨5000⟩, ⟨90000⟩, ⟨6000⟩] ∧
    ¬ (lonelyDraft.timeline
      [.assign ⟨5999⟩ ⟨"bea"⟩, .unassign ⟨"bea"⟩, .assign ⟨5999⟩ ⟨"cid"⟩]).Pairwise (· < ·) := by
  refine ⟨rfl, ?_, ?_, ?_⟩ <;> decide

end PullRequest

end ReviewDesk
