-- The assignments, told in three ways: of all reviewers, of one user, and in all. Where no roster
-- lists anybody twice, the first two come to the same for every user, and where every reviewer is
-- known, the first adds up to the third.
import ReviewDesk.Proofs.Counting
import ReviewDesk.Proofs.Effects

namespace ReviewDesk

/-! ## The operations -/

namespace Store

variable {α β : Type} {s t : Store} {user : UserId}

theorem run_operation_bind {operation : Operation α} {f : α → Operation β} {a : α}
    (first : s.run operation.run = (.ok a, t)) :
    s.run (operation >>= f).run = t.run (f a).run := by
  refine (run_bind s operation.run _).trans ?_
  rw [first]
  rfl

/-- What is told of a reviewer whom the store knows. -/
def named? (s : Store) (entry : UserId × Counts) : Option ReviewerStats :=
  (s.users.get? entry.1).map fun known => ⟨entry.1, known.name, entry.2⟩

theorem run_nameReviewers (s : Store) (counts : List (UserId × Counts)) :
    s.run (Assignment.nameReviewers counts).run = (.ok (counts.filterMap s.named?), s) := by
  induction counts with
  | nil => rfl
  | cons entry counts ih =>
    obtain ⟨user, counted⟩ := entry
    unfold Assignment.nameReviewers
    rw [Operation.ask_bind (.findUser user)]
    rcases known : s.users.get? user with _ | found
    · have skipped : s.named? (user, counted) = none := by simp [named?, known]
      simp only [ExceptT.run_mk, run, answer, known, List.filterMap_cons, skipped]
      rw [Operation.log_bind]
      exact ih
    · have told : s.named? (user, counted) = some ⟨user, found.name, counted⟩ := by
        simp [named?, known]
      simp only [ExceptT.run_mk, run, answer, known, List.filterMap_cons, told]
      rw [run_operation_bind ih]
      rfl

theorem run_reviewerStatistics (s : Store) :
    s.run Assignment.reviewerStatistics.run =
      (.ok ((Statistics.assignmentCounts s.pullRequests.entries).filterMap s.named?), s) := by
  unfold Assignment.reviewerStatistics
  rw [Operation.ask_bind .findAllPullRequests]
  exact s.run_nameReviewers _

theorem run_pullRequestStatistics (s : Store) :
    s.run Assignment.pullRequestStatistics.run =
      (.ok (Statistics.totals s.pullRequests.entries), s) := rfl

theorem run_findUser (s : Store) (user : UserId) :
    s.run (Assignment.findUser user).run =
      (match s.users.get? user with
        | none => .error (.userNotFound user)
        | some known => .ok known, s) := by
  unfold Assignment.findUser
  rw [Operation.ask_bind (.findUser user)]
  rcases known : s.users.get? user with _ | found
  · simp only [ExceptT.run_mk, run, answer, known]
    rfl
  · simp only [ExceptT.run_mk, run, answer, known]
    rfl

theorem run_reviewsFor {known : User} (found : s.users.get? user = some known) :
    s.run (Assignment.reviewsFor user).run = (.ok (s.reviewedBy user), s) := by
  have first := s.run_findUser user
  rw [found] at first
  unfold Assignment.reviewsFor
  rw [run_operation_bind first]
  rfl

theorem run_reviewerStatisticsFor {known : User} (found : s.users.get? user = some known) :
    s.run (Assignment.reviewerStatisticsFor user).run =
      (.ok ⟨user, known.name, Statistics.countsFor (s.reviewedBy user) user⟩, s) := by
  have first := s.run_findUser user
  rw [found] at first
  have same : known.id = user := Register.key_of_get? found
  unfold Assignment.reviewerStatisticsFor
  rw [run_operation_bind first, same]
  rfl

/-! ## All of them together -/

/-- What is told of all reviewers whom the store knows. -/
def listed (s : Store) : List ReviewerStats :=
  (Statistics.assignmentCounts s.pullRequests.entries).filterMap s.named?

theorem of_named? {entry : UserId × Counts} {told : ReviewerStats}
    (named : s.named? entry = some told) :
    told.user = entry.1 ∧ told.counts = entry.2 ∧
      ∃ known, s.users.get? told.user = some known ∧ told.name = known.name := by
  obtain ⟨known, found, rfl⟩ := Option.map_eq_some_iff.1 named
  exact ⟨rfl, rfl, known, found, rfl⟩

theorem listed_ascending (s : Store) :
    s.listed.Pairwise fun a b => compare a.user b.user = .lt := by
  have counted := Statistics.assignmentCounts_ascending s.pullRequests.entries
  refine List.pairwise_filterMap.2 (counted.imp fun {a b} less told named told' named' => ?_)
  rw [(of_named? named).1, (of_named? named').1]
  exact less

/-- Whoever is on a roster and is known is listed, and nobody else. -/
theorem exists_listed_iff : (∃ told ∈ s.listed, told.user = user) ↔
    (∃ known, s.users.get? user = some known) ∧
      ∃ id pr, s.pullRequests.get? id = some pr ∧ user ∈ pr.reviewerIds := by
  have on_roster : (∃ entry ∈ Statistics.assignmentCounts s.pullRequests.entries, entry.1 = user) ↔
      ∃ id pr, s.pullRequests.get? id = some pr ∧ user ∈ pr.reviewerIds := by
    rw [Statistics.exists_counted_iff]
    constructor
    · rintro ⟨pr, stored, on⟩
      exact ⟨pr.id, pr, Register.get?_eq_some_iff.2 ⟨stored, rfl⟩, on⟩
    · rintro ⟨id, pr, stored, on⟩
      exact ⟨pr, (Register.get?_eq_some_iff.1 stored).1, on⟩
  rw [← on_roster]
  constructor
  · rintro ⟨told, listed, rfl⟩
    obtain ⟨entry, counted, named⟩ := List.mem_filterMap.1 listed
    obtain ⟨same, -, known, found, -⟩ := of_named? named
    exact ⟨⟨known, found⟩, entry, counted, same.symm⟩
  · rintro ⟨⟨known, found⟩, ⟨user, counts⟩, counted, rfl⟩
    have named : s.named? (user, counts) = some ⟨user, known.name, counts⟩ := by
      unfold named?
      rw [found]
      rfl
    exact ⟨_, List.mem_filterMap.2 ⟨_, counted, named⟩, rfl⟩

theorem mem_reviewedBy {pr : PullRequest} : pr ∈ s.reviewedBy user ↔
    s.pullRequests.get? pr.id = some pr ∧ user ∈ pr.reviewerIds := by
  unfold reviewedBy
  rw [List.mem_filter, PullRequest.hasReviewer_iff, Register.get?_eq_some_iff]
  simp

/-- The pull requests of a user come in the order of their ids. -/
theorem reviewedBy_ascending (s : Store) (user : UserId) :
    (s.reviewedBy user).Pairwise fun a b => compare a.id b.id = .lt :=
  s.pullRequests.sorted.sublist List.filter_sublist

theorem countsFor_reviewedBy (s : Store) (user : UserId) :
    Statistics.countsFor (s.reviewedBy user) user =
      Statistics.countsFor s.pullRequests.entries user := by
  unfold Statistics.countsFor reviewedBy
  rw [List.filter_filter]
  simp

/-- No stored roster lists anybody twice. -/
def ListsOnce (s : Store) : Prop :=
  ∀ id pr, s.pullRequests.get? id = some pr → pr.reviewerIds.Nodup

theorem ListsOnce.entries (once : s.ListsOnce) :
    ∀ pr ∈ s.pullRequests.entries, pr.reviewerIds.Nodup :=
  fun pr stored => once pr.id pr (Register.get?_eq_some_iff.2 ⟨stored, rfl⟩)

/-- What is told of a known user, `own`, and the pull requests that the user is shown, `prs`, next
to what is told of all. -/
structure Tallies (s : Store) (all : List ReviewerStats) (known : User) (own : ReviewerStats)
    (prs : List PullRequest) : Prop where
  as_listed : ∀ told ∈ all, told.user = known.id → told = own
  unlisted : (∀ told ∈ all, told.user ≠ known.id) → own = ⟨known.id, known.name, ⟨0, 0, 0⟩⟩
  adds_up : own.counts.total = own.counts.opened + own.counts.merged
  length : prs.length = own.counts.total
  ascending : prs.Pairwise fun a b => compare a.id b.id = .lt
  members : ∀ pr, pr ∈ prs ↔ s.pullRequests.get? pr.id = some pr ∧ known.id ∈ pr.reviewerIds

theorem tallies_of_once (once : s.ListsOnce) {known : User}
    (found : s.users.get? known.id = some known) :
    s.Tallies s.listed known
      ⟨known.id, known.name, Statistics.countsFor (s.reviewedBy known.id) known.id⟩
      (s.reviewedBy known.id) where
  as_listed := by
    intro told listed same
    obtain ⟨entry, counted, named⟩ := List.mem_filterMap.1 listed
    have counts := Statistics.eq_countsFor_of_mem once.entries counted
    obtain ⟨key, counts_eq, other, found', name⟩ := of_named? named
    rw [same, found] at found'
    cases found'
    obtain ⟨user, toldName, toldCounts⟩ := told
    dsimp only at same key counts_eq name
    subst same
    rw [countsFor_reviewedBy, name, counts_eq, counts, key]
  unlisted := by
    intro absent
    have stranger : ∀ pr ∈ s.pullRequests.entries, known.id ∉ pr.reviewerIds := by
      intro pr stored on
      obtain ⟨told, listed, same⟩ := exists_listed_iff.2
        ⟨⟨known, found⟩, pr.id, pr, Register.get?_eq_some_iff.2 ⟨stored, rfl⟩, on⟩
      exact absent told listed same
    rw [countsFor_reviewedBy, Statistics.countsFor_of_stranger stranger]
  adds_up := Statistics.total_countsFor _ _
  length := by
    have all : (s.reviewedBy known.id).filter (·.hasReviewer known.id) = s.reviewedBy known.id := by
      refine List.filter_eq_self.2 fun pr shown => ?_
      exact PullRequest.hasReviewer_iff.2 (mem_reviewedBy.1 shown).2
    rw [Statistics.countsFor_eq, all]
    exact (List.length_map _).symm
  ascending := s.reviewedBy_ascending known.id
  members := fun _ => mem_reviewedBy

/-- Where the store knows all reviewers, what it tells of them adds up to all places. -/
theorem sum_listed
    (known : ∀ id pr, s.pullRequests.get? id = some pr →
      ∀ user ∈ pr.reviewerIds, ∃ known, s.users.get? user = some known) :
    (s.listed.map fun told => told.counts.total).sum =
      (Statistics.totals s.pullRequests.entries).reviewers := by
  have each : ∀ entry ∈ Statistics.assignmentCounts s.pullRequests.entries,
      (s.named? entry).map (fun told => told.counts.total) = some entry.2.total := by
    intro entry counted
    obtain ⟨pr, stored, on⟩ := Statistics.exists_counted_iff.1 ⟨entry, counted, rfl⟩
    obtain ⟨found, here⟩ := known pr.id pr (Register.get?_eq_some_iff.2 ⟨stored, rfl⟩) entry.1 on
    unfold named?
    rw [here]
    rfl
  unfold listed
  rw [List.map_filterMap, List.filterMap_congr each, List.filterMap_eq_map',
    Statistics.sum_assignmentCounts]

/-- What the desk tells of all reviewers, of one user and of all pull requests agrees, where no
roster lists anybody twice. All reviewers whom it knows are listed, in the order of their ids. What
it tells of one user is what stands in the list, or nothing but zeros, and goes with the pull
requests that it shows to the user. When it knows every reviewer, the list adds up to all places. -/
theorem statistics_agree (s : Store) (once : s.ListsOnce) :
    ∃ all totals, s.run Assignment.reviewerStatistics = (.ok all, s) ∧
      s.run Assignment.pullRequestStatistics = (.ok totals, s) ∧
      (all.Pairwise fun a b => compare a.user b.user = .lt) ∧
      (∀ user, (∃ told ∈ all, told.user = user) ↔
        (∃ known, s.users.get? user = some known) ∧
          ∃ id pr, s.pullRequests.get? id = some pr ∧ user ∈ pr.reviewerIds) ∧
      (∀ told ∈ all, told.counts.total = told.counts.opened + told.counts.merged) ∧
      (∀ user known, s.users.get? user = some known →
        ∃ own prs, s.run (Assignment.reviewerStatisticsFor user) = (.ok own, s) ∧
          s.run (Assignment.reviewsFor user) = (.ok prs, s) ∧ s.Tallies all known own prs) ∧
      ((∀ id pr, s.pullRequests.get? id = some pr →
          ∀ user ∈ pr.reviewerIds, ∃ known, s.users.get? user = some known) →
        (all.map fun told => told.counts.total).sum = totals.reviewers) := by
  refine ⟨s.listed, _, s.run_reviewerStatistics, s.run_pullRequestStatistics, s.listed_ascending,
    fun user => exists_listed_iff, ?_, ?_, sum_listed⟩
  · intro told listed
    obtain ⟨entry, counted, named⟩ := List.mem_filterMap.1 listed
    rw [(of_named? named).2.1]
    exact Statistics.total_of_counted counted
  · intro user known found
    have same : known.id = user := Register.key_of_get? found
    subst same
    exact ⟨_, _, run_reviewerStatisticsFor found, run_reviewsFor found, tallies_of_once once found⟩

/-- Bea and Cid review an open pull request, and Cid and somebody unknown one that is merged. -/
def twoRosters : Store where
  pullRequests :=
    ⟨[Sample.pr, { Sample.pr with
        id := ⟨"q"⟩, author := ⟨"dan"⟩, status := .merged, mergedAt := some ⟨7000⟩,
        reviewers := [⟨⟨"cid"⟩, ⟨0⟩⟩, ⟨⟨"eve"⟩, ⟨0⟩⟩] }], by decide⟩
  users := Sample.staffed.users
  teams := Sample.staffed.teams

theorem twoRosters_statistics_agree :
    twoRosters.ListsOnce ∧
    ∃ all own prs, twoRosters.run Assignment.reviewerStatistics = (.ok all, twoRosters) ∧
      all = [⟨⟨"bea"⟩, "bea", ⟨1, 1, 0⟩⟩, ⟨⟨"cid"⟩, "cid", ⟨2, 1, 1⟩⟩] ∧
      twoRosters.run (Assignment.reviewerStatisticsFor ⟨"cid"⟩) = (.ok own, twoRosters) ∧
      own = ⟨⟨"cid"⟩, "cid", ⟨2, 1, 1⟩⟩ ∧
      twoRosters.Tallies all (Sample.member "cid") own prs := by
  have once : twoRosters.ListsOnce := by
    intro id pr stored
    have listed := (Register.get?_eq_some_iff.1 stored).1
    have each : ∀ pr ∈ twoRosters.pullRequests.entries, pr.reviewerIds.Nodup := by decide
    exact each pr listed
  obtain ⟨all, totals, told, -, -, -, -, each, -⟩ := statistics_agree twoRosters once
  obtain ⟨own, prs, toldOwn, -, tallies⟩ := each ⟨"cid"⟩ (Sample.member "cid") (by decide)
  refine ⟨once, all, own, prs, told, ?_, toldOwn, ?_, tallies⟩
  · exact Except.ok.inj (congrArg Prod.fst told).symm
  · exact Except.ok.inj (congrArg Prod.fst toldOwn).symm

end Store

end ReviewDesk
