-- The assignments, counted place by place over all rosters and pull request by pull request for
-- one user. Neither loses or invents anything, and the order of the pull requests makes no
-- difference. They come to the same for a user whom no roster lists twice.
import Mathlib.Algebra.BigOperators.Group.List.Lemmas
import Mathlib.Algebra.Ring.Nat
import ReviewDesk.Assignment.Statistics
import ReviewDesk.Proofs.Groups
import ReviewDesk.Proofs.Roster

namespace ReviewDesk

/-! ## Statuses -/

namespace Counts

variable {statuses others : List Status}

/-- What there is to count in a list of statuses. -/
def ofStatuses (statuses : List Status) : Counts :=
  { total := statuses.length
    opened := statuses.countP (· = .opened)
    merged := statuses.countP (· = .merged) }

/-- Each status counts once. -/
theorem foldl_record (statuses : List Status) (counts : Counts) :
    statuses.foldl record counts =
      { total := counts.total + (ofStatuses statuses).total
        opened := counts.opened + (ofStatuses statuses).opened
        merged := counts.merged + (ofStatuses statuses).merged } := by
  induction statuses generalizing counts with
  | nil => rfl
  | cons status statuses ih =>
    rw [List.foldl_cons, ih]
    cases status <;> simp [record, ofStatuses] <;> omega

theorem foldl_record_default (statuses : List Status) :
    statuses.foldl record default = ofStatuses statuses := by
  rw [foldl_record]
  simp [ofStatuses, default, instInhabitedCounts.default]

/-- Whatever is counted, it is open or merged. -/
theorem total_ofStatuses (statuses : List Status) :
    (ofStatuses statuses).total = (ofStatuses statuses).opened + (ofStatuses statuses).merged := by
  have rest : statuses.countP (fun status => ¬decide (status = .opened) = true) =
      statuses.countP (· = .merged) := by
    refine List.countP_congr fun status _ => ?_
    cases status <;> simp
  unfold ofStatuses
  dsimp only
  rw [statuses.length_eq_countP_add_countP (· = .opened), rest]

theorem ofStatuses_perm (perm : statuses.Perm others) :
    ofStatuses statuses = ofStatuses others := by
  unfold ofStatuses
  rw [perm.length_eq, perm.countP_eq, perm.countP_eq]

/-- Some counts are at most as high as others. -/
structure AtMost (counts others : Counts) : Prop where
  total : counts.total ≤ others.total
  opened : counts.opened ≤ others.opened
  merged : counts.merged ≤ others.merged

theorem atMost_of_sublist (sub : statuses.Sublist others) :
    (ofStatuses statuses).AtMost (ofStatuses others) where
  total := sub.length_le
  opened := sub.countP_le
  merged := sub.countP_le

end Counts

namespace Statistics

variable {prs others : List PullRequest} {user : UserId}

/-! ## Places -/

/-- Each place on each roster: who holds it, and the status of the pull request. -/
def slots (prs : List PullRequest) : List (UserId × Status) :=
  prs.flatMap fun pr => pr.reviewerIds.map fun user => (user, pr.status)

theorem users_slots (prs : List PullRequest) :
    (slots prs).map Prod.fst = prs.flatMap PullRequest.reviewerIds := by
  unfold slots
  rw [List.map_flatMap]
  simp [Function.comp_def]

/-- The places of each roster are added to those before it. -/
theorem foldl_places (prs : List PullRequest) (n : Nat) :
    prs.foldl (fun places pr => places + pr.reviewers.length) n = n + (slots prs).length := by
  induction prs generalizing n with
  | nil => rfl
  | cons pr prs ih =>
    have first : (slots (pr :: prs)).length = pr.reviewers.length + (slots prs).length := by
      simp [slots, PullRequest.reviewerIds]
    rw [List.foldl_cons, ih, first, Nat.add_assoc]

theorem length_slots (prs : List PullRequest) : (slots prs).length = (totals prs).reviewers := by
  unfold totals
  rw [foldl_places, Nat.zero_add]

theorem slots_perm (perm : prs.Perm others) : (slots prs).Perm (slots others) :=
  perm.flatMap_right _

/-- The statuses of the pull requests on whose rosters a user has a place, once for each place. -/
def statusesOf (prs : List PullRequest) (user : UserId) : List Status :=
  ((slots prs).filter (·.1 = user)).map Prod.snd

theorem statusesOf_perm (perm : prs.Perm others) (user : UserId) :
    (statusesOf prs user).Perm (statusesOf others user) :=
  ((slots_perm perm).filter _).map _

/-- Counting the statuses of a user is counting places. -/
theorem ofStatuses_statusesOf (prs : List PullRequest) (user : UserId) :
    Counts.ofStatuses (statusesOf prs user) =
      { total := (slots prs).countP (·.1 = user)
        opened := (slots prs).count (user, .opened)
        merged := (slots prs).count (user, .merged) } := by
  have counted : ∀ status, (statusesOf prs user).countP (· = status) =
      (slots prs).count (user, status) := by
    intro status
    unfold statusesOf
    rw [List.countP_map, List.countP_filter, List.count]
    refine List.countP_congr fun slot _ => ?_
    simp [Prod.ext_iff, and_comm]
  unfold Counts.ofStatuses
  rw [counted, counted, List.countP_eq_length_filter, statusesOf, List.length_map]

/-! ## Place by place -/

/-- The pull requests are counted place by place. -/
theorem foldl_countRoster (prs : List PullRequest) (counts : Keyed UserId Counts) :
    prs.foldl countRoster counts = counts.work (fun status c => c.record status) (slots prs) := by
  unfold Register.work slots
  rw [List.foldl_flatMap]
  refine congrArg (List.foldl · counts prs) (funext fun counts => funext fun pr => ?_)
  rw [List.foldl_map]
  rfl

/-- In the end each place of a user counts. -/
theorem value_counted (prs : List PullRequest) (user : UserId) :
    (prs.foldl countRoster .empty).value user = .ofStatuses (statusesOf prs user) := by
  rw [foldl_countRoster, Register.value_work, Register.value_empty]
  exact Counts.foldl_record_default _

/-- What a table says of a user, who has nothing if not in it. -/
def countsIn (table : List (UserId × Counts)) (user : UserId) : Counts :=
  ((table.find? (·.1 = user)).map Prod.snd).getD ⟨0, 0, 0⟩

theorem countsIn_assignmentCounts (prs : List PullRequest) (user : UserId) :
    countsIn (assignmentCounts prs) user = .ofStatuses (statusesOf prs user) :=
  value_counted prs user

/-- A user is counted just when some roster lists the user. -/
theorem mem_assignmentCounts {entry : UserId × Counts} : entry ∈ assignmentCounts prs ↔
    (∃ pr ∈ prs, entry.1 ∈ pr.reviewerIds) ∧
      entry.2 = .ofStatuses (statusesOf prs entry.1) := by
  have key : ((prs.foldl countRoster .empty).get? entry.1).isSome = true ↔
      ∃ pr ∈ prs, entry.1 ∈ pr.reviewerIds := by
    rw [foldl_countRoster, Register.isSome_get?_work]
    simp [slots]
  unfold assignmentCounts
  rw [← key, ← value_counted]
  constructor
  · intro listed
    have found := Register.get?_eq_some_iff.2 ⟨listed, rfl⟩
    exact ⟨by simp [found], (Register.value_of_mem listed).symm⟩
  · rintro ⟨some, same⟩
    obtain ⟨found, there⟩ := Option.isSome_iff_exists.1 some
    obtain ⟨listed, user⟩ := Register.get?_eq_some_iff.1 there
    rw [Register.value_of_get? there] at same
    have whole : entry = found := Prod.ext user.symm same
    exact whole ▸ listed

theorem exists_counted_iff : (∃ entry ∈ assignmentCounts prs, entry.1 = user) ↔
    ∃ pr ∈ prs, user ∈ pr.reviewerIds := by
  constructor
  · rintro ⟨entry, counted, rfl⟩
    exact (mem_assignmentCounts.1 counted).1
  · intro on
    exact ⟨(user, .ofStatuses (statusesOf prs user)), mem_assignmentCounts.2 ⟨on, rfl⟩, rfl⟩

theorem total_of_counted {entry : UserId × Counts} (counted : entry ∈ assignmentCounts prs) :
    entry.2.total = entry.2.opened + entry.2.merged := by
  rw [(mem_assignmentCounts.1 counted).2]
  exact Counts.total_ofStatuses _

theorem assignmentCounts_ascending (prs : List PullRequest) :
    (assignmentCounts prs).Pairwise fun a b => compare a.1 b.1 = .lt := Register.sorted _

/-- The places of all reviewers together are all places. -/
theorem sum_assignmentCounts (prs : List PullRequest) :
    ((assignmentCounts prs).map fun entry => entry.2.total).sum = (totals prs).reviewers := by
  have each : (assignmentCounts prs).map (fun entry => entry.2.total) =
      ((assignmentCounts prs).map Prod.fst).map fun user => ((slots prs).map Prod.fst).count user := by
    rw [List.map_map]
    refine List.map_congr_left fun entry listed => ?_
    rw [(mem_assignmentCounts.1 listed).2, ofStatuses_statusesOf]
    simp only [Function.comp_apply]
    rw [List.count, List.countP_map]
    rfl
  -- The reviewers are the users of the places, each of them once.
  have same : ((assignmentCounts prs).map Prod.fst).Perm ((slots prs).map Prod.fst).dedup := by
    refine (List.perm_ext_iff_of_nodup (Register.nodup_keys _) (List.nodup_dedup _)).2 fun user => ?_
    rw [List.mem_dedup, users_slots, List.mem_flatMap, List.mem_map]
    exact exists_counted_iff
  rw [each, (same.map _).sum_eq, List.sum_map_count_dedup_eq_length, List.length_map, length_slots]

/-! ## Pull request by pull request -/

theorem countsFor_eq (prs : List PullRequest) (user : UserId) : countsFor prs user =
    .ofStatuses ((prs.filter (·.hasReviewer user)).map PullRequest.status) := by
  unfold countsFor
  rw [← Counts.foldl_record_default, List.foldl_map]

theorem total_countsFor (prs : List PullRequest) (user : UserId) :
    (countsFor prs user).total = (countsFor prs user).opened + (countsFor prs user).merged := by
  rw [countsFor_eq]
  exact Counts.total_ofStatuses _

/-- A user has as many places on a roster as it lists the user. -/
theorem statusesOf_cons (pr : PullRequest) (prs : List PullRequest) (user : UserId) :
    statusesOf (pr :: prs) user =
      List.replicate (pr.reviewerIds.count user) pr.status ++ statusesOf prs user := by
  have here : ((pr.reviewerIds.map fun other => (other, pr.status)).filter (·.1 = user)).map
      Prod.snd = List.replicate (pr.reviewerIds.count user) pr.status := by
    rw [List.filter_map, List.map_map, List.count, List.countP_eq_length_filter]
    exact List.map_const' ..
  unfold statusesOf slots
  rw [List.flatMap_cons, List.filter_append, List.map_append, here]

/-- Each pull request of a user has a place of the user, so there are no fewer places. -/
theorem sublist_statusesOf (prs : List PullRequest) (user : UserId) :
    ((prs.filter (·.hasReviewer user)).map PullRequest.status).Sublist (statusesOf prs user) := by
  induction prs with
  | nil => exact List.Sublist.slnil
  | cons pr prs ih =>
    rw [statusesOf_cons]
    by_cases listed : pr.hasReviewer user = true
    · have place : 0 < pr.reviewerIds.count user :=
        List.count_pos_iff.2 (PullRequest.hasReviewer_iff.1 listed)
      have first : [pr.status].Sublist (List.replicate (pr.reviewerIds.count user) pr.status) :=
        List.singleton_sublist.2 (List.mem_replicate.2 ⟨place.ne', rfl⟩)
      rw [List.filter_cons, if_pos listed]
      exact first.append ih
    · rw [List.filter_cons, if_neg listed]
      exact ih.trans (List.sublist_append_right _ _)

/-- Where no roster lists a user twice, each place of the user is on another pull request. -/
theorem statusesOf_of_once (once : ∀ pr ∈ prs, pr.reviewerIds.count user ≤ 1) :
    statusesOf prs user = (prs.filter (·.hasReviewer user)).map PullRequest.status := by
  induction prs with
  | nil => rfl
  | cons pr prs ih =>
    obtain ⟨first, later⟩ := List.forall_mem_cons.1 once
    rw [statusesOf_cons, ih later]
    by_cases listed : pr.hasReviewer user = true
    · have place : pr.reviewerIds.count user = 1 :=
        le_antisymm first (List.one_le_count_iff.2 (PullRequest.hasReviewer_iff.1 listed))
      rw [List.filter_cons, if_pos listed, place]
      rfl
    · have none : pr.reviewerIds.count user = 0 :=
        List.count_eq_zero.2 fun on => listed (PullRequest.hasReviewer_iff.2 on)
      rw [List.filter_cons, if_neg listed, none]
      rfl

/-- What is counted for a reviewer among all is what is counted for this user alone. -/
theorem eq_countsFor_of_mem (once : ∀ pr ∈ prs, pr.reviewerIds.Nodup) {entry : UserId × Counts}
    (listed : entry ∈ assignmentCounts prs) : entry.2 = countsFor prs entry.1 := by
  rw [(mem_assignmentCounts.1 listed).2, countsFor_eq, statusesOf_of_once]
  exact fun pr there => List.nodup_iff_count_le_one.1 (once pr there) _

/-- Nobody reviews more pull requests than there are. -/
theorem total_countsFor_le (prs : List PullRequest) (user : UserId) :
    (countsFor prs user).total ≤ prs.length := by
  rw [countsFor_eq]
  unfold Counts.ofStatuses
  dsimp only
  rw [List.length_map]
  exact List.length_filter_le ..

theorem countsFor_of_stranger (stranger : ∀ pr ∈ prs, user ∉ pr.reviewerIds) :
    countsFor prs user = ⟨0, 0, 0⟩ := by
  have none : prs.filter (·.hasReviewer user) = [] := by
    refine List.filter_eq_nil_iff.2 fun pr listed on => ?_
    exact stranger pr listed (PullRequest.hasReviewer_iff.1 on)
  unfold countsFor
  rw [none]
  rfl

/-! ## All of them together -/

/-- A table of assignments and totals that are exact for some pull requests. The table has the
reviewers in ascending order, and of each the number of places, in all, on open and on merged pull
requests. -/
structure Exact (prs : List PullRequest) (table : List (UserId × Counts))
    (totals : PullRequestStats) : Prop where
  keys : ∀ user, (∃ entry ∈ table, entry.1 = user) ↔ ∃ pr ∈ prs, user ∈ pr.reviewerIds
  ascending : table.Pairwise fun a b => compare a.1 b.1 = .lt
  places : ∀ entry ∈ table, entry.2 =
    { total := (slots prs).countP (·.1 = entry.1)
      opened := (slots prs).count (entry.1, .opened)
      merged := (slots prs).count (entry.1, .merged) }
  adds_up : ∀ entry ∈ table, entry.2.total = entry.2.opened + entry.2.merged
  all_places : totals.reviewers = (slots prs).length
  sum : (table.map fun entry => entry.2.total).sum = totals.reviewers
  total : totals.total = prs.length
  opened : totals.opened = prs.countP (·.status = .opened)
  merged : totals.merged = prs.countP (·.status = .merged)
  no_underflow : totals.merged ≤ prs.length
  both : totals.opened + totals.merged = totals.total

theorem length_eq_opened_add_merged (prs : List PullRequest) :
    prs.length = prs.countP (·.status = .opened) + prs.countP (·.status = .merged) := by
  rw [prs.length_eq_countP_add_countP (·.status = .opened)]
  refine congrArg (_ + ·) (List.countP_congr fun pr _ => ?_)
  cases status : pr.status <;> simp

theorem exact_assignmentCounts (prs : List PullRequest) :
    Exact prs (assignmentCounts prs) (totals prs) where
  keys := fun user => exists_counted_iff
  ascending := assignmentCounts_ascending prs
  places := fun entry counted => by
    rw [(mem_assignmentCounts.1 counted).2, ofStatuses_statusesOf]
  adds_up := fun entry => total_of_counted
  all_places := (length_slots prs).symm
  sum := sum_assignmentCounts prs
  total := rfl
  opened := by
    have all := length_eq_opened_add_merged prs
    show prs.length - prs.countP (·.status = .merged) = _
    omega
  merged := rfl
  no_underflow := List.countP_le_length
  both := Nat.sub_add_cancel List.countP_le_length

/-- The order of the pull requests makes no difference to any count. -/
theorem counts_perm (perm : prs.Perm others) :
    assignmentCounts others = assignmentCounts prs ∧ totals others = totals prs ∧
      ∀ user, countsFor others user = countsFor prs user := by
  refine ⟨?_, ?_, fun user => ?_⟩
  · refine Register.eq_of_ascending (assignmentCounts_ascending _) (assignmentCounts_ascending _)
      fun entry => ?_
    have same := Counts.ofStatuses_perm (statusesOf_perm perm entry.1)
    rw [mem_assignmentCounts, mem_assignmentCounts, same]
    simp [perm.mem_iff]
  · unfold totals
    rw [perm.length_eq, perm.countP_eq, foldl_places, foldl_places, (slots_perm perm).length_eq]
  · rw [countsFor_eq, countsFor_eq]
    exact Counts.ofStatuses_perm ((perm.symm.filter _).map _)

/-- Counting is exact for any pull requests, whatever their rosters. The assignments of all
reviewers go with the places on the rosters and add up to the totals, and no order of the pull
requests makes a difference. What is counted for one user alone is at most what the table says of
the user, and just that where no roster lists the user twice. -/
theorem counting_is_exact (prs : List PullRequest) :
    Exact prs (assignmentCounts prs) (totals prs) ∧
    (∀ others, prs.Perm others → assignmentCounts others = assignmentCounts prs ∧
      totals others = totals prs ∧ ∀ user, countsFor others user = countsFor prs user) ∧
    ∀ user, (countsFor prs user).AtMost (countsIn (assignmentCounts prs) user) ∧
      ((∀ pr ∈ prs, pr.reviewerIds.count user ≤ 1) →
        countsFor prs user = countsIn (assignmentCounts prs) user) := by
  refine ⟨exact_assignmentCounts prs, fun others => counts_perm, fun user => ⟨?_, fun once => ?_⟩⟩
  · rw [countsIn_assignmentCounts, countsFor_eq]
    exact Counts.atMost_of_sublist (sublist_statusesOf prs user)
  · rw [countsIn_assignmentCounts, countsFor_eq, statusesOf_of_once once]

/-- An open pull request that lists Bea twice, and a merged one with Bea and Cid. -/
def doubledRosters : List PullRequest :=
  [⟨⟨"q"⟩, "two", ⟨"ann"⟩, .opened, [⟨⟨"bea"⟩, ⟨0⟩⟩, ⟨⟨"bea"⟩, ⟨0⟩⟩], ⟨0⟩, none⟩,
    ⟨⟨"p"⟩, "one", ⟨"dan"⟩, .merged, [⟨⟨"cid"⟩, ⟨0⟩⟩, ⟨⟨"bea"⟩, ⟨0⟩⟩], ⟨0⟩, some ⟨7000⟩⟩]

/-- Bea has three places on two pull requests, and Cid as many as pull requests. -/
theorem doubledRosters_are_counted :
    assignmentCounts doubledRosters = [(⟨"bea"⟩, ⟨3, 2, 1⟩), (⟨"cid"⟩, ⟨1, 0, 1⟩)] ∧
    countsFor doubledRosters ⟨"bea"⟩ = ⟨2, 1, 1⟩ ∧
    assignmentCounts doubledRosters.reverse = assignmentCounts doubledRosters ∧
    countsFor doubledRosters ⟨"cid"⟩ = countsIn (assignmentCounts doubledRosters) ⟨"cid"⟩ := by
  obtain ⟨-, perm, each⟩ := counting_is_exact doubledRosters
  exact ⟨by decide, by decide, (perm _ doubledRosters.reverse_perm.symm).1,
    (each ⟨"cid"⟩).2 (by decide)⟩

end Statistics

end ReviewDesk
