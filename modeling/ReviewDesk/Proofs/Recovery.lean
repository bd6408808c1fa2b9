-- A merge whose replies come from anywhere: from a store that fails, that forgets, or that says
-- one thing now and another thing then. When its write fails it reads once more, and nothing but
-- what it reads then can make a success of it. The error that it reports is that of the write.
import ReviewDesk.Proofs.Floor
import ReviewDesk.Proofs.Roster

namespace ReviewDesk

namespace Assignment

open Program

variable {chance : Chance} {id : PullRequestId} {trail : List Exchange} {c : Call} {e : StoreError}
  {a : Except AssignmentError PullRequest}

/-- The calls that a merge has made: one, two or three, always in the same order. -/
inductive MergeCalls (id : PullRequestId) : List Call → Prop
  | one : MergeCalls id [.findPullRequest id]
  | two (changed : PullRequest) :
      MergeCalls id [.findPullRequest id, .updatePullRequest changed]
  | three (changed : PullRequest) :
      MergeCalls id [.findPullRequest id, .updatePullRequest changed, .findPullRequest id]

theorem recovers_of_ends (h : Ends (merge chance id) trail a) {changed : PullRequest}
    (failed : (⟨.updatePullRequest changed, .error e⟩ : Exchange) ∈ trail) :
    ∃ reads reply, trail = reads ++ [⟨.findPullRequest id, reply⟩] ∧ Recovers id e reply a := by
  cases merge_ends h with
  | unread | unknown | already | written => simp at failed
  | @overtaken pr latest e' opened merged =>
    obtain ⟨-, rfl⟩ : changed = pr.merge (chance.clock 0) ∧ e = e' := by simpa using failed
    exact ⟨mergeFailure chance id pr e, _, rfl, .overtaken merged⟩
  | @failed pr e' reply opened still =>
    obtain ⟨-, rfl⟩ : changed = pr.merge (chance.clock 0) ∧ e = e' := by simpa using failed
    exact ⟨mergeFailure chance id pr e, reply, rfl, .failed still⟩

/-- A failed write is followed by one more read, and that read ends the merge whatever it says. -/
theorem ends_after_failure (chance : Chance) (id : PullRequestId) {pr : PullRequest}
    (opened : pr.isMerged = false) (e : StoreError)
    (reply : Except StoreError (Option PullRequest)) :
    ∃ a, Ends (merge chance id)
      (mergeFailure chance id pr e ++ [⟨.findPullRequest id, reply⟩]) a := by
  obtain ⟨a, ended, -⟩ := reread_done id e reply
  refine ⟨a, ?_⟩
  rw [merge_eq, mergeFailure, List.cons_append, List.cons_append, List.nil_append]
  simp only [ends_answered, opened, Bool.false_eq_true, if_false, ends_note, ended]
  exact .here _

/-- Whatever the replies are, a merge makes its calls in one order and comes back only with a
merged pull request. One that it finds merged it hands on and does not write. What it writes is
what it found, with another status and a merge time. A write that fails does no harm when the next
read shows a merged pull request, and is what the merge fails with in every other case. -/
theorem any_replies_to_a_merge (chance : Chance) (id : PullRequestId) :
    (∀ trail c, Asks (merge chance id) trail c →
      MergeCalls id (trail.map Exchange.call ++ [c])) ∧
    (∀ trail pr, Ends (merge chance id) trail (.ok pr) → pr.isMerged = true) ∧
    (∀ pr : PullRequest, pr.isMerged = true → ∀ trail,
      (∀ c, ¬ Asks (merge chance id) (⟨.findPullRequest id, .ok (some pr)⟩ :: trail) c) ∧
      ∀ a, Ends (merge chance id) (⟨.findPullRequest id, .ok (some pr)⟩ :: trail) a ↔
        trail = [] ∧ a = .ok pr) ∧
    (∀ trail changed, Asks (merge chance id) trail (.updatePullRequest changed) →
      ∃ pr : PullRequest, trail = [⟨.findPullRequest id, .ok (some pr)⟩] ∧ pr.isMerged = false ∧
        ∃ time, changed = { pr with status := .merged, mergedAt := some time }) ∧
    (∀ trail changed e a, (⟨.updatePullRequest changed, .error e⟩ : Exchange) ∈ trail →
      Ends (merge chance id) trail a →
      ∃ reads reply, trail = reads ++ [⟨.findPullRequest id, reply⟩] ∧ Recovers id e reply a) ∧
    ∀ pr : PullRequest, pr.isMerged = false → ∀ e reply, ∃ a, Ends (merge chance id)
      (mergeFailure chance id pr e ++ [⟨.findPullRequest id, reply⟩]) a := by
  refine ⟨?_, ?_, ?_, ?_, ?_, ?_⟩
  · intro trail c asks
    cases mergeAsks_of_asks asks with
    | first => exact .one
    | write => exact .two _
    | again => exact .three _
  · intro trail pr ends
    cases merge_ends ends with
    | already merged => exact merged
    | written => exact PullRequest.isMerged_merge _ _
    | overtaken _ _ merged => exact merged
  · intro pr merged trail
    constructor
    · intro c asks
      cases mergeAsks_of_asks asks with
      | write opened | again _ opened => exact absurd merged (by simp [opened])
    · intro a
      rw [merge_eq, ends_answered]
      simp only [merged, if_true, ends_done]
  · intro trail changed asks
    cases mergeAsks_of_asks asks with
    | @write pr opened => exact ⟨pr, rfl, opened, _, PullRequest.merge_of_open opened⟩
  · intro trail changed e a failed ends
    exact recovers_of_ends ends failed
  · intro pr opened e reply
    exact ends_after_failure chance id opened e reply

/-- Both the write and the read after it fail, and it is the first of the two errors that shows. -/
theorem twice_failed_merge :
    Ends (merge Sample.chance ⟨"p"⟩)
      (mergeFailure Sample.chance ⟨"p"⟩ Sample.pr (.database "torn") ++
        [⟨.findPullRequest ⟨"p"⟩, .error (.database "gone")⟩])
      (.error (.mergeFailed ⟨"p"⟩ (.database "torn"))) := by
  obtain ⟨-, -, -, -, failure, ending⟩ := any_replies_to_a_merge Sample.chance ⟨"p"⟩
  obtain ⟨a, ends⟩ := ending Sample.pr rfl (.database "torn") (.error (.database "gone"))
  obtain ⟨reads, reply, path, recovers⟩ := failure _ (Sample.pr.merge (Sample.chance.clock 0))
    (.database "torn") a (by simp [mergeFailure]) ends
  have last := (List.append_inj' path rfl).2
  obtain rfl : Except.error (.database "gone") = reply := by simpa using last
  cases recovers
  exact ends

end Assignment

end ReviewDesk
