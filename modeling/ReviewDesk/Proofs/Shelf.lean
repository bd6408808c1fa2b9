-- The pull requests of a store, as a shelf with one place for each id: what stands where after
-- a write, and which writes the store takes.
import Mathlib.Data.List.Sort
import ReviewDesk.Store.Basic

namespace ReviewDesk

namespace Register

variable {κ α : Type} [Ord κ] [DecidableEq κ] {key : α → κ}

@[simp]
theorem get?_empty (k : κ) : (empty : Register key).get? k = none := rfl

theorem key_of_get? {r : Register key} {k : κ} {a : α} (h : r.get? k = some a) : key a = k := by
  have found := List.find?_some h
  exact of_decide_eq_true found

theorem find?_place [Std.TransOrd κ] [Std.LawfulEqOrd κ] (a : α) (k : κ) (l : List α) :
    (place key a l).find? (fun b => key b = k) =
      if key a = k then some a else l.find? fun b => key b = k := by
  induction l with
  | nil =>
    unfold place
    simp only [List.find?_cons, List.find?_nil]
    split <;> simp_all
  | cons b l ih =>
    unfold place
    split
    · simp only [List.find?_cons]
      split <;> simp_all
    · rename_i same
      have same : key a = key b := Std.LawfulEqOrd.eq_of_compare same
      simp only [List.find?_cons, same]
      split <;> simp_all
    · rename_i later
      have differ : key a ≠ key b := by
        intro same
        have alike : compare (key b) (key b) = .eq := Std.ReflOrd.compare_self
        rw [same, alike] at later
        cases later
      by_cases here : key b = k
      · have elsewhere : key a ≠ k := fun h => differ (h.trans here.symm)
        simp [here, elsewhere]
      · simp only [List.find?_cons, here, decide_false, ih]

/-- A record that is put in stands under its key, and nothing else moves. -/
theorem get?_put [Std.TransOrd κ] [Std.LawfulEqOrd κ] (r : Register key) (a : α) (k : κ) :
    (r.put a).get? k = if key a = k then some a else r.get? k := find?_place a k r.entries

@[simp]
theorem get?_put_self [Std.TransOrd κ] [Std.LawfulEqOrd κ] (r : Register key) (a : α) :
    (r.put a).get? (key a) = some a := by
  rw [get?_put, if_pos rfl]

theorem get?_put_of_ne [Std.TransOrd κ] [Std.LawfulEqOrd κ] (r : Register key) {a : α} {k : κ}
    (h : key a ≠ k) : (r.put a).get? k = r.get? k := by
  rw [get?_put, if_neg h]

theorem get?_map (r : Register key) (f : α → α) (h : ∀ a, key (f a) = key a) (k : κ) :
    (r.map f h).get? k = (r.get? k).map f := by
  unfold get? map
  rw [List.find?_map]
  refine congrArg (Option.map f) (congrArg (List.find? · r.entries) (funext fun a => ?_))
  simp only [Function.comp_apply, h]

theorem find?_of_mem [Std.TransOrd κ] {l : List α} {a : α}
    (sorted : l.Pairwise fun a b => compare (key a) (key b) = .lt) (listed : a ∈ l) :
    l.find? (fun b => key b = key a) = some a := by
  induction l with
  | nil => cases listed
  | cons b l ih =>
    rw [List.pairwise_cons] at sorted
    rcases List.mem_cons.1 listed with rfl | later
    · simp
    · have differ : key b ≠ key a := by
        intro same
        have less := sorted.1 a later
        rw [same, Std.ReflOrd.compare_self] at less
        cases less
      rw [List.find?_cons_of_neg (by simpa using differ)]
      exact ih sorted.2 later

/-- The record under a key is the one record that has the key. -/
theorem get?_eq_some_iff [Std.TransOrd κ] {r : Register key} {k : κ} {a : α} :
    r.get? k = some a ↔ a ∈ r.entries ∧ key a = k := by
  constructor
  · intro h
    exact ⟨List.mem_of_find?_eq_some h, key_of_get? h⟩
  · rintro ⟨listed, rfl⟩
    exact find?_of_mem r.sorted listed

omit [DecidableEq κ] in
/-- Records in the order of their keys are told by which they are. -/
theorem eq_of_ascending [Std.TransOrd κ] {l m : List α}
    (ascending : l.Pairwise fun a b => compare (key a) (key b) = .lt)
    (ascending' : m.Pairwise fun a b => compare (key a) (key b) = .lt)
    (same : ∀ a, a ∈ l ↔ a ∈ m) : l = m := by
  have irrefl : Std.Irrefl fun a b => compare (key a) (key b) = .lt := by
    refine ⟨fun a less => ?_⟩
    rw [Std.ReflOrd.compare_self] at less
    cases less
  have antisymm : Std.Antisymm fun a b => compare (key a) (key b) = .lt := by
    refine ⟨fun a b less more => ?_⟩
    exact absurd (Std.TransCmp.lt_trans less more) (irrefl.irrefl a)
  exact List.Pairwise.eq_of_mem_iff ascending ascending' same

/-- Two registers with the same record under each key are the same. -/
theorem ext_get? [Std.TransOrd κ] {r s : Register key} (h : ∀ k, r.get? k = s.get? k) : r = s := by
  refine ext (eq_of_ascending r.sorted s.sorted fun a => ?_)
  have same := h (key a)
  constructor
  · intro listed
    rw [get?_eq_some_iff.2 ⟨listed, rfl⟩] at same
    exact (get?_eq_some_iff.1 same.symm).1
  · intro listed
    rw [get?_eq_some_iff.2 ⟨listed, rfl⟩] at same
    exact (get?_eq_some_iff.1 same).1

end Register

/-- The pull requests of a store. -/
abbrev Shelf := Register PullRequest.id

namespace Store

variable {s : Store} {pr : PullRequest}

/-! ## Which writes are taken -/

/-- The error of a creation whose id is taken. -/
def taken (id : PullRequestId) : StoreError :=
  .conflict ("pull request " ++ id.value ++ " already exists")

/-- The error of an update that comes after the merge. -/
def frozen (id : PullRequestId) : StoreError :=
  .conflict ("pull request " ++ id.value ++ " is already merged")

theorem create_of_free (h : s.pullRequests.get? pr.id = none) :
    s.create pr = .ok { s with pullRequests := s.pullRequests.put pr } := by
  unfold create
  rw [h]
  rfl

theorem create_of_taken {found : PullRequest} (h : s.pullRequests.get? pr.id = some found) :
    s.create pr = .error (taken pr.id) := by
  unfold create
  rw [h]
  rfl

theorem update_of_missing (h : s.pullRequests.get? pr.id = none) :
    s.update pr = .error (.notFound ("pull request " ++ pr.id.value)) := by
  unfold update
  rw [h]

theorem update_of_open {found : PullRequest} (h : s.pullRequests.get? pr.id = some found)
    (opened : found.isMerged = false) :
    s.update pr = .ok { s with pullRequests := s.pullRequests.put pr } := by
  unfold update
  simp only [h, opened, Bool.false_eq_true, if_false]

theorem update_of_merged {found : PullRequest} (h : s.pullRequests.get? pr.id = some found)
    (merged : found.isMerged = true) : s.update pr = .error (frozen pr.id) := by
  unfold update
  simp only [h, merged, if_true]
  rfl

theorem answer_create (s : Store) (pr : PullRequest) :
    s.answer (.createPullRequest pr) = s.afterWrite (s.create pr) := rfl

theorem answer_update (s : Store) (pr : PullRequest) :
    s.answer (.updatePullRequest pr) = s.afterWrite (s.update pr) := rfl

/-- What a call makes of the store. It stays as it is, or a free place is taken, or an open pull
request is written over. -/
inductive Writes (s : Store) : (c : Call) → c.Reply × Store → Prop
  | nothing {c : Call} (reply : c.Reply) : Writes s c (reply, s)
  | placed {pr : PullRequest} : s.pullRequests.get? pr.id = none →
      Writes s (.createPullRequest pr)
        (.ok (), { s with pullRequests := s.pullRequests.put pr })
  | replaced {pr found : PullRequest} : s.pullRequests.get? pr.id = some found →
      found.isMerged = false →
      Writes s (.updatePullRequest pr)
        (.ok (), { s with pullRequests := s.pullRequests.put pr })

theorem writes_answer (s : Store) (c : Call) : s.Writes c (s.answer c) := by
  cases c with
  | createPullRequest pr =>
    rw [answer_create]
    rcases h : s.pullRequests.get? pr.id with _ | found
    · rw [create_of_free h]
      exact .placed h
    · rw [create_of_taken h]
      exact .nothing _
  | updatePullRequest pr =>
    rw [answer_update]
    rcases h : s.pullRequests.get? pr.id with _ | found
    · rw [update_of_missing h]
      exact .nothing _
    · rcases merged : found.isMerged with _ | _
      · rw [update_of_open h merged]
        exact .replaced h merged
      · rw [update_of_merged h merged]
        exact .nothing _
  | findPullRequest _ | findAllPullRequests | findPullRequestsByReviewer _ | findUser _
  | findTeamOf _ | findActiveMembers _ => exact .nothing _

/-- The store answers whatever it is asked for without a write. -/
theorem answer_read (s : Store) {c : Call} (read : c.isWrite = false) :
    ∃ a, (s.answer c).1 = .ok a := by
  cases c with
  | createPullRequest _ | updatePullRequest _ => cases read
  | findPullRequest _ | findAllPullRequests | findPullRequestsByReviewer _ | findUser _
  | findTeamOf _ | findActiveMembers _ => exact ⟨_, rfl⟩

/-- A call that is no write leaves the store as it is. -/
theorem store_of_read (s : Store) {c : Call} (read : c.isWrite = false) : (s.answer c).2 = s := by
  cases c with
  | createPullRequest _ | updatePullRequest _ => cases read
  | findPullRequest _ | findAllPullRequests | findPullRequestsByReviewer _ | findUser _
  | findTeamOf _ | findActiveMembers _ => rfl

/-- A call touches neither users nor teams. -/
theorem staff_of_answer (s : Store) (c : Call) :
    (s.answer c).2.users = s.users ∧ (s.answer c).2.teams = s.teams := by
  have h := s.writes_answer c
  generalize s.answer c = outcome at h
  cases h with
  | nothing | placed | replaced => exact ⟨rfl, rfl⟩

/-- The team of a user depends on users and teams only. -/
theorem teamOf_congr {s t : Store} (users : s.users = t.users) (teams : s.teams = t.teams)
    (user : UserId) : s.teamOf user = t.teamOf user := by
  unfold teamOf
  rw [users, teams]

theorem activeMembers_congr {s t : Store} (users : s.users = t.users) (team : TeamId) :
    s.activeMembers team = t.activeMembers team := by
  unfold activeMembers
  rw [users]

end Store

end ReviewDesk
