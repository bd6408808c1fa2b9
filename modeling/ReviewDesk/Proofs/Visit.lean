-- Somebody asks for the statistics while the others go on. What is told of the reviewers and how
-- many pull requests there are is read at two moments. But pull requests only become more, and
-- their number is read last, so nobody has more assignments than there are pull requests.
import ReviewDesk.Proofs.Soundness
import ReviewDesk.Proofs.Tally

namespace ReviewDesk

/-! ## How many there are -/

namespace Register

variable {κ α : Type} [Ord κ] {key : α → κ}

theorem length_le_place (a : α) (l : List α) : l.length ≤ (place key a l).length := by
  induction l with
  | nil => exact Nat.zero_le _
  | cons b l ih =>
    unfold place
    split
    · simp
    · simp
    · simpa using ih

end Register

namespace Store

variable {s : Store}

/-- How many pull requests are stored. -/
def count (s : Store) : Nat := s.pullRequests.entries.length

/-- No call takes a pull request away. -/
theorem count_le_outcome (s : Store) (fault : Option StoreError) (c : Call) :
    s.count ≤ (s.outcome fault c).2.count := by
  have h := s.writes_outcome fault c
  generalize s.outcome fault c = came at h
  cases h with
  | nothing => exact Nat.le_refl _
  | placed | replaced => exact Register.length_le_place _ _

end Store

theorem Floor.count_le_step (f : Floor) (t : Turn) : f.store.count ≤ (f.step t).store.count := by
  have move := f.moves_step t
  generalize f.step t = g at move
  cases move with
  | arrive | idle | note | staff => exact Nat.le_refl _
  | @call i _ _ c _ fault =>
    dsimp only [Moment.after]
    rw [Moment.outcome_eq]
    exact f.store.count_le_outcome fault c

/-- Counts that add up, of assignments to `n` pull requests at most. -/
structure Counts.Within (n : Nat) (counts : Counts) : Prop where
  adds_up : counts.total = counts.opened + counts.merged
  bounded : counts.total ≤ n

theorem Counts.Within.later {n m : Nat} {counts : Counts} (h : counts.Within n) (le : n ≤ m) :
    counts.Within m := ⟨h.adds_up, Nat.le_trans h.bounded le⟩

theorem Statistics.within_of_once {prs : List PullRequest}
    (once : ∀ pr ∈ prs, pr.reviewerIds.Nodup) :
    ∀ entry ∈ assignmentCounts prs, entry.2.Within prs.length := by
  intro entry counted
  rw [eq_countsFor_of_mem once counted]
  exact ⟨total_countsFor prs entry.1, total_countsFor_le prs entry.1⟩

/-! ## What a program comes to -/

/-- What a call can be told where `n` pull requests are stored and none lists anybody twice. -/
def Call.Told (n : Nat) : (c : Call) → c.Reply → Prop
  | findAllPullRequests, .ok prs => prs.length = n ∧ ∀ pr ∈ prs, pr.reviewerIds.Nodup
  | _, _ => True

theorem Store.told_outcome {s : Store} (once : s.ListsOnce) (fault : Option StoreError) (c : Call) :
    c.Told s.count (s.outcome fault c).1 := by
  cases fault with
  | some e => cases c <;> trivial
  | none =>
    cases c with
    | findAllPullRequests => exact ⟨rfl, once.entries⟩
    | createPullRequest _ | findPullRequest _ | updatePullRequest _
    | findPullRequestsByReviewer _ | findUser _ | findTeamOf _ | findActiveMembers _ => trivial

namespace Program

variable {α β : Type} {post : Nat → α → Prop} {post' : Nat → β → Prop} {n m : Nat} {p : Program α}

/-- The program only reads. Where there are `n` pull requests and at each call there may be more
of them, it comes to what is promised. -/
def Ensures (post : Nat → α → Prop) : Program α → Nat → Prop
  | done a, n => ∀ m, n ≤ m → post m a
  | note _ rest, n => rest.Ensures post n
  | call c resume, n => c.isWrite = false ∧
      ∀ m, n ≤ m → ∀ reply, c.Told m reply → (resume reply).Ensures post m

theorem Ensures.later (h : p.Ensures post n) (le : n ≤ m) : p.Ensures post m := by
  induction p generalizing n m with
  | done a => exact fun k le' => h k (Nat.le_trans le le')
  | note event rest ih => exact ih h le
  | call c resume => exact ⟨h.1, fun k le' => h.2 k (Nat.le_trans le le')⟩

theorem Ensures.weaken {wider : Nat → α → Prop} (h : p.Ensures post n)
    (imp : ∀ m, n ≤ m → ∀ a, post m a → wider m a) : p.Ensures wider n := by
  induction p generalizing n with
  | done a => exact fun m le => imp m le a (h m le)
  | note event rest ih => exact ih h imp
  | call c resume ih =>
    refine ⟨h.1, fun m le reply told => ih reply (h.2 m le reply told) ?_⟩
    exact fun k le' => imp k (Nat.le_trans le le')

theorem Ensures.bind {f : α → Program β} (h : p.Ensures post n)
    (next : ∀ m a, post m a → (f a).Ensures post' m) : (p >>= f).Ensures post' n := by
  induction p generalizing n with
  | done a => exact next n a (h n (Nat.le_refl n))
  | note event rest ih => exact ih h
  | call c resume ih => exact ⟨h.1, fun m le reply told => ih reply (h.2 m le reply told)⟩

end Program

namespace Operation

variable {α β : Type} {post : Nat → α → Prop} {post' : Nat → β → Prop} {n : Nat}

/-- The operation is refused, or it comes to what is promised. -/
def Gives (post : Nat → α → Prop) (n : Nat) (operation : Operation α) : Prop :=
  operation.run.Ensures (fun m outcome => ∀ a, outcome = .ok a → post m a) n

theorem gives_pure {a : α} (h : ∀ m, n ≤ m → post m a) : Gives post n (pure a) := by
  rintro m le _ ⟨⟩
  exact h m le

theorem gives_bind {operation : Operation α} {f : α → Operation β} (h : Gives post n operation)
    (next : ∀ m a, post m a → Gives post' m (f a)) : Gives post' n (operation >>= f) := by
  refine Program.Ensures.bind h ?_
  rintro m (e | a) promised
  · rintro k - _ ⟨⟩
  · exact next m a (promised a rfl)

theorem gives_ask_bind {c : Call} {f : c.Answer → Operation β} (read : c.isWrite = false)
    (next : ∀ m, n ≤ m → ∀ a, c.Told m (.ok a) → Gives post' m (f a)) :
    Gives post' n (ask c >>= f) := by
  rw [ask_bind]
  refine ⟨read, ?_⟩
  rintro m le (e | a) told
  · rintro k - _ ⟨⟩
  · exact next m le a told

theorem gives_log_bind {event : Event} {f : Unit → Operation β} (next : Gives post' n (f ())) :
    Gives post' n (log event >>= f) := next

end Operation

namespace Assignment

open Operation

variable {n : Nat}

/-- What holds of all counts holds of those that are told. -/
theorem gives_nameReviewers {P : Counts → Prop} {counts : List (UserId × Counts)}
    (counted : ∀ entry ∈ counts, P entry.2) :
    Gives (fun _ users => ∀ told ∈ users, P told.counts) n (nameReviewers counts) := by
  induction counts generalizing n with
  | nil => exact gives_pure (by simp)
  | cons entry counts ih =>
    obtain ⟨first, later⟩ := List.forall_mem_cons.1 counted
    unfold nameReviewers
    refine gives_ask_bind rfl fun m _ found _ => ?_
    rcases found with _ | known
    · apply gives_log_bind
      exact ih later
    · refine gives_bind (ih later) fun k users promised => gives_pure fun _ _ => ?_
      exact List.forall_mem_cons.2 ⟨first, promised⟩

/-- Nobody has more assignments than there are pull requests, from the first read on. -/
theorem gives_reviewerStatistics :
    Gives (fun m users => ∀ told ∈ users, told.counts.Within m) n reviewerStatistics := by
  unfold reviewerStatistics
  refine gives_ask_bind rfl fun m _ prs told => ?_
  obtain ⟨rfl, once⟩ := told
  refine (gives_nameReviewers (Statistics.within_of_once once)).weaken ?_
  intro m le _ promised users same told listed
  exact (promised users same told listed).later le

theorem gives_pullRequestStatistics :
    Gives (fun _ totals => n ≤ totals.total) n pullRequestStatistics := by
  unfold pullRequestStatistics
  refine gives_ask_bind rfl fun m le prs told => gives_pure fun _ _ => ?_
  obtain ⟨rfl, -⟩ := told
  exact le

end Assignment

/-! ## The request -/

namespace Api

open Operation

variable {request : Request} {n : Nat}

theorem ensures_respond {operation : Operation Response} {post : Response → Prop}
    (gives : Gives (fun _ => post) n operation) :
    (respond operation).Ensures
      (fun _ response => response.isSuccess = true → post response) n := by
  refine Program.Ensures.bind gives ?_
  rintro m (e | response) promised
  · have refused : ∀ k, m ≤ k → (ApiError.ofAssignment e).response.isSuccess = true →
        post (ApiError.ofAssignment e).response := by
      intro k _ success
      rw [failed_of_error] at success
      cases success
    dsimp only
    split
    · exact refused
    · exact refused
  · exact fun k _ _ => promised response rfl

/-- The response shows assignments of users and a number of pull requests that nobody exceeds. -/
def TellsWithin (response : Response) : Prop :=
  ∃ users total, response = .json 200 (reviewersJson users total) ∧
    ∀ told ∈ users, told.counts.Within total

theorem serve_withQuery (chance : Chance) (get : request.method = "GET")
    (target : Route.ofPath? request.path = some .reviewerStatistics) :
    serve chance request = withQuery request reviewerStatistics := by
  unfold serve
  rw [target]
  dsimp only
  rw [get, if_neg (by decide), if_neg (by decide)]
  rfl

/-- Without a user in its query, the request is for the assignments of all. -/
theorem serve_everybody (chance : Chance) (get : request.method = "GET")
    (target : Route.ofPath? request.path = some .reviewerStatistics) {query : UserQuery}
    (read : UserQuery.ofQuery? request.query = some query) (everybody : query.user? = none) :
    serve chance request = respond do
      let users ← Assignment.reviewerStatistics
      let totals ← Assignment.pullRequestStatistics
      return .json 200 (reviewersJson users totals.total) := by
  rw [serve_withQuery chance get target]
  unfold withQuery
  rw [read]
  dsimp only
  unfold reviewerStatistics
  rw [everybody]

/-- Who asks for the assignments of all is told of nobody who has more of them than there are pull
requests. -/
theorem ensures_serve (chance : Chance) (get : request.method = "GET")
    (target : Route.ofPath? request.path = some .reviewerStatistics)
    (everybody : ∀ query, UserQuery.ofQuery? request.query = some query → query.user? = none) :
    (serve chance request).Ensures
      (fun _ response => response.isSuccess = true → TellsWithin response) n := by
  rcases read : UserQuery.ofQuery? request.query with _ | query
  · rw [serve_withQuery chance get target]
    unfold withQuery
    rw [read]
    rintro m - success
    cases success
  · rw [serve_everybody chance get target read (everybody query read)]
    apply ensures_respond
    refine gives_bind Assignment.gives_reviewerStatistics fun m users within => ?_
    refine gives_bind Assignment.gives_pullRequestStatistics fun k totals le => ?_
    refine gives_pure fun _ _ => ⟨users, totals.total, rfl, fun told listed => ?_⟩
    exact (within told listed).later le

end Api

/-! ## Visits -/

/-- What can come next while somebody visits: a turn of the others, or the next step of the
visitor, whose call fails if there is an error for it. -/
inductive Beat where
  | other (turn : Turn)
  | own (fault : Option StoreError)

/-- The floor, and what is left of the program of a visitor. -/
structure Visit (α : Type) where
  floor : Floor
  rest : Program α

namespace Visit

variable {α : Type}

/-- What a beat makes of a visit. One that has ended goes on for the others only. -/
def step (v : Visit α) : Beat → Visit α
  | .other turn => { v with floor := v.floor.step turn }
  | .own fault =>
    match v.rest with
    | .done _ => v
    | .note _ rest => { v with rest }
    | .call c resume =>
      { floor := { v.floor with store := (v.floor.store.outcome fault c).2 }
        rest := resume (v.floor.store.outcome fault c).1 }

/-- The visit after some beats. -/
def run (s : Store) (p : Program α) (beats : List Beat) : Visit α :=
  beats.foldl step ⟨Floor.opened s, p⟩

/-- The turns of the others. -/
def turns (beats : List Beat) : List Turn :=
  beats.filterMap fun
    | .other turn => some turn
    | .own _ => none

theorem mem_turns {beats : List Beat} {t : Turn} : t ∈ turns beats ↔ .other t ∈ beats := by
  unfold turns
  rw [List.mem_filterMap]
  constructor
  · rintro ⟨_ | _, listed, ⟨⟩⟩
    exact listed
  · exact fun listed => ⟨_, listed, rfl⟩

/-- The others have come as far as they would without the visitor, and whatever happens from now
on, the visitor ends with what is promised. -/
structure OnCourse (s : Store) (post : Nat → α → Prop) (beats : List Beat) (v : Visit α) :
    Prop where
  floor : v.floor = Floor.run s (turns beats)
  rest : v.rest.Ensures post v.floor.store.count

variable {s : Store} {post : Nat → α → Prop} {beats : List Beat} {v : Visit α} {p : Program α}

theorem OnCourse.step (h : OnCourse s post beats v) (once : v.floor.store.ListsOnce) (b : Beat) :
    OnCourse s post (beats ++ [b]) (v.step b) := by
  have floor := h.floor
  cases b with
  | other t =>
    refine ⟨?_, h.rest.later (v.floor.count_le_step t)⟩
    have next : turns (beats ++ [.other t]) = turns beats ++ [t] := List.filterMap_append ..
    rw [next, Floor.run_concat, ← floor]
    rfl
  | own fault =>
    have same : turns (beats ++ [.own fault]) = turns beats := by
      simp [turns]
    obtain ⟨f, rest⟩ := v
    cases rest with
    | done a => exact ⟨same ▸ floor, h.rest⟩
    | note event rest => exact ⟨same ▸ floor, h.rest⟩
    | call c resume =>
      obtain ⟨read, next⟩ := h.rest
      have still : (f.store.outcome fault c).2 = f.store := by
        cases fault with
        | some e => rfl
        | none => exact f.store.store_of_read read
      have later := next f.store.count (Nat.le_refl _) _ (f.store.told_outcome once fault c)
      unfold Visit.step
      dsimp only
      rw [still]
      exact ⟨same ▸ floor, later⟩

theorem onCourse_run (good : AllSound s.pullRequests) (orderly : ∀ t, .other t ∈ beats → t.Orderly)
    (start : p.Ensures post 0) : OnCourse s post beats (run s p beats) := by
  induction beats using List.reverseRecOn with
  | nil => exact ⟨rfl, start.later (Nat.zero_le _)⟩
  | append_singleton beats b ih =>
    have h := ih fun t listed => orderly t (List.mem_append_left _ listed)
    have sound : AllSound (Floor.run s (turns beats)).store.pullRequests :=
      Floor.allSound_run
        (fun t listed => orderly t (List.mem_append_left _ (mem_turns.1 listed))) good
    have once : (run s p beats).floor.store.ListsOnce := by
      intro id pr stands
      rw [h.floor] at stands
      exact (sound id pr stands).distinct
    have next : run s p (beats ++ [b]) = (run s p beats).step b := List.foldl_concat ..
    rw [next]
    exact h.step once b

/-- Somebody asks for the assignments of all reviewers while others create, reassign and merge, and
users and teams change. If it goes well, the assignments of everybody who is listed add up, and
nobody has more of them than there are pull requests by the same answer. -/
theorem told_statistics_stay_within (s : Store) (fresh : s.pullRequests = .empty)
    (beats : List Beat) (orderly : ∀ t, .other t ∈ beats → t.Orderly) (chance : Chance)
    {request : Request} (get : request.method = "GET")
    (target : Route.ofPath? request.path = some .reviewerStatistics)
    (everybody : ∀ query, UserQuery.ofQuery? request.query = some query → query.user? = none)
    {response : Response} (ended : (run s (Api.serve chance request) beats).rest = .done response)
    (success : response.status = 200) :
    ∃ users total, response = .json 200 (reviewersJson users total) ∧
      ∀ told ∈ users, told.counts.total = told.counts.opened + told.counts.merged ∧
        told.counts.total ≤ total := by
  have good : AllSound s.pullRequests := by
    intro id pr stands
    rw [fresh, Register.get?_empty] at stands
    cases stands
  have course := onCourse_run good orderly (Api.ensures_serve chance get target everybody)
  have promised := course.rest
  rw [ended] at promised
  have went_well : response.isSuccess = true := by
    unfold Response.isSuccess
    rw [success]
    rfl
  obtain ⟨users, total, shown, within⟩ := promised _ (Nat.le_refl _) went_well
  exact ⟨users, total, shown, fun told listed =>
    ⟨(within told listed).adds_up, (within told listed).bounded⟩⟩

/-- A second pull request comes after the first read, and the first one is merged before the last.
So the answer is one that was never true. -/
def tornBeats : List Beat :=
  [.other (.arrive (.create { Sample.pr with reviewers := [] }) Sample.chance)] ++
    List.replicate 6 (.other (.go 0)) ++
    [.own none,
      .other (.arrive (.create { Sample.pr with
        id := ⟨"q"⟩, author := ⟨"bea"⟩, reviewers := [] }) Sample.chance)] ++
    List.replicate 6 (.other (.go 1)) ++
    [.own none, .other (.arrive (.merge ⟨"p"⟩) Sample.chance), .other (.go 2), .other (.go 2),
      .own none, .own none]

theorem tornBeats_stay_within :
    let request : Request :=
      { method := "GET", target := "/stats/reviewers", contentType := none, body := .empty }
    let users : List ReviewerStats :=
      [⟨⟨"cid"⟩, "cid", ⟨1, 1, 0⟩⟩, ⟨⟨"dan"⟩, "dan", ⟨1, 1, 0⟩⟩]
    let response : Response := .json 200 (reviewersJson users 2)
    (run Sample.staffed (Api.serve Sample.chance request) tornBeats).rest = .done response ∧
    ∃ users total, response = .json 200 (reviewersJson users total) ∧
      ∀ told ∈ users, told.counts.total = told.counts.opened + told.counts.merged ∧
        told.counts.total ≤ total := by
  intro request users response
  have orderly : ∀ t, .other t ∈ tornBeats → t.Orderly := by
    intro t listed
    simp [tornBeats] at listed
    rcases listed with rfl | rfl | rfl | rfl | rfl | rfl
    · exact ⟨⟨0⟩, ⟨"p"⟩, "a change", ⟨"ann"⟩, [], rfl⟩
    · trivial
    · exact ⟨⟨0⟩, ⟨"q"⟩, "a change", ⟨"bea"⟩, [], rfl⟩
    · trivial
    · trivial
    · trivial
  have read : UserQuery.ofQuery? request.query = some ⟨none⟩ := by decide +kernel
  have ended : (run Sample.staffed (Api.serve Sample.chance request) tornBeats).rest =
      .done response := by
    rw [Api.serve_everybody Sample.chance rfl (by decide) read rfl]
    rfl
  refine ⟨ended, told_statistics_stay_within _ rfl _ orderly _ rfl (by decide) ?_ ended rfl⟩
  intro query same
  cases read.symm.trans same
  rfl

end Visit

end ReviewDesk
