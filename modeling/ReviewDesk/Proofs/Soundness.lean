-- Every pull request that is ever stored is a good one, and what it was opened with stays as it
-- was. The copy that a client works on may be out of date by the time it is written, so both are
-- followed through what every client has read.
import ReviewDesk.Proofs.Ledger
import ReviewDesk.Proofs.Roster

namespace ReviewDesk

open Floor PullRequest

/-! ## Orderly turns -/

/-- Whoever comes with a new pull request has just made it, and nobody writes past the desk. -/
def Turn.Orderly : Turn → Prop
  | .arrive (.create pr) _ => ∃ clock id title author users,
      PullRequest.new clock id title author users = .ok pr
  | .arrive (.direct c) _ => c.isWrite = false
  | _ => True

/-- Every pull request on a shelf is a good one. -/
def AllSound (a : Shelf) : Prop := ∀ id pr, a.get? id = some pr → pr.Sound

/-- No pull request goes away, and each is what it was opened as. -/
def Grows (a b : Shelf) : Prop :=
  ∀ id pr, a.get? id = some pr → ∃ now, b.get? id = some now ∧ SameOrigin pr now

theorem grows_refl (a : Shelf) : Grows a a := fun _ pr stands => ⟨pr, stands, SameOrigin.refl pr⟩

theorem grows_trans {a b c : Shelf} (h : Grows a b) (h' : Grows b c) : Grows a c := by
  intro id pr stands
  obtain ⟨mid, stands, same⟩ := h id pr stands
  obtain ⟨now, stands, same'⟩ := h' id mid stands
  exact ⟨now, stands, same.trans same'⟩

/-- A pull request goes to a free place, or over one of the same origin. -/
theorem grows_put {a : Shelf} {pr : PullRequest}
    (h : ∀ old, a.get? pr.id = some old → SameOrigin old pr) : Grows a (a.put pr) := by
  intro id old stands
  by_cases here : pr.id = id
  · subst here
    exact ⟨pr, Register.get?_put_self a pr, h old stands⟩
  · exact ⟨old, by rw [Register.get?_put_of_ne a here]; exact stands, SameOrigin.refl old⟩

theorem allSound_put {a : Shelf} {pr : PullRequest} (h : AllSound a) (sound : pr.Sound) :
    AllSound (a.put pr) := by
  intro id stored stands
  rw [Register.get?_put] at stands
  split at stands
  · cases stands
    exact sound
  · exact h id stored stands

/-! ## What is behind a write -/

namespace Floor

variable {s : Store} {turns : List Turn} {l l' : List Moment} {m : Moment} {pr : PullRequest}

/-- What an orderly client creates is made from a new pull request. -/
theorem sound_of_created (orderly : ∀ t ∈ turns, t.Orderly)
    (split : (run s turns).ledger = l ++ m :: l')
    (said : m.exchange = ⟨.createPullRequest pr, .ok ()⟩) : pr.Sound := by
  obtain ⟨job, chance, came, prepares⟩ := (recorded_run s turns).prepared split said rfl
  have honest := orderly _ (arrived came)
  generalize trail m.client l = before at prepares
  cases prepares with
  | create filled =>
    obtain ⟨clock, id, title, author, users, made⟩ := honest
    exact sound_of_assignAll (sound_of_new made) filled
  | direct => cases honest

/-- What an orderly client updates is made from what it has read under the same id. -/
theorem of_updated (orderly : ∀ t ∈ turns, t.Orderly)
    (split : (run s turns).ledger = l ++ m :: l') (took : m.Took pr) :
    ∃ n ∈ l, ∃ read, n.found.get? pr.id = some read ∧ SameOrigin read pr ∧
      (read.Sound → pr.Sound) := by
  obtain ⟨job, chance, came, prepares⟩ := (recorded_run s turns).prepared split took rfl
  have honest := orderly _ (arrived came)
  have made : ∃ id read, ⟨.findPullRequest id, .ok (some read)⟩ ∈ trail m.client l ∧
      SameOrigin read pr ∧ (read.Sound → pr.Sound) := by
    generalize trail m.client l = before at prepares
    cases prepares with
    | reassign made =>
      exact ⟨_, _, List.mem_cons_self, sameOrigin_of_reassign made.made,
        fun sound => sound_of_reassign sound made.made⟩
    | merge opened =>
      exact ⟨_, _, List.mem_cons_self, sameOrigin_merge _ _, fun sound => sound_merge sound _⟩
    | direct => cases honest
  obtain ⟨id, read, listed, same, sound⟩ := made
  obtain ⟨n, listed, -, stood⟩ := read_of_trail listed
  have key := Register.key_of_get? stood
  rw [← key, ← same.id] at stood
  exact ⟨n, listed, read, stood, same, sound⟩

/-! ## Whole runs -/

theorem grows_run (orderly : ∀ t ∈ turns, t.Orderly) :
    Grows s.pullRequests (run s turns).store.pullRequests ∧
      ∀ n ∈ (run s turns).ledger, Grows s.pullRequests n.found ∧
        Grows n.found (run s turns).store.pullRequests := by
  refine kept grows_refl grows_trans (recorded_run s turns).linked ?_
  intro l m l' split _ since
  cases m.effect with
  | nothing same =>
    rw [same]
    exact grows_refl _
  | placed pr said free put =>
    rw [put]
    refine grows_put ?_
    intro old stands
    rw [free] at stands
    cases stands
  | replaced pr old took stood opened put =>
    rw [put]
    obtain ⟨n, listed, read, was, same, -⟩ := of_updated orderly split took
    refine grows_put ?_
    -- The copy may be out of date, but it has the origin of what stands there now.
    intro now stands
    obtain ⟨now', stands', same'⟩ := (since n listed).2 _ _ was
    rw [stands] at stands'
    cases stands'
    exact same'.symm.trans same

theorem allSound_run (orderly : ∀ t ∈ turns, t.Orderly) (good : AllSound s.pullRequests) :
    AllSound (run s turns).store.pullRequests := by
  have sound : AllSound s.pullRequests → AllSound (run s turns).store.pullRequests := by
    refine (kept (R := fun a b => AllSound a → AllSound b) (fun _ h => h)
      (fun h h' good => h' (h good)) (recorded_run s turns).linked ?_).1
    intro l m l' split _ since before
    cases m.effect with
    | nothing same =>
      rw [same]
      exact before
    | placed pr said free put =>
      rw [put]
      exact allSound_put before (sound_of_created orderly split said)
    | replaced pr old took stood opened put =>
      rw [put]
      obtain ⟨n, listed, read, was, -, sound⟩ := of_updated orderly split took
      exact allSound_put before (sound ((since n listed).1 good _ _ was))
  exact sound good

/-- However many clients come, in whatever order their calls are answered and whichever of them
fail, every stored pull request is a good one under its own id. It is never lost, and it has the
title, the author, the time and the number of reviewers that it was first stored with. -/
theorem stored_pull_requests_stay_sound (s : Store) (none : s.pullRequests = .empty)
    (turns : List Turn) (orderly : ∀ t ∈ turns, t.Orderly) :
    (∀ id pr, (run s turns).stored id = some pr → pr.id = id ∧ pr.Sound) ∧
    (∀ before after, turns = before ++ after → ∀ id first, (run s before).stored id = some first →
      ∃ now, (run s turns).stored id = some now ∧ SameOrigin first now) := by
  have good : AllSound s.pullRequests := by
    intro id pr stands
    rw [none, Register.get?_empty] at stands
    cases stands
  constructor
  · intro id pr stands
    exact ⟨Register.key_of_get? stands, allSound_run orderly good id pr stands⟩
  · rintro before after rfl id first stands
    obtain ⟨later, grows, linked⟩ := ledger_grows s before after
    rcases start_of_linked linked with same | ⟨m, listed, found⟩
    · refine ⟨first, ?_, SameOrigin.refl first⟩
      unfold stored at stands ⊢
      rw [← same]
      exact stands
    · have each := (grows_run (s := s) orderly).2
      have since := (each m (by rw [grows]; exact List.mem_append_right _ listed)).2
      unfold stored at stands
      rw [← found] at stands
      exact since id first stands

/-- Two clients reassign a new pull request, the second of them from a copy that is out of date
by then. Of two who merge it, one fails. -/
def busyTurns : List Turn :=
  [.arrive (.create { Sample.pr with reviewers := [] }) Sample.chance,
    .go 0, .go 0, .go 0, .go 0, .go 0, .go 0,
    .arrive (.reassign ⟨"p"⟩ ⟨"cid"⟩) Sample.chance,
    .arrive (.reassign ⟨"p"⟩ ⟨"dan"⟩) Sample.chance,
    .go 1, .go 2, .go 1, .go 2, .go 1, .go 2, .go 1, .go 2,
    .arrive (.merge ⟨"p"⟩) Sample.chance, .go 3, .fail 3 (.database "gone"),
    .arrive (.merge ⟨"p"⟩) Sample.chance, .go 4, .go 4]

theorem busyTurns_stay_sound :
    Sample.staffed.pullRequests = .empty ∧ (∀ t ∈ busyTurns, t.Orderly) ∧
    ((run Sample.staffed busyTurns).stored ⟨"p"⟩).map PullRequest.reviewerIds =
      some [⟨"cid"⟩, ⟨"bea"⟩] ∧
    ∀ id pr, (run Sample.staffed busyTurns).stored id = some pr → pr.id = id ∧ pr.Sound := by
  have orderly : ∀ t ∈ busyTurns, t.Orderly := by
    simp [busyTurns, Turn.Orderly]
    exact ⟨⟨0⟩, ⟨"p"⟩, "a change", ⟨"ann"⟩, [], rfl⟩
  exact ⟨rfl, orderly, rfl, (stored_pull_requests_stay_sound _ rfl _ orderly).1⟩

end Floor

end ReviewDesk
