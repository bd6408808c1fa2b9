-- Whether clients who come together might as well have come one after the other. They might
-- when every update goes over what its writer has read, and there is a run in which one does not
-- and a reassignment is lost.
import Mathlib.Data.List.Permutation
import ReviewDesk.Proofs.Overwrites

namespace ReviewDesk

open Floor PullRequest

/-! ## In turn -/

/-- The client got what it came for. -/
def Job.WentWell : (job : Job) → job.Outcome → Prop
  | create _, a => ∃ pr, a = .ok pr
  | reassign _ _, a => ∃ pr, a = .ok pr
  | merge _, a => ∃ pr, a = .ok pr
  | get _, a => ∃ pr, a = .ok pr
  | direct _, a => ∃ answer, a = .ok answer

/-- The moment is an update that the store took. -/
def Moment.wrote (m : Moment) : Bool :=
  match m.exchange with
  | ⟨.updatePullRequest _, .ok _⟩ => true
  | _ => false

namespace Floor

/-- A client has ended, and got what it came for. -/
def WentWell (f : Floor) (i : Nat) : Prop :=
  ∃ (job : Job) (chance : Chance) (a : job.Outcome),
    f.clients[i]? = some ⟨job, chance, .done a⟩ ∧ job.WentWell a

/-- Some clients do their jobs one after the other, each with any chance. -/
inductive InTurn (f : Floor) : Store → List Nat → Store → Prop
  | nil (s : Store) : InTurn f s [] s
  | cons {s t : Store} {i : Nat} {order : List Nat} {c : Client} (chance : Chance) :
      f.clients[i]? = some c → InTurn f (s.run (c.job.program chance)).2 order t →
      InTurn f s (i :: order) t

/-- The clients who got what they came for could have come one after the other, in some order,
and the pull request would look as it does. -/
def OneByOne (s : Store) (f : Floor) (id : PullRequestId) : Prop :=
  ∃ order t, order.Nodup ∧ (∀ i, i ∈ order ↔ f.WentWell i) ∧ f.InTurn s order t ∧
    (t.pullRequests.get? id).map PullRequest.view = (f.stored id).map PullRequest.view

/-- The clients whose updates were taken, in the order of the updates. -/
def writers (ledger : List Moment) : List Nat := (ledger.filter Moment.wrote).map Moment.client

variable {s : Store} {turns : List Turn} {id : PullRequestId}

theorem Writer.wentWell {f : Floor} {before : List Moment} {m : Moment} {pr : PullRequest}
    (h : Writer f id before m pr) : f.WentWell m.client := by
  cases h with
  | reassign here path replaces => exact ⟨_, _, _, here, _, rfl⟩
  | merge here path opened made => exact ⟨_, _, _, here, _, rfl⟩

/-! ## Who writes, in turn -/

theorem inTurn_append {f : Floor} {s t u : Store} {order order' : List Nat}
    (h : f.InTurn s order t) (h' : f.InTurn t order' u) : f.InTurn s (order ++ order') u := by
  induction h with
  | nil => exact h'
  | cons chance here _ ih => exact .cons chance here (ih h')

theorem wrote_iff {m : Moment} : m.wrote = true ↔ ∃ pr, m.Took pr := by
  constructor
  · intro wrote
    unfold Moment.wrote at wrote
    split at wrote
    · rename_i said
      exact ⟨_, said⟩
    · cases wrote
  · rintro ⟨pr, took⟩
    unfold Moment.wrote
    rw [show m.exchange = _ from took]

theorem mem_writers {ledger : List Moment} {i : Nat} :
    i ∈ writers ledger ↔ ∃ m ∈ ledger, m.client = i ∧ ∃ pr, m.Took pr := by
  unfold writers
  simp only [List.mem_map, List.mem_filter, wrote_iff]
  constructor
  · rintro ⟨m, ⟨listed, took⟩, client⟩
    exact ⟨m, listed, client, took⟩
  · rintro ⟨m, listed, client, took⟩
    exact ⟨m, ⟨listed, took⟩, client⟩

theorem writers_concat (ledger : List Moment) (m : Moment) :
    writers (ledger ++ [m]) =
      if m.wrote = true then writers ledger ++ [m.client] else writers ledger := by
  cases wrote : m.wrote <;> simp [writers, wrote]

theorem nodup_writers (on : ∀ t ∈ turns, t.On id) (finished : (run s turns).Finished)
    {l l' : List Moment} (split : (run s turns).ledger = l ++ l') : (writers l).Nodup := by
  induction l using List.reverseRecOn generalizing l' with
  | nil => exact .nil
  | append_singleton l m ih =>
    rw [List.append_assoc] at split
    have before := ih split
    rw [writers_concat]
    split_ifs with wrote
    · refine List.nodup_append.2 ⟨before, by simp, ?_⟩
      intro i listed j last same
      obtain ⟨pr, took⟩ := wrote_iff.1 wrote
      obtain ⟨n, earlier, client, pr', took'⟩ := mem_writers.1 listed
      rw [List.mem_singleton.1 last] at same
      exact (writer on finished split took).first earlier (client.trans same) took'
    · exact before

/-- Nothing changes at a moment that is no update. -/
theorem left_of_not_wrote (on : ∀ t ∈ turns, t.On id) {l l' : List Moment} {m : Moment}
    (split : (run s turns).ledger = l ++ m :: l') (silent : ¬ m.wrote = true) :
    m.left = m.found := by
  cases m.effect with
  | nothing same => exact same
  | placed p said =>
    obtain ⟨job, chance, came, prepares⟩ := (recorded_run s turns).prepared split said rfl
    have honest := on _ (arrived came)
    generalize trail m.client l = path at prepares
    cases job with
    | create _ | get _ | direct _ => cases honest
    | reassign _ _ | merge _ => cases prepares
  | replaced p old took => exact absurd (wrote_iff.2 ⟨p, took⟩) silent

/-- A writer whose reading is up to date comes to the same at a store that looks the same. -/
theorem Writer.inTurn (on : ∀ t ∈ turns, t.On id) {l l' : List Moment} {m : Moment}
    {pr a b : PullRequest} (split : (run s turns).ledger = l ++ m :: l') (took : m.Took pr)
    (h : Writer (run s turns) id l m pr) (fresh : UpToDate id l m) {t : Store}
    (users : t.users = s.users) (teams : t.teams = s.teams)
    (here : t.pullRequests.get? id = some a) (stood : m.found.get? id = some b)
    (alike : Alike b a) :
    ∃ t', (run s turns).InTurn t [m.client] t' ∧ t'.users = s.users ∧ t'.teams = s.teams ∧
      ∃ a', t'.pullRequests.get? id = some a' ∧ m.left.get? id = some pr ∧ Alike pr a' := by
  obtain ⟨now, stood', like⟩ := alike_of_upToDate on split took h fresh
  rw [stood] at stood'
  cases stood'
  obtain ⟨job, chance, _, changed, client, -, after, alike', same⟩ :=
    h.alone on split users teams here fun read listed => (like read listed).trans alike
  refine ⟨_, .cons chance client (.nil _), ?_⟩
  rw [after]
  refine ⟨users, teams, changed, ?_, ?_, alike'⟩
  · rw [← same]
    exact Register.get?_put_self _ _
  · rw [← (found_by_writer on split took h).1]
    exact Moment.left_of_took took

/-- While every update goes over what its writer has read, the writers so far could have come one
after the other. -/
theorem inTurn_so_far (on : ∀ t ∈ turns, t.On id) (finished : (run s turns).Finished)
    (fresh : ∀ l m l' p, (run s turns).ledger = l ++ m :: l' → m.Took p → UpToDate id l m)
    {pr : PullRequest} (stands : s.pullRequests.get? id = some pr) {l l' : List Moment}
    {mid : Shelf} (split : (run s turns).ledger = l ++ l')
    (linked : Linked s.pullRequests l mid) :
    ∃ t, (run s turns).InTurn s (writers l) t ∧ t.users = s.users ∧ t.teams = s.teams ∧
      ∃ a b, t.pullRequests.get? id = some a ∧ mid.get? id = some b ∧ Alike b a := by
  induction l using List.reverseRecOn generalizing l' mid with
  | nil =>
    cases linked
    exact ⟨s, .nil s, rfl, rfl, pr, pr, stands, stands, rfl, rfl⟩
  | append_singleton l m ih =>
    obtain ⟨_, before, rfl, rfl⟩ := linked_append.1 linked
    rw [List.append_assoc] at split
    obtain ⟨t, inTurn, users, teams, a, b, here, stood, alike⟩ := ih split before
    rw [writers_concat]
    split_ifs with wrote
    · obtain ⟨p, took⟩ := wrote_iff.1 wrote
      have h := writer on finished split took
      obtain ⟨t', next, users', teams', a', here', stands', alike'⟩ :=
        h.inTurn on split took (fresh _ _ _ _ split took) users teams here stood alike
      exact ⟨t', inTurn_append inTurn next, users', teams', a', p, here', stands', alike'⟩
    · rw [left_of_not_wrote on split wrote]
      exact ⟨t, inTurn, users, teams, a, b, here, stood, alike⟩

/-- A merge of what is merged already changes nothing. -/
theorem inTurn_merged {f : Floor} {t : Store} {a : PullRequest} {others : List Nat}
    (stands : t.pullRequests.get? id = some a)
    (h : ∀ i ∈ others, a.isMerged = true ∧ ∃ (chance : Chance) (rest : Program _),
      f.clients[i]? = some ⟨.merge id, chance, rest⟩) : f.InTurn t others t := by
  induction others with
  | nil => exact .nil t
  | cons i others ih =>
    obtain ⟨merged, chance, rest, here⟩ := h i List.mem_cons_self
    have later := ih fun j listed => h j (List.mem_cons_of_mem _ listed)
    refine .cons chance here ?_
    unfold Job.program
    dsimp only
    rw [Store.run_merge_of_merged chance stands merged]
    exact later

/-- Whoever got what it came for without a write has found the pull request merged. -/
theorem merge_of_not_writer (on : ∀ t ∈ turns, t.On id) {pr : PullRequest} {i : Nat}
    (stood : (run s turns).stored id = some pr) (well : (run s turns).WentWell i)
    (silent : i ∉ writers (run s turns).ledger) :
    pr.isMerged = true ∧ ∃ (chance : Chance) (rest : Program _),
      (run s turns).clients[i]? = some ⟨.merge id, chance, rest⟩ := by
  obtain ⟨job, chance, outcome, client, well⟩ := well
  have honest := on _ (arrived ⟨_, client⟩)
  cases job with
  | create _ | get _ | direct _ => cases honest
  | reassign id' old =>
    cases honest
    obtain ⟨⟨new, changed⟩, rfl⟩ := well
    obtain ⟨-, m, moment, mine, took⟩ := (recorded_run s turns).reassign_ok client
    exact absurd (mem_writers.2 ⟨m, moment, mine, changed, took⟩) silent
  | merge id' =>
    cases honest
    obtain ⟨last, rfl⟩ := well
    obtain ⟨stands, merged⟩ := (recorded_run s turns).merge_ok client
    rw [stood] at stands
    cases stands
    exact ⟨merged, chance, _, client⟩

theorem oneByOne_of_upToDate (on : ∀ t ∈ turns, t.On id) (finished : (run s turns).Finished)
    (fresh : ∀ l m l' p, (run s turns).ledger = l ++ m :: l' → m.Took p → UpToDate id l m)
    {pr : PullRequest} (stands : s.pullRequests.get? id = some pr) :
    OneByOne s (run s turns) id := by
  classical
  have h := recorded_run s turns
  have split : (run s turns).ledger = (run s turns).ledger ++ [] := (List.append_nil _).symm
  obtain ⟨t, inTurn, -, -, a, b, here, stood, alike⟩ :=
    inTurn_so_far on finished fresh stands split h.linked
  let others := (List.range (run s turns).clients.length).filter fun i =>
    (run s turns).WentWell i ∧ i ∉ writers (run s turns).ledger
  have mem_others : ∀ i, i ∈ others ↔
      (run s turns).WentWell i ∧ i ∉ writers (run s turns).ledger := by
    intro i
    simp only [others, List.mem_filter, List.mem_range, decide_eq_true_eq, and_iff_right_iff_imp]
    rintro ⟨⟨job, chance, a, client, -⟩, -⟩
    exact inside client
  have idle : ∀ i ∈ others, a.isMerged = true ∧ ∃ (chance : Chance) (rest : Program _),
      (run s turns).clients[i]? = some ⟨.merge id, chance, rest⟩ := by
    intro i listed
    obtain ⟨well, silent⟩ := (mem_others i).1 listed
    rw [← alike.isMerged]
    exact merge_of_not_writer on stood well silent
  refine ⟨writers (run s turns).ledger ++ others, t, ?_, ?_,
    inTurn_append inTurn (inTurn_merged here idle), ?_⟩
  · refine List.nodup_append.2 ⟨nodup_writers on finished split, List.nodup_range.filter _, ?_⟩
    intro i writes j listed same
    exact ((mem_others j).1 listed).2 (same ▸ writes)
  · intro i
    rw [List.mem_append, mem_others]
    constructor
    · rintro (writes | ⟨well, -⟩)
      · obtain ⟨m, listed, rfl, p, took⟩ := mem_writers.1 writes
        obtain ⟨l, l', split⟩ := List.append_of_mem listed
        exact (writer on finished split took).wentWell
      · exact well
    · intro well
      by_cases writes : i ∈ writers (run s turns).ledger
      · exact .inl writes
      · exact .inr ⟨well, writes⟩
  · unfold Floor.stored
    rw [here, stood, Option.map_some, Option.map_some, alike.view]

/-- When clients reassign and merge one pull request, each of their updates leaves what it would
have left had its client been alone from then on, just when each goes over the roster that its
client had read. Then the pull request looks as if all who got what they came for had come one
after the other. -/
theorem no_update_is_lost_iff (s : Store) (turns : List Turn) {id : PullRequestId}
    {pr : PullRequest} (stands : s.pullRequests.get? id = some pr) (on : ∀ t ∈ turns, t.On id)
    (finished : (run s turns).Finished) :
    ((∀ m ∈ (run s turns).ledger, ∀ p, m.Took p → (run s turns).AsIfAlone m) ↔
      ∀ l m l' p, (run s turns).ledger = l ++ m :: l' → m.Took p → UpToDate id l m) ∧
    ((∀ m ∈ (run s turns).ledger, ∀ p, m.Took p → (run s turns).AsIfAlone m) →
      OneByOne s (run s turns) id) := by
  have exact_condition :
      (∀ m ∈ (run s turns).ledger, ∀ p, m.Took p → (run s turns).AsIfAlone m) ↔
      ∀ l m l' p, (run s turns).ledger = l ++ m :: l' → m.Took p → UpToDate id l m := by
    constructor
    · intro alone l m l' p split took
      have h := writer on finished split took
      exact (asIfAlone_iff on split took h).1 (alone m (by simp [split]) p took)
    · intro fresh m listed p took
      obtain ⟨l, l', split⟩ := List.append_of_mem listed
      have h := writer on finished split took
      exact (asIfAlone_iff on split took h).2 (fresh l m l' p split took)
  refine ⟨exact_condition, ?_⟩
  intro alone
  exact oneByOne_of_upToDate on finished (exact_condition.1 alone) stands

/-- A reassignment and a merge that overlap, but not between reading and writing. -/
def calmTurns : List Turn :=
  [.arrive (.reassign ⟨"p"⟩ ⟨"bea"⟩) Sample.chance, .arrive (.merge ⟨"p"⟩) Sample.chance,
    .go 0, .go 0, .go 0, .go 0, .go 1, .go 0, .go 1, .go 1]

/-- Nothing is lost then, and the merge keeps the new roster. -/
theorem calmTurns_lose_nothing :
    (∀ t ∈ calmTurns, t.On ⟨"p"⟩) ∧ (run Sample.desk calmTurns).Finished ∧
    ((run Sample.desk calmTurns).stored ⟨"p"⟩).map PullRequest.view =
      some ([⟨"dan"⟩, ⟨"cid"⟩], .merged) ∧
    OneByOne Sample.desk (run Sample.desk calmTurns) ⟨"p"⟩ := by
  have on : ∀ t ∈ calmTurns, t.On ⟨"p"⟩ := by
    simp [calmTurns, Turn.On]
  have finished : (run Sample.desk calmTurns).Finished := by
    intro i job chance rest here
    rcases i with _ | _ | i <;> cases here <;> exact ⟨_, rfl⟩
  refine ⟨on, finished, rfl, ?_⟩
  refine (no_update_is_lost_iff Sample.desk calmTurns rfl on finished).2 ?_
  intro m listed p took
  obtain ⟨n, here⟩ := List.mem_iff_getElem?.1 listed
  rcases n with _ | _ | _ | _ | _ | _ | n <;> cases here
  · cases congrArg Exchange.call took
  · cases congrArg Exchange.call took
  · cases congrArg Exchange.call took
  · exact ⟨_, _, _, rfl, Sample.chance, rfl, rfl⟩
  · cases congrArg Exchange.call took
  · exact ⟨_, _, _, rfl, Sample.chance, rfl⟩

/-! ## Two reassignments, one of them lost -/

/-- Two clients read the roster before either of them writes. -/
def raceTurns : List Turn :=
  [.arrive (.reassign ⟨"p"⟩ ⟨"bea"⟩) Sample.chance,
    .arrive (.reassign ⟨"p"⟩ ⟨"cid"⟩) Sample.chance,
    .go 0, .go 0, .go 0, .go 1, .go 1, .go 1, .go 0, .go 1, .go 0, .go 1]

/-- A pull request of Ann's that is open and has some roster. -/
def Listed (s : Store) (ids : List UserId) : Prop :=
  s.users = Sample.desk.users ∧ s.teams = Sample.desk.teams ∧ ∃ pr : PullRequest,
    s.pullRequests.get? ⟨"p"⟩ = some pr ∧ pr.author = ⟨"ann"⟩ ∧ pr.view = (ids, .opened)

/-- When there is only one to choose from, neither the clock nor the draws matter. -/
theorem listed_reassign {s : Store} {ids : List UserId} (old new : UserId) (chance : Chance)
    (h : Listed s ids) (listed : old ∈ ids) (other : new ≠ ⟨"ann"⟩) (fresh : new ∉ ids)
    (only : Selection.eligible (Sample.desk.activeMembers ⟨1⟩) ⟨"ann"⟩
      (ids ++ [⟨"ann"⟩, old]) = [new]) :
    Listed (s.run ((Job.reassign ⟨"p"⟩ old).program chance)).2 (ids.replace old new) := by
  obtain ⟨users, teams, pr, stands, author, view⟩ := h
  obtain ⟨names, status⟩ := Prod.mk.inj view
  have opened : pr.isMerged = false := by
    unfold PullRequest.isMerged
    rw [status]
    rfl
  have inTeam : s.teamOf pr.author = some Sample.team := by
    rw [Store.teamOf_congr users teams, author]
    rfl
  have chosen : Selection.selectOne? chance.draws (s.activeMembers Sample.team.id) pr.author
      (pr.reviewerIds ++ [pr.author, old]) = some new := by
    rw [Store.activeMembers_congr users, author, names]
    unfold Selection.selectOne? Selection.select
    rw [show Sample.team.id = ⟨1⟩ from rfl, only]
    rfl
  rw [← names] at listed fresh
  rw [← author] at other
  have made := reassign_of_open (chance.clock 0) opened listed other fresh
  generalize ({ pr with reviewers := _ } : PullRequest) = changed at made
  have alone := Store.run_reassign stands inTeam ⟨chosen, made⟩
  unfold Job.program
  dsimp only
  rw [alone]
  have origin := sameOrigin_of_reassign made
  refine ⟨users, teams, changed, ?_, origin.author.trans author, ?_⟩
  · rw [← Register.key_of_get? stands, ← origin.id]
    exact Register.get?_put_self _ _
  · rw [view_of_reassign made, names, status]

/-- Alone, in either order, the two come to other rosters. -/
theorem raceTurns_alone (chance chance' : Chance) :
    Listed ((Sample.desk.run ((Job.reassign ⟨"p"⟩ ⟨"bea"⟩).program chance)).2.run
      ((Job.reassign ⟨"p"⟩ ⟨"cid"⟩).program chance')).2 [⟨"dan"⟩, ⟨"bea"⟩] ∧
    Listed ((Sample.desk.run ((Job.reassign ⟨"p"⟩ ⟨"cid"⟩).program chance)).2.run
      ((Job.reassign ⟨"p"⟩ ⟨"bea"⟩).program chance')).2 [⟨"cid"⟩, ⟨"dan"⟩] := by
  have start : Listed Sample.desk [⟨"bea"⟩, ⟨"cid"⟩] := ⟨rfl, rfl, Sample.pr, rfl, rfl, rfl⟩
  constructor
  · have first : Listed _ [⟨"dan"⟩, ⟨"cid"⟩] :=
      listed_reassign ⟨"bea"⟩ ⟨"dan"⟩ chance start (by decide) (by decide) (by decide) (by decide)
    exact listed_reassign ⟨"cid"⟩ ⟨"bea"⟩ chance' first (by decide) (by decide) (by decide)
      (by decide)
  · have first : Listed _ [⟨"bea"⟩, ⟨"dan"⟩] :=
      listed_reassign ⟨"cid"⟩ ⟨"dan"⟩ chance start (by decide) (by decide) (by decide) (by decide)
    exact listed_reassign ⟨"bea"⟩ ⟨"cid"⟩ chance' first (by decide) (by decide) (by decide)
      (by decide)

theorem Listed.shown {s : Store} {ids : List UserId} (h : Listed s ids) :
    (s.pullRequests.get? ⟨"p"⟩).map PullRequest.view = some (ids, .opened) := by
  obtain ⟨-, -, pr, stands, -, view⟩ := h
  rw [stands, Option.map_some, view]

/-- What comes of two clients who do their jobs one after the other. -/
theorem run_of_inTurn_two {f : Floor} {s t : Store} {i j : Nat} {c c' : Client}
    (here : f.clients[i]? = some c) (here' : f.clients[j]? = some c')
    (inTurn : f.InTurn s [i, j] t) :
    ∃ chance chance', t =
      ((s.run (c.job.program chance)).2.run (c'.job.program chance')).2 := by
  cases inTurn with
  | cons chance there later =>
    cases here.symm.trans there
    cases later with
    | cons chance' there' later =>
      cases here'.symm.trans there'
      cases later
      exact ⟨chance, chance', rfl⟩

/-- Both clients of the race get what they came for, and there is nobody else. -/
theorem raceTurns_wentWell (i : Nat) :
    (run Sample.desk raceTurns).WentWell i ↔ i = 0 ∨ i = 1 := by
  constructor
  · rintro ⟨job, chance, a, here, -⟩
    have count : (run Sample.desk raceTurns).clients.length = 2 := rfl
    have within := inside here
    omega
  · rintro (rfl | rfl)
    · exact ⟨_, _, _, rfl, _, rfl⟩
    · exact ⟨_, _, _, rfl, _, rfl⟩

/-- Bea's place has gone to Dan, but Bea has it again. -/
theorem a_reassignment_can_be_lost :
    (∀ t ∈ raceTurns, t.On ⟨"p"⟩) ∧ (∀ i e, .fail i e ∉ raceTurns) ∧
    (run Sample.desk raceTurns).Finished ∧ (run Sample.desk raceTurns).WentWell 0 ∧
    (run Sample.desk raceTurns).WentWell 1 ∧
    ((run Sample.desk raceTurns).stored ⟨"p"⟩).map PullRequest.view =
      some ([⟨"bea"⟩, ⟨"dan"⟩], .opened) ∧
    ¬ OneByOne Sample.desk (run Sample.desk raceTurns) ⟨"p"⟩ := by
  have stored : ((run Sample.desk raceTurns).stored ⟨"p"⟩).map PullRequest.view =
      some ([⟨"bea"⟩, ⟨"dan"⟩], .opened) := rfl
  refine ⟨by simp [raceTurns, Turn.On], by simp [raceTurns], ?_,
    (raceTurns_wentWell 0).2 (.inl rfl), (raceTurns_wentWell 1).2 (.inr rfl), stored, ?_⟩
  · intro i job chance rest here
    rcases i with _ | _ | i <;> cases here <;> exact ⟨_, rfl⟩
  · rintro ⟨order, t, nodup, all, inTurn, view⟩
    rw [stored] at view
    have two : order.Perm [0, 1] :=
      (List.perm_ext_iff_of_nodup nodup (by decide)).2 fun i => by
        rw [all, raceTurns_wentWell, List.mem_pair]
    -- The store would hold one roster or the other, and it holds neither.
    rcases List.perm_pair.1 two with rfl | rfl
    · obtain ⟨chance, chance', rfl⟩ := run_of_inTurn_two rfl rfl inTurn
      rw [(raceTurns_alone chance chance').1.shown] at view
      revert view
      decide
    · obtain ⟨chance, chance', rfl⟩ := run_of_inTurn_two rfl rfl inTurn
      rw [(raceTurns_alone chance chance').2.shown] at view
      revert view
      decide

end Floor

end ReviewDesk
