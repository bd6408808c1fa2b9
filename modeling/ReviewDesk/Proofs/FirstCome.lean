-- Several clients come to create a pull request under one id. To see that the id is free is one
-- call and to take it is another, and there are more in between. The first write that is taken
-- decides. Whoever is later is turned away at the look or at the write, and leaves nothing behind.
import ReviewDesk.Proofs.AllOrNothing
import ReviewDesk.Proofs.Outcomes

namespace ReviewDesk

open Floor

/-- Nobody comes but to create an open pull request under one id. -/
def Turn.Creates (id : PullRequestId) : Turn → Prop
  | .arrive (.create pr) _ => pr.id = id ∧ pr.isMerged = false
  | .arrive _ _ => False
  | .go _ | .fail _ _ => True
  | .staff _ _ => False

/-! ## What stands stays -/

/-- Whatever stands on the one shelf stands on the other. -/
def Keeps (a b : Shelf) : Prop := ∀ id pr, a.get? id = some pr → b.get? id = some pr

theorem keeps_refl (a : Shelf) : Keeps a a := fun _ _ stands => stands

theorem keeps_trans {a b c : Shelf} (h : Keeps a b) (h' : Keeps b c) : Keeps a c :=
  fun id pr stands => h' id pr (h id pr stands)

theorem keeps_put {a : Shelf} {pr : PullRequest} (free : a.get? pr.id = none) :
    Keeps a (a.put pr) := by
  intro id old stands
  have other : pr.id ≠ id := by
    rintro rfl
    rw [free] at stands
    cases stands
  rw [Register.get?_put_of_ne a other]
  exact stands

/-! ## Writes that take an id -/

theorem Moment.of_placed {m : Moment} {pr : PullRequest} (h : m.Placed pr) :
    m.found.get? pr.id = none ∧ m.left.get? pr.id = some pr := by
  obtain ⟨said, after⟩ := answered h
  rw [Store.answer_create] at said after
  rcases free : m.before.pullRequests.get? pr.id with _ | found
  · rw [Store.create_of_free free] at after
    refine ⟨free, ?_⟩
    unfold left
    rw [after]
    exact Register.get?_put_self _ pr
  · rw [Store.create_of_taken free] at said
    cases said

/-- A creation that the store refuses finds its id taken. -/
theorem Moment.taken_of_refused {m : Moment} {pr : PullRequest} {e : StoreError}
    (said : m.exchange = ⟨.createPullRequest pr, .error e⟩) (smooth : m.fault = none) :
    e = Store.taken pr.id ∧ ∃ found, m.found.get? pr.id = some found := by
  have refused := reply_of_smooth said smooth
  rw [Store.answer_create] at refused
  rcases stands : m.before.pullRequests.get? pr.id with _ | found
  · rw [Store.create_of_free stands] at refused
    cases refused
  · rw [Store.create_of_taken stands] at refused
    exact ⟨Except.error.inj refused, found, stands⟩

/-- Where an id is taken that was free at first, somebody has taken it. -/
theorem placed_of_stands {start finish : Shelf} {ledger : List Moment} {id : PullRequestId}
    {m : Moment} {found : PullRequest} (linked : Linked start ledger finish)
    (free : start.get? id = none) (listed : m ∈ ledger) (stands : m.found.get? id = some found) :
    ∃ n ∈ ledger, ∃ pr, n.Placed pr ∧ pr.id = id := by
  by_contra nobody
  have still : start.get? id = none → m.found.get? id = none := by
    refine ((kept (R := fun a b => a.get? id = none → b.get? id = none) (fun _ h => h)
      (fun h h' free => h' (h free)) linked ?_).2 m listed).1
    intro l n l' split _ _ free
    cases n.effect with
    | nothing same =>
      rw [same]
      exact free
    | placed pr said _ put =>
      have other : pr.id ≠ id := fun same => nobody ⟨n, by simp [split], pr, said, same⟩
      rw [put, Register.get?_put_of_ne _ other]
      exact free
    | replaced pr old _ stood _ put =>
      have other : pr.id ≠ id := by
        rintro rfl
        rw [free] at stood
        cases stood
      rw [put, Register.get?_put_of_ne _ other]
      exact free
  rw [still free] at stands
  cases stands

namespace Floor

variable {s : Store} {turns : List Turn} {id : PullRequestId} {i : Nat}

/-! ## One write for all -/

theorem creator (creates : ∀ t ∈ turns, t.Creates id) {job : Job} {chance : Chance}
    (came : (run s turns).CameFor i job chance) :
    ∃ new, job = .create new ∧ .arrive (.create new) chance ∈ turns ∧ new.id = id ∧
      new.isMerged = false := by
  have arrival := arrived came
  have creates := creates _ arrival
  cases job with
  | create new => exact ⟨new, rfl, arrival, creates⟩
  | reassign _ _ | merge _ | get _ | direct _ => cases creates

/-- Whatever is written goes under the one id. -/
theorem id_of_placed (creates : ∀ t ∈ turns, t.Creates id) {m : Moment} {pr : PullRequest}
    (listed : m ∈ (run s turns).ledger) (placed : m.Placed pr) : pr.id = id := by
  obtain ⟨l, l', split⟩ := List.append_of_mem listed
  obtain ⟨job, chance, came, prepares⟩ := (recorded_run s turns).prepared split placed rfl
  obtain ⟨new, rfl, -, same, -⟩ := creator creates came
  generalize trail m.client l = before at prepares
  cases prepares with
  | create filled => exact (PullRequest.id_of_assignAll filled).trans same

/-- A moment changes nothing, or somebody takes the one id while it is free. -/
theorem still_or_placed (creates : ∀ t ∈ turns, t.Creates id) {m : Moment}
    (listed : m ∈ (run s turns).ledger) :
    m.left = m.found ∨ ∃ pr, pr.id = id ∧ m.found.get? pr.id = none ∧
      m.left = m.found.put pr := by
  cases m.effect with
  | nothing same => exact .inl same
  | placed pr placed free put => exact .inr ⟨pr, id_of_placed creates listed placed, free, put⟩
  | replaced pr old took =>
    obtain ⟨l, l', split⟩ := List.append_of_mem listed
    obtain ⟨job, chance, came, prepares⟩ := (recorded_run s turns).prepared split took rfl
    obtain ⟨new, rfl, -⟩ := creator creates came
    generalize trail m.client l = before at prepares
    cases prepares

theorem keeps_moment (creates : ∀ t ∈ turns, t.Creates id) {m : Moment}
    (listed : m ∈ (run s turns).ledger) : Keeps m.found m.left := by
  rcases still_or_placed creates listed with same | ⟨pr, -, free, put⟩
  · rw [same]
    exact keeps_refl _
  · rw [put]
    exact keeps_put free

/-- Nothing happens under any other id. -/
theorem stored_elsewhere (creates : ∀ t ∈ turns, t.Creates id) {other : PullRequestId}
    (elsewhere : other ≠ id) : (run s turns).stored other = s.pullRequests.get? other := by
  refine ((kept (R := fun a b => a.get? other = b.get? other) (fun _ => rfl)
    (fun h h' => h.trans h') (recorded_run s turns).linked ?_).1).symm
  intro l m l' split _ _
  rcases still_or_placed (s := s) creates (show m ∈ (run s turns).ledger by simp [split]) with
    same | ⟨pr, rfl, -, put⟩
  · rw [same]
  · rw [put, Register.get?_put_of_ne _ elsewhere.symm]

/-- What a moment leaves is there at every later moment, and in the end. -/
theorem keeps_since (creates : ∀ t ∈ turns, t.Creates id) {l l' : List Moment} {m : Moment}
    (split : (run s turns).ledger = l ++ m :: l') :
    Keeps m.left (run s turns).store.pullRequests ∧ ∀ n ∈ l', Keeps m.left n.found := by
  have linked := (recorded_run s turns).linked
  rw [split] at linked
  exact kept_since keeps_refl keeps_trans linked fun n later =>
    keeps_moment (s := s) creates (by simp [split, later])

/-- After a write that was taken there is no other. -/
theorem placed_once (creates : ∀ t ∈ turns, t.Creates id) {l l' : List Moment} {m n : Moment}
    {pr pr' : PullRequest} (split : (run s turns).ledger = l ++ m :: l') (later : n ∈ l')
    (placed : m.Placed pr) (placed' : n.Placed pr') : False := by
  have same := id_of_placed creates (show m ∈ (run s turns).ledger by simp [split]) placed
  have same' := id_of_placed creates (show n ∈ (run s turns).ledger by simp [split, later]) placed'
  have stands := (keeps_since creates split).2 n later _ _ (Moment.of_placed placed).2
  have free := (Moment.of_placed placed').1
  rw [same', ← same, stands] at free
  cases free

/-- There is one write that was taken, and it is one client's. -/
theorem placed_unique (creates : ∀ t ∈ turns, t.Creates id) {m n : Moment}
    {pr pr' : PullRequest} (listed : m ∈ (run s turns).ledger) (listed' : n ∈ (run s turns).ledger)
    (placed : m.Placed pr) (placed' : n.Placed pr') : m = n := by
  obtain ⟨l, l', split⟩ := List.append_of_mem listed
  rw [split] at listed'
  rcases List.mem_append.1 listed' with earlier | here
  · obtain ⟨a, b, rfl⟩ := List.append_of_mem earlier
    have split' : (run s turns).ledger = a ++ n :: (b ++ m :: l') := by simp [split]
    exact (placed_once creates split' (by simp) placed' placed).elim
  · rcases List.mem_cons.1 here with same | later
    · exact same.symm
    · exact (placed_once creates split later placed placed').elim

/-! ## What the clients go away with -/

/-- A client goes away with the pull request that it has created. -/
def Created (f : Floor) (i : Nat) (pr : PullRequest) : Prop :=
  ∃ new chance, f.clients[i]? = some ⟨.create new, chance, .done (.ok pr)⟩

/-- A client is turned away because the id is taken, at the look or at the write. -/
def CameLate (f : Floor) (i : Nat) (id : PullRequestId) : Prop :=
  ∃ new chance e, f.clients[i]? = some ⟨.create new, chance, .done (.error e)⟩ ∧
    (e = .pullRequestAlreadyExists id ∨ e = .store (Store.taken id)) ∧ e.kind = .conflict

/-- Whoever goes away with a pull request has written it. -/
theorem placed_of_created {pr : PullRequest} (h : (run s turns).Created i pr) :
    ∃ m ∈ (run s turns).ledger, m.client = i ∧ m.Placed pr := by
  obtain ⟨new, chance, here⟩ := h
  have ends := Assignment.create_ends ((recorded_run s turns).brought i _ _ _ here)
  generalize path : trail i (run s turns).ledger = path at ends
  cases ends with
  | written => exact mem_trail (by rw [path]; simp)

/-- Whoever has written goes away with it in the end. -/
theorem created_of_placed (creates : ∀ t ∈ turns, t.Creates id)
    (finished : (run s turns).Finished) {m : Moment} {pr : PullRequest}
    (listed : m ∈ (run s turns).ledger) (placed : m.Placed pr) :
    (run s turns).Created m.client pr := by
  have h := recorded_run s turns
  obtain ⟨l, l', split⟩ := List.append_of_mem listed
  obtain ⟨job, chance, ⟨rest, here⟩, -⟩ := h.asked l m l' split
  obtain ⟨new, rfl, -⟩ := creator creates ⟨rest, here⟩
  obtain ⟨a, rfl⟩ := finished _ _ _ _ here
  have wrote : m.exchange.Wrote pr := by
    rw [show m.exchange = _ from placed]
    exact .created pr
  have ends := h.brought _ _ _ _ here
  obtain ⟨rfl, -⟩ := Job.create_ends_of_wrote ends (exchange_mem_trail listed) wrote
  exact ⟨new, chance, here⟩

/-- Where no call fails and every author has a team, whoever does not go away with a pull request
has come late, and the id was taken at some moment. -/
theorem created_or_late (creates : ∀ t ∈ turns, t.Creates id)
    (smooth : ∀ m ∈ (run s turns).ledger, m.fault = none)
    (authors : ∀ new chance, .arrive (.create new) chance ∈ turns → ∃ t, s.InTeam new.author t)
    (finished : (run s turns).Finished) (here : i < (run s turns).clients.length) :
    (∃ pr, (run s turns).Created i pr) ∨ (run s turns).CameLate i id ∧
      ∃ m ∈ (run s turns).ledger, ∃ found, m.found.get? id = some found := by
  obtain ⟨⟨job, chance, rest⟩, here⟩ : ∃ c, (run s turns).clients[i]? = some c :=
    ⟨_, List.getElem?_eq_getElem here⟩
  obtain ⟨new, rfl, arrival, rfl, opened⟩ := creator creates ⟨rest, here⟩
  obtain ⟨t, inTeam⟩ := authors new chance arrival
  obtain ⟨outcome, rfl⟩ := finished _ _ _ _ here
  have quiet : ∀ users teams, .staff users teams ∉ turns := fun _ _ listed => creates _ listed
  have staff := (staff_unmoved (s := s) quiet).2
  have users : ∀ m ∈ (run s turns).ledger, m.before.users = s.users := fun m listed =>
    (staff m listed).1
  have ends := Assignment.create_ends ((recorded_run s turns).brought i _ _ _ here)
  generalize path : trail i (run s turns).ledger = path at ends
  cases ends with
  | written => exact .inl ⟨_, new, chance, here⟩
  | taken found =>
    obtain ⟨m, listed, -, stands⟩ := read_of_trail (path ▸ List.mem_cons_self)
    exact .inr ⟨⟨new, chance, _, here, .inl rfl, rfl⟩, m, listed, found, stands⟩
  | @refused author team members filled e made =>
    have last : ⟨.createPullRequest filled, .error e⟩ ∈ trail i (run s turns).ledger := by
      rw [path]
      simp
    obtain ⟨m, listed, -, said⟩ := mem_trail last
    obtain ⟨rfl, found, stands⟩ := Moment.taken_of_refused said (smooth m listed)
    rw [PullRequest.id_of_assignAll made] at stands here
    exact .inr ⟨⟨new, chance, _, here, .inr rfl, rfl⟩, m, listed, found, stands⟩
  | @unread reads c e only read =>
    have last : ⟨c, .error e⟩ ∈ trail i (run s turns).ledger := by
      rw [path]
      simp
    exact absurd last (read_succeeds smooth read)
  -- No author is unknown or without a team, and nobody is drawn whom the roster refuses.
  | authorUnknown =>
    have unknown : s.users.get? new.author = none := user_of_trail users (by rw [path]; simp)
    obtain ⟨known, -, stored, -⟩ := inTeam
    rw [unknown] at stored
    cases stored
  | teamUnknown author =>
    have known : s.users.get? new.author = some author := user_of_trail users (by rw [path]; simp)
    have wrote : author.id = new.author := Register.key_of_get? known
    have teamless : s.teamOf author.id = none := teamOf_of_trail staff (by rw [path]; simp)
    obtain ⟨team, stored, -⟩ := Store.teamOf_of_inTeam inTeam
    rw [← wrote, teamless] at stored
    cases stored
  | @unfilled author team members flaw flawed =>
    have known : s.users.get? new.author = some author :=
      user_of_trail users (by rw [path]; simp [Assignment.createReads])
    obtain ⟨added, made, -⟩ :=
      Assignment.assignAll_drawn chance opened (Register.key_of_get? known) members
    rw [flawed] at made
    cases made

/-- Where nobody has a certain id yet and all come to create it, one of them at most goes away with
a pull request, and this is what is stored. Nothing that is stored is ever changed by them, and
nothing else is stored. When no call fails and every author has a team, one of them does go away
with it, and all others are turned away with a conflict. -/
theorem first_come (s : Store) (turns : List Turn) {id : PullRequestId}
    (free : s.pullRequests.get? id = none) (creates : ∀ t ∈ turns, t.Creates id) :
    (∀ i j pr pr', (run s turns).Created i pr → (run s turns).Created j pr' → i = j) ∧
    (∀ i pr, (run s turns).Created i pr → (run s turns).stored id = some pr) ∧
    (∀ before after, turns = before ++ after → ∀ other pr,
      (run s before).stored other = some pr → (run s turns).stored other = some pr) ∧
    (∀ other, other ≠ id → (run s turns).stored other = s.pullRequests.get? other) ∧
    ((∀ m ∈ (run s turns).ledger, m.fault = none) →
      (∀ new chance, .arrive (.create new) chance ∈ turns → ∃ t, s.InTeam new.author t) →
      (run s turns).Finished → (run s turns).clients ≠ [] →
      ∃ i pr, (run s turns).Created i pr ∧
        ∀ j < (run s turns).clients.length, j ≠ i → (run s turns).CameLate j id) := by
  have h := recorded_run s turns
  have one : ∀ i j pr pr', (run s turns).Created i pr → (run s turns).Created j pr' → i = j := by
    intro i j pr pr' mine yours
    obtain ⟨m, listed, rfl, placed⟩ := placed_of_created mine
    obtain ⟨n, listed', rfl, placed'⟩ := placed_of_created yours
    rw [placed_unique creates listed listed' placed placed']
  refine ⟨one, ?_, ?_, fun other elsewhere => stored_elsewhere creates elsewhere, ?_⟩
  · intro i pr created
    obtain ⟨m, listed, -, placed⟩ := placed_of_created created
    obtain rfl := id_of_placed creates listed placed
    obtain ⟨l, l', split⟩ := List.append_of_mem listed
    exact (keeps_since creates split).1 _ _ (Moment.of_placed placed).2
  · rintro before after rfl
    obtain ⟨later, grows, linked⟩ := ledger_grows s before after
    exact (kept keeps_refl keeps_trans linked fun l m l' split _ _ =>
      keeps_moment (s := s) creates (by simp [grows, split])).1
  · intro smooth authors finished somebody
    have each : ∀ i < (run s turns).clients.length, _ := fun i here =>
      created_or_late creates smooth authors finished here
    obtain ⟨i, pr, created⟩ : ∃ i pr, (run s turns).Created i pr := by
      rcases each 0 (List.length_pos_of_ne_nil somebody) with
        ⟨pr, created⟩ | ⟨-, m, listed, found, stands⟩
      · exact ⟨0, pr, created⟩
      · -- Whoever was before this one has gone away with it.
        obtain ⟨n, before, pr, placed, -⟩ := placed_of_stands h.linked free listed stands
        exact ⟨n.client, pr, created_of_placed creates finished before placed⟩
    refine ⟨i, pr, created, ?_⟩
    intro j here other
    rcases each j here with ⟨pr', created'⟩ | ⟨late, -⟩
    · exact absurd (one j i pr' pr created' created) other
    · exact late

/-- Ann opens it with nobody on its roster. -/
def freshPullRequest : PullRequest := { Sample.pr with reviewers := [] }

/-- Two clients find the id free. The second of them writes first, and a third comes after that. -/
def racingCreations : List Turn :=
  [.arrive (.create freshPullRequest) Sample.chance,
    .arrive (.create freshPullRequest) Sample.chance,
    .go 0, .go 1, .go 0, .go 1, .go 0, .go 1, .go 0, .go 1, .go 0, .go 1, .go 1, .go 0, .go 1,
    .arrive (.create freshPullRequest) Sample.chance, .go 2]

/-- The first is turned away at its write, and the third at its look. -/
theorem racingCreations_first_come :
    (run Sample.staffed racingCreations).clients[0]? = some ⟨.create freshPullRequest,
      Sample.chance, .done (.error (.store (Store.taken ⟨"p"⟩)))⟩ ∧
    (run Sample.staffed racingCreations).clients[2]? = some ⟨.create freshPullRequest,
      Sample.chance, .done (.error (.pullRequestAlreadyExists ⟨"p"⟩))⟩ ∧
    ∃ pr, (run Sample.staffed racingCreations).Created 1 pr ∧
      (run Sample.staffed racingCreations).stored ⟨"p"⟩ = some pr ∧
      (run Sample.staffed racingCreations).CameLate 0 ⟨"p"⟩ ∧
      (run Sample.staffed racingCreations).CameLate 2 ⟨"p"⟩ := by
  refine ⟨rfl, rfl, ?_⟩
  have creates : ∀ t ∈ racingCreations, t.Creates ⟨"p"⟩ := by
    simp [racingCreations, Turn.Creates, freshPullRequest, Sample.pr, PullRequest.isMerged]
  obtain ⟨one, stored, -, -, well⟩ := first_come Sample.staffed racingCreations rfl creates
  have smooth : ∀ m ∈ (run Sample.staffed racingCreations).ledger, m.fault = none :=
    smooth_of_no_fail fun i e => by simp [racingCreations]
  have authors : ∀ new chance, .arrive (.create new) chance ∈ racingCreations →
      ∃ t, Sample.staffed.InTeam new.author t := by
    intro new chance listed
    have same : new = freshPullRequest ∧ chance = Sample.chance := by
      simpa [racingCreations] using listed
    exact ⟨⟨1⟩, Sample.member "ann", Sample.team, same.1 ▸ rfl, rfl, rfl⟩
  have finished : (run Sample.staffed racingCreations).Finished := by
    intro i job chance rest here
    rcases i with _ | _ | _ | i <;> cases here <;> exact ⟨_, rfl⟩
  obtain ⟨i, pr, created, late⟩ := well smooth authors finished (by decide)
  have winner : i = 1 := one i 1 pr _ created ⟨_, _, rfl⟩
  subst winner
  exact ⟨pr, created, stored 1 pr created, late 0 (by decide) (by decide),
    late 2 (by decide) (by decide)⟩

end Floor

end ReviewDesk
