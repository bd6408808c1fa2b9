-- What the ledger of a floor says. Every client is where the replies in the ledger have brought
-- it, every call in it was the next one of its client, and between two calls the pull requests
-- of the store do not change. So what each write keeps, every run keeps.
import Mathlib.Data.List.Induction
import ReviewDesk.Proofs.Floor
import ReviewDesk.Proofs.Shelf
import ReviewDesk.Text.Cut

namespace ReviewDesk

/-! ## One moment -/

namespace Moment

/-- The pull requests before a moment. -/
def found (m : Moment) : Shelf := m.before.pullRequests

/-- The pull requests after a moment. -/
def left (m : Moment) : Shelf := m.after.pullRequests

/-- What a moment makes of the pull requests. They stay as they are, or a free place is taken,
or an open pull request is written over. -/
inductive Effect (m : Moment) : Prop
  | nothing (same : m.left = m.found)
  | placed (pr : PullRequest) (said : m.exchange = ⟨.createPullRequest pr, .ok ()⟩)
      (free : m.found.get? pr.id = none) (put : m.left = m.found.put pr)
  | replaced (pr old : PullRequest) (said : m.Took pr) (stood : m.found.get? pr.id = some old)
      (opened : old.isMerged = false) (put : m.left = m.found.put pr)

theorem effect (m : Moment) : m.Effect := by
  obtain ⟨client, before, call, fault⟩ := m
  cases fault with
  | some e => exact .nothing rfl
  | none =>
    have h := before.writes_answer call
    generalize outcome_eq : before.answer call = outcome at h
    cases h with
    | nothing reply => exact .nothing (congrArg (fun o => o.2.pullRequests) outcome_eq)
    | placed free =>
      refine .placed _ ?_ free (congrArg (fun o => o.2.pullRequests) outcome_eq)
      exact congrArg (fun o => (⟨_, o.1⟩ : Exchange)) outcome_eq
    | replaced stood opened =>
      refine .replaced _ _ ?_ stood opened (congrArg (fun o => o.2.pullRequests) outcome_eq)
      exact congrArg (fun o => (⟨_, o.1⟩ : Exchange)) outcome_eq

theorem staff (m : Moment) :
    m.after.users = m.before.users ∧ m.after.teams = m.before.teams := by
  obtain ⟨client, before, call, fault⟩ := m
  cases fault with
  | some e => exact ⟨rfl, rfl⟩
  | none => exact before.staff_of_answer call

/-- A call that went well was answered by the store. -/
theorem answered {m : Moment} {c : Call} {a : c.Answer} (h : m.exchange = ⟨c, .ok a⟩) :
    (m.before.answer c).1 = .ok a ∧ m.after = (m.before.answer c).2 := by
  obtain ⟨client, before, call, fault⟩ := m
  unfold exchange at h
  injection h with same said
  dsimp only at same
  subst same
  have said := eq_of_heq said
  cases fault with
  | some e => cases said
  | none => exact ⟨said, rfl⟩

/-- A call that did not fail on the way was answered by the store. -/
theorem reply_of_smooth {m : Moment} {c : Call} {r : c.Reply} (h : m.exchange = ⟨c, r⟩)
    (smooth : m.fault = none) : r = (m.before.answer c).1 := by
  obtain ⟨client, before, call, fault⟩ := m
  cases smooth
  unfold exchange at h
  injection h with same said
  dsimp only at same
  subst same
  exact (eq_of_heq said).symm

theorem found_of_find {m : Moment} {id : PullRequestId} {pr : Option PullRequest}
    (h : m.exchange = ⟨.findPullRequest id, .ok pr⟩) : m.found.get? id = pr :=
  Except.ok.inj (answered h).1

theorem of_took {m : Moment} {pr : PullRequest} (h : m.Took pr) :
    ∃ old, m.found.get? pr.id = some old ∧ old.isMerged = false ∧
      m.after = { m.before with pullRequests := m.found.put pr } := by
  obtain ⟨said, after⟩ := answered h
  rw [Store.answer_update] at said after
  rcases stood : m.before.pullRequests.get? pr.id with _ | old
  · rw [Store.update_of_missing stood] at said
    cases said
  · rcases merged : old.isMerged with _ | _
    · rw [Store.update_of_open stood merged] at after
      exact ⟨old, stood, merged, after⟩
    · rw [Store.update_of_merged stood merged] at said
      cases said

/-- What a moment wrote stands on the shelf after it. -/
theorem left_of_took {m : Moment} {pr : PullRequest} (h : m.Took pr) :
    m.left.get? pr.id = some pr := by
  obtain ⟨old, -, -, after⟩ := of_took h
  unfold left
  rw [after]
  exact Register.get?_put_self _ pr

end Moment

/-! ## The trail of one client -/

theorem trail_append (i : Nat) (l l' : List Moment) :
    trail i (l ++ l') = trail i l ++ trail i l' := by
  unfold trail
  rw [List.filter_append, List.map_append]

theorem trail_concat (l : List Moment) (m : Moment) :
    trail m.client (l ++ [m]) = trail m.client l ++ [m.exchange] := by
  simp [trail]

theorem trail_concat_of_ne {i : Nat} (l : List Moment) {m : Moment} (h : m.client ≠ i) :
    trail i (l ++ [m]) = trail i l := by
  simp [trail, h]

/-- Where the trail of a client can be cut, the ledger can be cut. -/
theorem trail_split {i : Nat} {ledger : List Moment} {x : Exchange} {before after : List Exchange}
    (h : trail i ledger = before ++ x :: after) :
    ∃ l m l', ledger = l ++ m :: l' ∧ m.client = i ∧ m.exchange = x ∧ trail i l = before ∧
      trail i l' = after := by
  unfold trail at h
  obtain ⟨first, rest, filtered, rfl, said⟩ := List.map_eq_append_iff.1 h
  obtain ⟨m, later, rfl, rfl, rfl⟩ := List.map_eq_cons_iff.1 said
  obtain ⟨l, tail, rfl, rfl, mine⟩ := List.filter_eq_append_iff.1 filtered
  obtain ⟨skipped, l', rfl, none, client, rfl⟩ := List.filter_eq_cons_iff.1 mine
  refine ⟨l ++ skipped, m, l', by simp, of_decide_eq_true client, rfl, ?_, rfl⟩
  have quiet : trail i skipped = [] := by
    unfold trail
    rw [List.map_eq_nil_iff, List.filter_eq_nil_iff]
    exact none
  rw [trail_append, quiet, List.append_nil]
  rfl

theorem exchange_mem_trail {ledger : List Moment} {m : Moment} (listed : m ∈ ledger) :
    m.exchange ∈ trail m.client ledger := by
  unfold trail
  exact List.mem_map_of_mem (List.mem_filter.2 ⟨listed, decide_eq_true rfl⟩)

/-- What stands in the trail of a client was said at some moment. -/
theorem mem_trail {i : Nat} {ledger : List Moment} {x : Exchange} (h : x ∈ trail i ledger) :
    ∃ m ∈ ledger, m.client = i ∧ m.exchange = x := by
  unfold trail at h
  simp only [List.mem_map, List.mem_filter, decide_eq_true_eq] at h
  obtain ⟨m, ⟨listed, client⟩, said⟩ := h
  exact ⟨m, listed, client, said⟩

/-- Whatever a client has read stood on the shelf at some moment. -/
theorem read_of_trail {i : Nat} {ledger : List Moment} {id : PullRequestId}
    {pr : Option PullRequest} (h : ⟨.findPullRequest id, .ok pr⟩ ∈ trail i ledger) :
    ∃ m ∈ ledger, m.client = i ∧ m.found.get? id = pr := by
  obtain ⟨m, listed, client, said⟩ := mem_trail h
  exact ⟨m, listed, client, Moment.found_of_find said⟩

/-- Where no call of the ledger fails on the way, no read fails. -/
theorem read_succeeds {i : Nat} {ledger : List Moment} {c : Call} {e : StoreError}
    (smooth : ∀ m ∈ ledger, m.fault = none) (read : c.isWrite = false) :
    ⟨c, .error e⟩ ∉ trail i ledger := by
  intro listed
  obtain ⟨m, listed, -, said⟩ := mem_trail listed
  obtain ⟨a, answered⟩ := m.before.answer_read read
  have failed := Moment.reply_of_smooth said (smooth m listed)
  rw [answered] at failed
  cases failed

/-- Where users stay as they are, a client has read them as they are. -/
theorem user_of_trail {s : Store} {i : Nat} {ledger : List Moment} {user : UserId}
    {known : Option User} (users : ∀ m ∈ ledger, m.before.users = s.users)
    (h : ⟨.findUser user, .ok known⟩ ∈ trail i ledger) : s.users.get? user = known := by
  obtain ⟨m, listed, -, said⟩ := mem_trail h
  rw [← users m listed]
  exact Except.ok.inj (Moment.answered said).1

/-- Where users and teams stay as they are, a client has read the team of a user as it is. -/
theorem teamOf_of_trail {s : Store} {i : Nat} {ledger : List Moment} {user : UserId}
    {team : Option Team}
    (staff : ∀ m ∈ ledger, m.before.users = s.users ∧ m.before.teams = s.teams)
    (h : ⟨.findTeamOf user, .ok team⟩ ∈ trail i ledger) : s.teamOf user = team := by
  obtain ⟨m, listed, -, said⟩ := mem_trail h
  rw [← Store.teamOf_congr (staff m listed).1 (staff m listed).2]
  exact Except.ok.inj (Moment.answered said).1

/-- Where users stay as they are, a client has read the active members of a team as they are. -/
theorem activeMembers_of_trail {s : Store} {i : Nat} {ledger : List Moment} {team : TeamId}
    {members : List User} (users : ∀ m ∈ ledger, m.before.users = s.users)
    (h : ⟨.findActiveMembers team, .ok members⟩ ∈ trail i ledger) :
    s.activeMembers team = members := by
  obtain ⟨m, listed, -, said⟩ := mem_trail h
  rw [← Store.activeMembers_congr (users m listed)]
  exact Except.ok.inj (Moment.answered said).1

/-! ## The line of moments -/

/-- Each moment finds the pull requests as the one before it left them. -/
def Linked (start : Shelf) : List Moment → Shelf → Prop
  | [], finish => start = finish
  | m :: rest, finish => m.found = start ∧ Linked m.left rest finish

theorem linked_append {start finish : Shelf} {l l' : List Moment} :
    Linked start (l ++ l') finish ↔ ∃ mid, Linked start l mid ∧ Linked mid l' finish := by
  induction l generalizing start with
  | nil => exact ⟨fun h => ⟨start, rfl, h⟩, fun ⟨_, same, h⟩ => same ▸ h⟩
  | cons m l ih =>
    constructor
    · rintro ⟨found, h⟩
      obtain ⟨mid, first, later⟩ := ih.1 h
      exact ⟨mid, ⟨found, first⟩, later⟩
    · rintro ⟨mid, ⟨found, first⟩, later⟩
      exact ⟨found, ih.2 ⟨mid, first, later⟩⟩

theorem linked_unique {start a b : Shelf} {l : List Moment} (h : Linked start l a)
    (h' : Linked start l b) : a = b := by
  induction l generalizing start with
  | nil => exact h.symm.trans h'
  | cons m l ih => exact ih h.2 h'.2

/-- The start of a line is its end, or what some moment of it finds. -/
theorem start_of_linked {start finish : Shelf} {ledger : List Moment}
    (h : Linked start ledger finish) : start = finish ∨ ∃ m ∈ ledger, m.found = start := by
  cases ledger with
  | nil => exact .inl h
  | cons m rest => exact .inr ⟨m, List.mem_cons_self, h.1⟩

/-- A relation that every moment keeps, given that it was kept up to then, is kept by a whole
line of moments, from its start and from each of its moments on. -/
theorem kept {R : Shelf → Shelf → Prop} (refl : ∀ a, R a a)
    (trans : ∀ {a b c}, R a b → R b c → R a c) {start finish : Shelf} {ledger : List Moment}
    (linked : Linked start ledger finish)
    (keep : ∀ l m l', ledger = l ++ m :: l' → R start m.found →
      (∀ n ∈ l, R start n.found ∧ R n.found m.found) → R m.found m.left) :
    R start finish ∧ ∀ n ∈ ledger, R start n.found ∧ R n.found finish := by
  induction ledger using List.reverseRecOn generalizing finish with
  | nil => exact ⟨linked ▸ refl start, by simp⟩
  | append_singleton ledger m ih =>
    obtain ⟨mid, before, rfl, rfl⟩ := linked_append.1 linked
    obtain ⟨upto, since⟩ := ih before fun l n l' split => keep l n (l' ++ [m]) (by simp [split])
    have step : R m.found m.left := keep ledger m [] rfl upto since
    refine ⟨trans upto step, ?_⟩
    intro n listed
    rcases List.mem_append.1 listed with listed | listed
    · exact ⟨(since n listed).1, trans (since n listed).2 step⟩
    · cases List.mem_singleton.1 listed
      exact ⟨upto, step⟩

/-- A relation that every moment keeps is kept from each of them to the end, and to every later
one. -/
theorem kept_since {R : Shelf → Shelf → Prop} (refl : ∀ a, R a a)
    (trans : ∀ {a b c}, R a b → R b c → R a c) {start finish : Shelf} {l l' : List Moment}
    {m : Moment} (linked : Linked start (l ++ m :: l') finish)
    (keep : ∀ n ∈ l', R n.found n.left) : R m.left finish ∧ ∀ n ∈ l', R m.left n.found := by
  obtain ⟨mid, -, -, later⟩ := linked_append.1 linked
  obtain ⟨whole, parts⟩ := kept refl trans later fun x n y split _ _ => keep n (by simp [split])
  exact ⟨whole, fun n listed => (parts n listed).1⟩

/-! ## What the ledger records -/

namespace Floor

/-- A client is here for a job. -/
def CameFor (f : Floor) (i : Nat) (job : Job) (chance : Chance) : Prop :=
  ∃ rest : Program job.Outcome, f.clients[i]? = some ⟨job, chance, rest⟩

/-- The ledger tells where every client is, what every call was asked for, and how the pull
requests of the store came about. -/
structure Recorded (s : Store) (f : Floor) : Prop where
  brought : ∀ (i : Nat) (job : Job) (chance : Chance) (rest : Program job.Outcome),
    f.clients[i]? = some ⟨job, chance, rest⟩ →
    (job.program chance).Reaches (trail i f.ledger) rest
  asked : ∀ l m l', f.ledger = l ++ m :: l' → ∃ job chance, f.CameFor m.client job chance ∧
    (job.program chance).Asks (trail m.client l) m.call
  linked : Linked s.pullRequests f.ledger f.store.pullRequests

theorem recorded_opened (s : Store) : Recorded s (opened s) := by
  refine ⟨?_, ?_, rfl⟩
  · intro i job chance rest h
    simp [opened] at h
  · intro l m l' h
    simp [opened] at h

variable {s : Store} {f g : Floor} {t : Turn} {i : Nat} {job : Job} {chance : Chance}

theorem inside {c : Client} (here : f.clients[i]? = some c) : i < f.clients.length :=
  (List.getElem?_eq_some_iff.1 here).1

/-- A client who goes on is here for the same job as before. -/
theorem cameFor_set {store : Store} {ledger : List Moment} {j : Nat} {c : Client}
    (here : f.clients[j]? = some c) (rest : Program c.job.Outcome) :
    CameFor ⟨store, f.clients.set j ⟨c.job, c.chance, rest⟩, ledger⟩ i job chance ↔
      f.CameFor i job chance := by
  unfold CameFor
  by_cases same : j = i
  · subst same
    rw [List.getElem?_set_self (inside here), here]
    obtain ⟨job', chance', rest'⟩ := c
    constructor
    · rintro ⟨_, there⟩
      cases there
      exact ⟨rest', rfl⟩
    · rintro ⟨_, there⟩
      cases there
      exact ⟨rest, rfl⟩
  · rw [List.getElem?_set_ne same]

/-- Whoever is here stays here for the same job. -/
theorem cameFor_moves (move : Moves f t g) (h : f.CameFor i job chance) :
    g.CameFor i job chance := by
  cases move with
  | idle | staff => exact h
  | note fault here => exact (cameFor_set here _).2 h
  | call fault here => exact (cameFor_set here _).2 h
  | arrive job' chance' =>
    obtain ⟨rest, here⟩ := h
    exact ⟨rest, by rw [List.getElem?_append_left (inside here)]; exact here⟩

/-- Whoever is here after a turn was here before it, or has just come. -/
theorem arrived_moves (move : Moves f t g) (h : g.CameFor i job chance) :
    f.CameFor i job chance ∨ t = .arrive job chance := by
  cases move with
  | idle | staff => exact .inl h
  | note fault here => exact .inl ((cameFor_set here _).1 h)
  | call fault here => exact .inl ((cameFor_set here _).1 h)
  | arrive job' chance' =>
    obtain ⟨rest, there⟩ := h
    by_cases old : i < f.clients.length
    · rw [List.getElem?_append_left old] at there
      exact .inl ⟨rest, there⟩
    · rw [List.getElem?_append_right (Nat.le_of_not_lt old)] at there
      rcases List.getElem?_eq_some_iff.1 there with ⟨_, there⟩
      rw [List.getElem_singleton] at there
      cases there
      exact .inr rfl

/-- Who is not here has asked for nothing. -/
theorem Recorded.no_trail (h : Recorded s f) (absent : f.clients.length ≤ i) :
    trail i f.ledger = [] := by
  unfold trail
  rw [List.map_eq_nil_iff, List.filter_eq_nil_iff]
  intro m listed same
  obtain ⟨l, l', split⟩ := List.append_of_mem listed
  obtain ⟨job, chance, ⟨rest, here⟩, -⟩ := h.asked l m l' split
  have within := inside here
  have same : m.client = i := of_decide_eq_true same
  omega

theorem Recorded.arrive (h : Recorded s f) (job : Job) (chance : Chance) :
    Recorded s { f with clients := f.clients ++ [⟨job, chance, job.program chance⟩] } := by
  refine ⟨?_, ?_, h.linked⟩
  · intro i job' chance' rest here
    by_cases old : i < f.clients.length
    · rw [List.getElem?_append_left old] at here
      exact h.brought i job' chance' rest here
    · have empty := h.no_trail (Nat.le_of_not_lt old)
      rw [List.getElem?_append_right (Nat.le_of_not_lt old)] at here
      rcases List.getElem?_eq_some_iff.1 here with ⟨_, here⟩
      rw [List.getElem_singleton] at here
      cases here
      dsimp only
      rw [empty]
      exact .here _
  · intro l m l' split
    obtain ⟨job', chance', here, asks⟩ := h.asked l m l' split
    exact ⟨job', chance', cameFor_moves (.arrive job chance) here, asks⟩

theorem Recorded.note (h : Recorded s f) {event : Event} {rest : Program job.Outcome}
    (here : f.clients[i]? = some ⟨job, chance, .note event rest⟩) :
    Recorded s { f with clients := f.clients.set i ⟨job, chance, rest⟩ } := by
  refine ⟨?_, ?_, h.linked⟩
  · intro j job' chance' rest' there
    by_cases same : i = j
    · subst same
      rw [List.getElem?_set_self (inside here)] at there
      cases there
      have upto := h.brought i job chance _ here
      rw [← List.append_nil (trail i f.ledger)]
      exact Program.reaches_trans upto (.note (.here _))
    · rw [List.getElem?_set_ne same] at there
      exact h.brought j job' chance' rest' there
  · intro l m l' split
    obtain ⟨job', chance', came, asks⟩ := h.asked l m l' split
    exact ⟨job', chance', (cameFor_set here rest).2 came, asks⟩

theorem Recorded.call (h : Recorded s f) {c : Call} {resume : c.Reply → Program job.Outcome}
    (fault : Option StoreError) (here : f.clients[i]? = some ⟨job, chance, .call c resume⟩) :
    Recorded s
      { store := (⟨i, f.store, c, fault⟩ : Moment).after
        clients := f.clients.set i ⟨job, chance, resume (⟨i, f.store, c, fault⟩ : Moment).reply⟩
        ledger := f.ledger ++ [⟨i, f.store, c, fault⟩] } := by
  have upto := h.brought i job chance _ here
  refine ⟨?_, ?_, linked_append.2 ⟨_, h.linked, rfl, rfl⟩⟩
  · intro j job' chance' rest' there
    by_cases same : i = j
    · subst same
      rw [List.getElem?_set_self (inside here)] at there
      cases there
      have extended := trail_concat f.ledger ⟨i, f.store, c, fault⟩
      dsimp only at extended ⊢
      rw [extended]
      exact Program.reaches_trans upto (.call _ (.here _))
    · rw [List.getElem?_set_ne same] at there
      have unchanged : trail j (f.ledger ++ [⟨i, f.store, c, fault⟩]) = trail j f.ledger :=
        trail_concat_of_ne _ same
      dsimp only
      rw [unchanged]
      exact h.brought j job' chance' rest' there
  · intro l m l' split
    rcases concat_eq_append_cons_iff.1 split with ⟨-, rfl, rfl⟩ | ⟨later, -, split⟩
    · exact ⟨job, chance, (cameFor_set here _).2 ⟨_, here⟩, resume, upto⟩
    · obtain ⟨job', chance', came, asks⟩ := h.asked l m later split
      exact ⟨job', chance', (cameFor_set here _).2 came, asks⟩

theorem Recorded.moves (h : Recorded s f) (move : Moves f t g) : Recorded s g := by
  cases move with
  | idle => exact h
  | arrive job chance => exact h.arrive job chance
  | note fault here => exact h.note here
  | call fault here => exact h.call fault here
  | staff => exact ⟨h.brought, h.asked, h.linked⟩

theorem recorded_run (s : Store) (turns : List Turn) : Recorded s (run s turns) := by
  induction turns using List.reverseRecOn with
  | nil => exact recorded_opened s
  | append_singleton turns t ih =>
    rw [run_concat]
    exact ih.moves (moves_step _ t)

/-- Every write in the ledger was prepared by its client. -/
theorem Recorded.prepared (h : Recorded s f) {l l' : List Moment} {m : Moment}
    (split : f.ledger = l ++ m :: l') {c : Call} {reply : c.Reply}
    (said : m.exchange = ⟨c, reply⟩) (write : c.isWrite = true) :
    ∃ job chance, f.CameFor m.client job chance ∧ job.Prepares chance (trail m.client l) c := by
  obtain rfl : m.call = c := congrArg Exchange.call said
  obtain ⟨job, chance, came, asks⟩ := h.asked l m l' split
  exact ⟨job, chance, came, job.prepares_of_asks asks write⟩

/-- A client is here for one job only. -/
theorem cameFor_unique {job' : Job} {chance' : Chance} (h : f.CameFor i job chance)
    (h' : f.CameFor i job' chance') : job = job' ∧ chance = chance' := by
  obtain ⟨rest, h⟩ := h
  obtain ⟨rest', h'⟩ := h'
  rw [h] at h'
  cases h'
  exact ⟨rfl, rfl⟩

/-- Whoever is here has come at some turn. -/
theorem arrived {turns : List Turn} (h : (run s turns).CameFor i job chance) :
    .arrive job chance ∈ turns := by
  induction turns using List.reverseRecOn with
  | nil =>
    obtain ⟨rest, here⟩ := h
    simp [run, opened] at here
  | append_singleton turns t ih =>
    rw [run_concat] at h
    rcases arrived_moves (moves_step _ t) h with before | now
    · exact List.mem_append_left _ (ih before)
    · rw [now]
      exact List.mem_append_right _ List.mem_cons_self

/-- Users and teams stay as they are, unless somebody else changes them. -/
theorem staff_unmoved {turns : List Turn} (quiet : ∀ users teams, .staff users teams ∉ turns) :
    ((run s turns).store.users = s.users ∧ (run s turns).store.teams = s.teams) ∧
    ∀ m ∈ (run s turns).ledger, m.before.users = s.users ∧ m.before.teams = s.teams := by
  induction turns using List.reverseRecOn with
  | nil => exact ⟨⟨rfl, rfl⟩, by simp [run, opened]⟩
  | append_singleton turns t ih =>
    have ih := ih fun users teams listed => quiet users teams (List.mem_append_left _ listed)
    rw [run_concat]
    have move := moves_step (run s turns) t
    generalize (run s turns).step t = g at move
    cases move with
    | idle | arrive | note => exact ih
    | staff users teams => exact absurd (by simp) (quiet users teams)
    | @call i _ _ c _ fault =>
      obtain ⟨users, teams⟩ := Moment.staff ⟨i, (run s turns).store, c, fault⟩
      refine ⟨⟨users.trans ih.1.1, teams.trans ih.1.2⟩, ?_⟩
      intro m listed
      rcases List.mem_append.1 listed with before | last
      · exact ih.2 m before
      · cases List.mem_singleton.1 last
        exact ih.1

/-- Where no turn lets a call fail, none has failed. -/
theorem smooth_of_no_fail {turns : List Turn} (none : ∀ i e, .fail i e ∉ turns) :
    ∀ m ∈ (run s turns).ledger, m.fault = .none := by
  induction turns using List.reverseRecOn with
  | nil => simp [run, opened]
  | append_singleton turns t ih =>
    have ih := ih fun i e listed => none i e (List.mem_append_left _ listed)
    rw [run_concat]
    have move := moves_step (run s turns) t
    generalize (run s turns).step t = g at move
    cases move with
    | idle | arrive | note | staff => exact ih
    | @call i _ _ c _ fault =>
      intro m listed
      rcases List.mem_append.1 listed with before | last
      · exact ih m before
      · cases List.mem_singleton.1 last
        cases fault with
        | none => rfl
        | some e => exact absurd (by simp [Turn.next]) (none i e)

/-- The ledger only grows, and what is added to it goes on where the store was. -/
theorem ledger_grows (s : Store) (before after : List Turn) :
    ∃ later, (run s (before ++ after)).ledger = (run s before).ledger ++ later ∧
      Linked (run s before).store.pullRequests later
        (run s (before ++ after)).store.pullRequests := by
  have grows : ∃ later, (run s (before ++ after)).ledger = (run s before).ledger ++ later := by
    induction after using List.reverseRecOn with
    | nil => exact ⟨[], by simp⟩
    | append_singleton after t ih =>
      obtain ⟨later, ih⟩ := ih
      rw [← List.append_assoc, run_concat]
      have move := moves_step (run s (before ++ after)) t
      generalize (run s (before ++ after)).step t = g at move
      cases move with
      | idle | arrive | note | staff => exact ⟨later, ih⟩
      | call =>
        dsimp only
        rw [ih, List.append_assoc]
        exact ⟨_, rfl⟩
  obtain ⟨later, grows⟩ := grows
  have whole := (recorded_run s (before ++ after)).linked
  rw [grows] at whole
  obtain ⟨mid, first, rest⟩ := linked_append.1 whole
  cases linked_unique first (recorded_run s before).linked
  exact ⟨later, grows, rest⟩

end Floor

end ReviewDesk
