-- The store takes any update of an open pull request, whatever its writer has read. So an update
-- can undo one that came before it. It does what it would have done alone exactly when it goes
-- over the roster that its writer has read.
import ReviewDesk.Proofs.Alone
import ReviewDesk.Proofs.Finality
import ReviewDesk.Proofs.Soundness

namespace ReviewDesk

open Floor PullRequest

/-! ## The same roster -/

namespace PullRequest

/-- Who reviews, in roster order, and whether the pull request is merged. -/
def view (pr : PullRequest) : List UserId × Status := (pr.reviewerIds, pr.status)

/-- Two pull requests that look the same to a reassignment and to a merge, but for times. -/
structure Alike (a b : PullRequest) : Prop where
  author : a.author = b.author
  view : a.view = b.view

variable {a b changed : PullRequest} {clock : Instant} {old new : UserId}

theorem Alike.reviewerIds (h : Alike a b) : a.reviewerIds = b.reviewerIds :=
  congrArg Prod.fst h.view

theorem Alike.status (h : Alike a b) : a.status = b.status := congrArg Prod.snd h.view

theorem Alike.isMerged (h : Alike a b) : a.isMerged = b.isMerged := by
  unfold PullRequest.isMerged
  rw [h.status]

theorem Alike.trans {c : PullRequest} (h : Alike a b) (h' : Alike b c) : Alike a c :=
  ⟨h.author.trans h'.author, h.view.trans h'.view⟩

theorem Alike.symm (h : Alike a b) : Alike b a := ⟨h.author.symm, h.view.symm⟩

theorem alike_of_open (author : a.author = b.author) (ids : a.reviewerIds = b.reviewerIds)
    (opened : a.isMerged = false) (opened' : b.isMerged = false) : Alike a b := by
  refine ⟨author, Prod.ext ids ?_⟩
  unfold view PullRequest.isMerged at *
  cases h : a.status <;> cases h' : b.status <;> simp_all

theorem view_of_reassign (made : a.reassign clock old new = .ok changed) :
    changed.view = (a.reviewerIds.replace old new, a.status) := by
  unfold view
  rw [reviewerIds_of_reassign made]
  obtain ⟨-, -, -, -, rfl⟩ := reassign_ok made
  rfl

/-- What can be done to one of two such pull requests can be done to the other. -/
theorem Alike.reassign (h : Alike a b) (made : a.reassign clock old new = .ok changed) :
    ∃ changed', b.reassign clock old new = .ok changed' ∧ Alike changed changed' := by
  obtain ⟨opened, listed, other, fresh, same⟩ := reassign_ok made
  rw [h.isMerged] at opened
  rw [h.reviewerIds] at listed fresh
  rw [h.author] at other
  have made' := reassign_of_open clock opened listed other fresh
  refine ⟨_, made', ?_, ?_⟩
  · rw [same]
    exact h.author
  · rw [view_of_reassign made, view_of_reassign made', h.reviewerIds]
    exact Prod.ext rfl h.status

theorem Alike.merge (h : Alike a b) (opened : a.isMerged = false) (t t' : Instant) :
    Alike (a.merge t) (b.merge t') := by
  have opened' := opened
  rw [h.isMerged] at opened'
  refine ⟨?_, ?_⟩
  · rw [(sameOrigin_merge a t).author, (sameOrigin_merge b t').author]
    exact h.author
  · unfold PullRequest.view
    rw [reviewerIds_merge, reviewerIds_merge, h.reviewerIds, merge_of_open opened,
      merge_of_open opened']

/-- Replacing somebody by a newcomer can be undone. -/
theorem eq_of_replace_eq {l l' : List UserId} (listed : old ∈ l) (listed' : old ∈ l')
    (fresh : new ∉ l) (fresh' : new ∉ l') (same : l.replace old new = l'.replace old new) :
    l = l' := by
  induction l generalizing l' with
  | nil => cases listed
  | cons x l ih =>
    cases l' with
    | nil => cases listed'
    | cons y l' =>
      rw [List.mem_cons, not_or] at fresh fresh'
      by_cases here : old = x <;> by_cases there : old = y
      · subst here
        subst there
        rw [List.replace_cons_self, List.replace_cons_self] at same
        rw [(List.cons.inj same).2]
      · subst here
        rw [List.replace_cons_self, List.replace_cons, beq_false_of_ne there] at same
        exact absurd (List.cons.inj same).1 fresh'.1
      · subst there
        rw [List.replace_cons_self, List.replace_cons, beq_false_of_ne here] at same
        exact absurd (List.cons.inj same).1.symm fresh.1
      · rw [List.replace_cons, List.replace_cons, beq_false_of_ne here, beq_false_of_ne there]
          at same
        dsimp only at same
        obtain ⟨rfl, rest⟩ := List.cons.inj same
        have listed : old ∈ l := (List.mem_cons.1 listed).resolve_left here
        have listed' : old ∈ l' := (List.mem_cons.1 listed').resolve_left here
        rw [ih listed listed' fresh.2 fresh'.2 rest]

end PullRequest

theorem Assignment.Replaces.alike {chance : Chance} {a b changed : PullRequest}
    {members : List User} {old new : UserId} (h : Alike a b)
    (replaces : Replaces chance a members old new changed) :
    ∃ changed', Replaces chance b members old new changed' ∧ Alike changed changed' := by
  obtain ⟨changed', made, alike⟩ := h.reassign replaces.made
  refine ⟨changed', ⟨?_, made⟩, alike⟩
  rw [← h.author, ← h.reviewerIds]
  exact replaces.chosen

/-! ## Reassignments and merges of one pull request -/

/-- Nobody comes but to reassign or to merge one pull request. -/
def Turn.On (id : PullRequestId) : Turn → Prop
  | .arrive (.reassign id' _) _ => id' = id
  | .arrive (.merge id') _ => id' = id
  | .arrive _ _ => False
  | .go _ | .fail _ _ => True
  | .staff _ _ => False

theorem Turn.orderly_of_on {id : PullRequestId} {t : Turn} (h : t.On id) : t.Orderly := by
  cases t with
  | arrive job chance =>
    cases job with
    | reassign _ _ | merge _ => trivial
    | create _ | get _ | direct _ => cases h
  | go _ | fail _ _ => trivial
  | staff _ _ => cases h

namespace Job

/-- Two answers that differ in nothing but times. -/
def Agrees : (job : Job) → job.Outcome → job.Outcome → Prop
  | reassign _ _, .ok (new, pr), .ok (new', pr') => new = new' ∧ pr.view = pr'.view
  | merge _, .ok pr, .ok pr' => pr.view = pr'.view
  | _, _, _ => False

/-- What has been read before an update, if the job is to reassign. -/
theorem of_prepares_reassign {chance : Chance} {id : PullRequestId} {old : UserId}
    {path : List Exchange} {pr : PullRequest}
    (h : (reassign id old).Prepares chance path (.updatePullRequest pr)) :
    ∃ read team members new, path = Assignment.reassignReads id read team members ∧
      Assignment.Replaces chance read members old new pr := by
  cases h with
  | reassign replaces => exact ⟨_, _, _, _, rfl, replaces⟩

/-- What has been read before an update, if the job is to merge. -/
theorem of_prepares_merge {chance : Chance} {id : PullRequestId} {path : List Exchange}
    {pr : PullRequest} (h : (merge id).Prepares chance path (.updatePullRequest pr)) :
    ∃ read : PullRequest, path = [⟨.findPullRequest id, .ok (some read)⟩] ∧
      read.isMerged = false ∧ pr = read.merge (chance.clock 0) := by
  cases h with
  | merge opened => exact ⟨_, rfl, opened, rfl⟩

end Job

namespace Floor

/-- The client of a moment has got what it could have got, with some clock and some draws, had it
come at this moment and been alone from then on. -/
def AsIfAlone (f : Floor) (m : Moment) : Prop :=
  ∃ (job : Job) (chance : Chance) (a : job.Outcome),
    f.clients[m.client]? = some ⟨job, chance, .done a⟩ ∧
    ∃ chance', job.Agrees a (m.before.run (job.program chance')).1

/-- Whatever its client has read before a moment has the roster that the moment finds. -/
def UpToDate (id : PullRequestId) (before : List Moment) (m : Moment) : Prop :=
  ∀ read, ⟨.findPullRequest id, .ok (some read)⟩ ∈ trail m.client before →
    ∃ now, m.found.get? id = some now ∧ now.reviewerIds = read.reviewerIds

variable {s : Store} {turns : List Turn} {id : PullRequestId}

/-! ### Who writes -/

/-- The client of an update that was taken: what it has read, and what it goes away with. -/
inductive Writer (f : Floor) (id : PullRequestId) (before : List Moment) (m : Moment)
    (pr : PullRequest) : Prop
  | reassign {old new : UserId} {chance : Chance} {read : PullRequest} {team : Team}
      {members : List User}
      (here : f.clients[m.client]? = some ⟨.reassign id old, chance, .done (.ok (new, pr))⟩)
      (path : trail m.client before = Assignment.reassignReads id read team members)
      (replaces : Assignment.Replaces chance read members old new pr)
  | merge {chance : Chance} {read : PullRequest}
      (here : f.clients[m.client]? = some ⟨.merge id, chance, .done (.ok pr)⟩)
      (path : trail m.client before = [⟨.findPullRequest id, .ok (some read)⟩])
      (opened : read.isMerged = false) (made : pr = read.merge (chance.clock 0))

theorem writer (on : ∀ t ∈ turns, t.On id) (finished : (run s turns).Finished)
    {l l' : List Moment} {m : Moment} {pr : PullRequest}
    (split : (run s turns).ledger = l ++ m :: l') (took : m.Took pr) :
    Writer (run s turns) id l m pr := by
  have h := recorded_run s turns
  obtain ⟨job, chance, came, prepares⟩ := h.prepared split took rfl
  have honest := on _ (arrived came)
  obtain ⟨rest, here⟩ := came
  obtain ⟨a, rfl⟩ := finished _ _ _ _ here
  have whole : trail m.client (run s turns).ledger =
      trail m.client l ++ ⟨.updatePullRequest pr, .ok ()⟩ :: trail m.client l' := by
    have said : m.exchange = ⟨.updatePullRequest pr, .ok ()⟩ := took
    rw [split, trail_append, ← said]
    simp [trail]
  have ends := h.brought _ _ _ _ here
  rw [whole] at ends
  cases job with
  | create _ | get _ | direct _ => cases honest
  | reassign _ old =>
    cases honest
    obtain ⟨read, team, members, new, path, -⟩ := Job.of_prepares_reassign prepares
    rw [path] at ends
    have ends := Assignment.reassign_ends ends
    generalize full : Assignment.reassignReads id read team members ++ _ :: _ = reads at ends
    cases ends with
    | written replaces =>
      obtain ⟨same, last⟩ := List.append_inj full rfl
      cases congrArg Exchange.call (List.cons.inj last).1
      exact .reassign here (path.trans same) replaces
    | refused e none => exact absurd (by rw [← full]; simp) (none pr)
  | merge _ =>
    cases honest
    obtain ⟨read, path, opened, made⟩ := Job.of_prepares_merge prepares
    rw [path] at ends
    have ends := Assignment.merge_ends ends
    generalize full : [_] ++ _ :: _ = reads at ends
    cases ends with
    | unread | unknown | already => simp at full
    | written _ =>
      have last := (List.cons.inj (List.cons.inj full).2).1
      cases congrArg Exchange.call last
      exact .merge here path opened made
    | overtaken | failed =>
      have last := (List.cons.inj (List.cons.inj full).2).1
      injection last with _ said
      cases said

/-- What the writer has read. -/
theorem Writer.read {f : Floor} {before : List Moment} {m : Moment} {pr : PullRequest}
    (h : Writer f id before m pr) : ∃ read : PullRequest,
      ⟨.findPullRequest id, .ok (some read)⟩ ∈ trail m.client before ∧
      read.isMerged = false ∧ SameOrigin read pr := by
  cases h with
  | reassign here path replaces =>
    refine ⟨_, path ▸ List.mem_cons_self, ?_, sameOrigin_of_reassign replaces.made⟩
    exact (reassign_ok replaces.made).1
  | merge here path opened made =>
    refine ⟨_, path ▸ List.mem_cons_self, opened, ?_⟩
    rw [made]
    exact sameOrigin_merge _ _

/-- Nobody writes twice. -/
theorem Writer.first {f : Floor} {before : List Moment} {m n : Moment} {pr pr' : PullRequest}
    (h : Writer f id before m pr) (listed : n ∈ before) (same : n.client = m.client) :
    ¬ n.Took pr' := by
  intro took
  have said : n.exchange ∈ trail m.client before := same ▸ exchange_mem_trail listed
  rw [show n.exchange = _ from took] at said
  cases h with
  | reassign here path replaces =>
    rw [path] at said
    simp [Assignment.reassignReads] at said
  | merge here path opened made =>
    rw [path] at said
    simp at said

/-! ### What a writer finds -/

theorem quiet_of_on (on : ∀ t ∈ turns, t.On id) (users : Register User.id)
    (teams : Register Team.id) : .staff users teams ∉ turns := fun listed => on _ listed

/-- The pull request that a writer finds is open, and has the author that the writer has read. -/
theorem found_by_writer (on : ∀ t ∈ turns, t.On id) {l l' : List Moment} {m : Moment}
    {pr : PullRequest} (split : (run s turns).ledger = l ++ m :: l') (took : m.Took pr)
    (h : Writer (run s turns) id l m pr) :
    pr.id = id ∧ ∃ now, m.found.get? id = some now ∧ now.isMerged = false ∧
      ∀ read : PullRequest, ⟨.findPullRequest id, .ok (some read)⟩ ∈ trail m.client l →
        now.author = read.author := by
  obtain ⟨read, listed, -, same⟩ := h.read
  have pr_id : pr.id = id := same.id.trans (id_of_read listed)
  obtain ⟨now, stood, opened, -⟩ := Moment.of_took took
  rw [pr_id] at stood
  refine ⟨pr_id, now, stood, opened, ?_⟩
  intro read listed
  have each := (grows_run (s := s) fun t listed => Turn.orderly_of_on (on t listed)).2
  obtain ⟨n, before, -, was⟩ := read_of_trail listed
  -- Both are of the origin of what is stored in the end.
  obtain ⟨last, stands, origin⟩ := (each n (by simp [split, before])).2 id read was
  obtain ⟨last', stands', origin'⟩ := (each m (by simp [split])).2 id now stood
  rw [stands] at stands'
  cases stands'
  exact origin'.author.symm.trans origin.author

/-- At a store that has the users and the teams that a reassignment has read, and a pull request
alike to the one that it has read, it comes to the same alone. -/
theorem run_reassign_of_read {t : Store} {l : List Moment} {i : Nat} {chance : Chance}
    {pr now read : PullRequest} {old new : UserId} {team : Team} {members : List User}
    (staff : ∀ n ∈ l, n.before.users = t.users ∧ n.before.teams = t.teams)
    (stands : t.pullRequests.get? id = some now) (alike : Alike read now)
    (path : trail i l = Assignment.reassignReads id read team members)
    (replaces : Assignment.Replaces chance read members old new pr) :
    ∃ changed, t.run ((Job.reassign id old).program chance) =
        (.ok (new, changed), { t with pullRequests := t.pullRequests.put changed }) ∧
      Alike pr changed ∧ changed.id = id := by
  obtain ⟨changed, replaces', alike'⟩ := replaces.alike alike
  have inTeam : t.teamOf now.author = some team := by
    rw [← alike.author]
    exact teamOf_of_trail staff (by rw [path]; simp [Assignment.reassignReads])
  have active : t.activeMembers team.id = members :=
    activeMembers_of_trail (fun n listed => (staff n listed).1)
      (by rw [path]; simp [Assignment.reassignReads])
  refine ⟨changed, Store.run_reassign stands inTeam (active.symm ▸ replaces'), alike', ?_⟩
  rw [(sameOrigin_of_reassign replaces'.made).id]
  exact Register.key_of_get? stands

/-- At a store that has a pull request alike to the open one that a merge has read, the merge comes
to the same alone. -/
theorem run_merge_of_read {t : Store} {chance : Chance} {now read : PullRequest}
    (stands : t.pullRequests.get? id = some now) (alike : Alike read now)
    (opened : read.isMerged = false) :
    ∃ changed, t.run ((Job.merge id).program chance) =
        (.ok changed, { t with pullRequests := t.pullRequests.put changed }) ∧
      Alike (read.merge (chance.clock 0)) changed ∧ changed.id = id := by
  have still : now.isMerged = false := alike.isMerged ▸ opened
  refine ⟨_, Store.run_merge_of_open chance stands still, alike.merge opened _ _, ?_⟩
  rw [(sameOrigin_merge _ _).id]
  exact Register.key_of_get? stands

/-- At any store that has the users and the teams that a writer has read, and a pull request
alike to the one that it has read, its job alone comes to the same. -/
theorem Writer.alone (on : ∀ t ∈ turns, t.On id) {l l' : List Moment} {m : Moment}
    {pr now : PullRequest} (split : (run s turns).ledger = l ++ m :: l')
    (h : Writer (run s turns) id l m pr) {t : Store} (users : t.users = s.users)
    (teams : t.teams = s.teams) (stands : t.pullRequests.get? id = some now)
    (alike : ∀ read : PullRequest,
      ⟨.findPullRequest id, .ok (some read)⟩ ∈ trail m.client l → Alike read now) :
    ∃ (job : Job) (chance : Chance) (a : job.Outcome) (changed : PullRequest),
      (run s turns).clients[m.client]? = some ⟨job, chance, .done a⟩ ∧
      job.Agrees a (t.run (job.program chance)).1 ∧
      (t.run (job.program chance)).2 = { t with pullRequests := t.pullRequests.put changed } ∧
      Alike pr changed ∧ changed.id = id := by
  have staff : ∀ n ∈ l, n.before.users = t.users ∧ n.before.teams = t.teams := by
    intro n listed
    obtain ⟨users', teams'⟩ :=
      (staff_unmoved (s := s) (quiet_of_on on)).2 n (by simp [split, listed])
    exact ⟨users'.trans users.symm, teams'.trans teams.symm⟩
  cases h with
  | reassign here path replaces =>
    obtain ⟨changed, alone, alike', same⟩ :=
      run_reassign_of_read staff stands (alike _ (path ▸ List.mem_cons_self)) path replaces
    refine ⟨_, _, _, changed, here, ?_, ?_, alike', same⟩
    · rw [alone]
      exact ⟨rfl, alike'.view⟩
    · rw [alone]
  | merge here path opened made =>
    obtain ⟨changed, alone, alike', same⟩ :=
      run_merge_of_read stands (alike _ (path ▸ List.mem_cons_self)) opened
    rw [← made] at alike'
    refine ⟨_, _, _, changed, here, ?_, ?_, alike', same⟩
    · rw [alone]
      exact alike'.view
    · rw [alone]

/-- A writer has read the pull request once. -/
theorem Writer.read_unique {f : Floor} {before : List Moment} {m : Moment} {pr : PullRequest}
    (h : Writer f id before m pr) {a b : PullRequest}
    (first : ⟨.findPullRequest id, .ok (some a)⟩ ∈ trail m.client before)
    (second : ⟨.findPullRequest id, .ok (some b)⟩ ∈ trail m.client before) : a = b := by
  cases h with
  | reassign here path replaces =>
    rw [path] at first second
    simp [Assignment.reassignReads] at first second
    exact first.trans second.symm
  | merge here path opened made =>
    rw [path] at first second
    simp at first second
    exact first.trans second.symm

/-- A writer whose reading is up to date has read what is alike to what it finds. -/
theorem alike_of_upToDate (on : ∀ t ∈ turns, t.On id) {l l' : List Moment} {m : Moment}
    {pr : PullRequest} (split : (run s turns).ledger = l ++ m :: l') (took : m.Took pr)
    (h : Writer (run s turns) id l m pr) (fresh : UpToDate id l m) :
    ∃ now, m.found.get? id = some now ∧ ∀ read : PullRequest,
      ⟨.findPullRequest id, .ok (some read)⟩ ∈ trail m.client l → Alike read now := by
  obtain ⟨-, now, stood, opened, author⟩ := found_by_writer on split took h
  refine ⟨now, stood, ?_⟩
  intro read listed
  obtain ⟨read', listed', opened', -⟩ := h.read
  cases h.read_unique listed listed'
  obtain ⟨now', stood', ids⟩ := fresh read listed
  rw [stood] at stood'
  cases stood'
  exact alike_of_open (author read listed).symm ids.symm opened' opened

/-- The exact condition: a writer is answered as if it had been alone just when what it has read
is up to date. -/
theorem asIfAlone_iff (on : ∀ t ∈ turns, t.On id) {l l' : List Moment} {m : Moment}
    {pr : PullRequest} (split : (run s turns).ledger = l ++ m :: l') (took : m.Took pr)
    (h : Writer (run s turns) id l m pr) :
    (run s turns).AsIfAlone m ↔ UpToDate id l m := by
  constructor
  · rintro ⟨job, chance, a, there, chance', agrees⟩ read listed
    obtain ⟨-, now, stood, opened, -⟩ := found_by_writer on split took h
    cases h with
    | @reassign old new _ read' team members here path replaces =>
      rw [here] at there
      cases there
      rw [path] at listed
      simp [Assignment.reassignReads] at listed
      subst listed
      generalize alone : (m.before.run (Job.program chance' (.reassign id old))).1 = b at agrees
      rcases b with e | ⟨new', changed⟩
      · cases agrees
      · obtain ⟨rfl, views⟩ := agrees
        obtain ⟨now', members', stood', replaces'⟩ := Store.of_run_reassign alone
        refine ⟨now', stood', ?_⟩
        rw [view_of_reassign replaces.made, view_of_reassign replaces'.made] at views
        obtain ⟨-, listed, -, fresh, -⟩ := reassign_ok replaces.made
        obtain ⟨-, listed', -, fresh', -⟩ := reassign_ok replaces'.made
        exact (eq_of_replace_eq listed listed' fresh fresh' (congrArg Prod.fst views)).symm
    | @merge _ read' here path opened' made =>
      rw [here] at there
      cases there
      rw [path] at listed
      simp at listed
      subst listed
      refine ⟨now, stood, ?_⟩
      have alone := Store.run_merge_of_open chance' stood opened
      unfold Job.program at agrees
      dsimp only at agrees
      rw [alone] at agrees
      have views : pr.view = (now.merge (chance'.clock 0)).view := agrees
      have ids := congrArg Prod.fst views
      unfold PullRequest.view at ids
      dsimp only at ids
      rw [made, reviewerIds_merge, reviewerIds_merge] at ids
      exact ids.symm
  · intro fresh
    obtain ⟨now, stood, alike⟩ := alike_of_upToDate on split took h fresh
    obtain ⟨users, teams⟩ := (staff_unmoved (s := s) (quiet_of_on on)).2 m (by simp [split])
    obtain ⟨job, chance, a, changed, here, agrees, -⟩ :=
      h.alone on split users teams stood alike
    exact ⟨job, chance, a, here, chance, agrees⟩

end Floor

end ReviewDesk
