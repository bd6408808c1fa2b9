-- Whoever stops in the middle of a job, or fails at it, leaves nothing half done. A job writes once
-- at most, and it asks for nothing after a write that was taken. So the store is as it was before
-- the job, or as it is after the whole of it.
import ReviewDesk.Proofs.Ledger

namespace ReviewDesk

open Floor

/-! ## Writes -/

/-- The store took the exchange as a write of a pull request. -/
inductive Exchange.Wrote : Exchange → PullRequest → Prop
  | created (pr : PullRequest) : Wrote ⟨.createPullRequest pr, .ok ()⟩ pr
  | updated (pr : PullRequest) : Wrote ⟨.updatePullRequest pr, .ok ()⟩ pr

theorem Exchange.Wrote.isWrite {x : Exchange} {pr : PullRequest} (h : x.Wrote pr) :
    x.call.isWrite = true := by
  cases h <;> rfl

/-- Nothing is written in these exchanges. -/
def OnlyReads (exchanges : List Exchange) : Prop := ∀ x ∈ exchanges, x.call.isWrite = false

theorem OnlyReads.not_wrote {exchanges : List Exchange} {x : Exchange} {pr : PullRequest}
    (h : OnlyReads exchanges) (listed : x ∈ exchanges) : ¬ x.Wrote pr := by
  intro wrote
  have read := h x listed
  rw [wrote.isWrite] at read
  cases read

theorem onlyReads_createReads {pr : PullRequest} {author : User} {team : Team}
    {members : List User} : OnlyReads (Assignment.createReads pr author team members) := by
  simp [OnlyReads, Assignment.createReads, Call.isWrite]

theorem onlyReads_reassignReads {id : PullRequestId} {pr : PullRequest} {team : Team}
    {members : List User} : OnlyReads (Assignment.reassignReads id pr team members) := by
  simp [OnlyReads, Assignment.reassignReads, Call.isWrite]

theorem onlyReads_find {id : PullRequestId} {reply : Call.Reply (.findPullRequest id)} :
    OnlyReads [⟨.findPullRequest id, reply⟩] := by
  simp [OnlyReads, Call.isWrite]

/-- Among reads and one last exchange, a write that was taken is the last. -/
theorem OnlyReads.wrote_last {reads : List Exchange} {x last : Exchange} {pr : PullRequest}
    (h : OnlyReads reads) (listed : x ∈ reads ++ [last]) (wrote : x.Wrote pr) : x = last := by
  rcases List.mem_append.1 listed with listed | listed
  · exact absurd wrote (h.not_wrote listed)
  · exact List.mem_singleton.1 listed

/-! ## Jobs -/

namespace Job

/-- The jobs that are done to change something. -/
def Changes : Job → Prop
  | create _ | reassign _ _ | merge _ => True
  | get _ | direct _ => False

/-- A job comes back with a pull request. -/
def Returns : (job : Job) → job.Outcome → PullRequest → Prop
  | create _, a, pr => a = .ok pr
  | reassign _ _, a, pr => ∃ new, a = .ok (new, pr)
  | merge _, a, pr => a = .ok pr
  | get _, a, pr => a = .ok pr
  | direct _, _, _ => False

/-- A job comes back with an error. -/
def Failed : (job : Job) → job.Outcome → Prop
  | create _, a => ∃ e, a = .error e
  | reassign _ _, a => ∃ e, a = .error e
  | merge _, a => ∃ e, a = .error e
  | get _, a => ∃ e, a = .error e
  | direct _, a => ∃ e, a = .error e

variable {job : Job} {chance : Chance} {x : Exchange} {pr : PullRequest}

theorem not_failed {a : job.Outcome} (h : job.Returns a pr) : ¬ job.Failed a := by
  cases job with
  | create _ | merge _ | get _ =>
    rintro ⟨e, rfl⟩
    cases h
  | reassign _ _ =>
    rintro ⟨e, rfl⟩
    obtain ⟨new, same⟩ := h
    cases same
  | direct _ => cases h

/-- A job writes after reading only. -/
theorem Prepares.onlyReads {path : List Exchange} {c : Call} (h : job.Prepares chance path c)
    (changes : job.Changes) : OnlyReads path := by
  cases h with
  | create => exact onlyReads_createReads
  | reassign => exact onlyReads_reassignReads
  | merge => exact onlyReads_find
  | direct => cases changes

theorem reassign_ends_of_wrote {id : PullRequestId} {old : UserId} {trail : List Exchange}
    {a : Except AssignmentError (UserId × PullRequest)}
    (ends : (Assignment.reassign chance id old).Ends trail a) (listed : x ∈ trail)
    (wrote : x.Wrote pr) :
    (∃ new, a = .ok (new, pr)) ∧ ∃ reads, OnlyReads reads ∧ trail = reads ++ [x] := by
  -- A reassignment does not create anything.
  have updated : x = ⟨.updatePullRequest pr, .ok ()⟩ := by
    obtain ⟨l, l', rfl⟩ := List.append_of_mem listed
    obtain ⟨_, _, _, _, changed, -, -, said⟩ :=
      Assignment.reassign_asks (Program.asks_of_reaches ends) wrote.isWrite
    cases wrote with
    | created => cases said
    | updated => rfl
  cases Assignment.reassign_ends ends with
  | written replaces =>
    cases (onlyReads_reassignReads.wrote_last listed wrote).symm.trans updated
    exact ⟨⟨_, rfl⟩, _, onlyReads_reassignReads, by rw [updated]⟩
  | refused e none => exact absurd (updated ▸ listed) (none pr)

theorem create_ends_of_wrote {new : PullRequest} {trail : List Exchange}
    {a : Except AssignmentError PullRequest} (ends : (Assignment.create chance new).Ends trail a)
    (listed : x ∈ trail) (wrote : x.Wrote pr) :
    a = .ok pr ∧ ∃ reads, OnlyReads reads ∧ trail = reads ++ [x] := by
  cases Assignment.create_ends ends with
  | unread reads e first read =>
    have last := OnlyReads.wrote_last first listed wrote
    subst last
    cases wrote
  | taken found => exact absurd wrote (onlyReads_find.not_wrote listed)
  | authorUnknown | teamUnknown =>
    refine absurd wrote (OnlyReads.not_wrote ?_ listed)
    simp [OnlyReads, Call.isWrite]
  | unfilled => exact absurd wrote (onlyReads_createReads.not_wrote listed)
  | refused e =>
    have last := onlyReads_createReads.wrote_last listed wrote
    subst last
    cases wrote
  | written =>
    have last := onlyReads_createReads.wrote_last listed wrote
    subst last
    cases wrote
    exact ⟨rfl, _, onlyReads_createReads, rfl⟩

theorem merge_ends_of_wrote {id : PullRequestId} {trail : List Exchange}
    {a : Except AssignmentError PullRequest} (ends : (Assignment.merge chance id).Ends trail a)
    (listed : x ∈ trail) (wrote : x.Wrote pr) :
    a = .ok pr ∧ ∃ reads, OnlyReads reads ∧ trail = reads ++ [x] := by
  cases Assignment.merge_ends ends with
  | unread | unknown | already => exact absurd wrote (onlyReads_find.not_wrote listed)
  | written =>
    have last := onlyReads_find.wrote_last listed wrote
    subst last
    cases wrote
    exact ⟨rfl, _, onlyReads_find, rfl⟩
  | overtaken | failed =>
    -- The write in the middle was refused.
    simp only [List.mem_cons, List.not_mem_nil, or_false] at listed
    rcases listed with rfl | rfl | rfl <;> cases wrote

/-- A job that ends after a write that was taken has written last, and comes back with what it
has written. -/
theorem ends_of_wrote (changes : job.Changes) {trail : List Exchange} {a : job.Outcome}
    (ends : (job.program chance).Ends trail a) (listed : x ∈ trail) (wrote : x.Wrote pr) :
    job.Returns a pr ∧ ∃ reads, OnlyReads reads ∧ trail = reads ++ [x] := by
  cases job with
  | create _ => exact create_ends_of_wrote ends listed wrote
  | reassign _ _ => exact reassign_ends_of_wrote ends listed wrote
  | merge _ => exact merge_ends_of_wrote ends listed wrote
  | get _ | direct _ => cases changes

/-- After a write that was taken, there is nothing left to ask, and the rest of a job comes back
with what was written. -/
theorem rest_of_wrote (changes : job.Changes) {trail : List Exchange} {rest : Program job.Outcome}
    (reaches : (job.program chance).Reaches trail rest) (listed : x ∈ trail)
    (wrote : x.Wrote pr) : ∃ a, job.Returns a pr ∧ rest.Ends [] a := by
  obtain ⟨more, a, ends⟩ := rest.ends_somewhere
  obtain ⟨returns, reads, only, whole⟩ :=
    ends_of_wrote changes (Program.reaches_trans reaches ends) (List.mem_append_left _ listed) wrote
  have quiet : more = [] := by
    rcases List.eq_nil_or_concat more with rfl | ⟨front, last, rfl⟩
    · rfl
    · rw [List.concat_eq_append, ← List.append_assoc] at whole
      have before := (List.append_inj' whole rfl).1
      exact absurd wrote (only.not_wrote (before ▸ List.mem_append_left _ listed))
  subst quiet
  exact ⟨a, returns, ends⟩

end Job

/-! ## Moments without a write -/

/-- What a moment wrote, if it changed the pull requests at all. -/
theorem Moment.still_or_wrote (m : Moment) :
    m.left = m.found ∨ ∃ pr, m.exchange.Wrote pr ∧ m.left = m.found.put pr := by
  cases m.effect with
  | nothing same => exact .inl same
  | placed pr said free put => exact .inr ⟨pr, said ▸ .created pr, put⟩
  | replaced pr old took stood opened put =>
    have said : m.exchange = ⟨.updatePullRequest pr, .ok ()⟩ := took
    exact .inr ⟨pr, said ▸ .updated pr, put⟩

/-- Where nothing is written, nothing changes. -/
theorem linked_of_reads {start finish : Shelf} {ledger : List Moment}
    (linked : Linked start ledger finish) (reads : ∀ m ∈ ledger, m.call.isWrite = false) :
    start = finish := by
  refine (kept (R := Eq) Eq.refl Eq.trans linked fun l m l' split _ _ => ?_).1
  rcases m.still_or_wrote with same | ⟨pr, wrote, -⟩
  · exact same.symm
  · have write : m.call.isWrite = true := wrote.isWrite
    rw [reads m (by simp [split])] at write
    cases write

namespace Floor

variable {s : Store} {f : Floor} {job : Job} {chance : Chance} {faults : List (Option StoreError)}

/-- Before a client writes, it only reads. -/
theorem Recorded.reads_before (h : Recorded s f) {l l' : List Moment} {m n : Moment}
    (changes : ∀ job chance, f.CameFor m.client job chance → job.Changes)
    (split : f.ledger = l ++ m :: l') (write : m.call.isWrite = true) (listed : n ∈ l)
    (same : n.client = m.client) : n.call.isWrite = false := by
  obtain ⟨job, chance, came, prepares⟩ := h.prepared split rfl write
  have only := prepares.onlyReads (changes job chance came)
  exact only n.exchange (same ▸ exchange_mem_trail listed)

/-! ## Alone, and stopped anywhere -/

/-- One client who comes to do a job and is alone. There is an entry of the list for each step of
the job, with the error that its call fails with, if it fails. After these steps the client has
stopped for good, wherever that is. -/
def alone (s : Store) (job : Job) (chance : Chance) (faults : List (Option StoreError)) : Floor :=
  run s (.arrive job chance :: faults.map (Turn.next 0))

theorem clients_serve {rest : Program job.Outcome} (here : f.clients = [⟨job, chance, rest⟩])
    (fault : Option StoreError) :
    ∃ rest', (f.serve 0 fault).clients = [⟨job, chance, rest'⟩] := by
  unfold serve
  rw [here]
  cases rest with
  | done a => exact ⟨_, here⟩
  | note event rest => exact ⟨rest, rfl⟩
  | call c resume => exact ⟨_, rfl⟩

theorem clients_alone (s : Store) (job : Job) (chance : Chance)
    (faults : List (Option StoreError)) :
    ∃ rest, (alone s job chance faults).clients = [⟨job, chance, rest⟩] := by
  induction faults using List.reverseRecOn with
  | nil => exact ⟨_, rfl⟩
  | append_singleton faults fault ih =>
    obtain ⟨rest, ih⟩ := ih
    have goes : alone s job chance (faults ++ [fault]) =
        (alone s job chance faults).serve 0 fault := by
      unfold alone
      rw [List.map_append, ← List.cons_append]
      exact (run_concat s _ _).trans (step_next _ 0 fault)
    rw [goes]
    exact clients_serve ih fault

theorem one_client {rest : Program job.Outcome} (here : f.clients = [⟨job, chance, rest⟩])
    {i : Nat} {job' : Job} {chance' : Chance} (came : f.CameFor i job' chance') :
    i = 0 ∧ job' = job := by
  obtain ⟨rest', there⟩ := came
  rw [here] at there
  cases i with
  | zero =>
    cases there
    exact ⟨rfl, rfl⟩
  | succ i => cases there

/-- Whoever is alone writes once at most. All the rest of the ledger is reads. -/
theorem one_write {rest : Program job.Outcome} (h : Recorded s f)
    (here : f.clients = [⟨job, chance, rest⟩]) (changes : job.Changes) :
    (∀ m ∈ f.ledger, m.call.isWrite = false) ∨ ∃ l m l', f.ledger = l ++ m :: l' ∧
      m.call.isWrite = true ∧ (∀ n ∈ l, n.call.isWrite = false) ∧
      ∀ n ∈ l', n.call.isWrite = false := by
  have same : ∀ m ∈ f.ledger, m.client = 0 := by
    intro m listed
    obtain ⟨l, l', split⟩ := List.append_of_mem listed
    obtain ⟨job', chance', came, -⟩ := h.asked l m l' split
    exact (one_client here came).1
  have reads : ∀ l m l', f.ledger = l ++ m :: l' → m.call.isWrite = true →
      ∀ n ∈ l, n.call.isWrite = false := by
    intro l m l' split write n listed
    have mine : n.client = m.client :=
      (same n (by simp [split, listed])).trans (same m (by simp [split])).symm
    refine h.reads_before ?_ split write listed mine
    intro job' chance' came
    rw [(one_client here came).2]
    exact changes
  by_cases wrote : ∃ m ∈ f.ledger, m.call.isWrite = true
  · obtain ⟨m, listed, write⟩ := wrote
    obtain ⟨l, l', split⟩ := List.append_of_mem listed
    refine .inr ⟨l, m, l', split, write, reads l m l' split write, ?_⟩
    intro n later
    by_contra again
    obtain ⟨a, b, rfl⟩ := List.append_of_mem later
    have split' : f.ledger = (l ++ m :: a) ++ n :: b := by simp [split]
    have read := reads _ n b split' (eq_true_of_ne_false again) m (by simp)
    rw [write] at read
    cases read
  · refine .inl fun m listed => ?_
    exact eq_false_of_ne_true fun write => wrote ⟨m, listed, write⟩

theorem writes_le_one {rest : Program job.Outcome} (h : Recorded s f)
    (here : f.clients = [⟨job, chance, rest⟩]) (changes : job.Changes) :
    (f.ledger.filter (·.call.isWrite)).length ≤ 1 := by
  have none : ∀ ledger : List Moment, (∀ m ∈ ledger, m.call.isWrite = false) →
      ledger.filter (·.call.isWrite) = [] := by
    intro ledger reads
    rw [List.filter_eq_nil_iff]
    intro m listed
    rw [reads m listed]
    decide
  rcases one_write h here changes with reads | ⟨l, m, l', split, write, before, after⟩
  · simp [none _ reads]
  · rw [split, List.filter_append, List.filter_cons, none l before, none l' after]
    simp [write]

/-- The pull requests are as they were, or the one write was taken and the job is as good as
done. -/
theorem still_or_put {rest : Program job.Outcome} (h : Recorded s f)
    (here : f.clients = [⟨job, chance, rest⟩]) (changes : job.Changes) :
    f.store.pullRequests = s.pullRequests ∨ ∃ pr a,
      f.store.pullRequests = s.pullRequests.put pr ∧ job.Returns a pr ∧ rest.Ends [] a := by
  have linked := h.linked
  have reached := h.brought 0 job chance rest (by rw [here]; rfl)
  rcases one_write h here changes with reads | ⟨l, m, l', split, write, before, after⟩
  · exact .inl (linked_of_reads linked reads).symm
  · rw [split] at linked
    obtain ⟨_, upto, rfl, since⟩ := linked_append.1 linked
    have found := linked_of_reads upto before
    have left := linked_of_reads since after
    rcases m.still_or_wrote with still | ⟨pr, wrote, put⟩
    · exact .inl (by rw [found, ← still, left])
    · obtain ⟨job', chance', came, -⟩ := h.asked l m l' split
      have said := exchange_mem_trail (show m ∈ f.ledger by simp [split])
      rw [(one_client here came).1] at said
      obtain ⟨a, returns, ends⟩ := Job.rest_of_wrote changes reached said wrote
      exact .inr ⟨pr, a, by rw [found, ← put, left], returns, ends⟩

/-- However its calls fail and wherever it stops, a client who is alone leaves the store as it was
or with one more write, of just the pull request that the job comes back with if it goes on. It
never tries to write twice, and where it comes back with an error the store is as it was. -/
theorem all_or_nothing (s : Store) (job : Job) (changes : job.Changes) (chance : Chance)
    (faults : List (Option StoreError)) :
    ∃ rest : Program job.Outcome,
      (alone s job chance faults).clients = [⟨job, chance, rest⟩] ∧
      ((alone s job chance faults).store = s ∨ ∃ pr a,
        (alone s job chance faults).store = { s with pullRequests := s.pullRequests.put pr } ∧
        job.Returns a pr ∧ rest.Ends [] a) ∧
      ((alone s job chance faults).ledger.filter (·.call.isWrite)).length ≤ 1 ∧
      (∀ a, rest = .done a → job.Failed a → (alone s job chance faults).store = s) ∧
      (alone s job chance faults).store.users = s.users ∧
      (alone s job chance faults).store.teams = s.teams := by
  obtain ⟨rest, here⟩ := clients_alone s job chance faults
  have h : Recorded s (alone s job chance faults) := recorded_run s _
  have staff : (alone s job chance faults).store.users = s.users ∧
      (alone s job chance faults).store.teams = s.teams := by
    refine (staff_unmoved ?_).1
    intro users teams listed
    rcases List.mem_cons.1 listed with same | listed
    · cases same
    · obtain ⟨fault, -, same⟩ := List.mem_map.1 listed
      cases fault <;> cases same
  generalize alone s job chance faults = f at *
  have whole : ∀ shelf, f.store.pullRequests = shelf →
      f.store = { s with pullRequests := shelf } := by
    rintro shelf rfl
    rw [← staff.1, ← staff.2]
  have outcome : f.store = s ∨ ∃ pr a, f.store = { s with pullRequests := s.pullRequests.put pr } ∧
      job.Returns a pr ∧ rest.Ends [] a := by
    rcases still_or_put h here changes with still | ⟨pr, a, put, job_done⟩
    · exact .inl (whole _ still)
    · exact .inr ⟨pr, a, whole _ put, job_done⟩
  refine ⟨rest, here, outcome, writes_le_one h here changes, ?_, staff⟩
  rintro a rfl failed
  rcases outcome with same | ⟨pr, b, -, returns, ends⟩
  · exact same
  · obtain ⟨-, rfl⟩ := Program.ends_done.1 ends
    exact absurd failed (Job.not_failed returns)

/-- A reassignment that stops right after its write, before it can note it in the log. -/
def stoppedReassignment : Floor :=
  alone Sample.desk (.reassign ⟨"p"⟩ ⟨"bea"⟩) Sample.chance [none, none, none, none]

/-- It has written the whole of what it would have come back with. -/
theorem stoppedReassignment_is_whole :
    (Job.reassign ⟨"p"⟩ ⟨"bea"⟩).Changes ∧
    (stoppedReassignment.stored ⟨"p"⟩).map PullRequest.reviewerIds =
      some [⟨"dan"⟩, ⟨"cid"⟩] ∧
    ∃ (rest : Program (Job.reassign ⟨"p"⟩ ⟨"bea"⟩).Outcome) (new : UserId) (pr : PullRequest),
      stoppedReassignment.clients = [⟨_, Sample.chance, rest⟩] ∧
      stoppedReassignment.store =
        { Sample.desk with pullRequests := Sample.desk.pullRequests.put pr } ∧
      rest.Ends [] (.ok (new, pr)) := by
  refine ⟨trivial, rfl, ?_⟩
  obtain ⟨rest, here, outcome, -⟩ := all_or_nothing Sample.desk (.reassign ⟨"p"⟩ ⟨"bea"⟩) trivial
    Sample.chance [none, none, none, none]
  rcases outcome with same | ⟨pr, a, put, ⟨new, rfl⟩, ends⟩
  · have shelf := congrArg (fun store => store.pullRequests.entries) same
    exact absurd shelf (by decide)
  · exact ⟨rest, new, pr, here, put, ends⟩

end Floor

end ReviewDesk
