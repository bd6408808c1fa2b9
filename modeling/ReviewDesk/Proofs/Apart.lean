-- Clients at different pull requests do not meet. However their calls come between one another,
-- each gets what it would get alone, and the store ends up as if they had come one after the
-- other, in any order.
import ReviewDesk.Proofs.Frame
import ReviewDesk.Proofs.Ledger

namespace ReviewDesk

open Store

/-! ## Errands -/

/-- A job with all that it takes from outside: its clock readings and draws, and the error that
each of its calls fails with, if it fails. -/
structure Errand where
  job : Job
  chance : Chance
  faults : Nat → Option StoreError

namespace Errand

variable {e : Errand} {s t : Store} {id : PullRequestId}

def program (e : Errand) : Program e.job.Outcome := e.job.program e.chance

/-- What comes of an errand where nobody else is. -/
def alone (e : Errand) (s : Store) : e.job.Outcome × Store := s.runFrom e.faults 0 e.program

/-- The errands are about pull requests, each about another one. -/
structure Apart (errands : List Errand) : Prop where
  about : ∀ e ∈ errands, ∃ id, e.job.subject? = some id
  differ : errands.Pairwise fun a b => a.job.subject? ≠ b.job.subject?

theorem within_program (about : e.job.subject? = some id) : e.program.Within id :=
  Job.within_program e.chance about

theorem sameBut_alone (s : Store) (about : e.job.subject? = some id) :
    SameBut id s (e.alone s).2 :=
  sameBut_runFrom e.faults 0 s (within_program about)

theorem alone_congr (h : Same id s t) (about : e.job.subject? = some id) :
    (e.alone s).1 = (e.alone t).1 ∧ Same id (e.alone s).2 (e.alone t).2 :=
  h.runFrom e.faults 0 (within_program about)

end Errand

namespace Store

variable {s : Store} {errands order : List Errand} {e : Errand} {id : PullRequestId}

/-! ## One after the other -/

/-- The store after some errands, one after the other. -/
def afterAll (s : Store) (errands : List Errand) : Store :=
  errands.foldl (fun t e => (e.alone t).2) s

theorem afterAll_append (s : Store) (before after : List Errand) :
    s.afterAll (before ++ after) = (s.afterAll before).afterAll after := List.foldl_append

theorem afterAll_cons (s : Store) (e : Errand) (after : List Errand) :
    s.afterAll (e :: after) = (e.alone s).2.afterAll after := rfl

theorem staff_afterAll (s : Store) (about : ∀ e ∈ errands, ∃ id, e.job.subject? = some id) :
    (s.afterAll errands).users = s.users ∧ (s.afterAll errands).teams = s.teams := by
  induction errands generalizing s with
  | nil => exact ⟨rfl, rfl⟩
  | cons e errands ih =>
    obtain ⟨id, first⟩ := about e List.mem_cons_self
    have one := e.sameBut_alone s first
    obtain ⟨users, teams⟩ := ih (e.alone s).2 fun e later => about e (List.mem_cons_of_mem _ later)
    exact ⟨users.trans one.users.symm, teams.trans one.teams.symm⟩

/-- Errands about other pull requests change nothing for one. -/
theorem same_afterAll (s : Store)
    (about : ∀ e ∈ errands, ∃ other, e.job.subject? = some other ∧ id ≠ other) :
    Same id s (s.afterAll errands) := by
  induction errands generalizing s with
  | nil => exact .refl id s
  | cons e errands ih =>
    obtain ⟨other, first, differs⟩ := about e List.mem_cons_self
    have one := (e.sameBut_alone s first).same differs
    exact one.trans (ih (e.alone s).2 fun e listed => about e (List.mem_cons_of_mem _ listed))

/-- Among errands that are apart, each gets what it would get if it were the only one, and leaves
what it would leave. -/
theorem alone_of_apart {before after : List Errand} (apart : Errand.Apart (before ++ e :: after))
    (about : e.job.subject? = some id) :
    (e.alone (s.afterAll before)).1 = (e.alone s).1 ∧
      (s.afterAll (before ++ e :: after)).pullRequests.get? id =
        (e.alone s).2.pullRequests.get? id := by
  obtain ⟨-, ofRest, ofBefore⟩ := List.pairwise_append.1 apart.differ
  have elsewhere : ∀ b ∈ before, ∃ other, b.job.subject? = some other ∧ id ≠ other := by
    intro b listed
    obtain ⟨other, aboutOther⟩ := apart.about b (List.mem_append_left _ listed)
    refine ⟨other, aboutOther, fun same => ofBefore b listed e List.mem_cons_self ?_⟩
    rw [about, aboutOther, same]
  have later : ∀ a ∈ after, ∃ other, a.job.subject? = some other ∧ id ≠ other := by
    intro a listed
    obtain ⟨other, aboutOther⟩ := apart.about a (by simp [listed])
    refine ⟨other, aboutOther, fun same => (List.pairwise_cons.1 ofRest).1 a listed ?_⟩
    rw [about, aboutOther, same]
  obtain ⟨result, stored⟩ := Errand.alone_congr (s.same_afterAll elsewhere) about
  refine ⟨result.symm, ?_⟩
  rw [afterAll_append, afterAll_cons]
  exact (stored.trans (same_afterAll _ later)).stored.symm

end Store

/-! ## Between one another -/

namespace Floor

/-- Everybody has come, and nobody has begun. -/
def gather (s : Store) (errands : List Errand) : Floor :=
  ⟨s, errands.map fun e => ⟨e.job, e.chance, e.program⟩, []⟩

/-- The error that the next call of a client fails with, if it fails. -/
def nextFault (errands : List Errand) (f : Floor) (i : Nat) : Option StoreError :=
  errands[i]?.bind fun e => e.faults (trail i f.ledger).length

/-- Lets the clients go on as they stand in a schedule, one step each time. -/
def interleave (s : Store) (errands : List Errand) (schedule : List Nat) : Floor :=
  schedule.foldl (fun f i => f.serve i (nextFault errands f i)) (gather s errands)

/-- What is left of an errand comes to the same at this store as the whole of it at the store that
it began with. -/
structure OnCourse (s : Store) (e : Errand) (t : Store) (n : Nat) (rest : Program e.job.Outcome) :
    Prop where
  within : ∀ id, e.job.subject? = some id → rest.Within id
  result : (t.runFrom e.faults n rest).1 = (e.alone s).1
  stored : ∀ id, e.job.subject? = some id →
    (t.runFrom e.faults n rest).2.pullRequests.get? id = (e.alone s).2.pullRequests.get? id

/-- Every client is on course, and nothing else has changed. -/
structure Underway (s : Store) (errands : List Errand) (f : Floor) : Prop where
  client : ∀ (i : Nat) e, errands[i]? = some e → ∃ rest,
    f.clients[i]? = some ⟨e.job, e.chance, rest⟩ ∧
      OnCourse s e f.store (trail i f.ledger).length rest
  nobody : ∀ i : Nat, errands[i]? = none → f.clients[i]? = none
  kept : ∀ id, (∀ e ∈ errands, e.job.subject? ≠ some id) →
    f.store.pullRequests.get? id = s.pullRequests.get? id
  users : f.store.users = s.users
  teams : f.store.teams = s.teams

variable {s t : Store} {errands : List Errand} {e : Errand} {f : Floor} {n : Nat}
  {id : PullRequestId}

theorem underway_gather (s : Store) (errands : List Errand) :
    Underway s errands (gather s errands) := by
  refine ⟨?_, ?_, fun _ _ => rfl, rfl, rfl⟩
  · intro i e mine
    refine ⟨e.program, ?_, fun _ about => Errand.within_program about, rfl, fun _ _ => rfl⟩
    unfold gather
    rw [List.getElem?_map, mine, Option.map_some]
  · intro i absent
    unfold gather
    rw [List.getElem?_map, absent, Option.map_none]

theorem OnCourse.note {event : Event} {rest : Program e.job.Outcome}
    (h : OnCourse s e t n (.note event rest)) : OnCourse s e t n rest :=
  ⟨h.within, h.result, h.stored⟩

theorem OnCourse.call {c : Call} {resume : c.Reply → Program e.job.Outcome}
    (h : OnCourse s e t n (.call c resume)) :
    OnCourse s e (t.outcome (e.faults n) c).2 (n + 1)
      (resume (t.outcome (e.faults n) c).1) :=
  ⟨fun id about => (h.within id about).2 _ (t.fits_outcome _ c), h.result, h.stored⟩

/-- A client who is on course stays so when others change what it does not see. -/
theorem OnCourse.same {u : Store} {rest : Program e.job.Outcome} (h : OnCourse s e t n rest)
    (about : e.job.subject? = some id) (same : Same id t u) : OnCourse s e u n rest := by
  obtain ⟨result, stored⟩ := same.runFrom e.faults n (h.within id about)
  refine ⟨h.within, result.symm.trans h.result, ?_⟩
  intro id' about'
  rw [about] at about'
  cases about'
  exact stored.stored.symm.trans (h.stored id about)

theorem subject_ne {a b : Errand} {i j : Nat} (apart : Errand.Apart errands)
    (here : errands[i]? = some a) (there : errands[j]? = some b) (differ : i ≠ j) :
    a.job.subject? ≠ b.job.subject? := by
  obtain ⟨within, rfl⟩ := List.getElem?_eq_some_iff.1 here
  obtain ⟨within', rfl⟩ := List.getElem?_eq_some_iff.1 there
  have pairs := List.pairwise_iff_getElem.1 apart.differ
  rcases Nat.lt_or_gt_of_ne differ with less | more
  · exact pairs i j within within' less
  · exact (pairs j i within' within more).symm

/-- Where a client goes on, there is nobody more than before. -/
theorem Underway.nobody_set (h : Underway s errands f) (j : Nat) (c : Client) (i : Nat)
    (absent : errands[i]? = none) : (f.clients.set j c)[i]? = none := by
  rw [List.getElem?_eq_none_iff, List.length_set]
  exact List.getElem?_eq_none_iff.1 (h.nobody i absent)

theorem Underway.note (h : Underway s errands f) {j : Nat} (mine : errands[j]? = some e)
    {event : Event} {rest : Program e.job.Outcome}
    (here : f.clients[j]? = some ⟨e.job, e.chance, .note event rest⟩)
    (course : OnCourse s e f.store (trail j f.ledger).length (.note event rest)) :
    Underway s errands { f with clients := f.clients.set j ⟨e.job, e.chance, rest⟩ } := by
  refine ⟨?_, h.nobody_set j _, h.kept, h.users, h.teams⟩
  intro i e' there
  by_cases same : j = i
  · subst same
    rw [mine] at there
    cases there
    exact ⟨rest, List.getElem?_set_self (inside here), course.note⟩
  · obtain ⟨rest', client⟩ := h.client i e' there
    exact ⟨rest', by rw [List.getElem?_set_ne same]; exact client.1, client.2⟩

theorem Underway.call (apart : Errand.Apart errands) (h : Underway s errands f) {j : Nat}
    (mine : errands[j]? = some e) {c : Call} {resume : c.Reply → Program e.job.Outcome}
    (here : f.clients[j]? = some ⟨e.job, e.chance, .call c resume⟩)
    (course : OnCourse s e f.store (trail j f.ledger).length (.call c resume)) {m : Moment}
    (moment : m = ⟨j, f.store, c, e.faults (trail j f.ledger).length⟩) :
    Underway s errands
      { store := (f.store.outcome (e.faults (trail j f.ledger).length) c).2
        clients := f.clients.set j
          ⟨e.job, e.chance, resume (f.store.outcome (e.faults (trail j f.ledger).length) c).1⟩
        ledger := f.ledger ++ [m] } := by
  have client : m.client = j := by rw [moment]
  obtain ⟨id, about⟩ := apart.about e (List.mem_of_getElem? mine)
  have moved := f.store.sameBut_outcome (e.faults (trail j f.ledger).length)
    (course.within id about).1
  refine ⟨?_, h.nobody_set j _, ?_, moved.users.symm.trans h.users,
    moved.teams.symm.trans h.teams⟩
  · intro i e' there
    dsimp only
    by_cases same : j = i
    · subst same
      rw [mine] at there
      cases there
      refine ⟨_, List.getElem?_set_self (inside here), ?_⟩
      have longer := trail_concat f.ledger m
      rw [client] at longer
      rw [longer, List.length_append]
      exact course.call
    · -- The others do not see what has changed.
      obtain ⟨rest', there', course'⟩ := h.client i e' there
      obtain ⟨id', about'⟩ := apart.about e' (List.mem_of_getElem? there)
      refine ⟨rest', by rw [List.getElem?_set_ne same]; exact there', ?_⟩
      rw [trail_concat_of_ne f.ledger (client ▸ same)]
      refine course'.same about' (moved.same fun equal => ?_)
      exact subject_ne apart mine there same (by rw [about, about', equal])
  · intro other unrelated
    have differs : other ≠ id := by
      rintro rfl
      exact unrelated e (List.mem_of_getElem? mine) about
    exact (moved.stored other differs).symm.trans (h.kept other unrelated)

/-- A step of one client keeps every client on course. -/
theorem Underway.serve (apart : Errand.Apart errands) (h : Underway s errands f) (j : Nat) :
    Underway s errands (f.serve j (nextFault errands f j)) := by
  rcases mine : errands[j]? with _ | e
  · unfold Floor.serve
    rw [h.nobody j mine]
    exact h
  obtain ⟨rest, here, course⟩ := h.client j e mine
  have fault : nextFault errands f j = e.faults (trail j f.ledger).length := by
    unfold nextFault
    rw [mine, Option.bind_some]
  unfold Floor.serve
  rw [here, fault]
  cases rest with
  | done a => exact h
  | note event rest => exact h.note mine here course
  | call c resume =>
    have called := Underway.call apart h mine here course rfl
    rw [← Moment.outcome_eq ⟨j, f.store, c, e.faults (trail j f.ledger).length⟩] at called
    exact called

theorem underway_interleave (apart : Errand.Apart errands) (schedule : List Nat) :
    Underway s errands (interleave s errands schedule) := by
  unfold interleave
  induction schedule using List.reverseRecOn with
  | nil => exact underway_gather s errands
  | append_singleton schedule i ih =>
    rw [List.foldl_append]
    exact ih.serve apart i

/-- Clients whose jobs are about different pull requests come to the same results and leave the
same store, in whatever order their calls come, as when they come one after the other in any
order. -/
theorem interleaving_does_not_matter (s : Store) (errands : List Errand)
    (apart : Errand.Apart errands) (schedule : List Nat)
    (finished : (interleave s errands schedule).Finished) (order : List Errand)
    (perm : order.Perm errands) :
    (interleave s errands schedule).store = s.afterAll order ∧
    ∀ (i : Nat) e before after, errands[i]? = some e → order = before ++ e :: after →
      (interleave s errands schedule).clients[i]? =
        some ⟨e.job, e.chance, .done (e.alone (s.afterAll before)).1⟩ := by
  have h : Underway s errands (interleave s errands schedule) := underway_interleave apart schedule
  have apart' : Errand.Apart order :=
    ⟨fun e listed => apart.about e (perm.mem_iff.1 listed),
      perm.symm.pairwise apart.differ fun differ => differ.symm⟩
  generalize interleave s errands schedule = f at *
  -- Each client has come to the result and has left what it would have left alone.
  have ended : ∀ (i : Nat) e, errands[i]? = some e →
      f.clients[i]? = some ⟨e.job, e.chance, .done (e.alone s).1⟩ ∧
      ∀ id, e.job.subject? = some id →
        f.store.pullRequests.get? id = (e.alone s).2.pullRequests.get? id := by
    intro i e mine
    obtain ⟨rest, here, course⟩ := h.client i e mine
    obtain ⟨a, rfl⟩ := finished _ _ _ _ here
    have result : a = (e.alone s).1 := course.result
    exact ⟨result ▸ here, course.stored⟩
  refine ⟨?_, ?_⟩
  · obtain ⟨users, teams⟩ := s.staff_afterAll apart'.about
    refine eq_of_same fun id => ⟨h.users.trans users.symm, h.teams.trans teams.symm, ?_⟩
    by_cases related : ∃ e ∈ errands, e.job.subject? = some id
    · obtain ⟨e, listed, about⟩ := related
      obtain ⟨i, mine⟩ := List.mem_iff_getElem?.1 listed
      obtain ⟨before, after, rfl⟩ := List.append_of_mem (perm.mem_iff.2 listed)
      rw [(ended i e mine).2 id about, (alone_of_apart apart' about).2]
    · have unrelated : ∀ e ∈ errands, e.job.subject? ≠ some id :=
        fun e listed about => related ⟨e, listed, about⟩
      have others : ∀ e ∈ order, ∃ other, e.job.subject? = some other ∧ id ≠ other := by
        intro e listed
        obtain ⟨other, about⟩ := apart'.about e listed
        refine ⟨other, about, ?_⟩
        rintro rfl
        exact unrelated e (perm.mem_iff.1 listed) about
      exact (h.kept id unrelated).trans (s.same_afterAll others).stored
  · rintro i e before after mine rfl
    obtain ⟨id, about⟩ := apart.about e (List.mem_of_getElem? mine)
    rw [(alone_of_apart apart' about).1]
    exact (ended i e mine).1

/-- Bea opens a pull request, while one of her reviews goes to somebody else and the look-up of a
third pull request fails. -/
def busyErrands : List Errand :=
  [⟨.reassign ⟨"p"⟩ ⟨"bea"⟩, Sample.chance, fun _ => none⟩,
    ⟨.create { Sample.pr with id := ⟨"q"⟩, author := ⟨"bea"⟩, reviewers := [] }, Sample.chance,
      fun _ => none⟩,
    ⟨.get ⟨"r"⟩, Sample.chance, fun _ => some (.database "no answer")⟩]

/-- The calls of the three come between one another. -/
def busySchedule : List Nat := [0, 1, 1, 0, 2, 1, 0, 1, 1, 0, 1, 0, 1]

/-- They might as well have come one after the other, the last one first. -/
theorem busySchedule_does_not_matter :
    Errand.Apart busyErrands ∧
    (interleave Sample.desk busyErrands busySchedule).Finished ∧
    ((interleave Sample.desk busyErrands busySchedule).stored ⟨"p"⟩).map
      PullRequest.reviewerIds = some [⟨"dan"⟩, ⟨"cid"⟩] ∧
    ((interleave Sample.desk busyErrands busySchedule).stored ⟨"q"⟩).map
      PullRequest.reviewerIds = some [⟨"cid"⟩, ⟨"dan"⟩] ∧
    (interleave Sample.desk busyErrands busySchedule).store =
      Sample.desk.afterAll busyErrands.reverse := by
  have apart : Errand.Apart busyErrands := by
    refine ⟨?_, by simp [busyErrands, Job.subject?]⟩
    intro e listed
    simp only [busyErrands, List.mem_cons, List.not_mem_nil, or_false] at listed
    rcases listed with rfl | rfl | rfl <;> exact ⟨_, rfl⟩
  have finished : (interleave Sample.desk busyErrands busySchedule).Finished := by
    intro i job chance rest here
    rcases i with _ | _ | _ | i <;> cases here <;> exact ⟨_, rfl⟩
  exact ⟨apart, finished, rfl, rfl, (interleaving_does_not_matter Sample.desk busyErrands apart
    busySchedule finished _ (List.reverse_perm _)).1⟩

end Floor

end ReviewDesk
