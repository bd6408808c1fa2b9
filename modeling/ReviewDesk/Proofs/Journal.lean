-- What the log says of results. A service tells of its write once the write is taken, and of
-- nothing else. So among any number of callers at one store, each creation and each merge is told
-- once: the store takes one of each, and only whoever made it tells of it.
import ReviewDesk.Proofs.Failures
import ReviewDesk.Proofs.FirstCome
import ReviewDesk.Proofs.Office

namespace ReviewDesk

/-! ## One service -/

/-- The act makes a result or tells of one. -/
def Act.Loud : Act → Prop
  | exchange x => x.call.isWrite = true ∧ x.Succeeded
  | event e => e.level = .info

theorem Act.Quiet.not_loud {act : Act} (quiet : act.Quiet) : ¬ act.Loud := by
  cases act with
  | exchange x =>
    rintro ⟨write, -⟩
    rw [quiet.1] at write
    cases write
  | event e => exact quiet

/-- The program is done or waits for a reply. It is not about to write into its log. -/
def Program.AtRest {α : Type} (p : Program α) : Prop := ∀ event rest, p ≠ .note event rest

namespace Service

open Program Assignment

/-- There is no result and none is told, or there is one write that was taken, the event that tells
of it right after, and the end. -/
inductive Told (s : Service) : List Act → Program (Except AssignmentError s.Answer) → Prop
  | silent {acts : List Act} {q : Program (Except AssignmentError s.Answer)} :
      (∀ act ∈ acts, ¬ act.Loud) → Told s acts q
  | told {before : List Act} {c : Call} {a : c.Answer} {event : Event} {answer : s.Answer} :
      (∀ act ∈ before, ¬ act.Loud) → c.isWrite = true → event.level = .info →
      s.Announces c event answer →
      Told s (before ++ [.exchange ⟨c, .ok a⟩, .event event]) (done (.ok answer))

variable {s : Service} {chance : Chance} {c : Call} {event : Event} {answer : s.Answer}
  {acts : List Act} {q rest : Program (Except AssignmentError s.Answer)}

theorem Announces.info (h : s.Announces c event answer) : event.level = .info := by
  cases h <;> rfl

theorem silent_of_failure {reads after : List Act} {e : StoreError}
    (quiet : ∀ act ∈ reads, act.Quiet) (later : ∀ act ∈ after, ¬ act.Loud) :
    ∀ act ∈ reads ++ .exchange ⟨c, .error e⟩ :: after, ¬ act.Loud := by
  intro act listed
  rcases List.mem_append.1 listed with early | late
  · exact (quiet act early).not_loud
  rcases List.mem_cons.1 late with rfl | late
  · rintro ⟨-, succeeded⟩
    exact not_succeeded succeeded
  · exact later act late

theorem told_of_performs (performs : (s.program chance).Performs acts q) (atRest : q.AtRest) :
    s.Told acts q := by
  cases course performs with
  | reading quiet heeds => exact .silent fun act listed => (quiet act listed).not_loud
  | stopped quiet read => exact .silent (silent_of_failure quiet (by simp))
  | wrote quiet write closing =>
    cases closing with
    | taken | unsettled => exact absurd rfl (atRest _ _)
    | told announces =>
      exact .told (fun act listed => (quiet act listed).not_loud) write announces.info announces
    | refused => exact .silent (silent_of_failure quiet (by simp))
    | rereads => exact .silent (silent_of_failure quiet (by simp [Act.Loud, Event.level]))
    | recovers =>
      exact .silent (silent_of_failure quiet (by simp [Act.Loud, Event.level, Call.isWrite]))

/-- An event that tells of a result comes right after the write, and before nothing. -/
theorem announces_of_note (performs : (s.program chance).Performs acts (note event rest))
    (info : event.level = .info) :
    ∃ before c a answer, acts = before ++ [.exchange ⟨c, .ok a⟩] ∧
      s.Announces c event answer ∧ rest = done (.ok answer) := by
  generalize here : note event rest = q at performs
  cases course performs with
  | reading quiet heeds =>
    subst here
    exact absurd info heeds.1
  | stopped => cases here
  | wrote quiet write closing =>
    cases closing with
    | taken announces =>
      cases here
      exact ⟨_, _, _, _, rfl, announces, rfl⟩
    | unsettled =>
      cases here
      cases info
    | told | refused | rereads | recovers => cases here

end Service

/-! ## Many callers -/

/-- The caller is somewhere in what was asked for. -/
def Caller.Served (caller : Caller) : Prop :=
  ∃ chance acts, (caller.service.program chance).Performs acts caller.rest

/-- Whether the next step of a caller is to write an event of a kind. -/
def Caller.isAbout (tells : Event → Bool) (caller : Caller) : Bool :=
  match caller.rest with
  | .note event _ => tells event
  | _ => false

namespace Office

/-- A kind of event that tells of something that can be seen on the shelf and stays. -/
structure Marks (tells : Event → Bool) (settled : Shelf → Prop) : Prop where
  info : ∀ event, tells event = true → event.level = .info
  lasts : ∀ a b, Lasts a b → settled a → settled b
  begins : ∀ (m : Moment) (s : Service) (c : Call) (a : c.Answer) (event : Event)
    (answer : s.Answer), s.Announces c event answer → tells event = true →
    m.exchange = ⟨c, .ok a⟩ → ¬ settled m.found ∧ settled m.left

/-- How many events of a kind have been written, or are just about to be. -/
def tellings (tells : Event → Bool) (o : Office) : Nat :=
  o.journal.countP tells + o.callers.countP (Caller.isAbout tells)

/-- What is told or about to be told is told once, and it is so. -/
structure Kept (tells : Event → Bool) (settled : Shelf → Prop) (o : Office) : Prop where
  served : ∀ caller ∈ o.callers, caller.Served
  once : o.tellings tells ≤ 1
  settled : o.tellings tells ≠ 0 → settled o.store.pullRequests

variable {tells : Event → Bool} {settled : Shelf → Prop} {o : Office} {i : Nat}
  {fault : Option StoreError}

theorem kept_opened (s : Store) : Kept tells settled (opened s) := by
  refine ⟨?_, ?_, ?_⟩ <;> simp [opened, tellings]

/-- Whoever is about to tell of a result has just had the write taken. -/
theorem announces_of_isAbout (marks : Marks tells settled) {service : Service} {chance : Chance}
    {acts : List Act} {rest : Program (Except AssignmentError service.Answer)}
    (performs : (service.program chance).Performs acts rest)
    (about : Caller.isAbout tells ⟨service, rest⟩ = true) :
    ∃ before c a event answer, acts = before ++ [.exchange ⟨c, .ok a⟩] ∧
      service.Announces c event answer ∧ tells event = true := by
  cases rest with
  | done | call => cases about
  | note event rest =>
    have info := marks.info event about
    obtain ⟨before, c, a, answer, path, announces, -⟩ := Service.announces_of_note performs info
    exact ⟨before, c, a, event, answer, path, announces, about⟩

/-- Nobody is about to tell of a result without having made a call just before. -/
theorem not_isAbout (marks : Marks tells settled) {service : Service} {chance : Chance}
    {acts : List Act} {rest : Program (Except AssignmentError service.Answer)}
    (performs : (service.program chance).Performs acts rest)
    (no_call : ∀ before x, acts ≠ before ++ [.exchange x]) :
    Caller.isAbout tells ⟨service, rest⟩ = false := by
  apply eq_false_of_ne_true
  intro about
  obtain ⟨before, c, a, event, answer, path, -⟩ := announces_of_isAbout marks performs about
  exact no_call before _ path

/-- What a caller is about to tell is counted where the caller stands. -/
theorem countP_set_isAbout {old : Caller} (here : o.callers[i]? = some old) (new : Caller) :
    (o.callers.set i new).countP (Caller.isAbout tells) +
        (if old.isAbout tells = true then 1 else 0) =
      o.callers.countP (Caller.isAbout tells) + (if new.isAbout tells = true then 1 else 0) := by
  obtain ⟨within, rfl⟩ := List.getElem?_eq_some_iff.1 here
  rw [List.countP_set within]
  by_cases about : o.callers[i].isAbout tells = true
  · have some : 0 < o.callers.countP (Caller.isAbout tells) :=
      List.countP_pos_iff.2 ⟨_, List.getElem_mem within, about⟩
    simp only [about, if_true]
    omega
  · simp only [about, Bool.false_eq_true, if_false]
    omega

theorem Kept.served_set (h : Kept tells settled o) {caller : Caller} (served : caller.Served) :
    ∀ other ∈ o.callers.set i caller, other.Served := by
  intro other listed
  rcases List.mem_or_eq_of_mem_set listed with old | rfl
  · exact h.served other old
  · exact served

/-- Where nothing more is told, it is enough that what is settled stays so. -/
theorem Kept.carry {o' : Office} (h : Kept tells settled o)
    (served : ∀ caller ∈ o'.callers, caller.Served) (same : o'.tellings tells = o.tellings tells)
    (stays : settled o.store.pullRequests → settled o'.store.pullRequests) :
    Kept tells settled o' := by
  refine ⟨served, ?_, ?_⟩
  · rw [same]
    exact h.once
  · rw [same]
    exact fun some => stays (h.settled some)

theorem Kept.arrive (marks : Marks tells settled) (h : Kept tells settled o) (service : Service)
    (chance : Chance) : Kept tells settled (o.step (.arrive service chance)) := by
  have start : (service.program chance).Performs [] (service.program chance) := .here _
  have silent := not_isAbout marks start (by simp)
  refine h.carry ?_ ?_ id
  · intro caller listed
    rcases List.mem_append.1 listed with old | new
    · exact h.served caller old
    · rw [List.mem_singleton.1 new]
      exact ⟨chance, [], start⟩
  · simp [tellings, step, silent]

/-- An event goes from what is about to be told to what is told. -/
theorem Kept.note (marks : Marks tells settled) (h : Kept tells settled o) {service : Service}
    {event : Event} {rest : Program (Except AssignmentError service.Answer)}
    (here : o.callers[i]? = some ⟨service, .note event rest⟩) :
    Kept tells settled
      { o with callers := o.callers.set i ⟨service, rest⟩, journal := o.journal ++ [event] } := by
  obtain ⟨chance, acts, performs⟩ := h.served _ (List.mem_of_getElem? here)
  have onward := Program.performs_trans performs (.note (.here rest))
  have silent : Caller.isAbout tells ⟨service, rest⟩ = false := by
    apply not_isAbout marks onward
    intro before x path
    have last := (List.append_inj' path rfl).2
    simp at last
  have moved : (o.callers.set i ⟨service, rest⟩).countP (Caller.isAbout tells) +
      (if tells event = true then 1 else 0) = o.callers.countP (Caller.isAbout tells) +
      (if Caller.isAbout tells ⟨service, rest⟩ = true then 1 else 0) := countP_set_isAbout here _
  rw [silent, if_neg Bool.false_ne_true] at moved
  refine h.carry (h.served_set ⟨chance, _, onward⟩) ?_ id
  unfold tellings
  dsimp only
  rw [List.countP_append, List.countP_singleton]
  omega

/-- A caller whose write is taken is the first to tell of it. -/
theorem Kept.call (marks : Marks tells settled) (h : Kept tells settled o) {service : Service}
    {c : Call} {resume : c.Reply → Program (Except AssignmentError service.Answer)}
    (here : o.callers[i]? = some ⟨service, .call c resume⟩) {m : Moment} (found : m.before = o.store)
    {reply : c.Reply} (said : m.exchange = ⟨c, reply⟩) :
    Kept tells settled
      { o with store := m.after, callers := o.callers.set i ⟨service, resume reply⟩ } := by
  obtain ⟨chance, acts, performs⟩ := h.served _ (List.mem_of_getElem? here)
  have onward := Program.performs_trans performs (.call reply (.here (resume reply)))
  have own : Caller.Served ⟨service, resume reply⟩ := ⟨chance, _, onward⟩
  have shelf : m.found = o.store.pullRequests := congrArg Store.pullRequests found
  have moved : (o.callers.set i ⟨service, resume reply⟩).countP (Caller.isAbout tells) +
      (if false = true then 1 else 0) = o.callers.countP (Caller.isAbout tells) +
      (if Caller.isAbout tells ⟨service, resume reply⟩ = true then 1 else 0) :=
    countP_set_isAbout here _
  rw [if_neg Bool.false_ne_true, Nat.add_zero] at moved
  by_cases about : Caller.isAbout tells ⟨service, resume reply⟩ = true
  · obtain ⟨before, c', a, event, answer, path, announces, told⟩ :=
      announces_of_isAbout marks onward about
    have last := (List.append_inj' path rfl).2
    have same : (⟨c, reply⟩ : Exchange) = ⟨c', .ok a⟩ := by simpa using last
    obtain ⟨unsettled, now⟩ := marks.begins m _ _ _ _ _ announces told (said.trans same)
    -- The store would not have taken the write if anybody had told of it before.
    have none : o.tellings tells = 0 := by
      by_contra some
      apply unsettled
      rw [shelf]
      exact h.settled some
    rw [if_pos about] at moved
    refine ⟨h.served_set own, ?_, fun _ => now⟩
    unfold tellings at none ⊢
    dsimp only
    omega
  · rw [if_neg about, Nat.add_zero] at moved
    refine h.carry (h.served_set own) ?_ ?_
    · unfold tellings
      dsimp only
      rw [moved]
    · intro stood
      rw [← shelf] at stood
      exact marks.lasts _ _ m.lasts stood

theorem Kept.step (marks : Marks tells settled) (h : Kept tells settled o) (t : Turn) :
    Kept tells settled (o.step t) := by
  cases t with
  | arrive service chance => exact h.arrive marks service chance
  | go i fault =>
    unfold Office.step serve
    dsimp only
    split
    · rename_i here
      exact h.note marks here
    · rename_i here
      exact h.call marks here rfl rfl
    · exact h
  | past c => exact h.carry h.served rfl (marks.lasts _ _ (⟨0, o.store, c, none⟩ : Moment).lasts)
  | staff users teams => exact h.carry h.served rfl id

theorem kept_run (marks : Marks tells settled) (s : Store) (turns : List Turn) :
    Kept tells settled (run s turns) := by
  induction turns using List.reverseRecOn with
  | nil => exact kept_opened s
  | append_singleton turns t ih =>
    rw [run_concat]
    exact ih.step marks t

/-- However the calls come between one another, an event of the kind is written once at most. -/
theorem told_once (marks : Marks tells settled) (s : Store) (turns : List Turn) :
    (run s turns).journal.countP tells ≤ 1 :=
  Nat.le_trans (Nat.le_add_right _ _) (kept_run marks s turns).once

/-! ## Creations and merges -/

/-- The event tells of the creation of a pull request. -/
def isCreation (id : PullRequestId) : Event → Bool
  | .pullRequestCreated other _ _ => other = id
  | _ => false

/-- The event tells of the merge of a pull request. -/
def isMerge (id : PullRequestId) : Event → Bool
  | .pullRequestMerged other => other = id
  | _ => false

/-- A creation is told of where something has come to stand under the id. -/
theorem marks_creation (id : PullRequestId) :
    Marks (isCreation id) fun shelf => ∃ pr, shelf.get? id = some pr := by
  refine ⟨?_, ?_, ?_⟩
  · intro event told
    cases event with
    | pullRequestCreated => rfl
    | _ => cases told
  · rintro a b lasts ⟨pr, stands⟩
    obtain ⟨now, stands', -⟩ := lasts id pr stands
    exact ⟨now, stands'⟩
  · intro m s c a event answer announces told said
    cases announces with
    | reassigned | merged => cases told
    | @created pr filled =>
      obtain rfl : filled.id = id := of_decide_eq_true told
      obtain ⟨free, stands⟩ := Moment.of_placed said
      refine ⟨?_, _, stands⟩
      rintro ⟨found, stood⟩
      cases free.symm.trans stood

/-- A merge is told of where a merged pull request has come to stand under the id. -/
theorem marks_merge (id : PullRequestId) :
    Marks (isMerge id) fun shelf => ∃ pr, shelf.get? id = some pr ∧ pr.isMerged = true := by
  refine ⟨?_, ?_, ?_⟩
  · intro event told
    cases event with
    | pullRequestMerged => rfl
    | _ => cases told
  · rintro a b lasts ⟨pr, stands, merged⟩
    exact ⟨pr, lasts.merged stands merged, merged⟩
  · intro m s c a event answer announces told said
    cases announces with
    | created | reassigned => cases told
    | @merged _ changed merged =>
      obtain rfl : changed.id = id := of_decide_eq_true told
      obtain ⟨old, stood, opened, -⟩ := Moment.of_took said
      refine ⟨?_, _, Moment.left_of_took said, merged⟩
      rintro ⟨found, stands, frozen⟩
      cases stood.symm.trans stands
      rw [opened] at frozen
      cases frozen

/-- A merge that is told stands, and whoever merges the same and is answered well goes away with
it. -/
theorem told_merge_stands (s : Store) (turns : List Turn) {id : PullRequestId}
    (told : .pullRequestMerged id ∈ (run s turns).journal) :
    ∃ pr, (run s turns).store.pullRequests.get? id = some pr ∧ pr.isMerged = true ∧
      ∀ (i : Nat) (other : PullRequest),
        (run s turns).callers[i]? = some ⟨.merge id, .done (.ok other)⟩ → other = pr := by
  have some_told : 0 < (run s turns).journal.countP (isMerge id) :=
    List.countP_pos_iff.2 ⟨_, told, decide_eq_true rfl⟩
  obtain ⟨pr, stands, merged⟩ := (kept_run (marks_merge id) s turns).settled
    (Nat.ne_of_gt (Nat.lt_of_lt_of_le some_told (Nat.le_add_right _ _)))
  refine ⟨pr, stands, merged, ?_⟩
  intro i other here
  have stands' := (merge_is_stored here).1
  rw [stands] at stands'
  exact (Option.some.inj stands').symm

/-- Of every service, whatever it is answered and wherever it stops: it tells of a result right
after a write of its own is taken, of what was written, and at no other time. Of any number of
callers at one store: a creation and a merge are told once at most for each id. -/
theorem events_mirror_writes :
    (∀ chance (s : Service) acts q, (s.program chance).Performs acts q → q.AtRest →
      s.Told acts q) ∧
    ∀ s turns id, (run s turns).journal.countP (isMerge id) ≤ 1 ∧
      (run s turns).journal.countP (isCreation id) ≤ 1 := by
  refine ⟨?_, ?_⟩
  · intro chance s acts q performs atRest
    exact Service.told_of_performs performs atRest
  · intro s turns id
    exact ⟨told_once (marks_merge id) s turns, told_once (marks_creation id) s turns⟩

/-- Two callers merge one pull request, and both have found it open. -/
def racingMerges : List Turn :=
  [.arrive (.merge ⟨"p"⟩) Sample.chance, .arrive (.merge ⟨"p"⟩) Sample.chance, .go 0 none, .go 1 none,
    .go 1 none, .go 0 none, .go 0 none, .go 0 none, .go 1 none]

/-- The one who is late says nothing of a merge, and the other says it once. -/
theorem racingMerges_are_told_once :
    (run Sample.desk racingMerges).journal =
      [.mergeWriteFailed ⟨"p"⟩ (Store.frozen ⟨"p"⟩), .pullRequestMerged ⟨"p"⟩] ∧
    (run Sample.desk racingMerges).journal.countP (isMerge ⟨"p"⟩) ≤ 1 ∧
    Service.Told (.merge ⟨"p"⟩)
      [.exchange ⟨.findPullRequest ⟨"p"⟩, .ok (some Sample.pr)⟩,
        .exchange ⟨.updatePullRequest (Sample.pr.merge ⟨5000⟩), .ok ()⟩,
        .event (.pullRequestMerged ⟨"p"⟩)]
      (.done (.ok (Sample.pr.merge ⟨5000⟩))) := by
  obtain ⟨alone, together⟩ := events_mirror_writes
  refine ⟨rfl, (together _ _ _).1, alone Sample.chance _ _ _ ?_ ?_⟩
  · exact .call _ (.call _ (.note (.here _)))
  · intro event rest same
    cases same

end Office

end ReviewDesk
