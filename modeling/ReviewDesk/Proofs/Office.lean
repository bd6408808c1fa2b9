-- The desk with a log that everybody writes into. Callers come for anything that the desk does. The
-- floor keeps no log and knows fewer jobs, but a floor can follow an office turn by turn: the store
-- is the same, and every caller with a job of the floor's has a client there who is just as far.
import ReviewDesk.Proofs.Finality
import ReviewDesk.Proofs.Services

namespace ReviewDesk

/-- Somebody whom the desk serves: what is asked for, and what is left to do. -/
structure Caller where
  service : Service
  rest : Program (Except AssignmentError service.Answer)

/-- The desk with all its callers at one store, and what they have written into the log. -/
structure Office where
  store : Store
  callers : List Caller
  journal : List Event

namespace Office

inductive Turn where
  /-- A caller comes in. -/
  | arrive (service : Service) (chance : Chance)
  /-- A caller goes one step on. If the step is a call, it may fail on the way. -/
  | go (caller : Nat) (fault : Option StoreError)
  /-- Somebody else makes a call, past the desk. -/
  | past (c : Call)
  /-- Somebody else changes users and teams. -/
  | staff (users : Register User.id) (teams : Register Team.id)

def opened (s : Store) : Office := ⟨s, [], []⟩

/-- Lets a caller go one step on. Nothing happens when everything is done. -/
def serve (o : Office) (i : Nat) (fault : Option StoreError) : Office :=
  match o.callers[i]? with
  | some ⟨service, .note event rest⟩ =>
    { o with callers := o.callers.set i ⟨service, rest⟩, journal := o.journal ++ [event] }
  | some ⟨service, .call c resume⟩ =>
    let m : Moment := ⟨i, o.store, c, fault⟩
    { o with store := m.after, callers := o.callers.set i ⟨service, resume m.reply⟩ }
  | _ => o

def step (o : Office) : Turn → Office
  | .arrive service chance =>
    { o with callers := o.callers ++ [⟨service, service.program chance⟩] }
  | .go i fault => o.serve i fault
  | .past c => { o with store := (o.store.answer c).2 }
  | .staff users teams => { o with store := { o.store with users, teams } }

/-- The office after some turns. A caller who gets no more turns is never answered. -/
def run (s : Store) (turns : List Turn) : Office := turns.foldl step (opened s)

theorem run_concat (s : Store) (turns : List Turn) (t : Turn) :
    run s (turns ++ [t]) = (run s turns).step t := List.foldl_concat ..

end Office

/-! ## Callers and clients -/

/-- The service is none of the jobs that the floor knows. -/
def Service.Other : Service → Prop
  | create _ | reassign _ _ | merge _ | get _ => False
  | reviewsFor _ | reviewerStatistics | reviewerStatisticsFor _ | pullRequestStatistics => True

/-- The client came for the same as the caller, and is just as far. -/
inductive Caller.Matches : Caller → Client → Prop
  | create {pr : PullRequest} {chance : Chance}
      {rest : Program (Except AssignmentError PullRequest)} :
      Matches ⟨.create pr, rest⟩ ⟨.create pr, chance, rest⟩
  | reassign {id : PullRequestId} {old : UserId} {chance : Chance}
      {rest : Program (Except AssignmentError (UserId × PullRequest))} :
      Matches ⟨.reassign id old, rest⟩ ⟨.reassign id old, chance, rest⟩
  | merge {id : PullRequestId} {chance : Chance}
      {rest : Program (Except AssignmentError PullRequest)} :
      Matches ⟨.merge id, rest⟩ ⟨.merge id, chance, rest⟩
  | get {id : PullRequestId} {chance : Chance}
      {rest : Program (Except AssignmentError PullRequest)} :
      Matches ⟨.get id, rest⟩ ⟨.get id, chance, rest⟩

namespace Caller

variable {s : Service} {client : Client}

/-- Somebody who comes in has a job of the floor's or not. -/
theorem matches_or_other (s : Service) (chance : Chance) :
    (∃ job : Job, Matches ⟨s, s.program chance⟩ ⟨job, chance, job.program chance⟩) ∨ s.Other := by
  cases s with
  | create pr => exact .inl ⟨.create pr, .create⟩
  | reassign id old => exact .inl ⟨.reassign id old, .reassign⟩
  | merge id => exact .inl ⟨.merge id, .merge⟩
  | get id => exact .inl ⟨.get id, .get⟩
  | reviewsFor | reviewerStatistics | reviewerStatisticsFor | pullRequestStatistics =>
    exact .inr trivial

theorem Matches.note {event : Event} {rest : Program (Except AssignmentError s.Answer)}
    (h : Matches ⟨s, .note event rest⟩ client) :
    ∃ job chance rest', client = ⟨job, chance, .note event rest'⟩ ∧
      Matches ⟨s, rest⟩ ⟨job, chance, rest'⟩ := by
  cases h with
  | create => exact ⟨_, _, _, rfl, .create⟩
  | reassign => exact ⟨_, _, _, rfl, .reassign⟩
  | merge => exact ⟨_, _, _, rfl, .merge⟩
  | get => exact ⟨_, _, _, rfl, .get⟩

theorem Matches.call {c : Call} {resume : c.Reply → Program (Except AssignmentError s.Answer)}
    (h : Matches ⟨s, .call c resume⟩ client) :
    ∃ job chance resume', client = ⟨job, chance, .call c resume'⟩ ∧
      ∀ reply, Matches ⟨s, resume reply⟩ ⟨job, chance, resume' reply⟩ := by
  cases h with
  | create => exact ⟨_, _, _, rfl, fun _ => .create⟩
  | reassign => exact ⟨_, _, _, rfl, fun _ => .reassign⟩
  | merge => exact ⟨_, _, _, rfl, fun _ => .merge⟩
  | get => exact ⟨_, _, _, rfl, fun _ => .get⟩

end Caller

/-- The callers and the clients in the order in which they came. Every caller has a client of its
own, but for those whose service is no job of the floor's. Clients may come for somebody else. -/
inductive Seated : List Caller → List Client → Prop
  | nobody : Seated [] []
  | matched {caller : Caller} {client : Client} {callers : List Caller} {clients : List Client} :
      caller.Matches client → Seated callers clients →
      Seated (caller :: callers) (client :: clients)
  | other {caller : Caller} {callers : List Caller} {clients : List Client} :
      caller.service.Other → Seated callers clients → Seated (caller :: callers) clients
  | passing {client : Client} {callers : List Caller} {clients : List Client} :
      Seated callers clients → Seated callers (client :: clients)

namespace Seated

variable {callers callers' : List Caller} {clients clients' : List Client}

theorem append (h : Seated callers clients) (h' : Seated callers' clients') :
    Seated (callers ++ callers') (clients ++ clients') := by
  induction h with
  | nobody => exact h'
  | matched same _ ih => exact .matched same ih
  | other other _ ih => exact .other other ih
  | passing _ ih => exact .passing ih

/-- Where a caller sits, and that the caller may go on there together with the client. -/
theorem find (h : Seated callers clients) {i : Nat} {caller : Caller}
    (here : callers[i]? = some caller) :
    (caller.service.Other ∧ ∀ rest, Seated (callers.set i ⟨caller.service, rest⟩) clients) ∨
    ∃ (k : Nat) (client : Client), clients[k]? = some client ∧ caller.Matches client ∧
      ∀ caller' client', caller'.Matches client' →
        Seated (callers.set i caller') (clients.set k client') := by
  induction h generalizing i with
  | nobody => cases here
  | @matched _ client _ _ same seated ih =>
    cases i with
    | zero =>
      cases here
      exact .inr ⟨0, client, rfl, same, fun _ _ same' => .matched same' seated⟩
    | succ i =>
      rcases ih here with ⟨other, goes⟩ | ⟨k, client, found, same', goes⟩
      · exact .inl ⟨other, fun rest => .matched same (goes rest)⟩
      · exact .inr ⟨k + 1, client, found, same', fun _ _ next => .matched same (goes _ _ next)⟩
  | other other seated ih =>
    cases i with
    | zero =>
      cases here
      exact .inl ⟨other, fun rest => .other other seated⟩
    | succ i =>
      rcases ih here with ⟨other', goes⟩ | ⟨k, client, found, same, goes⟩
      · exact .inl ⟨other', fun rest => .other other (goes rest)⟩
      · exact .inr ⟨k, client, found, same, fun _ _ next => .other other (goes _ _ next)⟩
  | passing _ ih =>
    rcases ih here with ⟨other, goes⟩ | ⟨k, client, found, same, goes⟩
    · exact .inl ⟨other, fun rest => .passing (goes rest)⟩
    · exact .inr ⟨k + 1, client, found, same, fun _ _ next => .passing (goes _ _ next)⟩

end Seated

/-! ## A floor that follows an office -/

namespace Office

/-- The floor has the store of the office, and its clients are as far as the callers. -/
structure Beside (o : Office) (f : Floor) : Prop where
  store : o.store = f.store
  seated : Seated o.callers f.clients

variable {o : Office} {f : Floor}

/-- A call that is part of no job of the floor's is made by a client who comes for it alone. -/
theorem Beside.direct (h : Beside o f) (i : Nat) (c : Call) (fault : Option StoreError)
    {callers : List Caller} (seated : Seated callers f.clients) (journal : List Event) :
    ∃ turns : List ReviewDesk.Turn,
      Beside ⟨(⟨i, o.store, c, fault⟩ : Moment).after, callers, journal⟩
        (turns.foldl Floor.step f) := by
  let chance : Chance := ⟨fun _ => ⟨0⟩, fun _ => 0⟩
  refine ⟨[.arrive (.direct c) chance, .next f.clients.length fault], ?_⟩
  have here : (f.step (.arrive (.direct c) chance)).clients[f.clients.length]? =
      some ⟨.direct c, chance, Program.ask c⟩ := List.getElem?_concat_length
  rw [List.foldl_cons, List.foldl_cons, List.foldl_nil, Floor.step_next, Floor.serve_call here,
    h.store]
  refine ⟨rfl, ?_⟩
  unfold Floor.step
  dsimp only
  rw [List.set_append_right _ _ (Nat.le_refl _)]
  simpa using seated.append (.passing .nobody)

/-- A caller goes on together with the client, if there is one. -/
theorem Beside.serve (h : Beside o f) (i : Nat) (fault : Option StoreError) :
    ∃ turns : List ReviewDesk.Turn, Beside (o.serve i fault) (turns.foldl Floor.step f) := by
  unfold Office.serve
  split
  · rename_i service event rest here
    rcases h.seated.find here with ⟨-, goes⟩ | ⟨k, client, found, same, goes⟩
    · exact ⟨[], h.store, goes rest⟩
    · obtain ⟨job, chance, rest', rfl, next⟩ := same.note
      refine ⟨[.next k fault], ?_⟩
      rw [List.foldl_cons, List.foldl_nil, Floor.step_next, Floor.serve_note found]
      exact ⟨h.store, goes _ _ next⟩
  · rename_i service c resume here
    rcases h.seated.find here with ⟨-, goes⟩ | ⟨k, client, found, same, goes⟩
    · exact h.direct i c fault (goes _) o.journal
    · obtain ⟨job, chance, resume', rfl, next⟩ := same.call
      refine ⟨[.next k fault], ?_⟩
      rw [List.foldl_cons, List.foldl_nil, Floor.step_next, Floor.serve_call found, h.store]
      exact ⟨rfl, goes _ _ (next _)⟩
  · exact ⟨[], h⟩

theorem Beside.step (h : Beside o f) (t : Turn) :
    ∃ turns : List ReviewDesk.Turn, Beside (o.step t) (turns.foldl Floor.step f) := by
  cases t with
  | arrive service chance =>
    rcases Caller.matches_or_other service chance with ⟨job, same⟩ | other
    · exact ⟨[.arrive job chance], h.store, h.seated.append (.matched same .nobody)⟩
    · have seated : Seated (o.callers ++ [⟨service, service.program chance⟩]) (f.clients ++ []) :=
        h.seated.append (.other other .nobody)
      rw [List.append_nil] at seated
      exact ⟨[], h.store, seated⟩
  | go i fault => exact h.serve i fault
  | past c => exact h.direct 0 c none h.seated o.journal
  | staff users teams =>
    refine ⟨[.staff users teams], ?_, h.seated⟩
    unfold Office.step
    dsimp only
    rw [h.store]
    rfl

/-- Whatever happens at an office, there is a floor where the same happens but for the log. -/
theorem follows_floor (s : Store) (turns : List Turn) :
    ∃ turns', Beside (run s turns) (Floor.run s turns') := by
  induction turns using List.reverseRecOn with
  | nil => exact ⟨[], rfl, .nobody⟩
  | append_singleton turns t ih =>
    obtain ⟨turns', h⟩ := ih
    obtain ⟨more, h⟩ := h.step t
    rw [← Floor.run_append] at h
    exact ⟨turns' ++ more, by rw [run_concat]; exact h⟩

/-- So a caller whose merge ends well goes away with what is stored. -/
theorem merge_is_stored {s : Store} {turns : List Turn} {i : Nat} {id : PullRequestId}
    {pr : PullRequest} (here : (run s turns).callers[i]? = some ⟨.merge id, .done (.ok pr)⟩) :
    (run s turns).store.pullRequests.get? id = some pr ∧ pr.isMerged = true := by
  obtain ⟨turns', h⟩ := follows_floor s turns
  rw [h.store]
  rcases h.seated.find here with ⟨other, -⟩ | ⟨k, client, found, same, -⟩
  · cases other
  · cases same
    exact (Floor.recorded_run s turns').merge_ok found

end Office

end ReviewDesk
