-- Any number of clients at one store. Each does one job, one call at a time, and the calls of
-- all of them come in any order. A call may fail, and a client may stop for good in the middle
-- of a job. The floor keeps a ledger of every call that was answered.
import ReviewDesk.Proofs.Conduct
import ReviewDesk.Store.Basic

namespace ReviewDesk

/-! ## Jobs -/

/-- What a client can come for. A direct call goes to the store as it is. -/
inductive Job where
  | create (pr : PullRequest)
  | reassign (id : PullRequestId) (old : UserId)
  | merge (id : PullRequestId)
  | get (id : PullRequestId)
  | direct (c : Call)

namespace Job

/-- What a client goes away with. -/
@[reducible]
def Outcome : Job → Type
  | create _ => Except AssignmentError PullRequest
  | reassign _ _ => Except AssignmentError (UserId × PullRequest)
  | merge _ => Except AssignmentError PullRequest
  | get _ => Except AssignmentError PullRequest
  | direct c => c.Reply

def program (chance : Chance) : (job : Job) → Program job.Outcome
  | create pr => Assignment.create chance pr
  | reassign id old => Assignment.reassign chance id old
  | merge id => Assignment.merge chance id
  | get id => Assignment.get id
  | direct c => Program.ask c

end Job

/-- What a job has read when it writes, and what it writes. -/
inductive Job.Prepares (chance : Chance) : Job → List Exchange → Call → Prop
  | create {pr : PullRequest} {author : User} {team : Team} {members : List User}
      {filled : PullRequest} :
      pr.assignAll chance.clock (Assignment.drawn chance pr author members) = .ok filled →
      Prepares chance (.create pr) (Assignment.createReads pr author team members)
        (.createPullRequest filled)
  | reassign {id : PullRequestId} {old new : UserId} {pr : PullRequest} {team : Team}
      {members : List User} {changed : PullRequest} :
      Assignment.Replaces chance pr members old new changed →
      Prepares chance (.reassign id old) (Assignment.reassignReads id pr team members)
        (.updatePullRequest changed)
  | merge {id : PullRequestId} {pr : PullRequest} : pr.isMerged = false →
      Prepares chance (.merge id) [⟨.findPullRequest id, .ok (some pr)⟩]
        (.updatePullRequest (pr.merge (chance.clock 0)))
  | direct (c : Call) : Prepares chance (.direct c) [] c

namespace Job

/-- A job writes only what it has prepared. -/
theorem prepares_of_asks {job : Job} {chance : Chance} {trail : List Exchange} {c : Call}
    (h : (job.program chance).Asks trail c) (write : c.isWrite = true) :
    job.Prepares chance trail c := by
  cases job with
  | create pr =>
    obtain ⟨author, team, members, filled, rfl, made, rfl⟩ := Assignment.create_asks h write
    exact .create made
  | reassign id old =>
    obtain ⟨pr, team, members, new, changed, rfl, replaces, rfl⟩ :=
      Assignment.reassign_asks h write
    exact .reassign replaces
  | merge id =>
    obtain ⟨pr, rfl, opened, rfl⟩ := Assignment.merge_asks h write
    exact .merge opened
  | get id =>
    rw [Assignment.get_asks h] at write
    cases write
  | direct d =>
    unfold program Program.ask at h
    rw [Program.asks_call] at h
    rcases h with ⟨rfl, rfl⟩ | ⟨reply, rest, rfl, h⟩
    · exact .direct c
    · simp only [Program.asks_done] at h

end Job

/-- A client: the job, the clock readings and the draws that it is done with, and what is left
of it. -/
structure Client where
  job : Job
  chance : Chance
  rest : Program job.Outcome

/-! ## Moments -/

/-- One call that was answered: who made it, the store that it found, and the error that it
failed with, if it failed on the way. -/
structure Moment where
  client : Nat
  before : Store
  call : Call
  fault : Option StoreError

namespace Moment

/-- A call that fails on the way has no effect. -/
def outcome (m : Moment) : m.call.Reply × Store :=
  match m.fault with
  | some e => (.error e, m.before)
  | none => m.before.answer m.call

def reply (m : Moment) : m.call.Reply := m.outcome.1

def after (m : Moment) : Store := m.outcome.2

def exchange (m : Moment) : Exchange := ⟨m.call, m.reply⟩

/-- The moment is a creation, and the store took it. -/
def Placed (m : Moment) (pr : PullRequest) : Prop :=
  m.exchange = ⟨.createPullRequest pr, .ok ()⟩

/-- The moment is an update, and the store took it. -/
def Took (m : Moment) (pr : PullRequest) : Prop :=
  m.exchange = ⟨.updatePullRequest pr, .ok ()⟩

end Moment

/-- What one client asked, and what it was answered. -/
def trail (client : Nat) (ledger : List Moment) : List Exchange :=
  (ledger.filter (·.client = client)).map Moment.exchange

/-! ## Turns -/

structure Floor where
  store : Store
  clients : List Client
  ledger : List Moment

inductive Turn where
  /-- A client comes in. -/
  | arrive (job : Job) (chance : Chance)
  /-- A client goes one step on. -/
  | go (client : Nat)
  /-- A client goes one step on, and if the step is a call, the call fails. -/
  | fail (client : Nat) (error : StoreError)
  /-- Somebody else changes users and teams. -/
  | staff (users : Register User.id) (teams : Register Team.id)

/-- The turn of a client, with the error that its call fails with, if it is to fail. -/
def Turn.next (client : Nat) : Option StoreError → Turn
  | none => .go client
  | some e => .fail client e

namespace Floor

/-- Nobody has come in yet. -/
def opened (s : Store) : Floor := ⟨s, [], []⟩

/-- Lets a client go one step on. Nothing happens when its job is done. -/
def serve (f : Floor) (i : Nat) (fault : Option StoreError) : Floor :=
  match f.clients[i]? with
  | some ⟨job, chance, .note _ rest⟩ => { f with clients := f.clients.set i ⟨job, chance, rest⟩ }
  | some ⟨job, chance, .call c resume⟩ =>
    let m : Moment := ⟨i, f.store, c, fault⟩
    { store := m.after, clients := f.clients.set i ⟨job, chance, resume m.reply⟩,
      ledger := f.ledger ++ [m] }
  | _ => f

def step (f : Floor) : Turn → Floor
  | .arrive job chance => { f with clients := f.clients ++ [⟨job, chance, job.program chance⟩] }
  | .go i => f.serve i none
  | .fail i e => f.serve i (some e)
  | .staff users teams => { f with store := { f.store with users, teams } }

/-- The floor after some turns. A client who gets no more turns has stopped for good. -/
def run (s : Store) (turns : List Turn) : Floor := turns.foldl step (opened s)

/-- The pull request that is stored under an id. -/
def stored (f : Floor) (id : PullRequestId) : Option PullRequest := f.store.pullRequests.get? id

/-- Every client has ended. -/
def Finished (f : Floor) : Prop :=
  ∀ (i : Nat) (job : Job) (chance : Chance) (rest : Program job.Outcome),
    f.clients[i]? = some ⟨job, chance, rest⟩ → ∃ a, rest = .done a

theorem run_append (s : Store) (before after : List Turn) :
    run s (before ++ after) = after.foldl step (run s before) := List.foldl_append

theorem run_concat (s : Store) (turns : List Turn) (t : Turn) :
    run s (turns ++ [t]) = (run s turns).step t := by
  rw [run_append]
  rfl

section Serve

variable {f : Floor} {i : Nat} {job : Job} {chance : Chance}

theorem step_next (f : Floor) (i : Nat) (fault : Option StoreError) :
    f.step (.next i fault) = f.serve i fault := by
  cases fault <;> rfl

theorem serve_note {event : Event} {rest : Program job.Outcome}
    (here : f.clients[i]? = some ⟨job, chance, .note event rest⟩) (fault : Option StoreError) :
    f.serve i fault = { f with clients := f.clients.set i ⟨job, chance, rest⟩ } := by
  unfold serve
  rw [here]

theorem serve_call {c : Call} {resume : c.Reply → Program job.Outcome}
    (here : f.clients[i]? = some ⟨job, chance, .call c resume⟩) (fault : Option StoreError) :
    f.serve i fault =
      { store := (⟨i, f.store, c, fault⟩ : Moment).after
        clients := f.clients.set i
          ⟨job, chance, resume (⟨i, f.store, c, fault⟩ : Moment).reply⟩
        ledger := f.ledger ++ [⟨i, f.store, c, fault⟩] } := by
  unfold serve
  rw [here]

end Serve

/-- What a step can do: let somebody in, take a client past a note of the log, answer a call, or
change users and teams. Nothing happens at the turn of a client who is done or is not there. -/
inductive Moves (f : Floor) : Turn → Floor → Prop
  | arrive (job : Job) (chance : Chance) :
      Moves f (.arrive job chance)
        { f with clients := f.clients ++ [⟨job, chance, job.program chance⟩] }
  | idle {i : Nat} (fault : Option StoreError) :
      (∀ (job : Job) (chance : Chance) (rest : Program job.Outcome),
        f.clients[i]? = some ⟨job, chance, rest⟩ → ∃ a, rest = .done a) →
      Moves f (.next i fault) f
  | note {i : Nat} {job : Job} {chance : Chance} {event : Event} {rest : Program job.Outcome}
      (fault : Option StoreError) :
      f.clients[i]? = some ⟨job, chance, .note event rest⟩ →
      Moves f (.next i fault) { f with clients := f.clients.set i ⟨job, chance, rest⟩ }
  | call {i : Nat} {job : Job} {chance : Chance} {c : Call}
      {resume : c.Reply → Program job.Outcome} (fault : Option StoreError) :
      f.clients[i]? = some ⟨job, chance, .call c resume⟩ →
      Moves f (.next i fault)
        { store := (⟨i, f.store, c, fault⟩ : Moment).after
          clients := f.clients.set i
            ⟨job, chance, resume (⟨i, f.store, c, fault⟩ : Moment).reply⟩
          ledger := f.ledger ++ [⟨i, f.store, c, fault⟩] }
  | staff (users : Register User.id) (teams : Register Team.id) :
      Moves f (.staff users teams) { f with store := { f.store with users, teams } }

theorem moves_serve (f : Floor) (i : Nat) (fault : Option StoreError) :
    Moves f (.next i fault) (f.serve i fault) := by
  unfold serve
  split
  · rename_i h
    exact .note fault h
  · rename_i h
    exact .call fault h
  · rename_i no_note no_call
    refine .idle fault ?_
    intro job chance rest here
    cases rest with
    | done a => exact ⟨a, rfl⟩
    | note event rest => exact absurd here (no_note job chance event rest)
    | call c resume => exact absurd here (no_call job chance c resume)

theorem moves_step (f : Floor) (t : Turn) : Moves f t (f.step t) := by
  cases t with
  | arrive job chance => exact .arrive job chance
  | go i => exact moves_serve f i none
  | fail i e => exact moves_serve f i (some e)
  | staff users teams => exact .staff users teams

end Floor

/-! ## A desk to try -/

namespace Sample

/-- An active user of the one team. -/
def member (name : String) : User := ⟨⟨name⟩, name, true, some ⟨1⟩⟩

def team : Team := ⟨⟨1⟩, "desk", [⟨"ann"⟩, ⟨"bea"⟩, ⟨"cid"⟩, ⟨"dan"⟩]⟩

/-- Ann has opened it, and Bea and Cid review it. -/
def pr : PullRequest where
  id := ⟨"p"⟩
  title := "a change"
  author := ⟨"ann"⟩
  status := .opened
  reviewers := [⟨⟨"bea"⟩, ⟨0⟩⟩, ⟨⟨"cid"⟩, ⟨0⟩⟩]
  createdAt := ⟨0⟩
  mergedAt := none

/-- Four teammates and no pull request. -/
def staffed : Store where
  pullRequests := .empty
  users := ⟨[member "ann", member "bea", member "cid", member "dan"], by decide⟩
  teams := ⟨[team], List.pairwise_singleton ..⟩

/-- Four teammates, and the pull request of one of them. -/
def desk : Store := { staffed with pullRequests := ⟨[pr], List.pairwise_singleton ..⟩ }

/-- A clock that stands, and draws that are all zero. -/
def chance : Chance := ⟨fun _ => ⟨5000⟩, fun _ => 0⟩

end Sample

end ReviewDesk
