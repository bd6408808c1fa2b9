-- A store on which calls go wrong on cue: they fail, come to nothing, answer from the
-- past, are overtaken by a merge, or never end. What was called and what was logged is
-- kept.
import ReviewDesk.Store.Basic

namespace ReviewDesk

/-- The kinds of calls. -/
inductive Method where
  | createPullRequest
  | findPullRequest
  | updatePullRequest
  | findAllPullRequests
  | findPullRequestsByReviewer
  | findUser
  | findTeamOf
  | findActiveMembers
  deriving DecidableEq, Repr

def Call.method : Call → Method
  | .createPullRequest _ => .createPullRequest
  | .findPullRequest _ => .findPullRequest
  | .updatePullRequest _ => .updatePullRequest
  | .findAllPullRequests => .findAllPullRequests
  | .findPullRequestsByReviewer _ => .findPullRequestsByReviewer
  | .findUser _ => .findUser
  | .findTeamOf _ => .findTeamOf
  | .findActiveMembers _ => .findActiveMembers

/-- How a call goes wrong. A fault that makes no sense for a call leaves it as it is. -/
inductive Fault where
  /-- The call goes as usual. -/
  | pass
  /-- The call has no effect and fails. -/
  | fail (error : StoreError)
  /-- A write takes effect and then fails. A read fails. -/
  | applyThenFail (error : StoreError)
  /-- A read finds nothing. -/
  | nothing
  /-- The look-up of a pull request answers with an earlier value. -/
  | stale (snapshot : Option PullRequest)
  /-- Somebody else merges the stored pull request before the write. -/
  | mergeFirst
  /-- The call never ends. -/
  | hang
  deriving Repr

/-- The store, the faults that wait for their calls, the calls made, and the events logged. -/
structure Rehearsal where
  store : Store
  faults : List (Method × Fault)
  calls : List Method
  events : List Event

namespace Rehearsal

/-- A rehearsal with nothing stored and no faults. -/
def start : Rehearsal := ⟨.empty, [], [], []⟩

/-- The first fault that waits for a kind of call, and the others. -/
def takeFault (method : Method) : List (Method × Fault) → Fault × List (Method × Fault)
  | [] => (.pass, [])
  | (m, fault) :: rest =>
    if m = method then (fault, rest)
    else ((takeFault method rest).1, (m, fault) :: (takeFault method rest).2)

/-- What a read that finds nothing is answered with. A write is not a read. -/
def nothingFound : (c : Call) → Option c.Answer
  | .createPullRequest _ => none
  | .findPullRequest _ => some none
  | .updatePullRequest _ => none
  | .findAllPullRequests => some []
  | .findPullRequestsByReviewer _ => some []
  | .findUser _ => some none
  | .findTeamOf _ => some none
  | .findActiveMembers _ => some []

/-- What an earlier value answers. Only the look-up of a pull request is answered by one. -/
def earlierValue (snapshot : Option PullRequest) : (c : Call) → Option c.Answer
  | .findPullRequest _ => some snapshot
  | _ => none

/-- The pull request that a call writes. -/
def written? : Call → Option PullRequest
  | .createPullRequest pr | .updatePullRequest pr => some pr
  | _ => none

/-- Merges the stored pull request with an id, if there is one. -/
def mergeStored (clock : Instant) (s : Store) (id : PullRequestId) : Except StoreError Store :=
  match s.pullRequests.get? id with
  | none => .ok s
  | some pr => s.update (pr.merge clock)

/-- Answers a call under a fault. A call that never ends has no answer. -/
def answerUnder (clock : Instant) (s : Store) (c : Call) : Fault → Option c.Reply × Store
  | .pass => ((s.answer c).map some id)
  | .fail e => (some (.error e), s)
  | .applyThenFail e =>
    if c.isWrite then
      match s.answer c with
      | (.ok _, s) => (some (.error e), s)
      | (.error own, s) => (some (.error own), s)
    else (some (.error e), s)
  | .nothing =>
    match nothingFound c with
    | some answer => (some (.ok answer), s)
    | none => ((s.answer c).map some id)
  | .stale snapshot =>
    match earlierValue snapshot c with
    | some answer => (some (.ok answer), s)
    | none => ((s.answer c).map some id)
  | .mergeFirst =>
    match written? c with
    | none => ((s.answer c).map some id)
    | some pr =>
      match mergeStored clock s pr.id with
      | .ok s => ((s.answer c).map some id)
      | .error e => (some (.error e), s)
  | .hang => (none, s)

/-- Runs a program up to its end, or up to a call that never ends. -/
def run {α : Type} (clock : Instant) (r : Rehearsal) : Program α → Option α × Rehearsal
  | .done a => (some a, r)
  | .note event rest => run clock { r with events := r.events ++ [event] } rest
  | .call c resume =>
    let (fault, faults) := takeFault c.method r.faults
    let (reply, store) := answerUnder clock r.store c fault
    let r := { r with store, faults, calls := r.calls ++ [c.method] }
    match reply with
    | some reply => run clock r (resume reply)
    | none => (none, r)

end Rehearsal

end ReviewDesk
