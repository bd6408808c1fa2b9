-- What a request does to the store, and what its response tells of it. A request that is refused,
-- or that only asks, changes nothing. One that goes well changes the pull request that it names and
-- nothing else, and shows it as it is stored now.
import ReviewDesk.Http.Api
import ReviewDesk.Proofs.Alone
import ReviewDesk.Proofs.AllOrNothing
import ReviewDesk.Proofs.Frame
import ReviewDesk.Proofs.Services

namespace ReviewDesk

/-! ## Programs alone -/

namespace Store

variable {α β : Type} {s t : Store} {id : PullRequestId} {pr : PullRequest} {chance : Chance}
  {trail reads : List Exchange} {x : Exchange}

theorem run_bind (s : Store) (p : Program α) (f : α → Program β) :
    s.run (p >>= f) = (s.run p).2.run (f (s.run p).1) := by
  induction p generalizing s with
  | done a => rfl
  | note event rest ih => exact ih s
  | call c resume ih => exact ih _ _

/-- A program that only reads leaves the store as it is. -/
theorem run_of_reads (s : Store) {p : Program α} (h : p.Reads) : (s.run p).2 = s := by
  induction p generalizing s with
  | done a => rfl
  | note event rest ih => exact ih s h
  | call c resume ih =>
    have later := ih (s.answer c).1 (s.answer c).2 (h.2 _ trivial)
    exact later.trans (s.store_of_read h.1)

theorem fits_of_answers (h : s.Answers trail t) : ∀ x ∈ trail, x.call.Fits x.reply := by
  induction h with
  | nil s => simp
  | @cons s _ c _ _ ih => exact List.forall_mem_cons.2 ⟨s.fits_outcome none c, ih⟩

/-- Where no write is taken, the store stays as it is, and everything is answered by it. -/
theorem still_of_answers (h : s.Answers trail t) (none : ∀ x ∈ trail, ∀ pr, ¬ x.Wrote pr) :
    t = s ∧ ∀ x ∈ trail, x.reply = (s.answer x.call).1 := by
  induction h with
  | nil s => exact ⟨rfl, by simp⟩
  | @cons s _ c _ _ ih =>
    obtain ⟨first, later⟩ := List.forall_mem_cons.1 none
    have same : (s.answer c).2 = s := by
      have moves := s.writes_answer c
      generalize s.answer c = answer at first moves
      cases moves with
      | nothing => rfl
      | placed => exact absurd (.created _) (first _)
      | replaced => exact absurd (.updated _) (first _)
    rw [same] at ih
    obtain ⟨still, replies⟩ := ih later
    exact ⟨still, List.forall_mem_cons.2 ⟨rfl, replies⟩⟩

theorem store_of_wrote {c : Call} (wrote : Exchange.Wrote ⟨c, (s.answer c).1⟩ pr) :
    (s.answer c).2 = { s with pullRequests := s.pullRequests.put pr } := by
  cases c with
  | createPullRequest new =>
    rw [answer_create] at wrote ⊢
    rcases stood : s.pullRequests.get? new.id with _ | found
    · rw [create_of_free stood] at wrote ⊢
      cases wrote
      rfl
    · rw [create_of_taken stood] at wrote
      cases wrote
  | updatePullRequest new =>
    rw [answer_update] at wrote ⊢
    rcases stood : s.pullRequests.get? new.id with _ | found
    · rw [update_of_missing stood] at wrote
      cases wrote
    rcases merged : found.isMerged with _ | _
    · rw [update_of_open stood merged] at wrote ⊢
      cases wrote
      rfl
    · rw [update_of_merged stood merged] at wrote
      cases wrote
  | findPullRequest _ | findAllPullRequests | findPullRequestsByReviewer _ | findUser _
  | findTeamOf _ | findActiveMembers _ => cases wrote

/-- One write after reads puts what it writes into the store. -/
theorem put_of_answers (h : s.Answers (reads ++ [x]) t) (only : OnlyReads reads)
    (wrote : x.Wrote pr) : t = { s with pullRequests := s.pullRequests.put pr } := by
  induction reads generalizing s with
  | nil =>
    generalize path : ([] ++ [x] : List Exchange) = trail at h
    cases h with
    | nil => cases path
    | cons c answers =>
      obtain ⟨rfl, rfl⟩ := List.cons.inj path
      cases answers
      exact store_of_wrote wrote
  | cons r reads ih =>
    generalize path : (r :: reads ++ [x] : List Exchange) = trail at h
    cases h with
    | nil => cases path
    | cons c answers =>
      obtain ⟨rfl, rfl⟩ := List.cons.inj path
      obtain ⟨read, later⟩ := List.forall_mem_cons.1 only
      rw [s.store_of_read read] at answers
      exact ih answers later

end Store

/-! ## Jobs alone -/

/-- What a job makes of a store: nothing, if it fails. Else what it comes back with stands under
the id that it is about, and nothing else has changed. -/
inductive Job.Leaves (job : Job) (id : PullRequestId) (s : Store) : job.Outcome × Store → Prop
  | failed {a : job.Outcome} : job.Failed a → Leaves job id s (a, s)
  | stored {a : job.Outcome} {pr : PullRequest} {t : Store} : job.Returns a pr →
      Store.SameBut id s t → t.pullRequests.get? id = some pr → Leaves job id s (a, t)

namespace Store

variable {s t : Store} {id : PullRequestId} {pr : PullRequest} {job : Job} {chance : Chance}
  {trail : List Exchange}

/-- A job that is done without a write has failed, or comes back with what stood there before. -/
theorem stood_of_ends (changes : job.Changes) (about : job.subject? = some id) {a : job.Outcome}
    (ends : (job.program chance).Ends trail a) (none : ∀ x ∈ trail, ∀ pr, ¬ x.Wrote pr)
    (replies : ∀ x ∈ trail, x.reply = (s.answer x.call).1) :
    job.Failed a ∨ ∃ pr, job.Returns a pr ∧ s.pullRequests.get? id = some pr := by
  cases job with
  | create new =>
    cases Assignment.create_ends ends with
    | written => exact absurd (.created _) (none _ List.mem_concat_self _)
    | unread | taken | authorUnknown | teamUnknown | unfilled | refused => exact .inl ⟨_, rfl⟩
  | reassign _ old =>
    cases Assignment.reassign_ends ends with
    | written => exact absurd (.updated _) (none _ List.mem_concat_self _)
    | refused e => exact .inl ⟨e, rfl⟩
  | merge _ =>
    cases about
    cases Assignment.merge_ends ends with
    | written =>
      exact absurd (.updated _) (none _ (List.mem_cons_of_mem _ List.mem_cons_self) _)
    | @already pr merged =>
      have found := replies ⟨.findPullRequest id, .ok (some pr)⟩ (by simp)
      exact .inr ⟨pr, rfl, (Except.ok.inj found).symm⟩
    | @overtaken _ latest e =>
      have found := replies ⟨.findPullRequest id, .ok (some latest)⟩ (by simp)
      exact .inr ⟨latest, rfl, (Except.ok.inj found).symm⟩
    | unread | unknown | failed => exact .inl ⟨_, rfl⟩
  | get _ | direct _ => cases changes

theorem leaves_run (s : Store) (job : Job) (chance : Chance) (changes : job.Changes)
    (about : job.subject? = some id) : job.Leaves id s (s.run (job.program chance)) := by
  have within := Job.within_program chance about
  have frame := s.sameBut_run within
  obtain ⟨trail, ends, answers⟩ := s.run_ends (job.program chance)
  generalize s.run (job.program chance) = came at *
  obtain ⟨a, t⟩ := came
  dsimp only at frame ends answers
  by_cases some_wrote : ∃ x ∈ trail, ∃ pr, x.Wrote pr
  · obtain ⟨x, listed, pr, wrote⟩ := some_wrote
    have own : pr.id = id := by
      have call := Program.may_of_reaches within ends (fits_of_answers answers) x listed
      cases wrote with
      | created | updated => exact call
    obtain ⟨returns, reads, only, rfl⟩ := Job.ends_of_wrote changes ends listed wrote
    refine .stored returns frame ?_
    rw [put_of_answers answers only wrote, ← own]
    exact Register.get?_put_self _ pr
  · push Not at some_wrote
    obtain ⟨rfl, replies⟩ := still_of_answers answers some_wrote
    rcases stood_of_ends changes about ends some_wrote replies with failed | ⟨pr, returns, stood⟩
    · exact .failed failed
    · exact .stored returns frame stood

/-- What a merge comes back with is merged. -/
theorem isMerged_of_run_merge (h : (s.run (Assignment.merge chance id)).1 = .ok pr) :
    pr.isMerged = true := by
  obtain ⟨trail, ends, -⟩ := s.run_ends (Assignment.merge chance id)
  rw [h] at ends
  cases Assignment.merge_ends ends with
  | already merged => exact merged
  | written => exact PullRequest.isMerged_merge _ _
  | overtaken _ _ merged => exact merged

end Store

/-! ## Operations that only read -/

namespace Operation

open Program

variable {α β : Type}

theorem reads_bind {operation : Operation α} {f : α → Operation β} (h : operation.run.Reads)
    (h' : ∀ a, (f a).run.Reads) : (operation >>= f).run.Reads := by
  refine only_bind h ?_
  rintro (e | a)
  · exact only_done
  · exact h' a

end Operation

/-! ## Responses -/

namespace Api

open Program

variable {α : Type} {chance : Chance} {request : Request} {route : Route}

/-- The response to what an operation comes to. -/
def told (render : α → Response) : Except AssignmentError α → Response
  | .ok a => render a
  | .error e => (ApiError.ofAssignment e).response

theorem run_respond (s : Store) (operation : Operation α) (render : α → Response) :
    s.run (respond (operation >>= fun a => pure (render a))) =
      (told render (s.run operation.run).1, (s.run operation.run).2) := by
  have inner : (operation >>= fun a => pure (render a)).run =
      operation.run >>= fun outcome => done (outcome.map render) := by
    refine congrArg (operation.run >>= ·) (funext fun outcome => ?_)
    cases outcome <;> rfl
  unfold respond
  rw [inner, Store.run_bind, Store.run_bind]
  rcases (s.run operation.run).1 with e | a
  · dsimp only [Store.run, Except.map]
    split <;> rfl
  · rfl

/-- An error is no success. -/
theorem failed_of_error (e : AssignmentError) :
    (ApiError.ofAssignment e).response.isSuccess = false := by
  have codes : ∀ kind : ErrorKind, (200 ≤ kind.status && kind.status < 300 : Bool) = false := by
    intro kind
    cases kind <;> rfl
  exact codes e.kind

/-! ## Requests that only ask -/

theorem reads_respond {operation : Operation Response} (h : operation.run.Reads) :
    (respond operation).Reads := by
  refine only_bind h ?_
  rintro (e | response)
  · dsimp only
    split
    · exact only_note.2 only_done
    · exact only_done
  · exact only_done

/-- At a target that takes no new data, a request only reads. -/
theorem reads_handle (chance : Chance) (request : Request) (asks : "POST" ∉ route.methods) :
    (handle chance request route).Reads := by
  cases route with
  | create | merge | reassign => exact absurd List.mem_cons_self asks
  | health => exact only_done
  | pullRequest part =>
    unfold handle pullRequest
    dsimp only
    split
    · exact only_done
    · exact reads_respond (Operation.reads_bind (Assignment.heeds_get _).reads fun _ => only_done)
  | reviews =>
    unfold handle withQuery
    dsimp only
    split
    · unfold reviews
      split
      · exact only_done
      · exact reads_respond
          (Operation.reads_bind (Assignment.heeds_reviewsFor _).reads fun _ => only_done)
    · exact only_done
  | reviewerStatistics =>
    unfold handle withQuery
    dsimp only
    split
    · refine reads_respond ?_
      split
      · exact Operation.reads_bind (Assignment.heeds_reviewerStatisticsFor _).reads fun _ => only_done
      · exact Operation.reads_bind Assignment.heeds_reviewerStatistics.reads fun _ =>
          Operation.reads_bind Assignment.heeds_pullRequestStatistics.reads fun _ => only_done
    · exact only_done
  | pullRequestStatistics =>
    exact reads_respond
      (Operation.reads_bind Assignment.heeds_pullRequestStatistics.reads fun _ => only_done)

/-- A request by any other method than `POST` leaves the store as it is. -/
theorem run_serve_of_not_post (s : Store) (chance : Chance) (other : request.method ≠ "POST") :
    (s.run (serve chance request)).2 = s := by
  refine s.run_of_reads ?_
  unfold serve
  split
  · exact only_done
  rename_i route _
  split
  · exact only_done
  rename_i allowed
  have allowed := not_not.1 allowed
  have asks : "POST" ∉ route.methods := by
    cases route with
    | create | merge | reassign => exact absurd (List.mem_singleton.1 allowed) other
    | _ => simp [Route.methods]
  split
  · exact only_bind (reads_handle chance request asks) fun _ => only_done
  · exact reads_handle chance request asks

/-! ## Requests that change something -/

/-- The request is one that changes a pull request, and its body names it. The response says that
all went well and shows the pull request. -/
inductive Shows (request : Request) : PullRequestId → PullRequest → Response → Prop
  | created {body : CreateRequest} (pr : PullRequest)
      (target : Route.ofPath? request.path = some .create)
      (read : request.readBody CreateRequest.read = .ok body) (given : body.pullRequest ≠ "") :
      Shows request ⟨body.pullRequest⟩ pr (.json 201 pr.envelope)
  | merged {body : MergeRequest} {pr : PullRequest}
      (target : Route.ofPath? request.path = some .merge)
      (read : request.readBody MergeRequest.read = .ok body) (merged : pr.isMerged = true) :
      Shows request ⟨body.pullRequest⟩ pr (.json 200 pr.envelope)
  | reassigned {body : ReassignRequest} (pr : PullRequest) (new : UserId)
      (target : Route.ofPath? request.path = some .reassign)
      (read : request.readBody ReassignRequest.read = .ok body) :
      Shows request ⟨body.pullRequest⟩ pr (.json 200 (pr.reassigned new))

/-- What comes of a request that means to change a pull request. It is refused and nothing
changes, or it shows what stands there after it. -/
inductive Effect (request : Request) (s : Store) : Response × Store → Prop
  | refused {response : Response} (failed : response.isSuccess = false) :
      Effect request s (response, s)
  | changed {id : PullRequestId} {pr : PullRequest} {response : Response} {t : Store}
      (shows : Shows request id pr response) (frame : Store.SameBut id s t)
      (stored : t.pullRequests.get? id = some pr) : Effect request s (response, t)

variable {s : Store}

theorem effect_withBody {read : Json.Input → Except Json.Refusal (α × Json.Input)}
    {go : α → Operation Response}
    (each : ∀ body, request.readBody read = .ok body →
      Effect request s (s.run (respond (go body)))) :
    Effect request s (s.run (withBody read request go)) := by
  unfold withBody
  split
  · rename_i body named
    exact each body named
  · exact .refused rfl

theorem effect_create (s : Store) (chance : Chance)
    (target : Route.ofPath? request.path = some .create) :
    Effect request s (s.run (handle chance request .create)) := by
  refine effect_withBody fun body named => ?_
  unfold create
  rw [← bind_assoc, run_respond]
  rcases made : PullRequest.new (chance.clock 0) ⟨body.pullRequest⟩ body.title ⟨body.author⟩ []
    with flaw | pr
  · exact .refused (failed_of_error _)
  have own : pr.id = ⟨body.pullRequest⟩ := by rw [PullRequest.new_ok made]
  have given : body.pullRequest ≠ "" := by
    have named := (PullRequest.sound_of_new made).id_given
    rw [own] at named
    exact named
  rw [Operation.ofChange_ok_bind]
  have leaves : (Job.create pr).Leaves ⟨body.pullRequest⟩ s
      (s.run (Assignment.create chance.afterReading pr).run) :=
    s.leaves_run (.create pr) chance.afterReading trivial (congrArg some own)
  generalize s.run (Assignment.create chance.afterReading pr).run = came at *
  rcases leaves with ⟨e, rfl⟩ | ⟨returns, frame, stored⟩
  · exact .refused (failed_of_error e)
  · cases returns
    exact .changed (.created _ target named given) frame stored

theorem effect_merge (s : Store) (chance : Chance)
    (target : Route.ofPath? request.path = some .merge) :
    Effect request s (s.run (handle chance request .merge)) := by
  refine effect_withBody fun body named => ?_
  unfold merge
  rw [run_respond]
  have leaves : (Job.merge ⟨body.pullRequest⟩).Leaves ⟨body.pullRequest⟩ s
      (s.run (Assignment.merge chance ⟨body.pullRequest⟩).run) :=
    s.leaves_run (.merge ⟨body.pullRequest⟩) chance trivial rfl
  have merged : ∀ pr, (s.run (Assignment.merge chance ⟨body.pullRequest⟩).run).1 = .ok pr →
      pr.isMerged = true := fun _ => Store.isMerged_of_run_merge
  generalize s.run (Assignment.merge chance ⟨body.pullRequest⟩).run = came at *
  rcases leaves with ⟨e, rfl⟩ | ⟨returns, frame, stored⟩
  · exact .refused (failed_of_error e)
  · cases returns
    exact .changed (.merged target named (merged _ rfl)) frame stored

theorem effect_reassign (s : Store) (chance : Chance)
    (target : Route.ofPath? request.path = some .reassign) :
    Effect request s (s.run (handle chance request .reassign)) := by
  refine effect_withBody fun body named => ?_
  have shape : reassign chance body =
      Assignment.reassign chance ⟨body.pullRequest⟩ ⟨body.oldUser⟩ >>= fun replaced =>
        pure (.json 200 (replaced.2.reassigned replaced.1)) := rfl
  rw [shape, run_respond]
  have leaves : (Job.reassign ⟨body.pullRequest⟩ ⟨body.oldUser⟩).Leaves ⟨body.pullRequest⟩ s
      (s.run (Assignment.reassign chance ⟨body.pullRequest⟩ ⟨body.oldUser⟩).run) :=
    s.leaves_run (.reassign ⟨body.pullRequest⟩ ⟨body.oldUser⟩) chance trivial rfl
  generalize s.run (Assignment.reassign chance ⟨body.pullRequest⟩ ⟨body.oldUser⟩).run = came at *
  rcases leaves with ⟨e, rfl⟩ | ⟨⟨new, rfl⟩, frame, stored⟩
  · exact .refused (failed_of_error e)
  · exact .changed (.reassigned _ new target named) frame stored

theorem effect_serve (s : Store) (chance : Chance) (post : request.method = "POST") :
    Effect request s (s.run (serve chance request)) := by
  unfold serve
  split
  · exact .refused rfl
  rename_i route target
  split
  · exact .refused rfl
  rename_i allowed
  rw [post, if_neg (by decide)]
  cases route with
  | create => exact effect_create s chance target
  | merge => exact effect_merge s chance target
  | reassign => exact effect_reassign s chance target
  | _ => simp [Route.methods, post] at allowed

/-! ## The law -/

theorem Shows.isSuccess {id : PullRequestId} {pr : PullRequest} {response : Response}
    (h : Shows request id pr response) : response.isSuccess = true := by
  cases h <;> rfl

/-- The responses to the same request when it comes again, once for each chance, and the store
after all of them. -/
def again (request : Request) : List Chance → Store → List Response × Store
  | [], s => ([], s)
  | chance :: later, s =>
    let (response, t) := s.run (serve chance request)
    let (responses, last) := again request later t
    (response :: responses, last)

/-- A merge that has gone well before gives the same response again and changes nothing. -/
theorem run_merge_again {pr : PullRequest} {body : MergeRequest}
    (target : Route.ofPath? request.path = some .merge) (post : request.method = "POST")
    (read : request.readBody MergeRequest.read = .ok body)
    (stored : s.pullRequests.get? ⟨body.pullRequest⟩ = some pr) (merged : pr.isMerged = true)
    (chance : Chance) : s.run (serve chance request) = (.json 200 pr.envelope, s) := by
  have served : serve chance request = respond (merge chance body) := by
    unfold serve
    rw [target]
    dsimp only
    rw [post, if_neg (by simp [Route.methods]), if_neg (by decide)]
    unfold handle withBody
    rw [read]
  rw [served]
  unfold merge
  rw [run_respond]
  change (told _ (s.run (Assignment.merge chance ⟨body.pullRequest⟩)).1,
    (s.run (Assignment.merge chance ⟨body.pullRequest⟩)).2) = _
  rw [Store.run_merge_of_merged chance stored merged]
  rfl

theorem again_of_still {response : Response}
    (still : ∀ chance, s.run (serve chance request) = (response, s)) (chances : List Chance) :
    again request chances s = (chances.map fun _ => response, s) := by
  induction chances with
  | nil => rfl
  | cons chance later ih =>
    unfold again
    rw [still chance]
    dsimp only
    rw [ih]
    rfl

/-- A request that is refused, or that only asks, leaves the store as it is. One that goes well and
is to change something names a pull request, changes nothing else, and shows it as it is stored
then. A merge that went well can be asked for again, as often as one likes. -/
theorem request_effect (s : Store) (chance : Chance) (request : Request) {response : Response}
    {after : Store} (served : s.run (serve chance request) = (response, after)) :
    (response.isSuccess = false ∨ request.method ≠ "POST" → after = s) ∧
    (response.isSuccess = true → request.method = "POST" →
      (∃ id pr, Shows request id pr response ∧ Store.SameBut id s after ∧
        after.pullRequests.get? id = some pr) ∧
      (Route.ofPath? request.path = some .merge → response.status = 200 ∧
        ∀ chances, again request chances after = (chances.map fun _ => response, after))) := by
  refine ⟨?_, ?_⟩
  · intro quiet
    by_cases post : request.method = "POST"
    · have effect := effect_serve s chance post
      rw [served] at effect
      cases effect with
      | refused => rfl
      | changed shows =>
        rcases quiet with failed | other
        · rw [shows.isSuccess] at failed
          cases failed
        · exact absurd post other
    · have same := run_serve_of_not_post s chance post
      rw [served] at same
      exact same
  · intro well post
    have effect := effect_serve s chance post
    rw [served] at effect
    cases effect with
    | refused failed =>
      rw [failed] at well
      cases well
    | changed shows frame stored =>
      refine ⟨⟨_, _, shows, frame, stored⟩, fun target => ?_⟩
      cases shows with
      | created _ other _ _ | reassigned _ _ other _ =>
        rw [other] at target
        cases target
      | merged _ read merged =>
        exact ⟨rfl, again_of_still (run_merge_again target post read stored merged)⟩

/-- Somebody merges a pull request. -/
def mergeRequest : Request :=
  ⟨"POST", "/pullRequest/merge", some "application/json",
    "\x7b\"pull_request_id\":\"p\"\x7d".toUTF8⟩

/-- What comes of it. -/
def mergeServed : Response × Store := Sample.desk.run (serve Sample.chance mergeRequest)

/-- It shows the merged pull request, and again when it comes twice more. -/
theorem mergeRequest_effect :
    mergeServed.1.isSuccess = true ∧ mergeRequest.method = "POST" ∧
    Route.ofPath? mergeRequest.path = some .merge ∧
    (∃ id pr, Shows mergeRequest id pr mergeServed.1 ∧ Store.SameBut id Sample.desk mergeServed.2 ∧
      mergeServed.2.pullRequests.get? id = some pr) ∧
    again mergeRequest [Sample.chance, Sample.chance] mergeServed.2 =
      ([mergeServed.1, mergeServed.1], mergeServed.2) := by
  have well : mergeServed.1.isSuccess = true := by decide +kernel
  have target : Route.ofPath? mergeRequest.path = some .merge := by decide +kernel
  obtain ⟨-, changed⟩ := request_effect Sample.desk Sample.chance mergeRequest rfl
  obtain ⟨shown, repeats⟩ := changed well rfl
  exact ⟨well, rfl, target, shown, (repeats target).2 [Sample.chance, Sample.chance]⟩

end Api

end ReviewDesk
