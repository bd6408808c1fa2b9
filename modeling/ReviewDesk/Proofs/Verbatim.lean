-- A user under its id, named in a query and named in a body. The body is taken as it is. The query
-- loses the blanks at the ends of the id, so it asks about somebody else if there are any.
import ReviewDesk.Proofs.Choice
import ReviewDesk.Proofs.Forms
import ReviewDesk.Proofs.Quotation
import ReviewDesk.Proofs.Tally

namespace ReviewDesk

/-! ## What a response tells -/

/-- A refusal is told in full. -/
theorem ApiError.response_injective {e e' : ApiError} (same : e.response = e'.response) :
    e = e' := by
  have status : e.status = e'.status := congrArg Response.status same
  have text := String.ofList_injective (congrArg Response.body same)
  simp only [Json.chars, Json.membersText, List.cons_append, List.append_assoc, List.cons.injEq,
    true_and, List.append_cancel_left_eq] at text
  obtain ⟨code, text⟩ := Json.stringText_append_inj text
  simp only [List.cons.injEq, true_and, List.append_cancel_left_eq] at text
  obtain ⟨message, -⟩ := Json.stringText_append_inj text
  cases e
  cases e'
  cases status
  cases code
  cases message
  rfl

/-- Whose pull requests are shown can be told from the response. -/
theorem user_of_reviewsJson {user other : UserId} {prs others : List PullRequest}
    (same : Response.json 200 (reviewsJson user prs) = .json 200 (reviewsJson other others)) :
    user = other := by
  have text := String.ofList_injective (congrArg Response.body same)
  simp only [reviewsJson, UserId.toJson, Json.chars, Json.membersText, List.cons_append,
    List.append_assoc, List.cons.injEq, true_and, List.append_cancel_left_eq] at text
  obtain ⟨name, -⟩ := Json.stringText_append_inj text
  cases user
  cases other
  cases name
  rfl

namespace Store

variable {s : Store} {user : UserId} {pr : PullRequest}

theorem run_reviewsFor_of_stranger (unknown : s.users.get? user = none) :
    s.run (Assignment.reviewsFor user).run = (.error (.userNotFound user), s) := by
  unfold Assignment.reviewsFor Assignment.findUser
  rw [bind_assoc, Operation.ask_bind (.findUser user)]
  simp only [ExceptT.run_mk, run, answer, unknown]
  rfl

/-- Whoever is on the roster is not refused for not being there. -/
theorem run_reassign_listed (chance : Chance) (stands : s.pullRequests.get? pr.id = some pr)
    (opened : pr.isMerged = false) (listed : user ∈ pr.reviewerIds) :
    (s.run (Assignment.reassign chance pr.id user)).1 = .error (.teamNotFound pr.author) ∨
      (s.run (Assignment.reassign chance pr.id user)).1 = .error .noCandidate ∨
      ∃ replaced, (s.run (Assignment.reassign chance pr.id user)).1 = .ok replaced := by
  rcases inTeam : s.teamOf pr.author with _ | team
  · exact .inl (congrArg Prod.fst (run_reassign_of_no_team stands opened listed inTeam))
  rcases chosen : Selection.selectOne? chance.draws (s.activeMembers team.id) pr.author
      (pr.reviewerIds ++ [pr.author, user]) with _ | new
  · exact .inr (.inl (congrArg Prod.fst
      (run_reassign_of_nobody stands opened listed inTeam chosen)))
  · have replaces := Assignment.replaces_of_chosen opened listed chosen
    exact .inr (.inr ⟨_, congrArg Prod.fst (run_reassign stands inTeam replaces)⟩)

end Store

namespace Api

variable {isSpecial : Char → Bool} {s : Store} {user : UserId} {known : User} {pr : PullRequest}
  {contentType : Option String} {body : ByteArray}

/-! ## The query -/

/-- A request for the pull requests of a user. -/
def askReviews (isSpecial : Char → Bool) (user : String) (contentType : Option String)
    (body : ByteArray) : Request :=
  ⟨"GET", "/users/getReview?user_id=" ++ String.ofList (Url.formEscape isSpecial user.toList),
    contentType, body⟩

theorem no_question_in_path : ∀ c ∈ "/users/getReview".toList, decide (c ≠ '?') = true :=
  List.all_eq_true.1 (by decide)

theorem resource_askReviews (spells : Url.SpellsValues isSpecial) (user : String) :
    (askReviews isSpecial user contentType body).resource =
      "/users/getReview".toList ++ '?' :: ("user_id".toList ++ '=' ::
        Url.formEscape isSpecial user.toList) := by
  have target : (askReviews isSpecial user contentType body).target.toList =
      "/users/getReview?user_id=".toList ++ Url.formEscape isSpecial user.toList :=
    String.toList_append.trans (congrArg (_ ++ ·) String.toList_ofList)
  have hash := (spells.one_value user.toList).2
  unfold Request.resource
  rw [target]
  generalize Url.formEscape isSpecial user.toList = value at *
  have whole : '#' ∉ "/users/getReview?user_id=".toList ++ value := by
    rw [List.mem_append, not_or]
    exact ⟨by decide, hash⟩
  rw [takeWhile_of_not_mem whole]
  rfl

theorem path_askReviews (spells : Url.SpellsValues isSpecial) (user : String) :
    (askReviews isSpecial user contentType body).path = "/users/getReview".toList := by
  unfold Request.path
  rw [resource_askReviews spells, List.takeWhile_append_of_pos no_question_in_path,
    List.takeWhile_cons_of_neg (by decide), List.append_nil]

/-- The query gives back the id as it was put in. -/
theorem ofQuery?_askReviews (spells : Url.SpellsValues isSpecial) (user : String) :
    UserQuery.ofQuery? (askReviews isSpecial user contentType body).query = some ⟨some user⟩ := by
  have query : (askReviews isSpecial user contentType body).query =
      "user_id".toList ++ '=' :: Url.formEscape isSpecial user.toList := by
    unfold Request.query
    rw [resource_askReviews spells, List.dropWhile_append_of_pos no_question_in_path,
      List.dropWhile_cons_of_neg (by decide)]
    rfl
  have ascii : ∀ c ∈ "user_id".toList ++ '=' :: Url.formEscape isSpecial user.toList,
      c.toNat < 0x80 := by
    have name : "user_id".toList.all (·.toNat < 0x80) = true := by decide
    refine List.forall_mem_append.2 ⟨?_, List.forall_mem_cons.2 ⟨by decide, ?_⟩⟩
    · exact fun c listed => of_decide_eq_true (List.all_eq_true.1 name c listed)
    · exact fun c => Url.ascii_of_mem_formEscape
  have one : '&' ∉ "user_id".toList ++ '=' :: Url.formEscape isSpecial user.toList := by
    rw [List.mem_append, List.mem_cons, not_or, not_or]
    exact ⟨by decide, by decide, (spells.one_value _).1⟩
  have name : Percent.formText ("user_id".toList.map Percent.byteOf) = "user_id" := by
    decide +kernel
  unfold UserQuery.ofQuery?
  rw [query, Percent.formPairs_pair ascii one (by decide), name,
    Percent.formText_formEscape spells, String.ofList_toList]
  rfl

/-! ## The pull requests of a user -/

/-- What is answered about the user whom a text names. -/
def reviewsOf (s : Store) (name : String) : Response :=
  if name = "" then (ApiError.badRequest "user_id is required").response
  else
    match s.users.get? ⟨name⟩ with
    | none => (ApiError.ofAssignment (.userNotFound ⟨name⟩)).response
    | some _ => .json 200 (reviewsJson ⟨name⟩ (s.reviewedBy ⟨name⟩))

theorem run_askReviews (spells : Url.SpellsValues isSpecial) (s : Store) (chance : Chance)
    (user : String) : s.run (serve chance (askReviews isSpecial user contentType body)) =
      (reviewsOf s (trim user), s) := by
  have target : Route.ofPath? "/users/getReview".toList = some .reviews := by decide
  unfold serve
  rw [path_askReviews spells, target]
  dsimp only
  rw [if_neg (by simp [askReviews, Route.methods]), if_neg (by simp [askReviews])]
  unfold handle withQuery
  dsimp only
  rw [ofQuery?_askReviews spells]
  dsimp only
  unfold reviews UserQuery.user? reviewsOf
  dsimp only
  by_cases blank : trim user = ""
  · rw [if_pos blank, if_pos blank]
    rfl
  · rw [if_neg blank, if_neg blank]
    dsimp only
    rw [run_respond]
    rcases found : s.users.get? ⟨trim user⟩ with _ | known
    · rw [Store.run_reviewsFor_of_stranger found]
      rfl
    · have shown : s.run (Assignment.reviewsFor ⟨trim user⟩).run =
          (.ok (s.reviewedBy ⟨trim user⟩), s) := Store.run_reviewsFor found
      rw [shown]
      rfl

/-- A stored user is shown who is asked about, and only then. -/
theorem reviewsOf_eq_iff (found : s.users.get? user = some known) (given : user.value ≠ "")
    (name : String) :
    (reviewsOf s name = .json 200 (reviewsJson user (s.reviewedBy user)) ↔ name = user.value) ∧
      (name ≠ user.value → ∀ prs, reviewsOf s name ≠ .json 200 (reviewsJson user prs)) := by
  have own : reviewsOf s user.value = .json 200 (reviewsJson user (s.reviewedBy user)) := by
    unfold reviewsOf
    rw [if_neg given, found]
  have others : name ≠ user.value → ∀ prs, reviewsOf s name ≠ .json 200 (reviewsJson user prs) := by
    intro other prs same
    unfold reviewsOf at same
    split at same
    · cases congrArg Response.status same
    split at same
    · cases congrArg Response.status same
    · have alike := user_of_reviewsJson same
      exact other (congrArg UserId.value alike)
  refine ⟨⟨fun same => ?_, fun same => same ▸ own⟩, others⟩
  by_contra other
  exact others other _ same

/-! ## The body -/

/-- A request to replace a user says that the user is not on the roster, just when that is so. -/
theorem response_reassign_iff (stands : s.pullRequests.get? pr.id = some pr)
    (opened : pr.isMerged = false) (chance : Chance) {request : Request}
    (post : request.method = "POST") (target : Route.ofPath? request.path = some .reassign)
    (read : request.readBody ReassignRequest.read = .ok ⟨pr.id.value, user.value⟩) :
    (s.run (serve chance request)).1 =
        (ApiError.ofAssignment (.userNotReviewer pr.id user)).response ↔
      user ∉ pr.reviewerIds := by
  have shape : reassign chance ⟨pr.id.value, user.value⟩ =
      Assignment.reassign chance pr.id user >>= fun replaced =>
        pure (.json 200 (replaced.2.reassigned replaced.1)) := rfl
  have served : (s.run (serve chance request)).1 =
      told (fun replaced => .json 200 (replaced.2.reassigned replaced.1))
        (s.run (Assignment.reassign chance pr.id user)).1 := by
    unfold serve
    rw [target]
    dsimp only
    rw [post, if_neg (by decide), if_neg (by decide)]
    unfold handle withBody
    dsimp only
    rw [read]
    dsimp only
    rw [shape, run_respond]
    rfl
  rw [served]
  constructor
  · intro refused listed
    rcases Store.run_reassign_listed chance stands opened listed with
      away | nobody | ⟨replaced, done⟩
    · rw [away] at refused
      cases congrArg Response.status refused
    · rw [nobody] at refused
      have code : "NO_CANDIDATE" = "NOT_ASSIGNED" :=
        congrArg ApiError.code (ApiError.response_injective refused)
      exact absurd code (by decide)
    · rw [done] at refused
      cases congrArg Response.status refused
  · intro unlisted
    rw [Store.run_reassign_of_unlisted stands opened unlisted]
    rfl

/-- Who asks for the pull requests of a stored user is shown them, under the id as it was given,
just when the id neither begins nor ends with a blank. If it does, whatever is shown is not of this
user. Shown are all pull requests with the user on the roster, in the order of their ids. They are
those on which a replacement finds the user, while they are open. -/
theorem shown_reviews_are_own_iff (spells : Url.SpellsValues isSpecial) (s : Store)
    (found : s.users.get? user = some known) (given : user.value ≠ "") (chance : Chance)
    (contentType : Option String) (body : ByteArray) :
    let shown := s.run (serve chance (askReviews isSpecial user.value contentType body))
    shown.2 = s ∧
    (shown.1 = .json 200 (reviewsJson user (s.reviewedBy user)) ↔ trim user.value = user.value) ∧
    (trim user.value ≠ user.value → ∀ prs, shown.1 ≠ .json 200 (reviewsJson user prs)) ∧
    ((s.reviewedBy user).Pairwise fun a b => compare a.id b.id = .lt) ∧
    (∀ pr, pr ∈ s.reviewedBy user ↔
      s.pullRequests.get? pr.id = some pr ∧ user ∈ pr.reviewerIds) ∧
    ∀ pr, s.pullRequests.get? pr.id = some pr → pr.isMerged = false →
      ∀ later request, request.method = "POST" → Route.ofPath? request.path = some .reassign →
        request.readBody ReassignRequest.read = .ok ⟨pr.id.value, user.value⟩ →
        ((s.run (serve later request)).1 =
            (ApiError.ofAssignment (.userNotReviewer pr.id user)).response ↔
          pr ∉ s.reviewedBy user) := by
  obtain ⟨own, others⟩ := reviewsOf_eq_iff found given (trim user.value)
  intro shown
  have run : shown = (reviewsOf s (trim user.value), s) := run_askReviews spells s chance user.value
  rw [run]
  refine ⟨rfl, own, others, s.reviewedBy_ascending user, fun pr => Store.mem_reviewedBy, ?_⟩
  intro pr stands opened later request post target read
  have listed : pr ∈ s.reviewedBy user ↔ user ∈ pr.reviewerIds := by
    rw [Store.mem_reviewedBy]
    exact and_iff_right stands
  rw [response_reassign_iff stands opened later post target read, listed]

/-- A user, one whose id begins with a blank, and one whose id holds what a form escapes. The last
two review. -/
def namesakes : Store where
  pullRequests := ⟨[{ Sample.pr with
    author := ⟨"bea"⟩
    reviewers := [⟨⟨" ann"⟩, ⟨0⟩⟩, ⟨⟨"a b+β"⟩, ⟨0⟩⟩] }], List.pairwise_singleton ..⟩
  users := ⟨[Sample.member " ann", Sample.member "a b+β", Sample.member "ann"], by decide⟩
  teams := .empty

/-- The replacement of the last one, who is found on the roster, and then there is no team. -/
def replaceOdd : Request :=
  ⟨"POST", "/pullRequest/reassign", some "application/json",
    "\x7b\"pull_request_id\":\"p\",\"old_user_id\":\"a b+β\"\x7d".toUTF8⟩

theorem odd_reviews_are_own :
    Url.SpellsValues Url.formSpecial ∧
    (askReviews Url.formSpecial "a b+β" none .empty).target =
      "/users/getReview?user_id=a+b%2B%CE%B2" ∧
    (namesakes.run (serve Sample.chance (askReviews Url.formSpecial "a b+β" none .empty))).1 =
      .json 200 (reviewsJson ⟨"a b+β"⟩ (namesakes.reviewedBy ⟨"a b+β"⟩)) ∧
    (namesakes.reviewedBy ⟨"a b+β"⟩).map PullRequest.id = [⟨"p"⟩] ∧
    (namesakes.run (serve Sample.chance replaceOdd)).1 ≠
      (ApiError.ofAssignment (.userNotReviewer ⟨"p"⟩ ⟨"a b+β"⟩)).response := by
  have found : namesakes.users.get? ⟨"a b+β"⟩ = some (Sample.member "a b+β") := by decide
  obtain ⟨-, own, -, -, members, replaced⟩ := shown_reviews_are_own_iff
    Url.spellsValues_formSpecial namesakes found (by decide) Sample.chance none .empty
  obtain ⟨pr, stands, opened, named, on⟩ : ∃ pr, namesakes.pullRequests.get? pr.id = some pr ∧
      pr.isMerged = false ∧ pr.id = ⟨"p"⟩ ∧ ⟨"a b+β"⟩ ∈ pr.reviewerIds :=
    ⟨namesakes.pullRequests.entries.head (by decide), by decide, by decide, by decide, by decide⟩
  have read : replaceOdd.readBody ReassignRequest.read = .ok ⟨"p", "a b+β"⟩ := by decide +kernel
  have refused := replaced pr stands opened Sample.chance replaceOdd rfl (by decide)
    (by rw [named]; exact read)
  rw [named] at refused
  exact ⟨Url.spellsValues_formSpecial, by decide +kernel, own.2 (by decide +kernel), by decide,
    fun same => refused.1 same ((members pr).2 ⟨stands, on⟩)⟩

/-- The one with the blank is asked about, and the first one is shown. -/
theorem somebody_else_is_shown :
    (askReviews Url.formSpecial " ann" none .empty).target = "/users/getReview?user_id=+ann" ∧
    (namesakes.users.get? ⟨" ann"⟩).isSome = true ∧
    (namesakes.reviewedBy ⟨" ann"⟩).map PullRequest.id = [⟨"p"⟩] ∧
    (namesakes.run (serve Sample.chance (askReviews Url.formSpecial " ann" none .empty))).1 =
      .json 200 (reviewsJson ⟨"ann"⟩ []) ∧
    (namesakes.run (serve Sample.chance (askReviews Url.formSpecial " ann" none .empty))).1 ≠
      .json 200 (reviewsJson ⟨" ann"⟩ (namesakes.reviewedBy ⟨" ann"⟩)) := by
  decide +kernel

end Api

end ReviewDesk
