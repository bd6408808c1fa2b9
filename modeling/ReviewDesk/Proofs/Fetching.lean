-- Whether a new pull request can be fetched under its id. The id is spelled in the path, and a path
-- that is always the same comes first, so there are three ids that cannot be fetched.
import ReviewDesk.Proofs.Effects
import ReviewDesk.Proofs.Spelling

namespace ReviewDesk

/-! ## Spelling an id -/

namespace Url

/-- The escaping of a part of a path. It keeps letters, and escapes whatever would end the part or
begin an escape. -/
structure SpellsParts (isSpecial : Char → Bool) : Prop where
  keeps : ∀ c : Char, c.isAlpha = true → isSpecial c = false
  percent : isSpecial '%' = true
  slash : isSpecial '/' = true
  question : isSpecial '?' = true
  hash : isSpecial '#' = true

/-- Whether a character is to be escaped where it could mean something. Letters, digits and four
marks never do. -/
def mayMean (c : Char) : Bool :=
  !(c.isAlphanum || c = '-' || c = '.' || c = '_' || c = '~')

theorem spellsParts_mayMean : SpellsParts mayMean := by
  refine ⟨?_, rfl, rfl, rfl, rfl⟩
  intro c letter
  simp [mayMean, Char.isAlphanum, letter]

variable {isSpecial : Char → Bool} {cs : List Char}

namespace SpellsParts

theorem one_part (h : SpellsParts isSpecial) (cs : List Char) :
    '/' ∉ escape isSpecial cs ∧ '?' ∉ escape isSpecial cs ∧ '#' ∉ escape isSpecial cs :=
  ⟨not_mem_escape h.slash (by decide) (by decide),
    not_mem_escape h.question (by decide) (by decide),
    not_mem_escape h.hash (by decide) (by decide)⟩

/-- Only a word of letters is spelled as that word. -/
theorem escape_eq_iff (h : SpellsParts isSpecial) {word : List Char}
    (letters : word.all (fun c => c.isAlpha && c.toNat < 0x80) = true) :
    escape isSpecial cs = word ↔ cs = word := by
  have same : escape isSpecial word = word := by
    refine escape_of_plain fun c listed => ?_
    have letter := List.all_eq_true.1 letters c listed
    rw [Bool.and_eq_true, decide_eq_true_eq] at letter
    exact ⟨h.keeps c letter.1, letter.2⟩
  constructor
  · intro spelled
    exact escape_injective h.percent (spelled.trans same.symm)
  · rintro rfl
    exact same

end SpellsParts

end Url

/-! ## The target -/

namespace Route

/-- The words that stand for a target of their own where the id of a pull request could stand. -/
def reserved : List String := ["create", "merge", "reassign"]

theorem letters_of_reserved : ∀ word ∈ reserved,
    word.toList.all (fun c => c.isAlpha && c.toNat < 0x80) = true := by
  decide

theorem ofPath?_reserved {word : String} (h : word ∈ reserved) :
    ∃ route, ofPath? (pullRequestPath ++ word.toList) = some route ∧ route.methods = ["POST"] := by
  simp only [reserved, List.mem_cons, List.not_mem_nil, or_false] at h
  rcases h with rfl | rfl | rfl
  · exact ⟨create, by decide, rfl⟩
  · exact ⟨merge, by decide, rfl⟩
  · exact ⟨reassign, by decide, rfl⟩

/-- Where a fixed path begins like that of a pull request, a reserved word follows. -/
theorem fixed_under : ∀ entry ∈ fixed,
    entry.1.toList.take pullRequestPath.length = pullRequestPath →
      ∃ word ∈ reserved, entry.1.toList = pullRequestPath ++ word.toList := by
  decide

theorem ofPath?_part {part : List Char} (given : part ≠ []) (one : '/' ∉ part)
    (free : ∀ word ∈ reserved, part ≠ word.toList) :
    ofPath? (pullRequestPath ++ part) = some (pullRequest part) := by
  have unfixed : fixed.find? (·.1.toList = pullRequestPath ++ part) = none := by
    refine List.find?_eq_none.2 fun entry listed same => ?_
    have same := of_decide_eq_true same
    have under : entry.1.toList.take pullRequestPath.length = pullRequestPath := by
      rw [same, List.take_left]
    obtain ⟨word, taken, path⟩ := fixed_under entry listed under
    exact free word taken (List.append_cancel_left (same.symm.trans path))
  unfold ofPath?
  rw [unfixed]
  dsimp only
  rw [List.take_left, List.drop_left, if_pos ⟨rfl, given, one⟩]

end Route

/-! ## Fetching -/

namespace Api

variable {isSpecial : Char → Bool}

/-- A request to see the pull request with an id. -/
def fetch (isSpecial : Char → Bool) (id : String) (contentType : Option String)
    (body : ByteArray) : Request :=
  ⟨"GET", "/pullRequest/" ++ String.ofList (Url.escape isSpecial id.toList), contentType, body⟩

theorem path_fetch (spells : Url.SpellsParts isSpecial) (id : String)
    (contentType : Option String) (body : ByteArray) :
    (fetch isSpecial id contentType body).path =
      Route.pullRequestPath ++ Url.escape isSpecial id.toList := by
  obtain ⟨-, question, hash⟩ := spells.one_part id.toList
  have target : (fetch isSpecial id contentType body).target.toList =
      Route.pullRequestPath ++ Url.escape isSpecial id.toList :=
    String.toList_append.trans (congrArg (Route.pullRequestPath ++ ·) String.toList_ofList)
  unfold Request.path Request.resource
  rw [target]
  generalize Url.escape isSpecial id.toList = part at *
  -- Neither a fragment nor a query follows.
  have whole : '#' ∉ Route.pullRequestPath ++ part := by
    rw [List.mem_append, not_or]
    exact ⟨by decide, hash⟩
  have plain : '?' ∉ Route.pullRequestPath ++ part := by
    rw [List.mem_append, not_or]
    exact ⟨by decide, question⟩
  rw [takeWhile_of_not_mem whole]
  exact takeWhile_of_not_mem plain

variable {s : Store} {id : String} {pr : PullRequest} {contentType : Option String}
  {body : ByteArray}

/-- A stored pull request is shown, unless its id is a reserved word. -/
theorem run_fetch (spells : Url.SpellsParts isSpecial) (given : id ≠ "")
    (stored : s.pullRequests.get? ⟨id⟩ = some pr) (chance : Chance) :
    s.run (serve chance (fetch isSpecial id contentType body)) =
      (if id ∈ Route.reserved then .notAllowed ["POST"] else .json 200 pr.envelope, s) := by
  have path := path_fetch spells id contentType body
  by_cases taken : id ∈ Route.reserved
  · rw [(spells.escape_eq_iff (Route.letters_of_reserved id taken)).2 rfl] at path
    obtain ⟨route, target, methods⟩ := Route.ofPath?_reserved taken
    rw [if_pos taken]
    unfold serve
    rw [path, target]
    dsimp only
    rw [methods, if_pos (by simp [fetch])]
    rfl
  · have some_part : Url.escape isSpecial id.toList ≠ [] := by
      rw [Ne, spells.escape_eq_iff rfl, String.toList_eq_nil_iff]
      exact given
    have free : ∀ word ∈ Route.reserved, Url.escape isSpecial id.toList ≠ word.toList := by
      intro word reserved same
      have same := (spells.escape_eq_iff (Route.letters_of_reserved word reserved)).1 same
      have same := String.toList_injective same
      exact taken (same ▸ reserved)
    have target := Route.ofPath?_part some_part (spells.one_part _).1 free
    rw [if_neg taken]
    unfold serve
    rw [path, target]
    dsimp only
    rw [if_neg (by simp [fetch, Route.methods]), if_neg (by simp [fetch])]
    unfold handle pullRequest
    dsimp only
    rw [Percent.decodeText_escape spells.percent, String.ofList_toList, Utf8.decode?_encode]
    dsimp only
    rw [run_respond]
    change (told _ (s.run (Assignment.get ⟨id⟩)).1, (s.run (Assignment.get ⟨id⟩)).2) = _
    rw [Store.run_get stored]
    rfl

/-- A new pull request that was answered for can be fetched at once, and the same is shown, just
when its id is not a reserved word. -/
theorem created_can_be_fetched_iff (spells : Url.SpellsParts isSpecial) (s : Store)
    (chance : Chance) (request : Request) {response : Response} {after : Store}
    (served : s.run (serve chance request) = (response, after)) (post : request.method = "POST")
    (created : response.status = 201) :
    ∃ (asked : CreateRequest) (pr : PullRequest),
      request.readBody CreateRequest.read = .ok asked ∧ pr.id = ⟨asked.pullRequest⟩ ∧
      response = .json 201 pr.envelope ∧
      ∀ later contentType body,
        let fetched := after.run (serve later (fetch isSpecial pr.id.value contentType body))
        (fetched.1.status = 200 ∧ fetched.1.body = response.body ↔
          pr.id.value ∉ Route.reserved) ∧ fetched.2 = after := by
  have effect := effect_serve s chance post
  rw [served] at effect
  cases effect with
  | refused failed =>
    unfold Response.isSuccess at failed
    rw [created] at failed
    cases failed
  | @changed _ pr _ _ shows frame stored =>
    cases shows with
    | merged | reassigned => cases created
    | @created asked _ target read given =>
      have own : pr.id = ⟨asked.pullRequest⟩ := Register.key_of_get? stored
      refine ⟨asked, pr, read, own, rfl, fun later contentType body => ?_⟩
      rw [own, run_fetch spells given stored later]
      refine ⟨?_, rfl⟩
      dsimp only
      split
      · rename_i taken
        exact iff_of_false (fun shown => by cases shown.1) (not_not.2 taken)
      · rename_i free
        exact iff_of_true ⟨rfl, rfl⟩ free

/-- Ann opens a pull request. -/
def opening (body : String) : Request :=
  ⟨"POST", "/pullRequest/create", some "application/json", body.toUTF8⟩

/-- What comes of it where nobody has opened one. -/
def opened (body : String) : Response × Store :=
  Sample.staffed.run (serve Sample.chance (opening body))

/-- The pull request has an id that no path can hold as it is. -/
def oddBody : String :=
  "\x7b\"pull_request_id\":\"a/β?\",\"pull_request_name\":\"a change\",\"author_id\":\"ann\"\x7d"

theorem odd_id_can_be_fetched :
    Url.SpellsParts Url.mayMean ∧ (opening oddBody).method = "POST" ∧
    (opened oddBody).1.status = 201 ∧
    (fetch Url.mayMean "a/β?" none .empty).target = "/pullRequest/a%2F%CE%B2%3F" ∧
    ((opened oddBody).2.run
      (serve Sample.chance (fetch Url.mayMean "a/β?" none .empty))).1.body =
        (opened oddBody).1.body := by
  have created : (opened oddBody).1.status = 201 := by decide +kernel
  have named : (opening oddBody).readBody CreateRequest.read =
      .ok ⟨"a/β?", "a change", "ann"⟩ := by decide +kernel
  obtain ⟨asked, pr, read, own, -, shown⟩ := created_can_be_fetched_iff Url.spellsParts_mayMean
    Sample.staffed Sample.chance (opening oddBody) rfl rfl created
  rw [named] at read
  cases read
  rw [own] at shown
  have free : "a/β?" ∉ Route.reserved := by decide
  have fetched := ((shown Sample.chance none .empty).1.2 free).2
  exact ⟨Url.spellsParts_mayMean, rfl, created, by decide +kernel, fetched⟩

/-- The id of the pull request is a reserved word. -/
def reservedBody : String :=
  "\x7b\"pull_request_id\":\"create\",\"pull_request_name\":\"a change\",\"author_id\":\"ann\"\x7d"

/-- It is stored, and yet it is not shown. -/
theorem reserved_id_cannot_be_fetched :
    (opened reservedBody).1.status = 201 ∧
    (fetch Url.mayMean "create" none .empty).target = "/pullRequest/create" ∧
    ((opened reservedBody).2.pullRequests.get? ⟨"create"⟩).isSome = true ∧
    ((opened reservedBody).2.run
      (serve Sample.chance (fetch Url.mayMean "create" none .empty))).1 =
        .notAllowed ["POST"] := by
  decide +kernel

end Api

end ReviewDesk
