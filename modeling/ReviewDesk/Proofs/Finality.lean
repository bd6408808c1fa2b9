-- A merge is final. However many clients come, in whatever order their calls are answered and
-- whichever of them fail, a merged pull request stays as it is, and all who merge it agree.
import ReviewDesk.Proofs.Ledger
import ReviewDesk.Proofs.Roster

namespace ReviewDesk

open Floor

/-! ## What lasts -/

/-- No pull request goes away, and a merged one stays as it is. -/
def Lasts (a b : Shelf) : Prop :=
  ∀ id pr, a.get? id = some pr →
    ∃ now, b.get? id = some now ∧ (pr.isMerged = true → now = pr)

theorem lasts_refl (a : Shelf) : Lasts a a := fun _ pr h => ⟨pr, h, fun _ => rfl⟩

theorem lasts_trans {a b c : Shelf} (h : Lasts a b) (h' : Lasts b c) : Lasts a c := by
  intro id pr stands
  obtain ⟨mid, stands, same⟩ := h id pr stands
  obtain ⟨now, stands, same'⟩ := h' id mid stands
  refine ⟨now, stands, ?_⟩
  intro merged
  have same := same merged
  rw [same] at same'
  exact same' merged

theorem lasts_put {a : Shelf} {pr : PullRequest}
    (h : ∀ old, a.get? pr.id = some old → old.isMerged = false) : Lasts a (a.put pr) := by
  intro id old stands
  by_cases here : pr.id = id
  · subst here
    refine ⟨pr, Register.get?_put_self a pr, ?_⟩
    intro merged
    rw [h old stands] at merged
    cases merged
  · exact ⟨old, by rw [Register.get?_put_of_ne a here]; exact stands, fun _ => rfl⟩

theorem Moment.lasts (m : Moment) : Lasts m.found m.left := by
  cases m.effect with
  | nothing same =>
    rw [same]
    exact lasts_refl _
  | placed pr said free put =>
    rw [put]
    exact lasts_put fun old stands => by rw [free] at stands; cases stands
  | replaced pr old said stood opened put =>
    rw [put]
    refine lasts_put ?_
    intro old' stands
    rw [stood] at stands
    cases stands
    exact opened

theorem lasts_linked {start finish : Shelf} {ledger : List Moment}
    (linked : Linked start ledger finish) :
    Lasts start finish ∧ ∀ m ∈ ledger, Lasts start m.found ∧ Lasts m.found finish :=
  kept lasts_refl lasts_trans linked fun _ m _ _ _ _ => m.lasts

/-- From any moment to any later one. -/
theorem lasts_between {start finish : Shelf} {ledger l l' : List Moment} {m : Moment}
    (linked : Linked start ledger finish) (split : ledger = l ++ m :: l') :
    Lasts m.left finish ∧ ∀ n ∈ l', Lasts m.left n.found := by
  rw [split] at linked
  exact kept_since lasts_refl lasts_trans linked fun n _ => n.lasts

/-- A merged pull request that stands on one shelf stands on the other. -/
theorem Lasts.merged {a b : Shelf} (h : Lasts a b) {id : PullRequestId} {pr : PullRequest}
    (stands : a.get? id = some pr) (merged : pr.isMerged = true) : b.get? id = some pr := by
  obtain ⟨now, stands, same⟩ := h id pr stands
  rw [stands, same merged]

/-- Whatever stands merged is not written over. -/
theorem Moment.not_took {m : Moment} {pr old : PullRequest} (stood : m.found.get? pr.id = some old)
    (merged : old.isMerged = true) : ¬ m.Took pr := by
  intro took
  obtain ⟨old', stood', opened, -⟩ := of_took took
  rw [stood] at stood'
  cases stood'
  rw [merged] at opened
  cases opened

/-- What an update is refused for is a merge, if the call does not fail on the way. -/
theorem Moment.merged_of_refused {m : Moment} {pr old : PullRequest} {e : StoreError}
    (said : m.exchange = ⟨.updatePullRequest pr, .error e⟩) (smooth : m.fault = none)
    (stood : m.found.get? pr.id = some old) : old.isMerged = true := by
  have refused := reply_of_smooth said smooth
  by_contra opened
  rw [Store.answer_update, Store.update_of_open stood (eq_false_of_ne_true opened)] at refused
  cases refused

/-! ## What is behind a write -/

namespace Floor

variable {s : Store} {f : Floor} {id : PullRequestId} {chance : Chance}

/-- A merge writes what it has made of an open pull request that it has read. -/
theorem Recorded.of_merge_write (h : Recorded s f) {l l' : List Moment} {m : Moment}
    {pr : PullRequest} (split : f.ledger = l ++ m :: l')
    (came : f.CameFor m.client (.merge id) chance) (took : m.Took pr) :
    ∃ read, ⟨.findPullRequest id, .ok (some read)⟩ ∈ trail m.client l ∧ read.isMerged = false ∧
      pr = read.merge (chance.clock 0) := by
  obtain ⟨job, chance', came', prepares⟩ := h.prepared split took rfl
  obtain ⟨rfl, rfl⟩ := cameFor_unique came came'
  generalize trail m.client l = before at prepares
  cases prepares with
  | merge opened => exact ⟨_, List.mem_singleton.2 rfl, opened, rfl⟩

/-- What a client has read under an id has this id. -/
theorem id_of_read {i : Nat} {ledger : List Moment} {pr : PullRequest}
    (h : ⟨.findPullRequest id, .ok (some pr)⟩ ∈ trail i ledger) : pr.id = id := by
  obtain ⟨m, -, -, stood⟩ := read_of_trail h
  exact Register.key_of_get? stood

/-- A merge of a pull request that the store took. -/
def WroteMerge (f : Floor) (id : PullRequestId) (m : Moment) (pr : PullRequest) : Prop :=
  (∃ chance, f.CameFor m.client (.merge id) chance) ∧ m.Took pr

theorem Recorded.wroteMerge (h : Recorded s f) {l l' : List Moment} {m : Moment}
    {pr : PullRequest} (split : f.ledger = l ++ m :: l') (wrote : f.WroteMerge id m pr) :
    pr.id = id ∧ pr.isMerged = true := by
  obtain ⟨⟨chance, came⟩, took⟩ := wrote
  obtain ⟨read, listed, opened, rfl⟩ := h.of_merge_write split came took
  refine ⟨?_, PullRequest.isMerged_merge _ _⟩
  rw [(PullRequest.sameOrigin_merge _ _).id]
  exact id_of_read listed

/-- After a merge that the store took, there is no other. -/
theorem Recorded.one_merge (h : Recorded s f) {l l' : List Moment} {m n : Moment}
    {pr pr' : PullRequest} (split : f.ledger = l ++ m :: l') (listed : n ∈ l')
    (wrote : f.WroteMerge id m pr) (wrote' : f.WroteMerge id n pr') : False := by
  obtain ⟨rfl, merged⟩ := h.wroteMerge split wrote
  have stands := ((lasts_between h.linked split).2 n listed).merged
    (Moment.left_of_took wrote.2) merged
  obtain ⟨x, y, rfl⟩ := List.append_of_mem listed
  have split' : f.ledger = (l ++ m :: x) ++ n :: y := by simp [split]
  have same := (h.wroteMerge split' wrote').1
  rw [← same] at stands
  exact Moment.not_took stands merged wrote'.2

/-! ## What a client goes away with -/

/-- A merge that ends well ends with what is stored. -/
theorem Recorded.merge_ok (h : Recorded s f) {i : Nat} {pr : PullRequest}
    (here : f.clients[i]? = some ⟨.merge id, chance, .done (.ok pr)⟩) :
    f.stored id = some pr ∧ pr.isMerged = true := by
  have each := (lasts_linked h.linked).2
  have ends := Assignment.merge_ends (h.brought i _ _ _ here)
  have of_read : ⟨.findPullRequest id, .ok (some pr)⟩ ∈ trail i f.ledger →
      pr.isMerged = true → f.stored id = some pr ∧ pr.isMerged = true := by
    intro read merged
    obtain ⟨m, listed, -, stood⟩ := read_of_trail read
    exact ⟨(each m listed).2.merged stood merged, merged⟩
  generalize path : trail i f.ledger = path at ends
  cases ends with
  | already merged => exact of_read (by rw [path]; simp) merged
  | overtaken e opened merged => exact of_read (by rw [path]; simp) merged
  | @written read opened =>
    have merged := PullRequest.isMerged_merge read (chance.clock 0)
    have listed : ⟨.findPullRequest id, .ok (some read)⟩ ∈ trail i f.ledger := by
      rw [path]
      simp
    have path : trail i f.ledger = [_] ++ _ :: [] := path
    obtain ⟨l, m, l', split, -, took, -⟩ := trail_split path
    have stands := (lasts_between h.linked split).1.merged (Moment.left_of_took took) merged
    rw [(PullRequest.sameOrigin_merge _ _).id, id_of_read listed] at stands
    exact ⟨stands, merged⟩

/-- A reassignment that ends well has written what it ends with. -/
theorem Recorded.reassign_ok (h : Recorded s f) {i : Nat} {old new : UserId} {pr : PullRequest}
    (here : f.clients[i]? = some ⟨.reassign id old, chance, .done (.ok (new, pr))⟩) :
    pr.id = id ∧ ∃ m ∈ f.ledger, m.client = i ∧ m.Took pr := by
  have ends := Assignment.reassign_ends (h.brought i _ _ _ here)
  generalize path : trail i f.ledger = path at ends
  cases ends with
  | @written read team members _ _ made =>
    have listed : ⟨.findPullRequest id, .ok (some read)⟩ ∈ trail i f.ledger := by
      rw [path]
      simp [Assignment.reassignReads]
    have wrote : ⟨.updatePullRequest pr, .ok ()⟩ ∈ trail i f.ledger := by
      rw [path]
      simp
    refine ⟨?_, mem_trail wrote⟩
    rw [(PullRequest.sameOrigin_of_reassign made.made).id]
    exact id_of_read listed

section Smooth

variable {start finish : Shelf} {ledger : List Moment} {i : Nat} {old : PullRequest}
  {reply : Except StoreError (Option PullRequest)}

/-- Where no call of a client fails on the way, whatever was there from the start is found. -/
theorem found_of_smooth (linked : Linked start ledger finish) (there : start.get? id = some old)
    (smooth : ∀ m ∈ ledger, m.client = i → m.fault = none)
    (listed : ⟨.findPullRequest id, reply⟩ ∈ trail i ledger) : ∃ pr, reply = .ok (some pr) := by
  obtain ⟨m, listed, client, said⟩ := mem_trail listed
  obtain ⟨pr, stands, -⟩ := ((lasts_linked linked).2 m listed).1 id old there
  refine ⟨pr, ?_⟩
  rw [Moment.reply_of_smooth said (smooth m listed client), ← stands]
  rfl

/-- Where no call of a client fails on the way and the store still refuses its update, somebody else
has merged by then, and the merged pull request is found from then on. -/
theorem found_merged_of_refused (linked : Linked start ledger finish)
    (there : start.get? id = some old) (smooth : ∀ m ∈ ledger, m.client = i → m.fault = none)
    {l l' : List Moment} {m : Moment}
    (split : ledger = l ++ m :: l') (client : m.client = i) {pr : PullRequest} {e : StoreError}
    (said : m.exchange = ⟨.updatePullRequest pr, .error e⟩) (same : pr.id = id)
    (listed : ⟨.findPullRequest id, reply⟩ ∈ trail i l') :
    ∃ current, reply = .ok (some current) ∧ current.isMerged = true := by
  have here : m ∈ ledger := by simp [split]
  obtain ⟨current, stood, -⟩ := ((lasts_linked linked).2 m here).1 id old there
  have merged : current.isMerged = true :=
    Moment.merged_of_refused said (smooth m here client) (same ▸ stood)
  obtain ⟨n, later, client', said'⟩ := mem_trail listed
  have stands := (lasts_trans m.lasts ((lasts_between linked split).2 n later)).merged stood merged
  refine ⟨current, ?_, merged⟩
  rw [Moment.reply_of_smooth said' (smooth n (by simp [split, later]) client'), ← stands]
  rfl

end Smooth

/-- When none of its calls fail, and the pull request was there when it came, a merge ends
well. -/
theorem merge_of_no_fault {before after : List Turn} {old : PullRequest}
    {outcome : Except AssignmentError PullRequest}
    (there : (run s before).stored id = some old)
    (here : (run s (before ++ .arrive (.merge id) chance :: after)).clients[
      (run s before).clients.length]? = some ⟨.merge id, chance, .done outcome⟩)
    (smooth : ∀ m ∈ (run s (before ++ .arrive (.merge id) chance :: after)).ledger,
      m.client = (run s before).clients.length → m.fault = none) :
    ∃ pr, outcome = .ok pr := by
  have h := recorded_run s (before ++ .arrive (.merge id) chance :: after)
  obtain ⟨later, grows, linked⟩ := ledger_grows s before (.arrive (.merge id) chance :: after)
  have none_yet := (recorded_run s before).no_trail (Nat.le_refl _)
  have ends := Assignment.merge_ends (h.brought _ _ _ _ here)
  rw [grows, trail_append, none_yet, List.nil_append] at ends
  have smooth : ∀ m ∈ later, m.client = (run s before).clients.length → m.fault = none := by
    intro m listed
    exact smooth m (grows ▸ List.mem_append_right _ listed)
  generalize (run s before).clients.length = i at ends smooth
  generalize path : trail i later = path at ends
  cases ends with
  | already | written | overtaken => exact ⟨_, rfl⟩
  | unread e =>
    obtain ⟨pr, found⟩ := found_of_smooth linked there smooth (path ▸ List.mem_cons_self)
    cases found
  | unknown =>
    obtain ⟨pr, found⟩ := found_of_smooth linked there smooth (path ▸ List.mem_cons_self)
    cases found
  | @failed pr e reply opened unmerged =>
    have listed : ⟨.findPullRequest id, .ok (some pr)⟩ ∈ trail i later := by
      rw [path]
      exact List.mem_cons_self
    have same : (pr.merge (chance.clock 0)).id = id := by
      rw [(PullRequest.sameOrigin_merge _ _).id]
      exact id_of_read listed
    have path : trail i later = [_] ++ ⟨.updatePullRequest (pr.merge (chance.clock 0)), .error e⟩ ::
      [⟨.findPullRequest id, reply⟩] := path
    obtain ⟨l, m, l', split, client, said, -, rest⟩ := trail_split path
    obtain ⟨current, again, merged⟩ :=
      found_merged_of_refused linked there smooth split client said same
        (rest ▸ List.mem_singleton.2 rfl)
    rw [unmerged current again] at merged
    cases merged

/-! ## All who merge agree -/

/-- However many clients come, every merge of a pull request that ends well ends with the stored
one, and the store takes at most one of their writes. When no call fails, and the pull request
was there when a merge came, that merge ends well. -/
theorem merges_agree (s : Store) (turns : List Turn) (id : PullRequestId) :
    (∀ (i : Nat) (chance : Chance) (pr : PullRequest),
      (run s turns).clients[i]? = some ⟨.merge id, chance, .done (.ok pr)⟩ →
      (run s turns).stored id = some pr) ∧
    (∀ (a b : Nat) m n pr pr', (run s turns).ledger[a]? = some m →
      (run s turns).ledger[b]? = some n → (run s turns).WroteMerge id m pr →
      (run s turns).WroteMerge id n pr' → a = b) ∧
    ((∀ m ∈ (run s turns).ledger, m.fault = none) →
      ∀ (before after : List Turn) (chance : Chance) (old : PullRequest)
        (outcome : Except AssignmentError PullRequest),
      turns = before ++ .arrive (.merge id) chance :: after →
      (run s before).stored id = some old →
      (run s turns).clients[(run s before).clients.length]? =
        some ⟨.merge id, chance, .done outcome⟩ →
      ∃ pr, outcome = .ok pr) := by
  have h := recorded_run s turns
  -- Of two merges that were written, the second would have written over the first.
  have not_before : ∀ (a b : Nat) m n pr pr', (run s turns).ledger[a]? = some m →
      (run s turns).ledger[b]? = some n → (run s turns).WroteMerge id m pr →
      (run s turns).WroteMerge id n pr' → ¬ a < b := by
    intro a b m n pr pr' first second wrote wrote' earlier
    obtain ⟨within, rfl⟩ := List.getElem?_eq_some_iff.1 first
    have split : (run s turns).ledger =
        (run s turns).ledger.take a ++ (run s turns).ledger[a] ::
          (run s turns).ledger.drop (a + 1) := by
      rw [List.getElem_cons_drop, List.take_append_drop]
    have listed : n ∈ (run s turns).ledger.drop (a + 1) := by
      rw [List.mem_iff_getElem?]
      refine ⟨b - (a + 1), ?_⟩
      rw [List.getElem?_drop, show a + 1 + (b - (a + 1)) = b by omega]
      exact second
    exact h.one_merge split listed wrote wrote'
  refine ⟨fun i chance pr here => (h.merge_ok here).1, ?_, ?_⟩
  · intro a b m n pr pr' first second wrote wrote'
    rcases Nat.lt_trichotomy a b with less | same | more
    · exact absurd less (not_before a b m n pr pr' first second wrote wrote')
    · exact same
    · exact absurd more (not_before b a n m pr' pr second first wrote' wrote)
  · rintro smooth before after chance old outcome rfl there here
    exact merge_of_no_fault there here fun m listed _ => smooth m listed

/-- Two clients read the pull request while it is open, and each then writes its merge. -/
def racingTurns : List Turn :=
  [.arrive (.merge ⟨"p"⟩) Sample.chance, .arrive (.merge ⟨"p"⟩) Sample.chance,
    .go 0, .go 1, .go 0, .go 1, .go 0, .go 1, .go 1]

/-- The second of them is refused, and comes to the merge of the first. -/
theorem racing_merges_agree :
    (run Sample.desk racingTurns).stored ⟨"p"⟩ = some (Sample.pr.merge ⟨5000⟩) ∧
    (run Sample.desk racingTurns).clients[1]? = some ⟨.merge ⟨"p"⟩, Sample.chance,
      .done (.ok (Sample.pr.merge ⟨5000⟩))⟩ ∧
    ∀ outcome : Except AssignmentError PullRequest, (run Sample.desk racingTurns).clients[1]? =
      some ⟨.merge ⟨"p"⟩, Sample.chance, .done outcome⟩ → ∃ pr, outcome = .ok pr := by
  obtain ⟨agree, -, well⟩ := merges_agree Sample.desk racingTurns ⟨"p"⟩
  refine ⟨agree 1 Sample.chance _ rfl, rfl, ?_⟩
  intro outcome here
  have smooth : ∀ m ∈ (run Sample.desk racingTurns).ledger, m.fault = none := by
    intro m listed
    obtain ⟨n, found⟩ := List.mem_iff_getElem?.1 listed
    rcases n with _ | _ | _ | _ | _ | n <;> cases found <;> rfl
  exact well smooth [racingTurns[0]] (racingTurns.drop 2) Sample.chance Sample.pr outcome rfl rfl
    here

/-! ## Nothing comes after a merge -/

/-- Once a pull request is stored as merged, it stays as it is, whoever comes and whoever is
already there. The store refuses every update of it and every other pull request with its id,
and a reassignment that had not been written by then never ends well. -/
theorem a_merge_is_final (s : Store) (before after : List Turn) {id : PullRequestId}
    {pr : PullRequest} (stands : (run s before).stored id = some pr) (merged : pr.isMerged = true) :
    (run s (before ++ after)).stored id = some pr ∧
    (∀ other : PullRequest, other.id = id →
      (run s (before ++ after)).store.answer (.updatePullRequest other) =
        (.error (Store.frozen id), (run s (before ++ after)).store) ∧
      (run s (before ++ after)).store.answer (.createPullRequest other) =
        (.error (Store.taken id), (run s (before ++ after)).store)) ∧
    (∀ (i : Nat) (chance : Chance) (old new : UserId) (changed : PullRequest),
      (run s (before ++ after)).clients[i]? =
        some ⟨.reassign id old, chance, .done (.ok (new, changed))⟩ →
      ∃ m ∈ (run s before).ledger, m.client = i ∧ m.Took changed) := by
  obtain ⟨later, grows, linked⟩ := ledger_grows s before after
  obtain ⟨lasts, each⟩ := lasts_linked linked
  have still : (run s (before ++ after)).stored id = some pr := lasts.merged stands merged
  refine ⟨still, ?_, ?_⟩
  · rintro other rfl
    constructor
    · rw [Store.answer_update, Store.update_of_merged still merged]
      rfl
    · rw [Store.answer_create, Store.create_of_taken still]
      rfl
  · intro i chance old new changed here
    obtain ⟨rfl, m, listed, client, took⟩ := (recorded_run s (before ++ after)).reassign_ok here
    rw [grows] at listed
    rcases List.mem_append.1 listed with first | late
    · exact ⟨m, first, client, took⟩
    · exact absurd took (Moment.not_took ((each m late).1.merged stands merged) merged)

/-- Somebody reads the pull request to reassign it, and somebody else merges it. -/
def overtakenTurns : List Turn :=
  [.arrive (.reassign ⟨"p"⟩ ⟨"bea"⟩) Sample.chance, .go 0, .go 0, .go 0,
    .arrive (.merge ⟨"p"⟩) Sample.chance, .go 1, .go 1, .go 1]

/-- The reassignment goes on after the merge, and somebody writes an open copy past the desk. -/
def lateTurns : List Turn :=
  [.go 0, .arrive (.direct (.updatePullRequest Sample.pr)) Sample.chance, .go 2]

/-- Both come too late. -/
theorem overtaken_reassignment_is_refused :
    (run Sample.desk overtakenTurns).stored ⟨"p"⟩ = some (Sample.pr.merge ⟨5000⟩) ∧
    (Sample.pr.merge ⟨5000⟩).isMerged = true ∧
    (run Sample.desk (overtakenTurns ++ lateTurns)).stored ⟨"p"⟩ =
      some (Sample.pr.merge ⟨5000⟩) ∧
    (run Sample.desk (overtakenTurns ++ lateTurns)).clients[0]? = some ⟨.reassign ⟨"p"⟩ ⟨"bea"⟩,
      Sample.chance, .done (.error (.store (Store.frozen ⟨"p"⟩)))⟩ := by
  have stands : (run Sample.desk overtakenTurns).stored ⟨"p"⟩ =
      some (Sample.pr.merge ⟨5000⟩) := rfl
  have merged : (Sample.pr.merge ⟨5000⟩).isMerged = true := rfl
  exact ⟨stands, merged, (a_merge_is_final _ overtakenTurns lateTurns stands merged).1, rfl⟩

end Floor

end ReviewDesk
