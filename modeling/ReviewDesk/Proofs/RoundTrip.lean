-- What is read back of a pull request that was created. All its times are whole microseconds, so
-- nothing is cut off when they are written, and the positions bring its roster back in order.
import Mathlib.Data.List.Nodup
import Mathlib.Data.Prod.Lex
import Mathlib.Data.String.Basic
import ReviewDesk.Proofs.Changes
import ReviewDesk.Proofs.Rows

namespace ReviewDesk

/-- The database counts from a whole microsecond as well. -/
theorem Instant.Whole.kept_eq {t : Instant} (h : t.Whole) : Sql.kept t = t := by
  have apart : 1000 ∣ t.nanos - Sql.epoch.nanos := Int.dvd_sub h (by decide)
  have back : Sql.epoch.nanos + (t.nanos - Sql.epoch.nanos) = t.nanos := by omega
  unfold Sql.kept
  rw [Int.tdiv_mul_cancel apart, back]

namespace Sql

/-! ## Tables -/

/-- The finest step of a column for times is a microsecond. -/
def Value.cut : Value → Value
  | .instant t => .instant t.toMicrosecond
  | value => value

/-- What a table keeps of a statement that inserts a row. -/
def Statement.row (s : Statement) : Row := s.parameters.map Value.cut

/-- The tables of pull requests and of the places on their rosters. The last row comes first. -/
structure Tables where
  pullRequests : List Row
  places : List Row

/-- What the places are ordered by: their pull request, and then their position. -/
def placeKey (row : Row) : String ×ₗ Int :=
  toLex (match row.get 0 with | .text id => id | _ => "",
    match row.get 2 with | .integer position => position | _ => 0)

/-- What is read of a place. -/
def placeColumns (row : Row) : Row := [row.get 0, row.get 1, row.get 3]

namespace Tables

/-- The rows of pull requests with an id. -/
def named (t : Tables) (id : PullRequestId) : List Row :=
  t.pullRequests.filter fun row => row.get 0 = .text id.value

/-- The places on the rosters of some pull requests, in order. -/
def placesOf (t : Tables) (ids : List PullRequestId) : List Row :=
  (t.places.filter fun row => row.get 0 ∈ ids.map fun id => Value.text id.value).mergeSort
    fun a b => placeKey a ≤ placeKey b

/-- Answers a command. Only those that create and find a pull request make a difference, and none
of them fails. -/
def answer (t : Tables) : Command → Reply × Tables
  | .statement (.insertPullRequest pr) =>
    (.ok [], { t with pullRequests := (Statement.insertPullRequest pr).row :: t.pullRequests })
  | .statement (.insertReviewer id position r) =>
    (.ok [], { t with places := (Statement.insertReviewer id position r).row :: t.places })
  | .statement (.findPullRequest id) => (.ok (t.named id), t)
  | .statement (.loadReviewers ids) => (.ok ((t.placesOf ids).map placeColumns), t)
  | _ => (.ok [], t)

/-- Runs an exchange to its end. -/
def run {α : Type} (t : Tables) : Exchange α → α × Tables
  | .done a => (a, t)
  | .send c resume => (t.answer c).2.run (resume (t.answer c).1)

/-! ### Attempts -/

section Attempts

variable {α β : Type} {t t' : Tables} {a : α}

theorem run_bind (t : Tables) (x : Exchange α) (f : α → Exchange β) :
    t.run (x >>= f) = (t.run x).2.run (f (t.run x).1) := by
  induction x generalizing t with
  | done a => rfl
  | send c resume ih => exact ih (t.answer c).1 (t.answer c).2

theorem run_bind_ok {x : Attempt α} (h : t.run x.run = (.ok a, t')) (f : α → Attempt β) :
    t.run (x >>= f).run = t'.run (f a).run := by
  rw [ExceptT.run_bind, run_bind, h]

theorem run_send {c : Command} {rows : List Row} (h : t.answer c = (.ok rows, t'))
    (context : String) : t.run (Attempt.send context c).run = (.ok rows, t') := by
  show (t.answer c).2.run (Attempt.ofOutcome context (t.answer c).1).run = _
  rw [h]
  rfl

theorem run_execute {s : Statement} {rows : List Row}
    (h : t.answer (.statement s) = (.ok rows, t')) :
    t.run (Attempt.execute s).run = (.ok (), t') :=
  run_bind_ok (run_send h s.context) _

theorem run_fetchAll {s : Statement} {rows : List Row} {read : Row → Except Cause α} {l : List α}
    (h : t.answer (.statement s) = (.ok rows, t')) (well : rows.mapM read = .ok l) :
    t.run (Attempt.fetchAll s read).run = (.ok l, t') := by
  refine (run_bind_ok (run_send h s.context) _).trans ?_
  rw [well]
  rfl

theorem run_fetchFirst? {s : Statement} {row : Row} {rest : List Row} {read : Row → Except Cause α}
    (h : t.answer (.statement s) = (.ok (row :: rest), t')) (well : read row = .ok a) :
    t.run (Attempt.fetchFirst? s read).run = (.ok (some a), t') := by
  refine (run_bind_ok (run_send h s.context) _).trans ?_
  rw [Database.head?_mapM, well]
  rfl

theorem run_tryCatch {x : Attempt α} (h : t.run x.run = (.ok a, t'))
    (recover : StoreError → Attempt α) : t.run (tryCatch x recover).run = (.ok a, t') := by
  refine (run_bind t x.run _).trans ?_
  rw [h]
  rfl

theorem run_transaction {body : Attempt α} (h : t.run body.run = (.ok a, t')) (ending : String) :
    t.run (Attempt.transaction ending body).run = (.ok a, t') := by
  refine run_tryCatch ?_ _
  rw [run_bind_ok (run_send rfl _), run_bind_ok h, run_bind_ok (run_send rfl _)]
  rfl

end Attempts

/-! ### Creating -/

variable {t : Tables} {pr : PullRequest}

/-- The tables after a pull request was written to them. -/
def add (t : Tables) (pr : PullRequest) : Tables where
  pullRequests := (Statement.insertPullRequest pr).row :: t.pullRequests
  places := ((Database.placements pr.id 0 pr.reviewers).map Statement.row).reverse ++ t.places

theorem run_insertReviewers (t : Tables) (id : PullRequestId) (position : Nat)
    (roster : List Reviewer) :
    t.run (Database.insertReviewers id position roster).run =
      (.ok (), { t with places :=
        ((Database.placements id position roster).map Statement.row).reverse ++ t.places }) := by
  induction roster generalizing t position with
  | nil => rfl
  | cons r roster ih =>
    unfold Database.insertReviewers
    rw [run_bind_ok (run_execute rfl), ih, Database.placements_cons]
    simp

theorem run_createPullRequest (t : Tables) (pr : PullRequest) :
    t.run (Database.createPullRequest pr).run = (.ok (), t.add pr) := by
  refine run_transaction ?_ _
  rw [run_bind_ok (run_execute rfl), run_insertReviewers]
  rfl

/-! ### Finding -/

theorem named_add (t : Tables) (pr : PullRequest) :
    (t.add pr).named pr.id = (Statement.insertPullRequest pr).row :: t.named pr.id :=
  List.filter_cons_of_pos (decide_eq_true rfl)

theorem readPullRequest_row (whole : pr.Whole) :
    readPullRequest (Statement.insertPullRequest pr).row = .ok { pr with reviewers := [] } := by
  have created : pr.createdAt.Whole := whole _ pr.createdAt_mem
  have row : (Statement.insertPullRequest pr).row = [.text pr.id.value, .text pr.title,
      .text pr.author.value, .text pr.status.label, .instant (kept pr.createdAt).toMicrosecond,
      (Statement.instantOrNull pr.mergedAt).cut] := rfl
  have merged : readNullable (readInstant (.named "merged_at"))
      (Statement.instantOrNull pr.mergedAt).cut = .ok pr.mergedAt := by
    rcases at_time : pr.mergedAt with _ | t
    · rfl
    · have later : t.Whole := whole t (PullRequest.mem_instants.2 (.inr (.inr at_time)))
      show Except.ok (some (kept t).toMicrosecond) = _
      rw [later.kept_eq, later.toMicrosecond_eq]
  rw [row, created.kept_eq, created.toMicrosecond_eq]
  -- The other columns are read by computation alone.
  show (do
    let status ← readStatus (.named "status") (.text pr.status.label)
    let mergedAt ← readNullable (readInstant (.named "merged_at"))
      (Statement.instantOrNull pr.mergedAt).cut
    return { pr with status, reviewers := [], mergedAt }) = _
  rw [Database.readStatus_eq_ok_iff.2 rfl, merged]
  rfl

theorem readReviewer_row {r : Reviewer} (whole : r.assignedAt.Whole) (id : PullRequestId)
    (position : Nat) :
    readReviewer (placeColumns (Statement.insertReviewer id position r).row) = .ok (id, r) := by
  show readReviewer [.text id.value, .text r.user.value,
    .instant (kept r.assignedAt).toMicrosecond] = _
  rw [whole.kept_eq, whole.toMicrosecond_eq]
  rfl

theorem placeKey_row {position : Nat} (short : position < 32768) (id : PullRequestId)
    (r : Reviewer) : placeKey (Statement.insertReviewer id position r).row =
      toLex (id.value, (position : Int)) := by
  have row : (Statement.insertReviewer id position r).row = [.text id.value, .text r.user.value,
    (Statement.place position).cut, .instant (kept r.assignedAt).toMicrosecond] := rfl
  rw [placeKey, row, Database.place_eq short]
  rfl

/-- Sorting brings back the one order that ascends. -/
theorem mergeSort_of_ascending {α β : Type} [LinearOrder β] {key : α → β} {l shuffled : List α}
    (ascending : l.Pairwise fun a b => key a < key b) (perm : shuffled.Perm l) :
    (shuffled.mergeSort fun a b => key a ≤ key b) = l := by
  have sorted : (shuffled.mergeSort fun a b => key a ≤ key b).Pairwise
      fun a b => decide (key a ≤ key b) = true :=
    List.pairwise_mergeSort (by simpa using fun a b c => le_trans)
      (by simpa using fun a b => le_total _ _) shuffled
  -- No two members have the same key, so the keys tell every place.
  have keys : (l.map key).Nodup := List.pairwise_map.2 (ascending.imp ne_of_lt)
  have perm := (shuffled.mergeSort_perm fun a b => key a ≤ key b).trans perm
  refine perm.eq_of_pairwise ?_ sorted (ascending.imp fun lt => decide_eq_true lt.le)
  intro a b listed listed' le ge
  exact List.inj_on_of_nodup_map keys (perm.subset listed) listed'
    (le_antisymm (of_decide_eq_true le) (of_decide_eq_true ge))

/-- The positions on a roster ascend. -/
theorem placements_ascending {roster : List Reviewer} (short : roster.length ≤ 32768)
    (id : PullRequestId) : ((Database.placements id 0 roster).map Statement.row).Pairwise
      fun a b => placeKey a < placeKey b := by
  rw [List.pairwise_iff_getElem]
  intro i j i_lt j_lt lt
  simp only [Database.placements, List.length_map, List.length_zipIdx] at i_lt j_lt
  simp only [Database.placements, List.getElem_map, List.getElem_zipIdx, Nat.zero_add]
  rw [placeKey_row (by omega), placeKey_row (by omega)]
  exact Prod.Lex.toLex_lt_toLex.2 (.inr ⟨rfl, Int.ofNat_lt.2 lt⟩)

theorem placesOf_add (short : pr.reviewers.length ≤ 32768)
    (fresh : ∀ row ∈ t.places, row.get 0 ≠ .text pr.id.value) :
    (t.add pr).placesOf [pr.id] =
      (Database.placements pr.id 0 pr.reviewers).map Statement.row := by
  -- The last place was written last and comes first, and the older rows are of other pull requests.
  have listed : ((t.add pr).places.filter fun row =>
      row.get 0 ∈ [pr.id].map fun id => Value.text id.value) =
        ((Database.placements pr.id 0 pr.reviewers).map Statement.row).reverse := by
    unfold add
    dsimp only
    rw [List.filter_append, List.filter_eq_self.2, List.filter_eq_nil_iff.2, List.append_nil]
    · intro row there
      simpa using fresh row there
    · intro row there
      obtain ⟨s, placed, rfl⟩ := List.mem_map.1 (List.mem_reverse.1 there)
      obtain ⟨place, -, rfl⟩ := List.mem_map.1 placed
      exact decide_eq_true (List.mem_singleton_self _)
  unfold placesOf
  rw [listed]
  exact mergeSort_of_ascending (placements_ascending short pr.id) (List.reverse_perm _)

theorem mapM_map_ok {α β : Type} {read : Row → Except Cause β} {write : α → Row} {meant : α → β}
    {l : List α} (well : ∀ a ∈ l, read (write a) = .ok (meant a)) :
    (l.map write).mapM read = .ok (l.map meant) := by
  induction l with
  | nil => rfl
  | cons a l ih =>
    rw [List.map_cons, List.mapM_cons, well a List.mem_cons_self,
      ih fun b later => well b (List.mem_cons_of_mem _ later)]
    rfl

/-- What is read of the places on a roster, in order. -/
theorem mapM_readReviewer (whole : pr.Whole) (short : pr.reviewers.length ≤ 32768)
    (fresh : ∀ row ∈ t.places, row.get 0 ≠ .text pr.id.value) :
    (((t.add pr).placesOf [pr.id]).map placeColumns).mapM readReviewer =
      .ok (pr.reviewers.map fun r => (pr.id, r)) := by
  have well : ∀ place ∈ pr.reviewers.zipIdx,
      readReviewer (placeColumns (Statement.insertReviewer pr.id place.2 place.1).row) =
        .ok (pr.id, place.1) := by
    intro place listed
    have on_roster : place.1 ∈ pr.reviewers := List.fst_mem_of_mem_zipIdx listed
    exact readReviewer_row (whole _ (PullRequest.assignedAt_mem on_roster)) pr.id place.2
  have in_order : pr.reviewers.zipIdx.map (fun place => (pr.id, place.1)) =
      pr.reviewers.map fun r => (pr.id, r) := by
    conv_rhs => rw [← List.zipIdx_map_fst 0 pr.reviewers, List.map_map]
    rfl
  rw [placesOf_add short fresh, Database.placements, List.map_map, List.map_map, ← in_order]
  exact mapM_map_ok well

theorem rosterOf_same (id : PullRequestId) (roster : List Reviewer) :
    Rosters.rosterOf id (roster.map fun r => (id, r)) = roster := by
  unfold Rosters.rosterOf
  rw [List.filter_eq_self.2 (by simp), List.map_map]
  exact List.map_id roster

theorem run_findPullRequest (whole : pr.Whole) (short : pr.reviewers.length ≤ 32768)
    (fresh : ∀ row ∈ t.places, row.get 0 ≠ .text pr.id.value) :
    (t.add pr).run (Database.findPullRequest pr.id).run = (.ok (some pr), t.add pr) := by
  refine run_transaction ?_ _
  rw [run_bind_ok (run_send rfl _)]
  have found : (t.add pr).answer (.statement (.findPullRequest pr.id)) =
      (.ok ((Statement.insertPullRequest pr).row :: t.named pr.id), t.add pr) := by
    rw [← named_add]
    rfl
  rw [run_bind_ok (run_fetchFirst? found (readPullRequest_row whole))]
  dsimp only
  have rosters : (t.add pr).run (Database.loadRosters [{ pr with reviewers := [] }]).run =
      (.ok [pr], t.add pr) := by
    refine (run_bind_ok (run_fetchAll rfl (mapM_readReviewer whole short fresh)) _).trans ?_
    show (Except.ok [{ pr with reviewers := (Rosters.ofPlaces _).value pr.id }], t.add pr) = _
    rw [Rosters.value_ofPlaces, rosterOf_same]
  rw [run_bind_ok rosters]
  rfl

/-- Whatever a pull request went through since it was made and however the clock went, all its
times are whole microseconds. Where it is created in tables that keep no place of its id, it is
found as it is, to the last microsecond and with its roster in the same order. -/
theorem any_history_is_found {start : Instant} {id : PullRequestId} {title : String}
    {author : UserId} {users : List UserId}
    (made : PullRequest.new start id title author users = .ok pr) (changes : List Change)
    (t : Tables) (fresh : ∀ row ∈ t.places, row.get 0 ≠ .text id.value) :
    (∀ time ∈ (pr.changeAll changes).instants, time.Whole) ∧
    ∃ after, t.run (Database.createPullRequest (pr.changeAll changes)).run = (.ok (), after) ∧
      after.run (Database.findPullRequest id).run = (.ok (some (pr.changeAll changes)), after) := by
  have whole : (pr.changeAll changes).Whole :=
    PullRequest.changeAll_keeps PullRequest.Step.whole (PullRequest.whole_of_new made) changes
  have sound : (pr.changeAll changes).Sound :=
    PullRequest.changeAll_keeps PullRequest.Step.sound (PullRequest.sound_of_new made) changes
  have opened : PullRequest.SameOpening pr (pr.changeAll changes) :=
    PullRequest.changeAll_keeps PullRequest.Step.sameOpening (.refl pr) changes
  have same_id : (pr.changeAll changes).id = id := by
    rw [opened.id, PullRequest.new_ok made]
  have short : (pr.changeAll changes).reviewers.length ≤ 32768 :=
    Nat.le_trans sound.short (by decide)
  refine ⟨whole, _, run_createPullRequest t _, ?_⟩
  rw [← same_id] at fresh ⊢
  exact run_findPullRequest whole short fresh

/-- Tables that keep a place of another pull request. -/
def othersKept : Tables where
  pullRequests := []
  places := [[.text "q", .text "eve", .integer 0, .instant ⟨4000⟩]]

/-- The clock never shows a whole microsecond, and once it goes back. -/
def hurriedHistory : List Change :=
  [.assign ⟨6001⟩ ⟨"cid"⟩, .reassign ⟨-1⟩ ⟨"bea"⟩ ⟨"dan"⟩, .merge ⟨7999⟩]

theorem hurriedHistory_is_found :
    PullRequest.new ⟨5999⟩ ⟨"p"⟩ "a change" ⟨"ann"⟩ [⟨"bea"⟩] = .ok PullRequest.firstDraft ∧
    (∀ row ∈ othersKept.places, row.get 0 ≠ .text "p") ∧
    ∃ last : PullRequest, last = PullRequest.firstDraft.changeAll hurriedHistory ∧
      last.reviewers = [⟨⟨"dan"⟩, ⟨7000⟩⟩, ⟨⟨"cid"⟩, ⟨6000⟩⟩] ∧ last.mergedAt = some ⟨8000⟩ ∧
      ∃ after : Tables, othersKept.run (Database.createPullRequest last).run = (.ok (), after) ∧
        after.run (Database.findPullRequest ⟨"p"⟩).run = (.ok (some last), after) := by
  have made : PullRequest.new ⟨5999⟩ ⟨"p"⟩ "a change" ⟨"ann"⟩ [⟨"bea"⟩] =
    .ok PullRequest.firstDraft := rfl
  have fresh : ∀ row ∈ othersKept.places, row.get 0 ≠ .text "p" := by decide
  obtain ⟨-, after, created, found⟩ := any_history_is_found made hurriedHistory othersKept fresh
  exact ⟨made, fresh, _, rfl, rfl, rfl, after, created, found⟩

end Tables

end Sql

end ReviewDesk
