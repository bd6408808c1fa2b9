-- The store next to a plain table of pull requests. An update of a row changes its status, its
-- merge time and its roster, and the store writes over all of it. So the two answer alike about
-- these three, and alike about everything exactly as long as no update brings another title,
-- author or time.
import ReviewDesk.Proofs.Changes
import ReviewDesk.Proofs.Tally

namespace ReviewDesk

open PullRequest

/-! ## Writes -/

/-- What can be written: a pull request that is new, or one that is there. -/
inductive Write where
  | create (pr : PullRequest)
  | update (pr : PullRequest)

namespace PullRequest

/-- The pull request with the status, the merge time and the roster of another. -/
def movedTo (pr next : PullRequest) : PullRequest :=
  { pr with status := next.status, mergedAt := next.mergedAt, reviewers := next.reviewers }

theorem movedTo_eq_iff {row pr : PullRequest} (same : row.id = pr.id) :
    pr = row.movedTo pr ↔ SameOpening row pr := by
  constructor
  · intro whole
    rw [whole]
    exact ⟨rfl, rfl, rfl, rfl⟩
  · rintro ⟨-, title, author, createdAt⟩
    unfold movedTo
    rw [same, ← title, ← author, ← createdAt]

/-- The pull request without its title, its author and the time it was made at. -/
def outline (pr : PullRequest) : PullRequest :=
  { pr with title := "", author := ⟨""⟩, createdAt := ⟨0⟩ }

end PullRequest

/-- A table of pull requests. Its rows stand as they were inserted. -/
structure Sheet where
  rows : List PullRequest

namespace Sheet

def find? (t : Sheet) (id : PullRequestId) : Option PullRequest := t.rows.find? (·.id = id)

/-- Rows in ascending order of their ids. -/
def ordered (rows : List PullRequest) : List PullRequest :=
  rows.mergeSort fun a b => (compare a.id b.id).isLE

def all (t : Sheet) : List PullRequest := ordered t.rows

def reviewedBy (t : Sheet) (user : UserId) : List PullRequest :=
  ordered (t.rows.filter (·.hasReviewer user))

/-- Inserts a row at the end. -/
def insert (t : Sheet) (pr : PullRequest) : Sheet := ⟨t.rows ++ [pr]⟩

/-- Changes the row of a pull request. It keeps what it was opened with. -/
def move (t : Sheet) (pr : PullRequest) : Sheet :=
  ⟨t.rows.map fun row => if row.id = pr.id then row.movedTo pr else row⟩

/-- The outcome of a write. A new row needs a free id, and a merged one stays as it is. -/
def write (t : Sheet) : Write → Except ErrorKind Unit × Sheet
  | .create pr =>
    match t.find? pr.id with
    | none => (.ok (), t.insert pr)
    | some _ => (.error .conflict, t)
  | .update pr =>
    match t.find? pr.id with
    | none => (.error .notFound, t)
    | some row => if row.isMerged then (.error .conflict, t) else (.ok (), t.move pr)

def writeAll (t : Sheet) (writes : List Write) : Sheet :=
  writes.foldl (fun t w => (t.write w).2) t

theorem writeAll_concat (t : Sheet) (writes : List Write) (w : Write) :
    t.writeAll (writes ++ [w]) = ((t.writeAll writes).write w).2 := by
  unfold writeAll
  rw [List.foldl_concat]

/-! ### Rows -/

variable {t : Sheet} {pr row : PullRequest} {id : PullRequestId}

/-- No two rows have the same id. -/
def Distinct (t : Sheet) : Prop := (t.rows.map PullRequest.id).Nodup

theorem id_of_find? (found : t.find? id = some row) : row.id = id := by
  have same := List.find?_some found
  exact of_decide_eq_true same

theorem find?_eq_some_iff (distinct : t.Distinct) :
    t.find? id = some row ↔ row ∈ t.rows ∧ row.id = id := by
  constructor
  · intro found
    exact ⟨List.mem_of_find?_eq_some found, id_of_find? found⟩
  · rintro ⟨listed, rfl⟩
    rcases found : t.find? row.id with _ | other
    · exact absurd (decide_eq_true rfl) (List.find?_eq_none.1 found row listed)
    · have stands : other ∈ t.rows := List.mem_of_find?_eq_some found
      rw [List.inj_on_of_nodup_map distinct stands listed (id_of_find? found)]

theorem find?_insert (free : t.find? pr.id = none) (id : PullRequestId) :
    (t.insert pr).find? id = if pr.id = id then some pr else t.find? id := by
  unfold insert find? at *
  rw [List.find?_append]
  by_cases here : pr.id = id
  · subst here
    rw [free]
    simp
  · simp [here]

theorem find?_move (t : Sheet) (pr : PullRequest) (id : PullRequestId) :
    (t.move pr).find? id =
      if pr.id = id then (t.find? id).map (·.movedTo pr) else t.find? id := by
  have keeps : ∀ row : PullRequest,
      (if row.id = pr.id then row.movedTo pr else row).id = row.id := by
    intro row
    split <;> rfl
  have moved : (t.move pr).find? id =
      (t.find? id).map fun row => if row.id = pr.id then row.movedTo pr else row := by
    unfold move find?
    rw [List.find?_map]
    simp only [Function.comp_def, keeps]
  rw [moved]
  rcases found : t.find? id with _ | row
  · simp
  · cases id_of_find? found
    by_cases here : row.id = pr.id
    · simp [here]
    · simp [here, Ne.symm here]

theorem Distinct.insert (distinct : t.Distinct) (free : t.find? pr.id = none) :
    (t.insert pr).Distinct := by
  unfold Distinct Sheet.insert at *
  rw [List.map_append, List.nodup_append]
  refine ⟨distinct, List.nodup_singleton _, ?_⟩
  intro id listed other new
  obtain ⟨row, stands, rfl⟩ := List.mem_map.1 listed
  cases List.mem_singleton.1 new
  intro same
  exact List.find?_eq_none.1 free row stands (decide_eq_true same)

theorem Distinct.move (distinct : t.Distinct) (pr : PullRequest) : (t.move pr).Distinct := by
  have keeps : (t.move pr).rows.map PullRequest.id = t.rows.map PullRequest.id := by
    unfold Sheet.move
    rw [List.map_map]
    refine List.map_congr_left fun row _ => ?_
    simp only [Function.comp_apply]
    split <;> rfl
  unfold Distinct
  rw [keeps]
  exact distinct

theorem Distinct.write (distinct : t.Distinct) (w : Write) : (t.write w).2.Distinct := by
  cases w with
  | create pr =>
    simp only [Sheet.write]
    split
    · exact distinct.insert ‹_›
    · exact distinct
  | update pr =>
    simp only [Sheet.write]
    split
    · exact distinct
    · split
      · exact distinct
      · exact distinct.move pr

theorem perm_ordered (rows : List PullRequest) : (ordered rows).Perm rows :=
  List.mergeSort_perm _ _

/-- Where no two rows have the same id, sorted rows ascend. -/
theorem ordered_ascending {rows : List PullRequest} (distinct : (rows.map PullRequest.id).Nodup) :
    (ordered rows).Pairwise fun a b => compare a.id b.id = .lt := by
  have sorted : (ordered rows).Pairwise fun a b => (compare a.id b.id).isLE = true := by
    refine List.pairwise_mergeSort ?_ ?_ rows
    · intro a b c le le'
      exact Std.TransCmp.isLE_trans le le'
    · intro a b
      have swapped : compare b.id a.id = (compare a.id b.id).swap := Std.OrientedCmp.eq_swap
      rw [swapped]
      cases compare a.id b.id <;> rfl
  have differ : (ordered rows).Pairwise fun a b => a.id ≠ b.id :=
    List.pairwise_map.1 (((perm_ordered rows).map _).nodup_iff.2 distinct)
  refine (sorted.and differ).imp fun {a b} both => ?_
  rcases order : compare a.id b.id with _ | _ | _
  · rfl
  · exact absurd (Std.LawfulEqOrd.eq_of_compare order) both.2
  · rw [order] at both
    cases both.1

end Sheet

/-! ## Aspects -/

/-- What is seen of a pull request: its outline at least. Two that look the same still do after
the same update. -/
structure Aspect where
  see : PullRequest → PullRequest
  outline : ∀ pr, (see pr).outline = pr.outline
  moved : ∀ {a b} pr, see a = see b → see (a.movedTo pr) = see (b.movedTo pr)

namespace Aspect

/-- All that a pull request holds. -/
def whole : Aspect where
  see pr := pr
  outline _ := rfl
  moved pr same := congrArg (·.movedTo pr) same

/-- What is left of a pull request in its outline. -/
def bare : Aspect where
  see := PullRequest.outline
  outline _ := rfl
  moved {a b} pr same := by
    have moved := congrArg (fun bare : PullRequest => (bare.movedTo pr).outline) same
    exact moved

variable (v : Aspect)

theorem id_see (pr : PullRequest) : (v.see pr).id = pr.id := by
  have same := congrArg PullRequest.id (v.outline pr)
  exact same

theorem hasReviewer_see (user : UserId) (pr : PullRequest) :
    (v.see pr).hasReviewer user = pr.hasReviewer user := by
  have same := congrArg (·.hasReviewer user) (v.outline pr)
  exact same

theorem isMerged_see (pr : PullRequest) : (v.see pr).isMerged = pr.isMerged := by
  have same := congrArg PullRequest.isMerged (v.outline pr)
  exact same

end Aspect

namespace Store

/-- A table with the pull requests of the store. -/
def sheet (s : Store) : Sheet := ⟨s.pullRequests.entries⟩

def write (s : Store) : Write → Except StoreError Unit × Store
  | .create pr => s.answer (.createPullRequest pr)
  | .update pr => s.answer (.updatePullRequest pr)

def writeAll (s : Store) (writes : List Write) : Store :=
  writes.foldl (fun s w => (s.write w).2) s

theorem writeAll_concat (s : Store) (writes : List Write) (w : Write) :
    s.writeAll (writes ++ [w]) = ((s.writeAll writes).write w).2 := by
  unfold writeAll
  rw [List.foldl_concat]

/-- Whatever the store and the table are asked for, their answers look the same. -/
structure Agrees (v : Aspect) (s : Store) (t : Sheet) : Prop where
  find : ∀ id, (s.answer (.findPullRequest id)).1.map (Option.map v.see) =
    .ok ((t.find? id).map v.see)
  all : (s.answer .findAllPullRequests).1.map (List.map v.see) = .ok (t.all.map v.see)
  reviewedBy : ∀ user, (s.answer (.findPullRequestsByReviewer user)).1.map (List.map v.see) =
    .ok ((t.reviewedBy user).map v.see)

/-- Under every id stands the same in the store and in the table, as far as it is seen. -/
structure Meets (v : Aspect) (s : Store) (t : Sheet) : Prop where
  distinct : t.Distinct
  same : ∀ id, (s.pullRequests.get? id).map v.see = (t.find? id).map v.see

variable {v : Aspect} {s : Store} {t : Sheet} {pr : PullRequest}

theorem meets_sheet (v : Aspect) (s : Store) : Meets v s s.sheet :=
  ⟨s.pullRequests.nodup_keys, fun _ => rfl⟩

/-! ### Answers -/

theorem Meets.members (h : Meets v s t) (shown : PullRequest) :
    shown ∈ s.pullRequests.entries.map v.see ↔ shown ∈ t.rows.map v.see := by
  have stored : shown ∈ s.pullRequests.entries.map v.see ↔
      (s.pullRequests.get? shown.id).map v.see = some shown := by
    rw [List.mem_map, Option.map_eq_some_iff]
    refine exists_congr fun pr => and_congr_left fun same => ?_
    rw [Register.get?_eq_some_iff, ← same, v.id_see]
    simp
  have tabled : shown ∈ t.rows.map v.see ↔ (t.find? shown.id).map v.see = some shown := by
    rw [List.mem_map, Option.map_eq_some_iff]
    refine exists_congr fun row => and_congr_left fun same => ?_
    rw [Sheet.find?_eq_some_iff h.distinct, ← same, v.id_see]
    simp
  rw [stored, tabled, h.same]

/-- The same is picked from the store and from the table, if it is picked by what is seen. -/
theorem Meets.picked (h : Meets v s t) {p : PullRequest → Bool} (seen : ∀ pr, p (v.see pr) = p pr) :
    (s.pullRequests.entries.filter p).map v.see = (Sheet.ordered (t.rows.filter p)).map v.see := by
  have filtered : ∀ l : List PullRequest, (l.filter p).map v.see = (l.map v.see).filter p := by
    intro l
    rw [List.filter_map]
    exact congrArg (List.map v.see) (List.filter_congr fun pr _ => (seen pr).symm)
  have ascending : ((s.pullRequests.entries.filter p).map v.see).Pairwise
      fun a b => compare a.id b.id = .lt := by
    rw [List.pairwise_map]
    simp only [v.id_see]
    exact s.pullRequests.sorted.sublist List.filter_sublist
  have ascending' : ((Sheet.ordered (t.rows.filter p)).map v.see).Pairwise
      fun a b => compare a.id b.id = .lt := by
    rw [List.pairwise_map]
    simp only [v.id_see]
    exact Sheet.ordered_ascending (h.distinct.sublist (List.filter_sublist.map _))
  apply Register.eq_of_ascending ascending ascending'
  intro shown
  rw [((Sheet.perm_ordered _).map v.see).mem_iff, filtered, filtered, List.mem_filter,
    List.mem_filter, h.members]

theorem Meets.agrees (h : Meets v s t) : Agrees v s t where
  find id := congrArg Except.ok (h.same id)
  all := by
    have every := h.picked (p := fun _ => true) fun _ => rfl
    rw [List.filter_true, List.filter_true] at every
    exact congrArg Except.ok every
  reviewedBy user := congrArg Except.ok (h.picked (v.hasReviewer_see user))

theorem Agrees.same (h : Agrees v s t) (id : PullRequestId) :
    (s.pullRequests.get? id).map v.see = (t.find? id).map v.see := Except.ok.inj (h.find id)

theorem Meets.free (h : Meets v s t) {id : PullRequestId} :
    s.pullRequests.get? id = none ↔ t.find? id = none := by
  rw [← Option.map_eq_none_iff (f := v.see), h.same, Option.map_eq_none_iff]

theorem Meets.found (h : Meets v s t) {id : PullRequestId}
    (stands : s.pullRequests.get? id = some pr) :
    ∃ row, t.find? id = some row ∧ v.see row = v.see pr ∧ row.isMerged = pr.isMerged := by
  have same := h.same id
  rw [stands] at same
  obtain ⟨row, found, looks⟩ := Option.map_eq_some_iff.1 same.symm
  refine ⟨row, found, looks, ?_⟩
  rw [← v.isMerged_see row, looks, v.isMerged_see]

/-! ### One write -/

/-- An update of an open pull request shows nothing new but a status, a merge time and a roster. -/
def Spares (v : Aspect) (s : Store) : Write → Prop
  | .create _ => True
  | .update pr => ∀ row, s.pullRequests.get? pr.id = some row → row.isMerged = false →
      v.see pr = v.see (row.movedTo pr)

theorem spares_bare (s : Store) (w : Write) : Spares .bare s w := by
  cases w with
  | create => trivial
  | update pr =>
    intro row stands _
    have key : row.id = pr.id := Register.key_of_get? stands
    unfold Aspect.bare outline movedTo
    dsimp only
    rw [key]

/-- The two refuse the same writes, for reasons of the same kind. -/
theorem Meets.reply (h : Meets v s t) (w : Write) :
    (s.write w).1.mapError StoreError.kind = (t.write w).1 := by
  cases w with
  | create pr =>
    simp only [write, Sheet.write, answer_create]
    rcases stands : s.pullRequests.get? pr.id with _ | found
    · rw [create_of_free stands, h.free.1 stands]
      rfl
    · obtain ⟨row, found, -⟩ := h.found stands
      rw [create_of_taken stands, found]
      rfl
  | update pr =>
    simp only [write, Sheet.write, answer_update]
    rcases stands : s.pullRequests.get? pr.id with _ | found
    · rw [update_of_missing stands, h.free.1 stands]
      rfl
    · obtain ⟨row, listed, -, alike⟩ := h.found stands
      rcases merged : found.isMerged with _ | _
      · rw [update_of_open stands merged, listed]
        simp only [alike, merged, Bool.false_eq_true, if_false]
        rfl
      · rw [update_of_merged stands merged, listed]
        simp only [alike, merged, if_true]
        rfl

theorem Meets.write (h : Meets v s t) {w : Write} (spares : Spares v s w) :
    Meets v (s.write w).2 (t.write w).2 := by
  refine ⟨h.distinct.write w, fun id => ?_⟩
  cases w with
  | create pr =>
    simp only [Store.write, Sheet.write, answer_create]
    rcases stands : s.pullRequests.get? pr.id with _ | found
    · have free := h.free.1 stands
      rw [create_of_free stands, free]
      simp only [afterWrite]
      rw [Register.get?_put, Sheet.find?_insert free]
      by_cases here : pr.id = id
      · simp [here]
      · simpa [here] using h.same id
    · obtain ⟨row, found, -⟩ := h.found stands
      rw [create_of_taken stands, found]
      exact h.same id
  | update pr =>
    simp only [Store.write, Sheet.write, answer_update]
    rcases stands : s.pullRequests.get? pr.id with _ | found
    · rw [update_of_missing stands, h.free.1 stands]
      exact h.same id
    · obtain ⟨row, listed, looks, alike⟩ := h.found stands
      rcases merged : found.isMerged with _ | _
      · rw [update_of_open stands merged, listed]
        simp only [alike, merged, Bool.false_eq_true, if_false, afterWrite]
        rw [Register.get?_put, Sheet.find?_move]
        by_cases here : pr.id = id
        · subst here
          rw [if_pos rfl, if_pos rfl, listed, Option.map_some, Option.map_some, Option.map_some,
            spares found stands merged, v.moved pr looks]
        · simpa [here] using h.same id
      · rw [update_of_merged stands merged, listed]
        simp only [alike, merged, if_true]
        exact h.same id

/-! ### Any number of writes -/

theorem meets_writeAll (v : Aspect) (s : Store) (writes : List Write)
    (spares : ∀ before w after, writes = before ++ w :: after → Spares v (s.writeAll before) w) :
    Meets v (s.writeAll writes) (s.sheet.writeAll writes) := by
  induction writes using List.reverseRecOn with
  | nil => exact meets_sheet v s
  | append_singleton writes w ih =>
    rw [writeAll_concat, Sheet.writeAll_concat]
    refine (ih ?_).write (spares writes w [] rfl)
    rintro before u after rfl
    exact spares before u (after ++ [w]) (by simp)

theorem meets_bare (s : Store) (writes : List Write) :
    Meets .bare (s.writeAll writes) (s.sheet.writeAll writes) :=
  meets_writeAll .bare s writes fun _ w _ _ => spares_bare _ w

/-- Whatever is written, the store refuses what the table refuses, and is asked for anything it
shows what the table shows, but for titles, authors and the times of creation. It shows all that
the table shows, after each of the writes, exactly if every update of an open pull request brings
the title, the author and the time that are stored. -/
theorem answers_agree_iff (s : Store) (writes : List Write) :
    (∀ before w after, writes = before ++ w :: after →
      ((s.writeAll before).write w).1.mapError StoreError.kind =
        ((s.sheet.writeAll before).write w).1) ∧
    (∀ before after, writes = before ++ after →
      Agrees .bare (s.writeAll before) (s.sheet.writeAll before)) ∧
    ((∀ before after, writes = before ++ after →
        Agrees .whole (s.writeAll before) (s.sheet.writeAll before)) ↔
      ∀ before pr after, writes = before ++ .update pr :: after →
        ∀ row, (s.writeAll before).pullRequests.get? pr.id = some row → row.isMerged = false →
          SameOpening row pr) := by
  refine ⟨fun before w after _ => (meets_bare s before).reply w,
    fun before after _ => (meets_bare s before).agrees, ?_, ?_⟩
  · intro agrees before pr after split row stands opened
    have now := (agrees before (.update pr :: after) split).same pr.id
    have next := (agrees (before ++ [.update pr]) after (by simp [split])).same pr.id
    have key : row.id = pr.id := Register.key_of_get? stands
    -- What stands there after the update is what was written, and the row that was moved.
    rw [stands] at now
    obtain ⟨listed, found, same⟩ := Option.map_eq_some_iff.1 now.symm
    cases same
    rw [writeAll_concat, Sheet.writeAll_concat] at next
    simp only [write, answer_update, Sheet.write, update_of_open stands opened, found] at next
    simp only [Aspect.whole] at next opened found
    simp only [opened, Bool.false_eq_true, if_false, afterWrite, Register.get?_put_self,
      Sheet.find?_move, if_true, found, Option.map_some] at next
    exact (movedTo_eq_iff key).1 (Option.some.inj next)
  · rintro opening before after rfl
    refine (meets_writeAll .whole s before ?_).agrees
    rintro earlier w later rfl
    cases w with
    | create => trivial
    | update pr =>
      intro row stands opened
      have key : row.id = pr.id := Register.key_of_get? stands
      exact (movedTo_eq_iff key).2 (opening earlier pr (later ++ after) (by simp) row stands opened)

/-- A roster is changed and the pull request is merged. A new title comes too late. -/
def calmWrites : List Write :=
  [.create Sample.pr,
    .update { Sample.pr with reviewers := [⟨⟨"dan"⟩, ⟨7000⟩⟩] },
    .update { Sample.pr with status := .merged, mergedAt := some ⟨8000⟩ },
    .update { Sample.pr with title := "another change" },
    .create Sample.pr]

theorem calmWrites_agree :
    ((empty.writeAll calmWrites).answer (.findPullRequest ⟨"p"⟩)).1 =
      .ok (some { Sample.pr with status := .merged, mergedAt := some ⟨8000⟩ }) ∧
    Agrees .whole (empty.writeAll calmWrites) (empty.sheet.writeAll calmWrites) := by
  refine ⟨rfl, (answers_agree_iff empty calmWrites).2.2.2 ?_ calmWrites [] (by simp)⟩
  intro before pr after split row stands opened
  obtain _ | ⟨_, _ | ⟨_, _ | ⟨_, _ | ⟨_, _ | ⟨_, rest⟩⟩⟩⟩⟩ := before
  case cons.cons.cons.cons.cons => simp [calmWrites] at split
  all_goals cases split
  all_goals cases stands
  · exact ⟨rfl, rfl, rfl, rfl⟩
  · exact ⟨rfl, rfl, rfl, rfl⟩
  · cases opened

/-- An update with another title is taken, and the store shows this title from then on. -/
theorem an_update_retitles :
    let retitled := { Sample.pr with title := "another change" }
    let writes := [.create Sample.pr, .update retitled]
    ((empty.writeAll writes).answer (.findPullRequest ⟨"p"⟩)).1 = .ok (some retitled) ∧
      (empty.sheet.writeAll writes).find? ⟨"p"⟩ = some Sample.pr ∧
      ¬ Agrees .whole (empty.writeAll writes) (empty.sheet.writeAll writes) := by
  refine ⟨rfl, rfl, ?_⟩
  intro agrees
  have same := Option.some.inj (agrees.same ⟨"p"⟩)
  exact absurd (congrArg PullRequest.title same) (by decide)

end Store

end ReviewDesk
