-- What the rows of a reply tell: a pull request each, or a place on a roster each. The places may
-- come in any order, and each pull request gets those with its id as they came.
import Mathlib.Data.List.Forall2
import ReviewDesk.Proofs.Groups
import ReviewDesk.Proofs.Writes

namespace ReviewDesk.Sql

/-! ## Columns -/

variable {column : Column} {value : Value} {row : Row}

theorem readText_eq_ok_iff {s : String} : readText column value = .ok s ↔ value = .text s := by
  cases value <;> simp [readText]

theorem readInstant_eq_ok_iff {t : Instant} :
    readInstant column value = .ok t ↔ value = .instant t := by
  cases value <;> simp [readInstant]

/-- A time that may be missing, as a value. -/
def Value.ofInstant? (t : Option Instant) : Value := (t.map .instant).getD .null

theorem readNullable_instant_eq_ok_iff {t : Option Instant} :
    readNullable (readInstant column) value = .ok t ↔ value = .ofInstant? t := by
  cases value <;> cases t <;> simp [readNullable, readInstant, Value.ofInstant?, Except.map]

theorem bind_eq_ok_iff {α β : Type} {x : Except Cause α} {f : α → Except Cause β} {b : β} :
    (x >>= f) = .ok b ↔ ∃ a, x = .ok a ∧ f a = .ok b := by
  cases x <;> simp [bind, Except.bind]

/-! ## Rows -/

/-- A row tells a pull request, all but its roster. -/
structure TellsPullRequest (row : Row) (pr : PullRequest) : Prop where
  id : row.get 0 = .text pr.id.value
  title : row.get 1 = .text pr.title
  author : row.get 2 = .text pr.author.value
  status : row.get 3 = .text pr.status.label
  createdAt : row.get 4 = .instant pr.createdAt
  mergedAt : row.get 5 = .ofInstant? pr.mergedAt

/-- A row tells a place on the roster of a pull request. -/
structure TellsPlace (row : Row) (id : PullRequestId) (r : Reviewer) : Prop where
  id : row.get 0 = .text id.value
  user : row.get 1 = .text r.user.value
  assignedAt : row.get 2 = .instant r.assignedAt

theorem readPullRequest_eq_ok_iff {pr : PullRequest} :
    readPullRequest row = .ok pr ↔ TellsPullRequest row pr ∧ pr.reviewers = [] := by
  unfold readPullRequest
  simp only [bind_eq_ok_iff, readText_eq_ok_iff, readInstant_eq_ok_iff,
    Database.readStatus_eq_ok_iff, readNullable_instant_eq_ok_iff, pure, Except.pure]
  constructor
  · rintro ⟨id, h0, title, h1, author, h2, status, h3, createdAt, h4, mergedAt, h5, made⟩
    cases made
    exact ⟨⟨h0, h1, h2, h3, h4, h5⟩, rfl⟩
  · rintro ⟨⟨h0, h1, h2, h3, h4, h5⟩, bare⟩
    refine ⟨_, h0, _, h1, _, h2, _, h3, _, h4, _, h5, ?_⟩
    rw [← bare]

/-- A row tells nothing about the roster. -/
theorem TellsPullRequest.with_roster {pr : PullRequest} (h : TellsPullRequest row pr)
    (roster : List Reviewer) : TellsPullRequest row { pr with reviewers := roster } :=
  ⟨h.id, h.title, h.author, h.status, h.createdAt, h.mergedAt⟩

theorem exists_readPullRequest_iff :
    (∃ pr, readPullRequest row = .ok pr) ↔ ∃ pr, TellsPullRequest row pr := by
  simp only [readPullRequest_eq_ok_iff]
  constructor
  · rintro ⟨pr, told, -⟩
    exact ⟨pr, told⟩
  · rintro ⟨pr, told⟩
    exact ⟨_, told.with_roster [], rfl⟩

theorem readReviewer_eq_ok_iff {id : PullRequestId} {r : Reviewer} :
    readReviewer row = .ok (id, r) ↔ TellsPlace row id r := by
  unfold readReviewer
  simp only [bind_eq_ok_iff, readText_eq_ok_iff, readInstant_eq_ok_iff, pure, Except.pure]
  constructor
  · rintro ⟨id, h0, user, h1, assignedAt, h2, made⟩
    cases made
    exact ⟨h0, h1, h2⟩
  · rintro ⟨h0, h1, h2⟩
    exact ⟨_, h0, _, h1, _, h2, rfl⟩

/-- All rows are read, in their order, or one of them cannot be. -/
theorem mapM_eq_ok_iff {α : Type} {read : Row → Except Cause α} {rows : List Row} {l : List α} :
    rows.mapM read = .ok l ↔ List.Forall₂ (fun row a => read row = .ok a) rows l := by
  induction rows generalizing l with
  | nil => cases l <;> simp [pure, Except.pure]
  | cons row rows ih =>
    rw [List.mapM_cons, bind_eq_ok_iff]
    simp only [bind_eq_ok_iff, ih, pure, Except.pure]
    cases l with
    | nil => simp
    | cons b l =>
      rw [List.forall₂_cons]
      constructor
      · rintro ⟨a, first, rest, later, made⟩
        cases made
        exact ⟨first, later⟩
      · rintro ⟨first, later⟩
        exact ⟨b, first, l, later, rfl⟩

theorem mapM_singleton {α : Type} (read : Row → Except Cause α) (row : Row) :
    [row].mapM read = (read row).map ([·]) := by
  cases one : read row <;> simp [one, bind, Except.bind, pure, Except.pure, Except.map]

/-- Where rows cannot be read, one of them is to blame. -/
theorem exists_flawed_of_mapM {α : Type} {read : Row → Except Cause α} {rows : List Row}
    {cause : Cause} (failed : rows.mapM read = .error cause) :
    ¬ ∀ row ∈ rows, ∃ a, read row = .ok a := by
  intro well
  induction rows generalizing cause with
  | nil => cases failed
  | cons row rows ih =>
    obtain ⟨⟨a, first⟩, later⟩ := List.forall_mem_cons.1 well
    rw [List.mapM_cons, first] at failed
    rcases rest : rows.mapM read with cause' | l
    · exact ih rest later
    · simp [rest, bind, Except.bind, pure, Except.pure] at failed

/-! ## Rosters -/

namespace Rosters

/-- The places on the roster of one pull request, among those on many. -/
def rosterOf (id : PullRequestId) (places : List (PullRequestId × Reviewer)) : List Reviewer :=
  (places.filter (·.1 = id)).map Prod.snd

theorem foldl_concat {α : Type} (l m : List α) : l.foldl (fun m a => m ++ [a]) m = m ++ l := by
  induction l generalizing m with
  | nil => simp
  | cons a l ih => simp [ih]

/-- However the places come, those of one pull request make up its roster as they come. -/
theorem value_ofPlaces (places : List (PullRequestId × Reviewer)) (id : PullRequestId) :
    (ofPlaces places).value id = rosterOf id places := by
  have worked : ofPlaces places =
      Register.work (fun (r : Reviewer) roster => roster ++ [r]) .empty places := rfl
  rw [worked, Register.value_work, foldl_concat]
  rfl

theorem length_handOut (rosters : Rosters) (prs : List PullRequest) :
    (rosters.handOut prs).length = prs.length := by
  induction prs generalizing rosters with
  | nil => rfl
  | cons pr prs ih => simp [handOut, ih]

/-- Pull requests with ids of their own get their rosters, whatever was handed out before. -/
theorem handOut_of_nodup (rosters : Rosters) {prs : List PullRequest}
    (distinct : (prs.map PullRequest.id).Nodup) :
    rosters.handOut prs = prs.map fun pr => { pr with reviewers := rosters.value pr.id } := by
  induction prs generalizing rosters with
  | nil => rfl
  | cons pr prs ih =>
    obtain ⟨new, later⟩ := List.nodup_cons.1 distinct
    unfold handOut
    rw [ih _ later, List.map_cons]
    refine congrArg (_ :: ·) (List.map_congr_left fun other listed => ?_)
    have apart : pr.id ≠ other.id := fun same => new (same ▸ List.mem_map_of_mem listed)
    rw [rosters.value_remove_of_ne apart]

end Rosters

end ReviewDesk.Sql
