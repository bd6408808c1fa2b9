-- Pull requests as they are sent. A value without numbers can be told from its text, and so an
-- answer about a pull request tells every field that it carries.
import ReviewDesk.Http.Rendering
import ReviewDesk.Proofs.Grammar
import ReviewDesk.Proofs.Quotation
import ReviewDesk.Proofs.Timestamps

namespace ReviewDesk

namespace Json

/-! ## Lists with commas -/

section Joined

variable {α : Type} {text : α → List Char} {as bs : List α} {close : Char}
  {after after' : List Char}

/-- A text tells what it stands for, and where it ends. -/
def Telling (text : α → List Char) (a b : α) : Prop :=
  ∀ after after', text a ++ after = text b ++ after' → a = b ∧ after = after'

theorem afterFirst_inj (other : close ≠ ',') (telling : ∀ a ∈ as, ∀ b ∈ bs, Telling text a b)
    (same : afterFirst text as ++ close :: after = afterFirst text bs ++ close :: after') :
    as = bs ∧ after = after' := by
  induction as generalizing bs with
  | nil =>
    cases bs with
    | nil => exact ⟨rfl, (List.cons.inj same).2⟩
    | cons b bs => exact absurd (List.cons.inj same).1 other
  | cons a as ih =>
    cases bs with
    | nil => exact absurd (List.cons.inj same).1.symm other
    | cons b bs =>
      simp only [afterFirst, List.flatMap_cons, List.cons_append, List.append_assoc,
        List.cons.injEq, true_and] at same
      obtain ⟨rfl, rest⟩ := telling a List.mem_cons_self b List.mem_cons_self _ _ same
      obtain ⟨rfl, ends⟩ :=
        ih (fun a here b there => telling a (.tail _ here) b (.tail _ there)) rest
      exact ⟨rfl, ends⟩

/-- A list can be told from its text, if nothing in it begins like the end of the list. -/
theorem joined_inj (other : close ≠ ',') (telling : ∀ a ∈ as, ∀ b ∈ bs, Telling text a b)
    (begins : ∀ a, a ∈ as ∨ a ∈ bs → ∀ more, (text a ++ more).head? ≠ some close)
    (same : joined text as ++ close :: after = joined text bs ++ close :: after') :
    as = bs ∧ after = after' := by
  cases as with
  | nil =>
    cases bs with
    | nil => exact ⟨rfl, (List.cons.inj same).2⟩
    | cons b bs =>
      rw [joined, joined, List.append_assoc] at same
      exact absurd (congrArg List.head? same).symm (begins b (.inr List.mem_cons_self) _)
  | cons a as =>
    cases bs with
    | nil =>
      rw [joined, joined, List.append_assoc] at same
      exact absurd (congrArg List.head? same) (begins a (.inl List.mem_cons_self) _)
    | cons b bs =>
      simp only [joined, List.append_assoc] at same
      obtain ⟨rfl, rest⟩ := telling a List.mem_cons_self b List.mem_cons_self _ _ same
      obtain ⟨rfl, ends⟩ :=
        afterFirst_inj other (fun a here b there => telling a (.tail _ here) b (.tail _ there)) rest
      exact ⟨rfl, ends⟩

end Joined

/-! ## Values without numbers -/

/-- A member of an object. -/
def memberText (member : String × Json) : List Char :=
  stringText member.1 ++ ':' :: member.2.chars

theorem itemsText_eq_joined (items : List Json) : itemsText items = joined chars items := by
  induction items with
  | nil => rfl
  | cons item items ih =>
    cases items with
    | nil => simp [itemsText, joined, afterFirst]
    | cons next items =>
      rw [itemsText.eq_3 _ _ (by simp), ih]
      rfl

theorem membersText_eq_joined (members : List (String × Json)) :
    membersText members = joined memberText members := by
  induction members with
  | nil => rfl
  | cons member members ih =>
    cases members with
    | nil => simp [membersText, joined, afterFirst, memberText]
    | cons next members =>
      rw [membersText.eq_3 _ _ _ (by simp), ih]
      simp [joined, afterFirst, memberText]

/-- A value that is made of texts alone. -/
inductive Wordy : Json → Prop where
  | string (text : String) : Wordy (.string text)
  | array {items : List Json} : (∀ item ∈ items, Wordy item) → Wordy (.array items)
  | object {members : List (String × Json)} :
    (∀ member ∈ members, Wordy member.2) → Wordy (.object members)

variable {a b : Json}

theorem telling_memberText {member other : String × Json}
    (telling : Telling chars member.2 other.2) : Telling memberText member other := by
  intro after after' same
  unfold memberText at same
  rw [List.append_assoc, List.append_assoc] at same
  obtain ⟨name, rest⟩ := stringText_append_inj same
  obtain ⟨value, ends⟩ := telling after after' (List.cons.inj rest).2
  exact ⟨Prod.ext name value, ends⟩

/-- The character that a value begins with, which tells its kind. -/
def opening : Json → Char
  | .array _ => '['
  | .object _ => '{'
  | _ => '"'

theorem Wordy.head?_chars (wordy : Wordy a) (more : List Char) :
    (a.chars ++ more).head? = some (opening a) := by
  cases wordy <;> rfl

theorem telling_of_wordy (wordy : Wordy a) (wordy' : Wordy b) : Telling chars a b := by
  induction wordy generalizing b with
  | string text =>
    intro after after' same
    cases wordy' with
    | string other =>
      obtain ⟨rfl, ends⟩ := stringText_append_inj same
      exact ⟨rfl, ends⟩
    | array _ | object _ => simp [chars, stringText] at same
  | @array items each ih =>
    intro after after' same
    cases wordy' with
    | string _ | object _ => simp [chars, stringText] at same
    | @array others each' =>
      simp only [chars, List.cons_append, List.append_assoc, List.nil_append, List.cons.injEq,
        true_and, itemsText_eq_joined] at same
      have begins : ∀ item, item ∈ items ∨ item ∈ others → ∀ more,
          (item.chars ++ more).head? ≠ some ']' := by
        intro item here more
        rw [(here.elim (each item) (each' item)).head?_chars]
        cases item <;> simp [opening]
      obtain ⟨rfl, ends⟩ := joined_inj (by decide)
        (fun item here other there => ih item here (each' other there)) begins same
      exact ⟨rfl, ends⟩
  | @object members each ih =>
    intro after after' same
    cases wordy' with
    | string _ | array _ => simp [chars, stringText] at same
    | @object others each' =>
      simp only [chars, List.cons_append, List.append_assoc, List.nil_append, List.cons.injEq,
        true_and, membersText_eq_joined] at same
      have begins : ∀ member, member ∈ members ∨ member ∈ others → ∀ more,
          (memberText member ++ more).head? ≠ some '}' := by
        intro member _ more
        simp [memberText, stringText]
      obtain ⟨rfl, ends⟩ := joined_inj (by decide)
        (fun member here other there => telling_memberText (ih member here (each' other there)))
        begins same
      exact ⟨rfl, ends⟩

/-- A value that is made of texts alone can be told from its text. -/
theorem text_inj (wordy : Wordy a) (wordy' : Wordy b) (same : a.text = b.text) : a = b :=
  (telling_of_wordy wordy wordy' [] [] (congrArg (· ++ []) (String.ofList_injective same))).1

end Json

/-! ## Pull requests -/

theorem Status.label_injective : Function.Injective Status.label := by
  intro s t same
  cases s <;> cases t <;> first | rfl | exact absurd same (by decide)

theorem UserId.toJson_injective : Function.Injective UserId.toJson := by
  intro u v same
  exact congrArg UserId.mk (Json.string.inj same)

theorem Instant.toJson_injective : Function.Injective Instant.toJson := by
  intro s t same
  exact Instant.rfc3339_injective (Json.string.inj same)

namespace PullRequest

open Json in
theorem wordy_envelope (pr : PullRequest) : Wordy pr.envelope := by
  have reviewers : Wordy (.array (pr.reviewerIds.map UserId.toJson)) := by
    refine .array fun item listed => ?_
    obtain ⟨user, -, rfl⟩ := List.mem_map.1 listed
    exact .string user.value
  have members : Wordy pr.toJson := by
    refine .object fun member listed => ?_
    simp only [List.mem_append, List.mem_cons, List.not_mem_nil, or_false, List.mem_map] at listed
    rcases listed with (rfl | rfl | rfl | rfl | rfl | rfl) | ⟨t, -, rfl⟩
    case inl.inr.inr.inr.inr.inl => exact reviewers
    all_goals exact .string _
  refine .object fun member listed => ?_
  rw [List.mem_singleton.1 listed]
  exact members

/-- Two pull requests that agree in all that an answer carries. -/
structure ShownAlike (pr other : PullRequest) : Prop where
  id : pr.id = other.id
  title : pr.title = other.title
  author : pr.author = other.author
  status : pr.status = other.status
  reviewers : pr.reviewerIds = other.reviewerIds
  createdAt : pr.createdAt = other.createdAt
  mergedAt : pr.mergedAt = other.mergedAt

variable {pr other : PullRequest}

theorem ShownAlike.toJson_eq (alike : pr.ShownAlike other) : pr.toJson = other.toJson := by
  unfold toJson
  rw [alike.id, alike.title, alike.author, alike.status, alike.reviewers, alike.createdAt,
    alike.mergedAt]

theorem shownAlike_of_toJson (same : pr.toJson = other.toJson) : pr.ShownAlike other := by
  have members := Json.object.inj same
  obtain ⟨fixed, merge⟩ := List.append_inj members rfl
  simp only [List.cons.injEq, Prod.mk.injEq, true_and, and_true] at fixed
  obtain ⟨id, title, author, status, reviewers, created⟩ := fixed
  have merged : pr.mergedAt = other.mergedAt := by
    cases here : pr.mergedAt <;> cases there : other.mergedAt <;>
      simp only [here, there, Option.toList_none, Option.toList_some, List.map_nil, List.map_cons,
        List.cons.injEq, Prod.mk.injEq, true_and, and_true, reduceCtorEq] at merge
    · rfl
    · rw [Instant.toJson_injective merge]
  refine ⟨?_, Json.string.inj title, ?_, ?_, ?_, Instant.toJson_injective created, merged⟩
  · exact congrArg PullRequestId.mk (Json.string.inj id)
  · exact UserId.toJson_injective author
  · exact Status.label_injective (Json.string.inj status)
  · exact List.map_injective_iff.2 UserId.toJson_injective (Json.array.inj reviewers)

/-- The text of an answer tells every field that it carries, and the time of the merge is a member
of it just where there is one. -/
theorem text_envelope_tells (pr other : PullRequest) :
    (pr.envelope.text = other.envelope.text ↔ pr.ShownAlike other) ∧
      ∃ members, pr.envelope = .object [("pr", .object members)] ∧
        ("mergedAt" ∈ members.map Prod.fst ↔ pr.mergedAt ≠ none) := by
  constructor
  · constructor
    · intro same
      have envelopes := Json.text_inj (wordy_envelope pr) (wordy_envelope other) same
      have answers := (List.cons.inj (Json.object.inj envelopes)).1
      exact shownAlike_of_toJson (Prod.mk.inj answers).2
    · intro alike
      unfold envelope
      rw [alike.toJson_eq]
  · refine ⟨_, rfl, ?_⟩
    cases pr.mergedAt <;> simp

end PullRequest

end ReviewDesk
