-- The members of a team, as the history of the team tells them. Who was mentioned and not removed
-- since is a member, and the members stand in the order in which they came in. Someone who is
-- mentioned again keeps the place, and someone who comes back after a removal goes to the end.
import Mathlib.Data.List.Induction
import ReviewDesk.Proofs.Membership
import ReviewDesk.Text.Cut

namespace ReviewDesk

/-! ## Histories -/

/-- What matters for the members: somebody is named as one, or is taken out. -/
inductive RosterEvent where
  | mention (user : UserId)
  | removal (user : UserId)

namespace RosterEvent

variable {history before : List RosterEvent} {user u : UserId} {i j : Nat}

/-- The user is mentioned right after some part of a history, and not removed later. -/
def Stays (history : List RosterEvent) (user : UserId) (before : List RosterEvent) : Prop :=
  ∃ later, history = before ++ .mention user :: later ∧ .removal user ∉ later

/-- The user was mentioned since the last removal. -/
def Mentioned (history : List RosterEvent) (user : UserId) : Prop :=
  ∃ before, Stays history user before

/-- The first mention since the last removal is at a place of the history. -/
def Entered (history : List RosterEvent) (user : UserId) (place : Nat) : Prop :=
  ∃ before, Stays history user before ∧ ¬ Mentioned before user ∧ before.length = place

theorem stays_concat_mention :
    Stays (history ++ [.mention user]) u before ↔
      Stays history u before ∨ (u = user ∧ before = history) := by
  unfold Stays
  simp only [concat_eq_append_cons_iff]
  constructor
  · rintro ⟨later, ⟨-, same, event⟩ | ⟨rest, rfl, same⟩, free⟩
    · exact .inr ⟨RosterEvent.mention.inj event, same⟩
    · exact .inl ⟨rest, same, fun listed => free (List.mem_append_left _ listed)⟩
  · rintro (⟨rest, same, free⟩ | ⟨rfl, rfl⟩)
    · exact ⟨rest ++ [.mention user], .inr ⟨rest, rfl, same⟩, by simpa using free⟩
    · exact ⟨[], .inl ⟨rfl, rfl, rfl⟩, List.not_mem_nil⟩

theorem stays_concat_removal :
    Stays (history ++ [.removal user]) u before ↔ Stays history u before ∧ u ≠ user := by
  unfold Stays
  simp only [concat_eq_append_cons_iff]
  constructor
  · rintro ⟨later, ⟨-, -, event⟩ | ⟨rest, rfl, same⟩, free⟩
    · cases event
    · refine ⟨⟨rest, same, fun listed => free (List.mem_append_left _ listed)⟩, ?_⟩
      rintro rfl
      exact free (by simp)
  · rintro ⟨⟨rest, same, free⟩, other⟩
    exact ⟨rest ++ [.removal user], .inr ⟨rest, rfl, same⟩, by simpa using ⟨free, other⟩⟩

theorem mentioned_concat_mention :
    Mentioned (history ++ [.mention user]) u ↔ Mentioned history u ∨ u = user := by
  unfold Mentioned
  simp only [stays_concat_mention, exists_or, exists_and_left, exists_eq, and_true]

theorem mentioned_concat_removal :
    Mentioned (history ++ [.removal user]) u ↔ Mentioned history u ∧ u ≠ user := by
  unfold Mentioned
  simp only [stays_concat_removal, exists_and_right]

theorem not_mentioned_nil : ¬ Mentioned [] u := by
  rintro ⟨before, later, same, -⟩
  simp at same

/-! ### Places -/

theorem Entered.lt_length (entered : Entered history user i) : i < history.length := by
  obtain ⟨before, ⟨later, rfl, -⟩, -, rfl⟩ := entered
  simp

theorem entered_end (absent : ¬ Mentioned history user) :
    Entered (history ++ [.mention user]) user history.length :=
  ⟨history, stays_concat_mention.2 (.inr ⟨rfl, rfl⟩), absent, rfl⟩

theorem Entered.mention (entered : Entered history u i) (user : UserId) :
    Entered (history ++ [.mention user]) u i := by
  obtain ⟨before, stays, first, place⟩ := entered
  exact ⟨before, stays_concat_mention.2 (.inl stays), first, place⟩

theorem Entered.removal (entered : Entered history u i) (other : u ≠ user) :
    Entered (history ++ [.removal user]) u i := by
  obtain ⟨before, stays, first, place⟩ := entered
  exact ⟨before, stays_concat_removal.2 ⟨stays, other⟩, first, place⟩

/-- Who was mentioned since the last removal came in at some place. -/
theorem exists_entered (mentioned : Mentioned history u) : ∃ i, Entered history u i := by
  induction history using List.reverseRecOn with
  | nil => exact absurd mentioned not_mentioned_nil
  | append_singleton history event ih =>
    cases event with
    | mention user =>
      -- Being mentioned again does not move the first mention.
      by_cases before : Mentioned history u
      · obtain ⟨i, entered⟩ := ih before
        exact ⟨i, entered.mention user⟩
      · obtain rfl := (mentioned_concat_mention.1 mentioned).resolve_left before
        exact ⟨_, entered_end before⟩
    | removal user =>
      obtain ⟨before, other⟩ := mentioned_concat_removal.1 mentioned
      obtain ⟨i, entered⟩ := ih before
      exact ⟨i, entered.removal other⟩

/-- A first mention comes no later than any other since the last removal. -/
theorem Stays.length_le {before' : List RosterEvent} (stays : Stays history user before)
    (stays' : Stays history user before') (first : ¬ Mentioned before' user) :
    before'.length ≤ before.length := by
  obtain ⟨later, rfl, free⟩ := stays
  obtain ⟨later', same, -⟩ := stays'
  rcases List.append_eq_append_iff.1 same with ⟨between, rfl, rest⟩ | ⟨between, rfl, -⟩
  · cases between with
    | nil => simp
    | cons event between =>
      -- The mention would stand in the part before the first one.
      obtain ⟨rfl, rfl⟩ := List.cons.inj rest
      exact absurd ⟨before, between, rfl, fun listed => free (List.mem_append_left _ listed)⟩ first
  · simp

theorem Entered.unique (entered : Entered history user i) (entered' : Entered history user j) :
    i = j := by
  obtain ⟨before, stays, first, rfl⟩ := entered
  obtain ⟨before', stays', first', rfl⟩ := entered'
  exact Nat.le_antisymm (stays'.length_le stays first) (stays.length_le stays' first')

end RosterEvent

/-! ## Members -/

open RosterEvent

/-- The members that a history tells: those who were mentioned since they were last removed, each of
them once, in the order of the first of these mentions. -/
structure Tells (history : List RosterEvent) (members : List UserId) : Prop where
  nodup : members.Nodup
  mem_iff : ∀ user, user ∈ members ↔ Mentioned history user
  ordered : members.Pairwise fun user next =>
    ∃ i j, Entered history user i ∧ Entered history next j ∧ i < j

namespace Tells

variable {history : List RosterEvent} {members others : List UserId} {user : UserId}

theorem nothing : Tells [] [] :=
  ⟨.nil, fun _ => iff_of_false List.not_mem_nil not_mentioned_nil, .nil⟩

/-- A history tells no other members. -/
theorem unique (tells : Tells history members) (tells' : Tells history others) :
    members = others := by
  have perm : members.Perm others := (List.perm_ext_iff_of_nodup tells.nodup tells'.nodup).2
    fun user => (tells.mem_iff user).trans (tells'.mem_iff user).symm
  refine perm.eq_of_pairwise ?_ tells.ordered tells'.ordered
  rintro user next - - ⟨i, j, here, there, lt⟩ ⟨j', i', there', here', lt'⟩
  have := here.unique here'
  have := there.unique there'
  omega

/-- Who is mentioned again keeps the place. -/
theorem mention_listed (tells : Tells history members) (listed : user ∈ members) :
    Tells (history ++ [.mention user]) members where
  nodup := tells.nodup
  mem_iff u := by
    rw [mentioned_concat_mention, ← tells.mem_iff]
    exact (or_iff_left_of_imp fun same => same ▸ listed).symm
  ordered := tells.ordered.imp fun ⟨i, j, here, there, lt⟩ =>
    ⟨i, j, here.mention user, there.mention user, lt⟩

/-- Who is new goes to the end. -/
theorem mention_new (tells : Tells history members) (absent : user ∉ members) :
    Tells (history ++ [.mention user]) (members ++ [user]) where
  nodup := by
    rw [← List.concat_eq_append]
    exact tells.nodup.concat absent
  mem_iff u := by
    rw [mentioned_concat_mention, ← tells.mem_iff, List.mem_append, List.mem_singleton]
  ordered := by
    refine List.pairwise_append.2 ⟨tells.ordered.imp ?_, List.pairwise_singleton .., ?_⟩
    · rintro u next ⟨i, j, here, there, lt⟩
      exact ⟨i, j, here.mention user, there.mention user, lt⟩
    · intro u listed next last
      rw [List.mem_singleton.1 last]
      obtain ⟨i, entered⟩ := exists_entered ((tells.mem_iff u).1 listed)
      have fresh : ¬ Mentioned history user := fun before => absent ((tells.mem_iff user).2 before)
      exact ⟨i, history.length, entered.mention user, entered_end fresh, entered.lt_length⟩

/-- Who is removed leaves the others in their order. -/
theorem removal (tells : Tells history members) (user : UserId) :
    Tells (history ++ [.removal user]) (members.filter (· ≠ user)) where
  nodup := tells.nodup.filter _
  mem_iff u := by
    rw [mentioned_concat_removal, ← tells.mem_iff, List.mem_filter, decide_eq_true_eq]
  ordered := by
    rw [List.pairwise_filter]
    refine tells.ordered.imp fun ⟨i, j, here, there, lt⟩ other other' => ?_
    exact ⟨i, j, here.removal (of_decide_eq_true other), there.removal (of_decide_eq_true other'),
      lt⟩

end Tells

/-! ## Calls -/

/-- A call about a member of a team. -/
inductive TeamCall where
  | add (user : UserId)
  | enroll (user : UserId)
  | remove (user : UserId)

/-- What a call means for the history of the team, whether it changes the team or not. -/
def TeamCall.event : TeamCall → RosterEvent
  | .add user | .enroll user => .mention user
  | .remove user => .removal user

namespace Team

variable {id : TeamId} {name : String} {t : Team} {history : List RosterEvent} {user : UserId}

/-- The team after a call. A call that is refused leaves it as it was. -/
def after (t : Team) : TeamCall → Team
  | .add user => (t.addMember user).toOption.getD t
  | .enroll user => (t.enroll user).2
  | .remove user => t.removeMember user

def afterAll (t : Team) (calls : List TeamCall) : Team := calls.foldl after t

/-- How a team begins, and the history that it begins with. -/
inductive Begun (id : TeamId) (name : String) : Team → List RosterEvent → Prop
  | new {t : Team} : Team.new id name = .ok t → Begun id name t []
  | kept (members : List UserId) :
    Begun id name (ofRecord id name members) (members.map .mention)

theorem enroll_of_listed (listed : user ∈ t.members) : t.enroll user = (false, t) :=
  if_pos (hasMember_iff.2 listed)

theorem enroll_of_absent (absent : user ∉ t.members) :
    t.enroll user = (true, { t with members := t.members ++ [user] }) :=
  if_neg fun listed => absent (hasMember_iff.1 listed)

/-- Adding a member is enrolling one, and a refusal where there is nothing to enroll. -/
theorem addMember_eq (t : Team) (user : UserId) :
    t.addMember user =
      if (t.enroll user).1 then .ok (t.enroll user).2 else .error (.memberAlreadyPresent user) := by
  unfold addMember enroll
  split <;> rfl

theorem enroll_eq_of_false (unchanged : (t.enroll user).1 = false) : (t.enroll user).2 = t := by
  unfold enroll at unchanged ⊢
  split
  · rfl
  · rename_i absent
    rw [if_neg absent] at unchanged
    cases unchanged

theorem after_add (t : Team) (user : UserId) : t.after (.add user) = (t.enroll user).2 := by
  change (t.addMember user).toOption.getD t = (t.enroll user).2
  rw [addMember_eq]
  cases changed : (t.enroll user).1 with
  | true => rfl
  | false => exact (enroll_eq_of_false changed).symm

/-! ### One call -/

theorem tells_enroll (tells : Tells history t.members) (user : UserId) :
    Tells (history ++ [.mention user]) (t.enroll user).2.members := by
  by_cases listed : user ∈ t.members
  · rw [enroll_of_listed listed]
    exact tells.mention_listed listed
  · rw [enroll_of_absent listed]
    exact tells.mention_new listed

theorem tells_after (tells : Tells history t.members) (call : TeamCall) :
    Tells (history ++ [call.event]) (t.after call).members := by
  cases call with
  | add user =>
    rw [after_add]
    exact tells_enroll tells user
  | enroll user => exact tells_enroll tells user
  | remove user => exact tells.removal user

theorem name_enroll (t : Team) (user : UserId) : (t.enroll user).2.name = t.name := by
  unfold enroll
  split <;> rfl

theorem named_after (t : Team) (call : TeamCall) :
    (t.after call).id = t.id ∧ (t.after call).name = t.name := by
  cases call with
  | add user =>
    rw [after_add]
    exact ⟨id_enroll t user, name_enroll t user⟩
  | enroll user => exact ⟨id_enroll t user, name_enroll t user⟩
  | remove user => exact ⟨rfl, rfl⟩

/-! ### All calls -/

theorem tells_afterAll (tells : Tells history t.members) (calls : List TeamCall) :
    Tells (history ++ calls.map TeamCall.event) (t.afterAll calls).members := by
  induction calls generalizing t history with
  | nil =>
    rw [List.map_nil, List.append_nil]
    exact tells
  | cons call calls ih =>
    have rest := ih (tells_after tells call)
    rw [List.append_assoc] at rest
    exact rest

theorem named_afterAll (t : Team) (calls : List TeamCall) :
    (t.afterAll calls).id = t.id ∧ (t.afterAll calls).name = t.name := by
  induction calls generalizing t with
  | nil => exact ⟨rfl, rfl⟩
  | cons call calls ih =>
    obtain ⟨id, name⟩ := ih (t.after call)
    obtain ⟨id', name'⟩ := named_after t call
    exact ⟨id.trans id', name.trans name'⟩

/-- A team that was kept is one whose members are enrolled again. -/
theorem ofRecord_eq (id : TeamId) (name : String) (members : List UserId) :
    ofRecord id name members = afterAll ⟨id, name, []⟩ (members.map .enroll) := by
  unfold ofRecord enrollAll afterAll
  rw [List.foldl_map]
  rfl

theorem Begun.tells (begun : Begun id name t history) : Tells history t.members := by
  cases begun with
  | new made =>
    rw [members_of_new made]
    exact .nothing
  | kept members =>
    have tells := tells_afterAll (t := ⟨id, name, []⟩) .nothing (members.map .enroll)
    rw [List.map_map, List.nil_append] at tells
    rw [ofRecord_eq]
    exact tells

theorem Begun.named (begun : Begun id name t history) : t.id = id ∧ t.name = name := by
  cases begun with
  | new made =>
    unfold Team.new at made
    split at made
    · cases made
    · cases made
      exact ⟨rfl, rfl⟩
  | kept members =>
    rw [ofRecord_eq]
    exact named_afterAll _ _

/-- After any calls, the members of a team are those that its history tells, and the team is the
same one. A user is added just if enrolling would change the team, and then to the same effect, and
otherwise nothing changes. -/
theorem members_follow_history (begun : Begun id name t history) (calls : List TeamCall) :
    let now := t.afterAll calls
    Tells (history ++ calls.map TeamCall.event) now.members ∧
    (∀ others, Tells (history ++ calls.map TeamCall.event) others → others = now.members) ∧
    now.id = id ∧ now.name = name ∧
    ∀ user,
      ((∃ changed, now.addMember user = .ok changed) ↔ (now.enroll user).1 = true) ∧
      (∀ changed, now.addMember user = .ok changed → changed = (now.enroll user).2) ∧
      ((now.enroll user).1 = false →
        now.addMember user = .error (.memberAlreadyPresent user) ∧
          now.after (.add user) = now ∧ now.after (.enroll user) = now) := by
  intro now
  have tells : Tells (history ++ calls.map TeamCall.event) now.members :=
    tells_afterAll begun.tells calls
  obtain ⟨id_kept, name_kept⟩ := named_afterAll t calls
  refine ⟨tells, fun others tells' => tells'.unique tells, id_kept.trans begun.named.1,
    name_kept.trans begun.named.2, fun user => ?_⟩
  refine ⟨?_, fun changed added => enroll_of_add added, fun unchanged => ⟨?_, ?_, ?_⟩⟩
  · rw [addMember_eq]
    cases (now.enroll user).1 <;> simp
  · rw [addMember_eq, unchanged]
    rfl
  · rw [after_add, enroll_eq_of_false unchanged]
  · exact enroll_eq_of_false unchanged

/-- Two members, one of them listed twice, and calls that take her out and bring her back. -/
def comings : List TeamCall :=
  [.enroll ⟨"bea"⟩, .remove ⟨"ann"⟩, .remove ⟨"dan"⟩, .add ⟨"cid"⟩, .add ⟨"ann"⟩, .add ⟨"bea"⟩]

theorem comings_members :
    (afterAll (ofRecord ⟨7⟩ "desk" [⟨"ann"⟩, ⟨"bea"⟩, ⟨"ann"⟩]) comings).members =
      [⟨"bea"⟩, ⟨"cid"⟩, ⟨"ann"⟩] ∧
    Tells
      ([.mention ⟨"ann"⟩, .mention ⟨"bea"⟩, .mention ⟨"ann"⟩] ++ comings.map TeamCall.event)
      [⟨"bea"⟩, ⟨"cid"⟩, ⟨"ann"⟩] := by
  have tells := (members_follow_history
    (@Begun.kept ⟨7⟩ "desk" [⟨"ann"⟩, ⟨"bea"⟩, ⟨"ann"⟩]) comings).1
  have members : (afterAll (ofRecord ⟨7⟩ "desk" [⟨"ann"⟩, ⟨"bea"⟩, ⟨"ann"⟩]) comings).members =
      [⟨"bea"⟩, ⟨"cid"⟩, ⟨"ann"⟩] := by decide +kernel
  rw [members] at tells
  exact ⟨members, tells⟩

end Team

end ReviewDesk
