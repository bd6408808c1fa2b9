-- Who is in which team is kept twice: each user names a team, and each team lists its members.
-- However users and teams are added, a team lists every stored user who names it, and lists
-- nobody twice. Where all teams came without members, a team lists nobody else.
import ReviewDesk.Proofs.Shelf

namespace ReviewDesk

/-! ## The members of one team -/

namespace Team

variable {t changed : Team} {user u : UserId}

theorem hasMember_iff : t.hasMember u = true ↔ u ∈ t.members := List.contains_iff_mem

@[simp]
theorem id_enroll (t : Team) (user : UserId) : (t.enroll user).2.id = t.id := by
  unfold enroll
  split <;> rfl

theorem mem_enroll : u ∈ (t.enroll user).2.members ↔ u ∈ t.members ∨ u = user := by
  unfold enroll
  split
  · rename_i listed
    constructor
    · exact .inl
    · rintro (member | rfl)
      · exact member
      · exact hasMember_iff.1 listed
  · simp

theorem nodup_enroll (h : t.members.Nodup) : (t.enroll user).2.members.Nodup := by
  unfold enroll
  split
  · exact h
  · rename_i absent
    refine List.nodup_append.2 ⟨h, by simp, ?_⟩
    intro member listed last same equal
    rw [List.mem_singleton.1 same] at equal
    exact absent (hasMember_iff.2 (equal ▸ listed))

/-- A member who is added is enrolled. -/
theorem enroll_of_add (added : t.addMember user = .ok changed) : changed = (t.enroll user).2 := by
  unfold addMember at added
  unfold enroll
  split at added
  · cases added
  · rename_i absent
    cases added
    rw [if_neg absent]

@[simp]
theorem id_enrollAll (t : Team) (users : List UserId) : (t.enrollAll users).id = t.id := by
  unfold enrollAll
  induction users generalizing t with
  | nil => rfl
  | cons user users ih => exact (ih _).trans (id_enroll t user)

theorem mem_enrollAll {users : List UserId} :
    u ∈ (t.enrollAll users).members ↔ u ∈ t.members ∨ u ∈ users := by
  unfold enrollAll
  induction users generalizing t with
  | nil => simp
  | cons user users ih =>
    rw [List.foldl_cons, ih, mem_enroll, List.mem_cons, or_assoc]

theorem nodup_enrollAll {users : List UserId} (h : t.members.Nodup) :
    (t.enrollAll users).members.Nodup := by
  unfold enrollAll
  induction users generalizing t with
  | nil => exact h
  | cons user users ih => exact ih (nodup_enroll h)

theorem mem_removeMember : u ∈ (t.removeMember user).members ↔ u ∈ t.members ∧ u ≠ user := by
  simp [removeMember]

theorem nodup_removeMember (h : t.members.Nodup) : (t.removeMember user).members.Nodup :=
  h.filter _

/-- The teams that can be made. -/
inductive Made : Team → Prop
  | new {id : TeamId} {name : String} {t : Team} : new id name = .ok t → Made t
  | kept (id : TeamId) (name : String) (members : List UserId) : Made (ofRecord id name members)
  | add {t changed : Team} {user : UserId} : Made t → t.addMember user = .ok changed → Made changed
  | enroll {t : Team} (user : UserId) : Made t → Made (t.enroll user).2
  | remove {t : Team} (user : UserId) : Made t → Made (t.removeMember user)

/-- A new team has no members. -/
theorem members_of_new {id : TeamId} {name : String} (made : Team.new id name = .ok t) :
    t.members = [] := by
  unfold Team.new at made
  split at made
  · cases made
  · cases made
    rfl

/-- No team that can be made lists anybody twice. -/
theorem Made.nodup (made : t.Made) : t.members.Nodup := by
  induction made with
  | new made =>
    rw [members_of_new made]
    exact .nil
  | kept id name members => exact nodup_enrollAll .nil
  | add _ added ih =>
    rw [enroll_of_add added]
    exact nodup_enroll ih
  | enroll user _ ih => exact nodup_enroll ih
  | remove user _ ih => exact nodup_removeMember ih

end Team

/-! ## Users and teams that are added -/

inductive Staffing where
  | user (user : User)
  | team (team : Team)
  deriving DecidableEq, Repr

namespace Store

/-- Adds a user or a team. -/
def staff (s : Store) : Staffing → Store
  | .user user => s.addUser user
  | .team team => s.addTeam team

/-- Adds users and teams one after the other. -/
def staffAll (s : Store) (changes : List Staffing) : Store := changes.foldl staff s

/-- A store with some pull requests, but without users and teams. -/
def unstaffed (shelf : Shelf) : Store := ⟨shelf, .empty, .empty⟩

variable {s : Store} {u : UserId} {t : TeamId}

/-- A stored user names a team. -/
def Names (s : Store) (u : UserId) (t : TeamId) : Prop :=
  ∃ user, s.users.get? u = some user ∧ user.team = some t

theorem mem_affiliated : u ∈ s.affiliated t ↔ s.Names u t := by
  unfold affiliated Names
  simp only [List.mem_map, List.mem_filter, decide_eq_true_eq, Register.get?_eq_some_iff]
  constructor
  · rintro ⟨user, ⟨listed, named⟩, rfl⟩
    exact ⟨user, ⟨listed, rfl⟩, named⟩
  · rintro ⟨user, ⟨listed, rfl⟩, named⟩
    exact ⟨user, ⟨listed, named⟩, rfl⟩

theorem names_addUser {user : User} :
    (s.addUser user).Names u t ↔ if user.id = u then user.team = some t else s.Names u t := by
  have users : (s.addUser user).users.get? u = if user.id = u then some user else s.users.get? u :=
    Register.get?_put s.users user u
  unfold Names
  rw [users]
  split
  · simp
  · exact Iff.rfl

/-- A user who is added joins the team that the user names, and leaves every other. -/
theorem teams_addUser (s : Store) (user : User) (t : TeamId) :
    (s.addUser user).teams.get? t = (s.teams.get? t).map fun team =>
      if user.team = some t then (team.enroll user.id).2 else team.removeMember user.id := by
  have released := s.teams.get?_map (releaseFrom user) (id_releaseFrom user)
  have elsewhere : user.team ≠ some t → (s.teams.get? t).map (releaseFrom user) =
      (s.teams.get? t).map fun team =>
        if user.team = some t then (team.enroll user.id).2 else team.removeMember user.id := by
    intro other
    rcases stood : s.teams.get? t with _ | team
    · rfl
    · have key : team.id = t := Register.key_of_get? stood
      simp only [Option.map_some, releaseFrom, key, if_neg other]
  unfold addUser
  dsimp only
  rcases named : user.team with _ | n
  · rw [Option.bind_none, released, elsewhere (by simp [named]), named]
  · rw [Option.bind_some]
    rcases stood : s.teams.get? n with _ | team
    · rw [released, stood, Option.map_none]
      dsimp only
      by_cases same : n = t
      · subst same
        rw [released, stood, Option.map_none, Option.map_none]
      · rw [released, elsewhere (by simp [named, same]), named]
    · have key : team.id = n := Register.key_of_get? stood
      have stays : releaseFrom user team = team := by
        rw [releaseFrom, named, key, if_pos rfl]
      rw [released, stood, Option.map_some, stays]
      dsimp only
      rw [Register.get?_put, Team.id_enroll, key]
      by_cases same : n = t
      · subst same
        rw [if_pos rfl, stood, Option.map_some, if_pos rfl]
      · rw [if_neg same, released, elsewhere (by simp [named, same]), named]

/-- A team that is added enrolls the users who name it. -/
theorem teams_addTeam (s : Store) (team : Team) (t : TeamId) :
    (s.addTeam team).teams.get? t =
      if team.id = t then some (team.enrollAll (s.affiliated team.id)) else s.teams.get? t := by
  unfold addTeam
  dsimp only
  rw [Register.get?_put, Team.id_enrollAll]

/-! ## What the teams list -/

/-- Each team lists the users who name it, and nobody twice. -/
structure Enrolled (s : Store) : Prop where
  nodup : ∀ t team, s.teams.get? t = some team → team.members.Nodup
  listed : ∀ t team, s.teams.get? t = some team → ∀ u, s.Names u t → u ∈ team.members

/-- No team lists anybody who does not name it. -/
def NoStrangers (s : Store) : Prop :=
  ∀ t team, s.teams.get? t = some team → ∀ u ∈ team.members, s.Names u t

theorem enrolled_addUser (h : s.Enrolled) (user : User) : (s.addUser user).Enrolled := by
  refine ⟨?_, ?_⟩
  · intro t team stored
    rw [teams_addUser] at stored
    obtain ⟨old, stood, rfl⟩ := Option.map_eq_some_iff.1 stored
    have nodup := h.nodup t old stood
    split
    · exact Team.nodup_enroll nodup
    · exact Team.nodup_removeMember nodup
  · intro t team stored u names
    rw [teams_addUser] at stored
    obtain ⟨old, stood, rfl⟩ := Option.map_eq_some_iff.1 stored
    rw [names_addUser] at names
    by_cases own : user.id = u
    · rw [if_pos own] at names
      rw [if_pos names]
      exact Team.mem_enroll.2 (.inr own.symm)
    · rw [if_neg own] at names
      have member := h.listed t old stood u names
      split
      · exact Team.mem_enroll.2 (.inl member)
      · exact Team.mem_removeMember.2 ⟨member, Ne.symm own⟩

theorem enrolled_addTeam (h : s.Enrolled) {team : Team} (nodup : team.members.Nodup) :
    (s.addTeam team).Enrolled := by
  refine ⟨?_, ?_⟩
  · intro t stored found
    rw [teams_addTeam] at found
    split at found
    · cases found
      exact Team.nodup_enrollAll nodup
    · exact h.nodup t stored found
  · intro t stored found u names
    rw [teams_addTeam] at found
    split at found
    · rename_i same
      cases found
      subst same
      exact Team.mem_enrollAll.2 (.inr (mem_affiliated.2 names))
    · exact h.listed t stored found u names

theorem noStrangers_addUser (h : s.NoStrangers) (user : User) : (s.addUser user).NoStrangers := by
  intro t team stored u member
  rw [teams_addUser] at stored
  obtain ⟨old, stood, rfl⟩ := Option.map_eq_some_iff.1 stored
  rw [names_addUser]
  split at member
  · rename_i named
    split
    · exact named
    · rename_i other
      rcases Team.mem_enroll.1 member with before | same
      · exact h t old stood u before
      · exact absurd same.symm other
  · obtain ⟨before, other⟩ := Team.mem_removeMember.1 member
    rw [if_neg (Ne.symm other)]
    exact h t old stood u before

theorem noStrangers_addTeam (h : s.NoStrangers) {team : Team} (empty : team.members = []) :
    (s.addTeam team).NoStrangers := by
  intro t stored found u member
  rw [teams_addTeam] at found
  split at found
  · rename_i same
    cases found
    subst same
    rcases Team.mem_enrollAll.1 member with before | affiliated
    · rw [empty] at before
      cases before
    · exact mem_affiliated.1 affiliated
  · exact h t stored found u member

/-! ## After any number of them -/

theorem enrolled_staffAll (h : s.Enrolled) {changes : List Staffing}
    (made : ∀ team, .team team ∈ changes → team.Made) : (s.staffAll changes).Enrolled := by
  unfold staffAll
  induction changes generalizing s with
  | nil => exact h
  | cons change changes ih =>
    refine ih ?_ fun team listed => made team (List.mem_cons_of_mem _ listed)
    cases change with
    | user user => exact enrolled_addUser h user
    | team team => exact enrolled_addTeam h (made team List.mem_cons_self).nodup

theorem noStrangers_staffAll (h : s.NoStrangers) {changes : List Staffing}
    (new : ∀ team, .team team ∈ changes → ∃ id name, Team.new id name = .ok team) :
    (s.staffAll changes).NoStrangers := by
  unfold staffAll
  induction changes generalizing s with
  | nil => exact h
  | cons change changes ih =>
    refine ih ?_ fun team listed => new team (List.mem_cons_of_mem _ listed)
    cases change with
    | user user => exact noStrangers_addUser h user
    | team team =>
      obtain ⟨id, name, made⟩ := new team List.mem_cons_self
      exact noStrangers_addTeam h (Team.members_of_new made)

theorem mem_activeMembers {user : User} :
    user ∈ s.activeMembers t ↔
      s.users.get? user.id = some user ∧ user.team = some t ∧ user.active = true := by
  unfold activeMembers
  simp [Register.get?_eq_some_iff]

theorem activeMembers_ascending (s : Store) (t : TeamId) :
    (s.activeMembers t).Pairwise fun a b => compare a.id b.id = .lt := s.users.sorted.filter _

/-- However users and teams were added, every stored user is listed once by the team that the user
names, if it is stored. If all teams came without members, then each lists just the stored users
who name it, and the active members that the store finds for the team of a user are the active ones
of those that this team lists, each once and in ascending order. -/
theorem rosters_follow_users (shelf : Shelf) (changes : List Staffing)
    (made : ∀ team, .team team ∈ changes → team.Made) {s : Store}
    (result : (unstaffed shelf).staffAll changes = s) :
    (∀ u user t team, s.users.get? u = some user → user.team = some t →
      s.teams.get? t = some team → team.members.count u = 1) ∧
    ((∀ team, .team team ∈ changes → ∃ id name, Team.new id name = .ok team) →
      (∀ t team, s.teams.get? t = some team → team.members.Nodup ∧
        ∀ u, u ∈ team.members ↔ s.Names u t) ∧
      ∀ u team, (s.answer (.findTeamOf u)).1 = .ok (some team) →
        ∃ active, (s.answer (.findActiveMembers team.id)).1 = .ok active ∧
          (active.Pairwise fun a b => compare a.id b.id = .lt) ∧
          ∀ user, user ∈ active ↔
            s.users.get? user.id = some user ∧ user.active = true ∧ user.id ∈ team.members) := by
  have enrolled : s.Enrolled := by
    rw [← result]
    refine enrolled_staffAll ⟨?_, ?_⟩ made
    · intro t team stored
      cases stored
    · intro t team stored
      cases stored
  refine ⟨?_, ?_⟩
  · intro u user t team known named stored
    have listed := enrolled.listed t team stored u ⟨user, known, named⟩
    rw [(enrolled.nodup t team stored).count, if_pos listed]
  · intro new
    have noStrangers : s.NoStrangers := by
      rw [← result]
      refine noStrangers_staffAll ?_ new
      intro t team stored
      cases stored
    have members : ∀ t team, s.teams.get? t = some team → ∀ u, u ∈ team.members ↔ s.Names u t :=
      fun t team stored u => ⟨noStrangers t team stored u, enrolled.listed t team stored u⟩
    refine ⟨fun t team stored => ⟨enrolled.nodup t team stored, members t team stored⟩, ?_⟩
    intro u team answered
    have found : s.teamOf u = some team := Except.ok.inj answered
    obtain ⟨t, -, stored⟩ := Option.bind_eq_some_iff.1 found
    have key : team.id = t := Register.key_of_get? stored
    subst key
    refine ⟨s.activeMembers team.id, rfl, activeMembers_ascending s team.id, ?_⟩
    intro user
    rw [mem_activeMembers, members team.id team stored]
    constructor
    · rintro ⟨known, named, active⟩
      exact ⟨known, active, user, known, named⟩
    · rintro ⟨known, active, other, known', named⟩
      rw [known] at known'
      cases known'
      exact ⟨known, named, active⟩

/-- Bea comes before her team does and then moves to another, Ann becomes inactive, and at last the
first team is added anew, with another name. -/
def busyStaffing : List Staffing :=
  [.user ⟨⟨"bea"⟩, "Bea", true, some ⟨1⟩⟩, .team ⟨⟨1⟩, "core", []⟩, .team ⟨⟨2⟩, "web", []⟩,
    .user ⟨⟨"cid"⟩, "Cid", true, some ⟨1⟩⟩, .user ⟨⟨"ann"⟩, "Ann", true, some ⟨1⟩⟩,
    .user ⟨⟨"bea"⟩, "Bea", true, some ⟨2⟩⟩, .user ⟨⟨"ann"⟩, "Ann", false, some ⟨1⟩⟩,
    .team ⟨⟨1⟩, "desk", []⟩]

/-- Ann and Cid are in the first team then, and Cid is the one who is active. -/
theorem busyStaffing_rosters :
    (∀ team, .team team ∈ busyStaffing → ∃ id name, Team.new id name = .ok team) ∧
    (((unstaffed .empty).staffAll busyStaffing).teamOf ⟨"ann"⟩).map Team.members =
      some [⟨"ann"⟩, ⟨"cid"⟩] ∧
    ∃ team active, ((unstaffed .empty).staffAll busyStaffing).teamOf ⟨"ann"⟩ = some team ∧
      team.members.count ⟨"cid"⟩ = 1 ∧
      (((unstaffed .empty).staffAll busyStaffing).answer (.findActiveMembers team.id)).1 =
        .ok active ∧
      ∀ user, user ∈ active ↔
        ((unstaffed .empty).staffAll busyStaffing).users.get? user.id = some user ∧
          user.active = true ∧ user.id ∈ team.members := by
  have new : ∀ team, .team team ∈ busyStaffing → ∃ id name, Team.new id name = .ok team := by
    intro team listed
    simp only [busyStaffing, List.mem_cons, Staffing.team.injEq, reduceCtorEq, List.not_mem_nil,
      false_or, or_false] at listed
    rcases listed with rfl | rfl | rfl
    · exact ⟨⟨1⟩, "core", rfl⟩
    · exact ⟨⟨2⟩, "web", rfl⟩
    · exact ⟨⟨1⟩, "desk", rfl⟩
  have made : ∀ team, .team team ∈ busyStaffing → team.Made := by
    intro team listed
    obtain ⟨id, name, same⟩ := new team listed
    exact .new same
  obtain ⟨once, exactly⟩ := rosters_follow_users .empty busyStaffing made rfl
  obtain ⟨active, answered, -, members⟩ := (exactly new).2 ⟨"ann"⟩ _ rfl
  exact ⟨new, rfl, _, active, rfl, once ⟨"cid"⟩ _ ⟨1⟩ _ rfl rfl rfl, answered, members⟩

end Store

end ReviewDesk
