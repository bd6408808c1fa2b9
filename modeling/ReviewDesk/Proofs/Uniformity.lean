-- How often each choice comes out. Every order of the eligible comes of exactly one sequence of
-- draws, so all choices of one length are equally likely, and nothing matters but who is eligible
-- and how many are taken. So a choice can be whatever list of them has the right length.
import Mathlib.Algebra.BigOperators.Fin
import Mathlib.Algebra.Order.BigOperators.Group.Finset
import Mathlib.Data.Fintype.BigOperators
import Mathlib.Data.List.Permutation
import Mathlib.Data.Nat.Factorial.BigOperators
import ReviewDesk.Proofs.Choice

namespace ReviewDesk

open scoped Nat

/-! ## Sequences of draws -/

namespace Draws

variable {α : Type} {draws draws' : Draws} {place n : Nat} {entries : Array α}

/-- The draws for a list of a certain length, one for each place. -/
abbrev Upto (n : Nat) := (place : Fin n) → Fin (place + 1)

/-- Draws for all places, of which only the first are given. -/
def Upto.fill (given : Upto n) : Draws := fun place =>
  if h : place < n then given ⟨place, h⟩ else ⟨0, Nat.succ_pos place⟩

theorem Upto.fill_of_lt (given : Upto n) (h : place < n) : given.fill place = given ⟨place, h⟩ :=
  dif_pos h

theorem card_upto (n : Nat) : Fintype.card (Upto n) = n ! := by
  simp only [Fintype.card_pi, Fintype.card_fin]
  rw [Fin.prod_univ_eq_prod_range fun place => place + 1]
  exact Finset.prod_range_add_one_eq_factorial n

/-! ## One shuffle -/

/-- Only the draws for the places up to the first one settled are looked at. -/
theorem settle_congr (same : ∀ i ≤ place, draws i = draws' i) (entries : Array α) :
    draws.settle place entries = draws'.settle place entries := by
  induction place generalizing entries with
  | zero => rfl
  | succ place ih =>
    unfold settle
    rw [same (place + 1) (Nat.le_refl _)]
    exact ih (fun i upto => same i (Nat.le_succ_of_le upto)) _

/-- The entry at the drawn place comes to the place that is settled. -/
theorem getElem?_swap_drawn (within : place < entries.size) (drawn : Fin (place + 1)) :
    (entries.swapIfInBounds place drawn)[place]? = entries[(drawn : Nat)]? := by
  have inside : (drawn : Nat) < entries.size := by omega
  simp only [Array.swapIfInBounds_def, within, inside, dif_pos, Array.getElem?_swap]
  split
  · rename_i same
    simp [← same, inside]
  · simp [inside]

/-- A place above those that are settled stays as it is. -/
theorem getElem?_settle {i : Nat} (above : place < i) (within : place < entries.size) :
    (draws.settle place entries)[i]? = entries[i]? := by
  induction place generalizing entries with
  | zero => rfl
  | succ place ih =>
    have drawn := (draws (place + 1)).isLt
    have inside : (draws (place + 1) : Nat) < entries.size := by omega
    unfold settle
    rw [ih (by omega) (by simp; omega)]
    simp only [Array.swapIfInBounds_def, within, inside, dif_pos, Array.getElem?_swap]
    rw [if_neg (by omega), if_neg (by omega)]

/-- Different draws lead to different orders, when nobody is there twice. The last place tells the
first draw, and so on down. -/
theorem eq_of_settle_eq (distinct : entries.toList.Nodup) (within : place < entries.size)
    (same : draws.settle place entries = draws'.settle place entries) :
    ∀ i ≤ place, draws i = draws' i := by
  induction place generalizing entries with
  | zero =>
    intro i upto
    obtain rfl := Nat.le_zero.1 upto
    exact (Fin.fin_one_eq_zero _).trans (Fin.fin_one_eq_zero _).symm
  | succ place ih =>
    unfold settle at same
    have last : entries[(draws (place + 1) : Nat)]? = entries[(draws' (place + 1) : Nat)]? := by
      have there := congrArg (fun a : Array α => a[place + 1]?) same
      rw [getElem?_settle (Nat.lt_succ_self _) (by simp; omega),
        getElem?_settle (Nat.lt_succ_self _) (by simp; omega),
        getElem?_swap_drawn within, getElem?_swap_drawn within] at there
      exact there
    have drawn : draws (place + 1) = draws' (place + 1) := by
      have inside := (draws (place + 1)).isLt
      refine Fin.ext ((List.getElem?_inj (by simp; omega) distinct).1 ?_)
      simpa using last
    rw [drawn] at same
    have swapped := perm_swapIfInBounds entries (place + 1) (draws' (place + 1))
    have earlier := ih (swapped.toList.nodup_iff.2 distinct) (by simp; omega) same
    intro i upto
    rcases Nat.le_succ_iff.1 upto with before | rfl
    · exact earlier i before
    · exact drawn

theorem shuffle_congr {entries : List α} (same : ∀ i < entries.length, draws i = draws' i) :
    draws.shuffle entries = draws'.shuffle entries := by
  cases entries with
  | nil => rfl
  | cons a l =>
    unfold shuffle
    rw [settle_congr fun i upto => same i (by simp at upto ⊢; omega)]

/-- Each order of a list comes of one sequence of draws. -/
theorem shuffle_injective {entries : List α} (distinct : entries.Nodup) :
    Function.Injective fun given : Upto entries.length => given.fill.shuffle entries := by
  intro given given' same
  funext ⟨place, within⟩
  have once : entries.toArray.toList.Nodup := distinct
  have settled := eq_of_settle_eq once (by simp; omega) (Array.toList_inj.1 same) place (by omega)
  rwa [given.fill_of_lt within, given'.fill_of_lt within] at settled

theorem image_shuffle [DecidableEq α] {entries : List α} (distinct : entries.Nodup) :
    Finset.univ.image (fun given : Upto entries.length => given.fill.shuffle entries) =
      entries.permutations.toFinset := by
  refine Finset.eq_of_subset_of_card_le ?_ ?_
  · intro l listed
    obtain ⟨given, -, rfl⟩ := Finset.mem_image.1 listed
    exact List.mem_toFinset.2 (List.mem_permutations.2 (perm_shuffle _ entries))
  · rw [Finset.card_image_of_injective _ (shuffle_injective distinct), Finset.card_univ, card_upto,
      List.toFinset_card_of_nodup (List.nodup_permutations _ distinct), List.length_permutations]

/-- As many sequences of draws lead to an order that is asked for as there are such orders. -/
theorem card_shuffles [DecidableEq α] {entries : List α} (distinct : entries.Nodup)
    (size : entries.length = n) (P : List α → Prop) [DecidablePred P] :
    (Finset.univ.filter fun given : Upto n => P (given.fill.shuffle entries)).card =
      (entries.permutations.toFinset.filter P).card := by
  subst size
  rw [← image_shuffle distinct, Finset.filter_image,
    Finset.card_image_of_injective _ (shuffle_injective distinct)]

end Draws

/-! ## Orders with a given beginning -/

section Beginnings

variable {α : Type} [DecidableEq α] {entries first : List α}

/-- What stands behind a beginning can be in any order. -/
theorem card_beginning (distinct : entries.Nodup) (once : first.Nodup)
    (among : ∀ a ∈ first, a ∈ entries) :
    (entries.permutations.toFinset.filter fun l => l.take first.length = first).card =
      (entries.length - first.length)! := by
  let rest := entries.filter (· ∉ first)
  have whole : (first ++ rest).Perm entries := by
    refine (List.perm_ext_iff_of_nodup ?_ distinct).2 ?_
    · refine List.nodup_append.2 ⟨once, distinct.filter _, ?_⟩
      rintro a before b after rfl
      simp [rest, before] at after
    · intro a
      simp only [rest, List.mem_append, List.mem_filter, decide_eq_true_eq]
      constructor
      · rintro (before | after)
        · exact among a before
        · exact after.1
      · intro listed
        by_cases before : a ∈ first
        · exact .inl before
        · exact .inr ⟨listed, before⟩
  have orders : (entries.permutations.toFinset.filter fun l => l.take first.length = first) =
      rest.permutations.toFinset.image (first ++ ·) := by
    ext l
    simp only [Finset.mem_filter, Finset.mem_image, List.mem_toFinset, List.mem_permutations]
    constructor
    · rintro ⟨order, begins⟩
      have split : first ++ l.drop first.length = l := by
        conv_rhs => rw [← List.take_append_drop first.length l, begins]
      refine ⟨l.drop first.length, ?_, split⟩
      rw [← List.perm_append_left_iff first, split]
      exact order.trans whole.symm
    · rintro ⟨after, order, rfl⟩
      exact ⟨((List.perm_append_left_iff first).2 order).trans whole, List.take_left⟩
  have size : rest.length = entries.length - first.length := by
    have length := whole.length_eq
    rw [List.length_append] at length
    omega
  rw [orders, Finset.card_image_of_injective _ (List.append_right_injective first),
    List.toFinset_card_of_nodup (List.nodup_permutations _ (distinct.filter _)),
    List.length_permutations, size]

/-- The beginnings with the same members are equally many, in each of their orders. -/
theorem card_beginning_of_members (distinct : entries.Nodup) {members : Finset α}
    (among : ∀ a ∈ members, a ∈ entries) :
    (entries.permutations.toFinset.filter fun l => (l.take members.card).toFinset = members).card =
      members.card ! * (entries.length - members.card)! := by
  let orders := members.toList.permutations.toFinset
  have mem_orders : ∀ first, first ∈ orders ↔ first.Perm members.toList := fun first => by
    simp [orders, List.mem_permutations]
  have size : orders.card = members.card ! := by
    rw [List.toFinset_card_of_nodup (List.nodup_permutations _ members.nodup_toList),
      List.length_permutations, Finset.length_toList]
  have begins : ∀ l ∈ entries.permutations.toFinset.filter
      (fun l => (l.take members.card).toFinset = members), l.take members.card ∈ orders := by
    intro l listed
    obtain ⟨order, same⟩ := Finset.mem_filter.1 listed
    have once : l.Nodup := (List.mem_permutations.1 (List.mem_toFinset.1 order)).nodup_iff.2 distinct
    refine (mem_orders _).2 (List.perm_of_nodup_nodup_toFinset_eq
      (once.sublist (List.take_sublist _ l)) members.nodup_toList ?_)
    rw [same, Finset.toList_toFinset]
  rw [Finset.card_eq_sum_card_fiberwise begins, ← size, ← smul_eq_mul, ← Finset.sum_const]
  refine Finset.sum_congr rfl fun first listed => ?_
  have order := (mem_orders first).1 listed
  have length : first.length = members.card := order.length_eq.trans members.length_toList
  have same : first.toFinset = members := by
    rw [List.toFinset_eq_of_perm _ _ order, Finset.toList_toFinset]
  rw [← length, ← card_beginning distinct (order.nodup_iff.2 members.nodup_toList) fun a there =>
    among a (Finset.mem_toList.1 (order.subset there)), Finset.filter_filter]
  congr 1
  refine Finset.filter_congr fun l _ => ?_
  constructor
  · exact fun h => h.2
  · intro begins
    exact ⟨by rw [begins, same], begins⟩

end Beginnings

/-! ## Choices -/

namespace Selection

variable (candidates : List User) (author : UserId) (out : List UserId) (count : Nat)

/-- In how many ways the draws for the eligible can go so that the choice is one of those asked
for. -/
def ways (P : List UserId → Prop) [DecidablePred P] : Nat :=
  (Finset.univ.filter fun given : Draws.Upto (pool candidates (author :: out)).card =>
    P (select given.fill candidates author out count)).card

variable {candidates author out count}

theorem perm_eligible :
    (eligible candidates author out).Perm (pool candidates (author :: out)).toList := by
  refine (List.perm_ext_iff_of_nodup nodup_eligibleFrom (Finset.nodup_toList _)).2 ?_
  intro user
  rw [Finset.mem_toList]
  exact mem_eligibleFrom

/-- The choices come out as often as orders of the eligible begin with them. -/
theorem ways_eq (P : List UserId → Prop) [DecidablePred P] :
    ways candidates author out count P =
      ((pool candidates (author :: out)).toList.permutations.toFinset.filter fun l =>
        P (l.take (min count (pool candidates (author :: out)).card))).card := by
  have size : (eligible candidates author out).length = (pool candidates (author :: out)).card :=
    length_eligible
  have same : (eligible candidates author out).permutations.toFinset =
      (pool candidates (author :: out)).toList.permutations.toFinset := by
    ext l
    simp only [List.mem_toFinset, List.mem_permutations]
    exact ⟨fun order => order.trans perm_eligible, fun order => order.trans perm_eligible.symm⟩
  have distinct : (eligible candidates author out).Nodup := nodup_eligibleFrom
  unfold ways select
  rw [Draws.card_shuffles distinct size fun l => P (l.take count), same]
  congr 1
  refine Finset.filter_congr fun l listed => ?_
  have length : l.length = (pool candidates (author :: out)).card := by
    rw [(List.mem_permutations.1 (List.mem_toFinset.1 listed)).length_eq, Finset.length_toList]
  rw [List.take_eq_take_min, length]

theorem ways_eq_chosen {chosen : List UserId} (once : chosen.Nodup)
    (among : ∀ user ∈ chosen, user ∈ pool candidates (author :: out))
    (length : chosen.length = min count (pool candidates (author :: out)).card) :
    ways candidates author out count (· = chosen) =
      ((pool candidates (author :: out)).card - chosen.length)! := by
  rw [ways_eq, ← length, card_beginning (Finset.nodup_toList _) once
    fun user listed => Finset.mem_toList.2 (among user listed), Finset.length_toList]

/-- The draws of a choice are one for each of the eligible, and every choice that can be made comes
of equally many. So each of the eligible comes first equally often, as many of them are taken
together equally often, and nothing else about the candidates, the author and those who are left
out has a part in it. -/
theorem choices_are_equally_likely (candidates : List User) (author : UserId)
    (out : List UserId) (count : Nat) :
    let E := pool candidates (author :: out)
    let k := min count E.card
    Fintype.card (Draws.Upto E.card) = E.card ! ∧
    (∀ draws : Draws, select draws candidates author out count =
      select (Draws.Upto.fill fun place : Fin E.card => draws place) candidates author out count) ∧
    (∀ chosen : List UserId, ways candidates author out count (· = chosen) =
      if chosen.Nodup ∧ (∀ user ∈ chosen, user ∈ E) ∧ chosen.length = k then (E.card - k)!
      else 0) ∧
    (0 < count → ∀ user ∈ E,
      ways candidates author out count (·.head? = some user) = (E.card - 1)!) ∧
    (∀ members ⊆ E, members.card = k →
      ways candidates author out count (·.toFinset = members) = k ! * (E.card - k)!) ∧
    ∀ candidates' author' out' count', pool candidates' (author' :: out') = E →
      min count' E.card = k → ∀ (P : List UserId → Prop) [DecidablePred P],
        ways candidates' author' out' count' P = ways candidates author out count P := by
  intro E k
  refine ⟨Draws.card_upto _, ?_, ?_, ?_, ?_, ?_⟩
  · intro draws
    unfold select
    rw [Draws.shuffle_congr]
    intro place within
    have inside : place < E.card := by
      rwa [length_eligible] at within
    rw [Draws.Upto.fill_of_lt _ inside]
  · intro chosen
    split
    · rename_i possible
      obtain ⟨once, among, length⟩ := possible
      rw [ways_eq_chosen once among length, length]
    · rename_i impossible
      refine Finset.card_eq_zero.2 (Finset.filter_eq_empty_iff.2 ?_)
      rintro given - rfl
      exact impossible ⟨nodup_select, fun user => mem_pool_of_mem_select, length_select⟩
  · intro asked user eligible
    have once : [user].Nodup := List.nodup_singleton user
    have first := card_beginning E.nodup_toList once fun u listed =>
      Finset.mem_toList.2 (List.mem_singleton.1 listed ▸ eligible)
    rw [Finset.length_toList, List.length_singleton] at first
    rw [ways_eq, ← first]
    congr 1
    refine Finset.filter_congr fun l listed => ?_
    have somebody : 0 < k := by
      have eligible := Finset.card_pos.2 ⟨user, eligible⟩
      exact Nat.lt_min.2 ⟨asked, eligible⟩
    rw [List.head?_take, if_neg (Nat.ne_of_gt somebody)]
    cases l <;> simp
  · intro members within size
    have beginnings := card_beginning_of_members E.nodup_toList fun user listed =>
      Finset.mem_toList.2 (within listed)
    rw [Finset.length_toList, size] at beginnings
    rw [ways_eq]
    exact beginnings
  · intro candidates' author' out' count' same taken P _
    rw [ways_eq, ways_eq, same, taken]

/-- Bea comes twice and dan is not active. Eve is left out, and so is ann, who is the author. -/
def crowd : List User :=
  [⟨⟨"bea"⟩, "bea", true, none⟩, ⟨⟨"dan"⟩, "dan", false, none⟩, ⟨⟨"ann"⟩, "ann", true, none⟩,
    ⟨⟨"cid"⟩, "cid", true, none⟩, ⟨⟨"bea"⟩, "bea", true, none⟩, ⟨⟨"eve"⟩, "eve", true, none⟩,
    ⟨⟨"fay"⟩, "fay", true, none⟩]

/-- Two of three are taken: each pair in one way for each order, and each first in two. -/
theorem crowd_is_equally_likely :
    pool crowd [⟨"ann"⟩, ⟨"eve"⟩] = {⟨"bea"⟩, ⟨"cid"⟩, ⟨"fay"⟩} ∧
    ways crowd ⟨"ann"⟩ [⟨"eve"⟩] 2 (· = [⟨"fay"⟩, ⟨"bea"⟩]) = 1 ∧
    ways crowd ⟨"ann"⟩ [⟨"eve"⟩] 2 (·.head? = some ⟨"cid"⟩) = 2 ∧
    ways crowd ⟨"ann"⟩ [⟨"eve"⟩] 2 (·.toFinset = {⟨"bea"⟩, ⟨"cid"⟩}) = 2 ∧
    ways crowd ⟨"ann"⟩ [⟨"eve"⟩] 2 (· = [⟨"fay"⟩, ⟨"bea"⟩]) =
      ways crowd.reverse ⟨"ann"⟩ [⟨"eve"⟩, ⟨"ann"⟩, ⟨"eve"⟩] 2 (· = [⟨"fay"⟩, ⟨"bea"⟩]) := by
  have eligible : pool crowd [⟨"ann"⟩, ⟨"eve"⟩] = {⟨"bea"⟩, ⟨"cid"⟩, ⟨"fay"⟩} := by decide
  obtain ⟨-, -, lists, firsts, pairs, -⟩ := choices_are_equally_likely crowd ⟨"ann"⟩ [⟨"eve"⟩] 2
  obtain ⟨-, -, -, -, -, others⟩ :=
    choices_are_equally_likely crowd.reverse ⟨"ann"⟩ [⟨"eve"⟩, ⟨"ann"⟩, ⟨"eve"⟩] 2
  refine ⟨eligible, ?_, ?_, ?_, ?_⟩
  · exact (lists _).trans (by decide)
  · exact (firsts (by decide) _ (by decide)).trans (by decide)
  · exact (pairs _ (by decide) (by decide)).trans (by decide)
  · exact others _ _ _ _ (by decide) (by decide) _

/-! ## What can be chosen -/

/-- Whatever may be chosen is chosen under some draws. -/
theorem exists_select {chosen : List UserId} (once : chosen.Nodup)
    (length : chosen.length = min count (pool candidates (author :: out)).card)
    (among : ∀ user ∈ chosen, user ∈ pool candidates (author :: out)) :
    ∃ draws, select draws candidates author out count = chosen := by
  have some_way : 0 < ways candidates author out count (· = chosen) := by
    rw [ways_eq_chosen once among length]
    exact Nat.factorial_pos _
  obtain ⟨given, way⟩ := Finset.card_pos.1 some_way
  exact ⟨given.fill, (Finset.mem_filter.1 way).2⟩

theorem exists_selectOne?_iff {user : UserId} :
    (∃ draws, selectOne? draws candidates author out = some user) ↔
      user ∈ pool candidates (author :: out) := by
  constructor
  · rintro ⟨draws, chosen⟩
    exact mem_pool_of_selectOne? chosen
  · intro eligible
    have somebody := Finset.card_pos.2 ⟨user, eligible⟩
    have one : [user].length = min 1 (pool candidates (author :: out)).card := by
      rw [List.length_singleton]
      omega
    obtain ⟨draws, chosen⟩ := exists_select (List.nodup_singleton user) one fun u listed =>
      List.mem_singleton.1 listed ▸ eligible
    refine ⟨draws, ?_⟩
    unfold selectOne?
    rw [chosen, List.head?_cons]

/-- Eligible is whoever is active under one entry at least, is not the author and is not left out.
Under all draws the choice has nobody twice and nobody else, and it is as long as it can be. Every
such list is chosen under some draws. Where one is chosen it is any of the eligible, and nobody
only where nobody is eligible. -/
theorem what_can_be_chosen (candidates : List User) (author : UserId) (out : List UserId)
    (count : Nat) :
    let E := pool candidates (author :: out)
    (∀ user, user ∈ E ↔
      (∃ c ∈ candidates, c.active = true ∧ c.id = user) ∧ user ≠ author ∧ user ∉ out) ∧
    (∀ draws, (select draws candidates author out count).Nodup ∧
      (select draws candidates author out count).length = min count E.card ∧
      ∀ user ∈ select draws candidates author out count, user ∈ E) ∧
    (∀ chosen : List UserId, chosen.Nodup → chosen.length = min count E.card →
      (∀ user ∈ chosen, user ∈ E) →
      ∃ draws, select draws candidates author out count = chosen) ∧
    (∀ draws, selectOne? draws candidates author out = none ↔ E = ∅) ∧
    ∀ user, (∃ draws, selectOne? draws candidates author out = some user) ↔ user ∈ E := by
  intro E
  refine ⟨?_, ?_, ?_, ?_, ?_⟩
  · intro user
    rw [mem_pool, List.mem_cons, not_or]
    constructor
    · rintro ⟨c, listed, active, rfl, free⟩
      exact ⟨⟨c, listed, active, rfl⟩, free⟩
    · rintro ⟨⟨c, listed, active, rfl⟩, free⟩
      exact ⟨c, listed, active, rfl, free⟩
  · intro draws
    exact ⟨nodup_select, length_select, fun user => mem_pool_of_mem_select⟩
  · intro chosen
    exact exists_select
  · intro draws
    exact selectOne?_eq_none_iff
  · intro user
    exact exists_selectOne?_iff

/-- All of three are taken where nine are asked for, fay and bea can be the two of them, and with
the three left out as well there is nobody. -/
theorem crowd_can_be_chosen :
    (∀ draws, (select draws crowd ⟨"ann"⟩ [⟨"eve"⟩] 9).length = 3) ∧
    (∃ draws, select draws crowd ⟨"ann"⟩ [⟨"eve"⟩] 2 = [⟨"fay"⟩, ⟨"bea"⟩]) ∧
    ∀ draws,
      selectOne? draws crowd ⟨"ann"⟩ [⟨"fay"⟩, ⟨"eve"⟩, ⟨"bea"⟩, ⟨"cid"⟩, ⟨"bea"⟩] = none := by
  obtain ⟨-, all, -⟩ := what_can_be_chosen crowd ⟨"ann"⟩ [⟨"eve"⟩] 9
  obtain ⟨-, -, pairs, -⟩ := what_can_be_chosen crowd ⟨"ann"⟩ [⟨"eve"⟩] 2
  obtain ⟨-, -, -, nobody, -⟩ := what_can_be_chosen crowd ⟨"ann"⟩
    [⟨"fay"⟩, ⟨"eve"⟩, ⟨"bea"⟩, ⟨"cid"⟩, ⟨"bea"⟩] 1
  refine ⟨?_, ?_, ?_⟩
  · intro draws
    obtain ⟨-, length, -⟩ := all draws
    exact length.trans (by decide)
  · exact pairs _ (by decide) (by decide) (by decide)
  · intro draws
    exact (nobody draws).2 (by decide)

end Selection

end ReviewDesk
