-- The choice of reviewers: who is eligible, how the eligible are shuffled, and how many
-- of them are taken. The draws that the shuffle uses are an argument, so that a choice
-- depends on nothing else.
import ReviewDesk.User

namespace ReviewDesk

/-- The draws of a shuffle. The draw for a place is one of the places up to it. -/
abbrev Draws := (place : Nat) → Fin (place + 1)

namespace Draws

/-- Settles a place and then each place before it: the entry at the drawn place comes here,
and the entry here goes there. -/
def settle {α : Type} (draws : Draws) : Nat → Array α → Array α
  | 0, entries => entries
  | place + 1, entries =>
    draws.settle place (entries.swapIfInBounds (place + 1) (draws (place + 1)))

/-- Shuffles a list, from its last place down. When all draws are equally likely, so are all
orders of the list. -/
def shuffle {α : Type} (draws : Draws) (entries : List α) : List α :=
  (draws.settle (entries.length - 1) entries.toArray).toList

end Draws

namespace Selection

/-- The active candidates who are not excluded, each once, in the order of the candidates. -/
def eligibleFrom (excluded : List UserId) : List User → List UserId
  | [] => []
  | candidate :: rest =>
    if candidate.active ∧ candidate.id ∉ excluded then
      candidate.id :: eligibleFrom (candidate.id :: excluded) rest
    else eligibleFrom excluded rest

/-- The active candidates who are neither the author nor excluded. -/
def eligible (candidates : List User) (author : UserId) (excluded : List UserId) :
    List UserId := eligibleFrom (author :: excluded) candidates

/-- Chooses up to `count` reviewers among the eligible. -/
def select (draws : Draws) (candidates : List User) (author : UserId)
    (excluded : List UserId) (count : Nat) : List UserId :=
  (draws.shuffle (eligible candidates author excluded)).take count

/-- Chooses one reviewer, if anybody is eligible. -/
def selectOne? (draws : Draws) (candidates : List User) (author : UserId)
    (excluded : List UserId) : Option UserId :=
  (select draws candidates author excluded 1).head?

end Selection

end ReviewDesk
