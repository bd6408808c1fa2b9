-- Texts with blanks around them, and the whole numbers that are read from between the blanks. What
-- is left of a text is told by its parts, and a number by its digits, not by how they are found.
import Mathlib.Data.List.DropRight
import Mathlib.Data.Nat.Digits.Defs
import ReviewDesk.Number.Unsigned
import ReviewDesk.Proofs.Grammar
import ReviewDesk.Text.Blank

namespace ReviewDesk

/-! ## Blanks at the ends -/

def AllBlank (cs : List Char) : Prop := ∀ c ∈ cs, isBlank c = true

instance (cs : List Char) : Decidable (AllBlank cs) := List.decidableBAll _ cs

/-- A text with blanks around its core, which neither begins nor ends with one. -/
inductive Trimmed : String → String → Prop where
  | intro {before core after : List Char} :
    AllBlank before → AllBlank after → (∀ c, core.head? = some c → isBlank c = false) →
      (∀ c, core.getLast? = some c → isBlank c = false) →
      Trimmed (String.ofList (before ++ core ++ after)) (String.ofList core)

section Blanks

variable {before core after : List Char} {text middle : String}

theorem isBlankText_iff : isBlankText text = true ↔ AllBlank text.toList := List.all_eq_true

theorem trimBlanks_eq (cs : List Char) :
    trimBlanks cs = (cs.dropWhile isBlank).rdropWhile isBlank := rfl

theorem rdropWhile_blanks (cs : List Char) (back : AllBlank after) :
    (cs ++ after).rdropWhile isBlank = cs.rdropWhile isBlank := by
  unfold List.rdropWhile
  rw [List.reverse_append, List.dropWhile_append_of_pos]
  intro c listed
  exact back c (List.mem_reverse.1 listed)

theorem trimBlanks_around (front : AllBlank before) (back : AllBlank after)
    (begins : ∀ c, core.head? = some c → isBlank c = false)
    (ends : ∀ c, core.getLast? = some c → isBlank c = false) :
    trimBlanks (before ++ core ++ after) = core := by
  rw [trimBlanks_eq, List.append_assoc, List.dropWhile_append_of_pos front]
  cases core with
  | nil =>
    rw [List.nil_append, List.dropWhile_eq_nil_iff.2 back]
    rfl
  | cons c cs =>
    rw [List.cons_append, List.dropWhile_cons_of_neg (by rw [begins c rfl]; decide),
      ← List.cons_append, rdropWhile_blanks _ back, List.rdropWhile_eq_self_iff]
    intro nonempty
    rw [ends _ (List.getLast?_eq_some_getLast nonempty)]
    decide

theorem head?_dropWhile (cs : List Char) {c : Char}
    (first : (cs.dropWhile isBlank).head? = some c) : isBlank c = false := by
  have stop := List.head?_dropWhile_not isBlank cs
  rw [first] at stop
  exact stop

theorem head?_trimBlanks (cs : List Char) {c : Char}
    (first : (trimBlanks cs).head? = some c) : isBlank c = false := by
  refine head?_dropWhile cs ?_
  obtain ⟨rest, whole⟩ := List.rdropWhile_prefix isBlank (cs.dropWhile isBlank)
  rw [trimBlanks_eq] at first
  rw [← whole, List.head?_append, first]
  rfl

theorem getLast?_trimBlanks (cs : List Char) {c : Char}
    (last : (trimBlanks cs).getLast? = some c) : isBlank c = false := by
  unfold trimBlanks at last
  rw [List.getLast?_reverse] at last
  exact head?_dropWhile _ last

theorem trimmed_trim (text : String) : Trimmed text (trim text) := by
  have front : AllBlank (text.toList.takeWhile isBlank) := fun c listed =>
    List.mem_takeWhile_imp listed
  have back : AllBlank ((text.toList.dropWhile isBlank).rtakeWhile isBlank) := fun c listed =>
    List.mem_rtakeWhile_imp listed
  have cut := Trimmed.intro front back (fun c => head?_trimBlanks text.toList)
    (fun c => getLast?_trimBlanks text.toList)
  -- What is taken off at the two ends and what is left make up the whole.
  rw [trimBlanks_eq, List.append_assoc, List.rdropWhile_append_rtakeWhile,
    List.takeWhile_append_dropWhile, String.ofList_toList] at cut
  exact cut

/-- Every text is cut in this way, and in no other. -/
theorem trim_eq_iff : trim text = middle ↔ Trimmed text middle := by
  constructor
  · rintro rfl
    exact trimmed_trim text
  · rintro ⟨front, back, begins, ends⟩
    unfold trim
    rw [String.toList_ofList, trimBlanks_around front back begins ends]

end Blanks

/-! ## Whole numbers -/

/-- Digits, with a plus before them or without, and the number that they make. -/
inductive WholeNumber : String → Nat → Prop where
  | intro {sign digits : List Char} :
    sign ∈ [[], ['+']] → Json.Digits digits →
      WholeNumber (String.ofList (sign ++ digits))
        (Nat.ofDigits 10 (digits.reverse.map fun c => c.toNat - '0'.toNat))

/-- A text that is a number up to a bound, the blanks around it apart. -/
def Fits (bound : Nat) (text : String) (n : Nat) : Prop :=
  ∃ middle, Trimmed text middle ∧ WholeNumber middle n ∧ n ≤ bound

namespace Unsigned

variable {bound n : Nat} {text : String} {digits : List Char}

theorem all_isDigit_iff : digits.all isDigit = true ↔ ∀ c ∈ digits, '0' ≤ c ∧ c ≤ '9' := by
  simp [isDigit]

theorem value_eq_ofDigits (digits : List Char) :
    value digits = Nat.ofDigits 10 (digits.reverse.map fun c => c.toNat - '0'.toNat) := by
  rw [Nat.ofDigits_eq_foldr, List.foldr_map, List.foldr_reverse]
  unfold value
  congr 1
  funext n c
  rw [Nat.add_comm, Nat.mul_comm]
  rfl

/-- The plus is taken off, and digits have none. -/
theorem unsigned_signed {sign : List Char} (isSign : sign ∈ [[], ['+']])
    (isDigits : Json.Digits digits) : unsigned (sign ++ digits) = digits := by
  simp only [List.mem_cons, List.not_mem_nil, or_false] at isSign
  rcases isSign with rfl | rfl
  · unfold unsigned
    split
    · rename_i rest same
      rw [List.nil_append] at same
      have plus := isDigits.2 '+' (same ▸ List.mem_cons_self)
      exact absurd plus (by decide)
    · rfl
  · rfl

theorem exists_sign (cs : List Char) : ∃ sign ∈ [[], ['+']], cs = sign ++ unsigned cs := by
  unfold unsigned
  split
  · exact ⟨['+'], by decide, rfl⟩
  · exact ⟨[], by decide, rfl⟩

theorem read?_eq_some_iff : read? bound text = some n ↔ WholeNumber text n ∧ n ≤ bound := by
  unfold read?
  simp only [Option.ite_none_right_eq_some, Option.some.injEq]
  constructor
  · rintro ⟨⟨nonempty, digits, small⟩, rfl⟩
    obtain ⟨sign, isSign, parts⟩ := exists_sign text.toList
    have number := WholeNumber.intro isSign ⟨nonempty, all_isDigit_iff.1 digits⟩
    rw [← parts, String.ofList_toList, ← value_eq_ofDigits] at number
    exact ⟨number, small⟩
  · rintro ⟨⟨isSign, digits⟩, small⟩
    rw [String.toList_ofList, unsigned_signed isSign digits, value_eq_ofDigits]
    exact ⟨⟨digits.1, all_isDigit_iff.2 digits.2, small⟩, rfl⟩

theorem read?_trim_eq_some_iff : read? bound (trim text) = some n ↔ Fits bound text n := by
  rw [read?_eq_some_iff]
  constructor
  · intro read
    exact ⟨trim text, trimmed_trim text, read⟩
  · rintro ⟨middle, trimmed, read⟩
    rw [trim_eq_iff.2 trimmed]
    exact read

end Unsigned

end ReviewDesk
