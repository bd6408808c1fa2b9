-- Texts between quotes. Whatever a text holds, it is written between its quotes as the grammar
-- allows, and so it is read back, and the reader stops behind it. So the JSON of one text never begins
-- like that of another.
import ReviewDesk.Json.Value
import ReviewDesk.Proofs.Tokens

namespace ReviewDesk.Json

variable {s t : String} {after after' : List Char}

theorem fourDigits_control {n : Nat} (low : n < 0x20) :
    FourDigits ['0', '0', Nat.digitChar (n / 16), Nat.digitChar (n % 16)] n := by
  have value : ((0 * 16 + 0) * 16 + n / 16) * 16 + n % 16 = n := by omega
  have zero : HexDigit '0' 0 := ⟨by decide, .inl rfl⟩
  have third : HexDigit (Nat.digitChar (n / 16)) (n / 16) := ⟨by omega, .inl rfl⟩
  have fourth : HexDigit (Nat.digitChar (n % 16)) (n % 16) := ⟨by omega, .inl rfl⟩
  have digits := FourDigits.intro zero zero third fourth
  rw [value] at digits
  exact digits

/-- Every character is written in one of the ways that there are. -/
theorem charText_escape (c : Char) : CharText (escape c) c := by
  unfold escape
  -- The seven characters with a short name come first.
  iterate 7
    split
    case isTrue same =>
      subst same
      exact .named (by decide)
  split
  case isTrue low => exact .numbered (fourDigits_control low)
  exact .plain ‹_› ‹_› (by omega)

theorem charsText_escape (cs : List Char) : CharsText (cs.flatMap escape) cs := by
  induction cs with
  | nil => exact .nil
  | cons c cs ih => exact .cons (charText_escape c) ih

theorem stringText_spells (s : String) : StringText (stringText s) s :=
  .intro (charsText_escape s.toList)

/-- A text in quotes tells where it ends. -/
theorem stringText_append_inj (same : stringText s ++ after = stringText t ++ after') :
    s = t ∧ after = after' := by
  obtain ⟨tail, text, read⟩ := (stringText_spells s).begins
  obtain ⟨tail', text', read'⟩ := (stringText_spells t).begins
  rw [text, text', List.cons_append, List.cons_append] at same
  have told := (read (after.map some)).1
  rw [← List.map_append, (List.cons.inj same).2, List.map_append, (read' _).1] at told
  obtain ⟨texts, rests⟩ := Prod.mk.inj (Except.ok.inj told)
  exact ⟨texts.symm, (List.map_inj_right (fun _ _ => Option.some.inj) |>.1 rests).symm⟩

end ReviewDesk.Json
