-- Values in the query of a request. A value is spelled as forms spell it, and the query gives it
-- back, whatever it holds.
import Mathlib.Data.List.TakeWhile
import ReviewDesk.Http.Request
import ReviewDesk.Proofs.Spelling

namespace ReviewDesk

/-! ## Spelling a value -/

namespace Url

/-- The escaping of a value of a form. It escapes whatever would end the value, begin an escape or
be taken for a space. -/
structure SpellsValues (isSpecial : Char → Bool) : Prop where
  percent : isSpecial '%' = true
  plus : isSpecial '+' = true
  ampersand : isSpecial '&' = true
  hash : isSpecial '#' = true

/-- Whether a form escapes a character. It keeps letters, digits, four marks and the space. -/
def formSpecial (c : Char) : Bool :=
  !(c.isAlphanum || c = '*' || c = '-' || c = '.' || c = '_' || c = ' ')

theorem spellsValues_formSpecial : SpellsValues formSpecial := ⟨rfl, rfl, rfl, rfl⟩

variable {isSpecial : Char → Bool} {cs : List Char} {c : Char}

/-- A value as a form spells it. A space that is not escaped becomes a plus sign. -/
def formEscape (isSpecial : Char → Bool) (cs : List Char) : List Char :=
  (escape isSpecial cs).map fun c => if c = ' ' then '+' else c

theorem ascii_of_mem_escape (listed : c ∈ escape isSpecial cs) : c.toNat < 0x80 := by
  unfold escape at listed
  obtain ⟨d, -, spelled⟩ := List.mem_flatMap.1 listed
  split at spelled
  · obtain ⟨b, -, byte⟩ := List.mem_flatMap.1 spelled
    have small : b.toNat < 256 := b.toNat_lt
    simp only [escapeByte, List.mem_cons, List.not_mem_nil, or_false] at byte
    rcases byte with rfl | rfl | rfl
    · decide
    · exact Percent.ascii_hexDigit _ (by omega)
    · exact Percent.ascii_hexDigit _ (by omega)
  · rename_i plain
    cases List.mem_singleton.1 spelled
    simp only [Bool.or_eq_true, decide_eq_true_eq, not_or, not_le] at plain
    exact plain.2

theorem ascii_of_mem_formEscape (listed : c ∈ formEscape isSpecial cs) : c.toNat < 0x80 := by
  obtain ⟨d, spelled, rfl⟩ := List.mem_map.1 listed
  split
  · decide
  · exact ascii_of_mem_escape spelled

/-- What ends a value does not stand in it. -/
theorem SpellsValues.one_value (h : SpellsValues isSpecial) (cs : List Char) :
    '&' ∉ formEscape isSpecial cs ∧ '#' ∉ formEscape isSpecial cs := by
  have kept : ∀ c : Char, isSpecial c = true → c ≠ '%' → c ≠ '+' →
      (∀ n < 16, c ≠ hexDigit n) → c ∉ formEscape isSpecial cs := by
    intro c special percent plus digit listed
    obtain ⟨d, spelled, same⟩ := List.mem_map.1 listed
    split at same
    · exact plus same.symm
    · exact not_mem_escape special percent digit (same ▸ spelled)
  exact ⟨kept _ h.ampersand (by decide) (by decide) (by decide),
    kept _ h.hash (by decide) (by decide) (by decide)⟩

end Url

namespace Percent

variable {isSpecial : Char → Bool} {cs : List Char} {c d : Char}

/-! ## Reading it back -/

/-- The byte of an ASCII character. -/
def byteOf (c : Char) : UInt8 := UInt8.ofNat c.toNat

theorem bytes_of_asciis (ascii : ∀ c ∈ cs, c.toNat < 0x80) :
    cs.flatMap String.utf8EncodeChar = cs.map byteOf := by
  induction cs with
  | nil => rfl
  | cons c cs ih =>
    obtain ⟨here, later⟩ := List.forall_mem_cons.1 ascii
    rw [List.flatMap_cons, bytes_of_ascii here, ih later]
    rfl

theorem byteOf_inj (ascii : c.toNat < 0x80) (ascii' : d.toNat < 0x80)
    (same : byteOf c = byteOf d) : c = d := by
  have code := congrArg UInt8.toNat same
  unfold byteOf at code
  rw [UInt8.toNat_ofNat_of_lt' (ascii.trans (by decide)),
    UInt8.toNat_ofNat_of_lt' (ascii'.trans (by decide))] at code
  rw [← Char.ofNat_toNat c, code, Char.ofNat_toNat]

theorem not_mem_map_byteOf (ascii : ∀ c ∈ cs, c.toNat < 0x80) (ascii' : d.toNat < 0x80)
    (free : d ∉ cs) : byteOf d ∉ cs.map byteOf := by
  intro listed
  obtain ⟨c, here, same⟩ := List.mem_map.1 listed
  exact free (byteOf_inj (ascii c here) ascii' same ▸ here)

/-- A value is read back as a text. -/
theorem formText_formEscape (spells : Url.SpellsValues isSpecial) (cs : List Char) :
    formText ((Url.formEscape isSpecial cs).map byteOf) = String.ofList cs := by
  have plus : '+' ∉ Url.escape isSpecial cs :=
    Url.not_mem_escape spells.plus (by decide) (by decide)
  -- A plus sign is one of the spaces.
  have spaces : ((Url.formEscape isSpecial cs).map byteOf).map
      (fun b => if b = 0x2b then 0x20 else b) = (Url.escape isSpecial cs).map byteOf := by
    unfold Url.formEscape
    rw [List.map_map, List.map_map]
    refine List.map_congr_left fun c listed => ?_
    have ascii := Url.ascii_of_mem_escape listed
    dsimp only [Function.comp_apply]
    split
    · rename_i space
      rw [space]
      rfl
    · have other : byteOf c ≠ 0x2b := by
        intro same
        have sign : c = '+' := byteOf_inj ascii (by decide) same
        exact plus (sign ▸ listed)
      rw [if_neg other]
  unfold formText
  rw [spaces, ← bytes_of_asciis fun c => Url.ascii_of_mem_escape, decode_escape spells.percent]
  unfold Utf8.decodeLossy
  rw [Utf8.decode_bytes, List.map_map]
  exact congrArg String.ofList (List.map_id cs)

end Percent

/-! ## Pairs -/

theorem cutAt_of_not_mem {α : Type} [DecidableEq α] {separator : α} {l : List α}
    (free : separator ∉ l) : cutAt separator l = [l] := by
  induction l with
  | nil => rfl
  | cons a l ih =>
    obtain ⟨here, later⟩ := not_or.1 (mt List.mem_cons.2 free)
    unfold cutAt
    rw [if_neg (Ne.symm here), ih later]

namespace Percent

/-- A name and a value make one pair. -/
theorem formPairs_pair {name value : List Char} (ascii : ∀ c ∈ name ++ '=' :: value, c.toNat < 0x80)
    (one : '&' ∉ name ++ '=' :: value) (first : '=' ∉ name) :
    formPairs (String.ofList (name ++ '=' :: value)) =
      [(formText (name.map byteOf), formText (value.map byteOf))] := by
  have parts : (name ++ '=' :: value).map byteOf = name.map byteOf ++ 0x3d :: value.map byteOf := by
    rw [List.map_append, List.map_cons]
    rfl
  have whole : 0x26 ∉ name.map byteOf ++ 0x3d :: value.map byteOf := by
    rw [← parts]
    exact not_mem_map_byteOf (d := '&') ascii (by decide) one
  have before : ∀ b ∈ name.map byteOf, decide (b ≠ 0x3d) = true := by
    intro b listed
    have free : 0x3d ∉ name.map byteOf :=
      not_mem_map_byteOf (d := '=') (fun c here => ascii c (List.mem_append_left _ here))
        (by decide) first
    exact decide_eq_true fun same => free (same ▸ listed)
  unfold formPairs
  have given : [name.map byteOf ++ 0x3d :: value.map byteOf].filter (· ≠ []) =
      [name.map byteOf ++ 0x3d :: value.map byteOf] := by simp
  rw [Utf8.encode_ofList, bytes_of_asciis ascii, parts, cutAt_of_not_mem whole, given,
    List.map_singleton]
  unfold formPair
  rw [List.takeWhile_append_of_pos before, List.dropWhile_append_of_pos before,
    List.takeWhile_cons_of_neg (by decide), List.dropWhile_cons_of_neg (by decide), List.append_nil]
  rfl

end Percent

end ReviewDesk
