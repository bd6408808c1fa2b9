-- The readers of tokens. However a string is written, with whichever escapes, the same text is read,
-- and a numeral is passed over up to the first place that cannot belong to it.
import ReviewDesk.Json.Token
import ReviewDesk.Json.Skip
import ReviewDesk.Proofs.Grammar

namespace ReviewDesk.Json

variable {text more cs : List Char} {c : Char} {s : String} {rest : Input}

/-! ## Blanks -/

theorem isSpace_iff : isSpace (some c) = true ↔ c ∈ [' ', '\n', '\t', '\r'] := by
  simp [isSpace, or_assoc]

theorem skipBlanks_blanks (blanks : Blanks cs) (rest : Input) :
    skipBlanks (cs.map some ++ rest) = skipBlanks rest := by
  unfold skipBlanks
  rw [List.dropWhile_append_of_pos]
  intro place listed
  obtain ⟨c, here, rfl⟩ := List.mem_map.1 listed
  exact isSpace_iff.2 (blanks c here)

theorem skipBlanks_cons (solid : isSpace (some c) = false) (rest : Input) :
    skipBlanks (some c :: rest) = some c :: rest :=
  List.dropWhile_cons_of_neg (by rw [solid]; decide)

/-! ## Strings -/

theorem value?_digit : ∀ n < 16, Hex.value? (Nat.digitChar n) = some n := by decide

theorem value?_upperDigit : ∀ n < 16, Hex.value? (Nat.digitChar n).toUpper = some n := by decide

theorem HexDigit.value? {n : Nat} (digit : HexDigit c n) : hexValue? (some c) = some n := by
  obtain ⟨small, rfl | rfl⟩ := digit
  · exact value?_digit n small
  · exact value?_upperDigit n small

theorem FourDigits.places {n : Nat} (digits : FourDigits cs n) :
    ∃ a b c d, cs = [a, b, c, d] ∧ hexFour? (some a) (some b) (some c) (some d) = some n := by
  cases digits with
  | intro first second third fourth =>
    refine ⟨_, _, _, _, rfl, ?_⟩
    unfold hexFour?
    rw [first.value?, second.value?, third.value?, fourth.value?]

theorem not_surrogate (c : Char) :
    isLowSurrogate c.toNat = false ∧ isHighSurrogate c.toNat = false := by
  have valid : c.toNat < 0xd800 ∨ 0xdfff < c.toNat := c.valid.imp id And.left
  simp only [isLowSurrogate, isHighSurrogate, Bool.and_eq_false_iff, decide_eq_false_iff_not]
  omega

theorem ofSurrogates_eq {high low : Nat} (number : c.toNat = 0x10000 + high * 0x400 + low) :
    ofSurrogates (0xd800 + high) (0xdc00 + low) = c := by
  unfold ofSurrogates
  have same : (0xd800 + high - 0xd800) * 0x400 + (0xdc00 + low - 0xdc00) + 0x10000 = c.toNat := by
    omega
  rw [same, Char.ofNat_toNat]

theorem escaped?_letters {letter : Char} (listed : (letter, c) ∈ letters) :
    letter ≠ 'u' ∧ escaped? letter = some c := by
  have each : ∀ entry ∈ letters, entry.1 ≠ 'u' ∧ escaped? entry.1 = some entry.2 := by decide
  exact each _ listed

/-- A character is read, whichever way it is written. -/
theorem readChars_charText (written : CharText text c) (done : List Char) (rest : Input) :
    readChars done true (text.map some ++ rest) = readChars (c :: done) true rest := by
  cases written with
  | plain quote backslash high =>
    simp only [List.map_cons, List.map_nil, List.cons_append, List.nil_append]
    rw [readChars.eq_def]
    dsimp only
    rw [if_neg quote, if_neg backslash, if_neg (by omega)]
  | named listed =>
    obtain ⟨other, value⟩ := escaped?_letters listed
    simp only [List.map_cons, List.map_nil, List.cons_append, List.nil_append]
    rw [readChars.eq_def]
    dsimp only
    rw [if_neg (by decide), if_pos rfl, if_neg other, value]
  | numbered digits =>
    obtain ⟨p, q, r, s, rfl, value⟩ := digits.places
    simp only [List.map_cons, List.map_nil, List.cons_append, List.nil_append, readChars]
    simp [value, not_surrogate c]
  | @paired digits more high low _ first second highSmall lowSmall number =>
    obtain ⟨p, q, r, s, rfl, firstValue⟩ := first.places
    obtain ⟨p', q', r', s', rfl, secondValue⟩ := second.places
    have isHigh : isHighSurrogate (0xd800 + high) = true := by
      simp only [isHighSurrogate, Bool.and_eq_true, decide_eq_true_eq]
      omega
    have notLow : isLowSurrogate (0xd800 + high) = false := by
      simp only [isLowSurrogate, Bool.and_eq_false_iff, decide_eq_false_iff_not]
      omega
    have isLow : isLowSurrogate (0xdc00 + low) = true := by
      simp only [isLowSurrogate, Bool.and_eq_true, decide_eq_true_eq]
      omega
    simp only [List.map_cons, List.map_nil, List.cons_append, List.nil_append, readChars]
    simp [firstValue, secondValue, isHigh, notLow, isLow, ofSurrogates_eq number]

/-- A character is passed over, whichever way it is written. -/
theorem skipChars_charText (written : CharText text c) (rest : Input) :
    skipChars (text.map some ++ rest) = skipChars rest := by
  cases written with
  | plain quote backslash high =>
    simp only [List.map_cons, List.map_nil, List.cons_append, List.nil_append]
    rw [skipChars.eq_def]
    dsimp only
    rw [if_neg quote, if_neg backslash, if_neg (by omega)]
  | named listed =>
    obtain ⟨other, value⟩ := escaped?_letters listed
    simp only [List.map_cons, List.map_nil, List.cons_append, List.nil_append]
    rw [skipChars.eq_def]
    dsimp only
    rw [if_neg (by decide), if_pos rfl, if_neg other, value]
    rfl
  | numbered digits =>
    obtain ⟨p, q, r, s, rfl, value⟩ := digits.places
    simp only [List.map_cons, List.map_nil, List.cons_append, List.nil_append, skipChars]
    simp [value]
  | paired first second _ _ _ =>
    obtain ⟨p, q, r, s, rfl, firstValue⟩ := first.places
    obtain ⟨p', q', r', s', rfl, secondValue⟩ := second.places
    simp only [List.map_cons, List.map_nil, List.cons_append, List.nil_append, skipChars]
    simp [firstValue, secondValue]

theorem readChars_charsText (written : CharsText text cs) (done : List Char) (rest : Input) :
    readChars done true (text.map some ++ some '"' :: rest) =
      .ok (String.ofList (done.reverse ++ cs), rest) := by
  induction written generalizing done with
  | nil =>
    unfold readChars
    simp
  | cons first _ ih =>
    rw [List.map_append, List.append_assoc, readChars_charText first, ih, List.reverse_cons,
      List.append_assoc]
    rfl

theorem skipChars_charsText (written : CharsText text cs) (rest : Input) :
    skipChars (text.map some ++ some '"' :: rest) = .ok rest := by
  induction written with
  | nil =>
    unfold skipChars
    simp
  | cons first _ ih => rw [List.map_append, List.append_assoc, skipChars_charText first, ih]

/-- A string begins with a quote, behind which it is read and passed over. -/
theorem StringText.begins (written : StringText text s) :
    ∃ tail, text = '"' :: tail ∧ ∀ rest : Input,
      readChars [] true (tail.map some ++ rest) = .ok (s, rest) ∧
        skipChars (tail.map some ++ rest) = .ok rest := by
  cases written with
  | @intro inner _ chars =>
    refine ⟨inner ++ ['"'], rfl, fun rest => ?_⟩
    rw [List.map_append, List.append_assoc]
    refine ⟨?_, skipChars_charsText chars rest⟩
    have read := readChars_charsText chars [] rest
    rw [List.reverse_nil, List.nil_append, String.ofList_toList] at read
    exact read

/-! ## Numerals -/

/-- A text that no numeral goes on with. -/
structure Stops (rest : Input) : Prop where
  noDigit : startsWithDigit rest = false
  noPoint : rest.head? ≠ some (some '.')
  noMark : rest.head? ≠ some (some 'e') ∧ rest.head? ≠ some (some 'E')

theorem isDigitPlace_iff : isDigitPlace (some c) = true ↔ '0' ≤ c ∧ c ≤ '9' := by
  simp [isDigitPlace, Unsigned.isDigit]

theorem Digits.begins (digits : Digits cs) :
    ∃ c tail, cs = c :: tail ∧ ('0' ≤ c ∧ c ≤ '9') ∧ ∀ d ∈ tail, '0' ≤ d ∧ d ≤ '9' := by
  obtain ⟨nonempty, each⟩ := digits
  cases cs with
  | nil => exact absurd rfl nonempty
  | cons c cs => exact ⟨c, cs, rfl, each c List.mem_cons_self, fun d here => each d (.tail _ here)⟩

theorem startsWithDigit_digits (digits : Digits cs) (rest : Input) :
    startsWithDigit (cs.map some ++ rest) = true := by
  obtain ⟨c, tail, rfl, digit, -⟩ := digits.begins
  exact isDigitPlace_iff.2 digit

/-- Digits are passed over up to the first place that is none. -/
theorem skipDigits_digits (digits : ∀ c ∈ cs, '0' ≤ c ∧ c ≤ '9')
    (stop : startsWithDigit rest = false) : skipDigits (cs.map some ++ rest) = rest := by
  unfold skipDigits
  rw [List.dropWhile_append_of_pos]
  · cases rest with
    | nil => rfl
    | cons place rest => exact List.dropWhile_cons_of_neg (Bool.eq_false_iff.1 stop)
  · intro place listed
    obtain ⟨c, here, rfl⟩ := List.mem_map.1 listed
    exact isDigitPlace_iff.2 (digits c here)

theorem skipSign_digits {sign : List Char} (isSign : sign ∈ [[], ['+'], ['-']])
    (digits : Digits cs) (rest : Input) :
    skipSign (sign.map some ++ (cs.map some ++ rest)) = cs.map some ++ rest := by
  simp only [List.mem_cons, List.not_mem_nil, or_false] at isSign
  rcases isSign with rfl | rfl | rfl
  · obtain ⟨c, tail, rfl, digit, -⟩ := digits.begins
    simp only [List.map_nil, List.nil_append, List.map_cons, List.cons_append]
    -- A digit is no sign.
    unfold skipSign
    split
    · rename_i same
      cases same
      exact absurd digit (by decide)
    · rename_i same
      cases same
      exact absurd digit (by decide)
    · rfl
  · rfl
  · rfl

theorem skipExponent_text (written : Exponent cs) (stops : Stops rest) :
    skipExponent (cs.map some ++ rest) = .ok rest := by
  cases written with
  | absent =>
    cases rest with
    | nil => rfl
    | cons place rest =>
      obtain ⟨small, large⟩ := stops.noMark
      refine if_neg fun mark => ?_
      rcases mark with rfl | rfl
      · exact small rfl
      · exact large rfl
  | @present mark sign digits isMark isSign isDigits =>
    simp only [List.map_cons, List.cons_append, List.map_append, List.append_assoc]
    rw [skipExponent, skipSign_digits isSign isDigits, if_pos (by simpa using isMark),
      if_pos (startsWithDigit_digits isDigits rest), skipDigits_digits isDigits.2 stops.noDigit]

/-- An exponent begins with its mark, if there is one. -/
theorem Exponent.begins (written : Exponent cs) (stops : Stops rest) :
    startsWithDigit (cs.map some ++ rest) = false ∧
      (cs.map some ++ rest).head? ≠ some (some '.') := by
  cases written with
  | absent => exact ⟨stops.noDigit, stops.noPoint⟩
  | present isMark _ _ =>
    simp only [List.mem_cons, List.not_mem_nil, or_false] at isMark
    rcases isMark with rfl | rfl <;> exact ⟨rfl, by simp⟩

theorem skipFraction_text {fraction : List Char} (writtenFraction : Fraction fraction)
    (writtenExponent : Exponent cs) (stops : Stops rest) :
    skipFraction (fraction.map some ++ (cs.map some ++ rest)) = .ok rest := by
  obtain ⟨noDigit, noPoint⟩ := writtenExponent.begins stops
  have passed := skipExponent_text writtenExponent stops
  generalize cs.map some ++ rest = after at noDigit noPoint passed
  cases writtenFraction with
  | absent =>
    cases after with
    | nil => exact passed
    | cons place after => exact Eq.trans (if_neg fun point => noPoint (congrArg some point)) passed
  | present digits =>
    simp only [List.map_cons, List.cons_append]
    rw [skipFraction, if_pos rfl, if_pos (startsWithDigit_digits digits after),
      skipDigits_digits digits.2 noDigit, passed]

/-- No digit follows the whole part of a numeral. -/
theorem startsWithDigit_afterWhole {fraction : List Char} (writtenFraction : Fraction fraction)
    (writtenExponent : Exponent cs) (stops : Stops rest) :
    startsWithDigit (fraction.map some ++ (cs.map some ++ rest)) = false := by
  cases writtenFraction with
  | absent => exact (writtenExponent.begins stops).1
  | present _ => rfl

theorem skipNumeral_text {whole fraction exponent : List Char} (isWhole : Whole whole)
    (writtenFraction : Fraction fraction) (writtenExponent : Exponent exponent)
    (stops : Stops rest) :
    skipNumeral (whole.map some ++ (fraction.map some ++ (exponent.map some ++ rest))) =
      .ok rest := by
  have passed := skipFraction_text writtenFraction writtenExponent stops
  have stop := startsWithDigit_afterWhole writtenFraction writtenExponent stops
  generalize fraction.map some ++ (exponent.map some ++ rest) = after at passed stop
  obtain ⟨digits, alone⟩ := isWhole
  obtain ⟨c, tail, rfl, digit, more⟩ := digits.begins
  simp only [List.map_cons, List.cons_append]
  rw [skipNumeral]
  by_cases zero : c = '0'
  · subst zero
    cases alone rfl
    rw [if_pos rfl, List.map_nil, List.nil_append, stop]
    exact passed
  · rw [if_neg (by simpa using zero), if_pos (isDigitPlace_iff.2 digit),
      skipDigits_digits more stop, passed]

/-- A numeral begins with a minus or a digit, behind which it is passed over. -/
theorem NumeralText.begins (written : NumeralText cs) :
    ∃ c tail, cs = c :: tail ∧ (c = '-' ∨ '0' ≤ c ∧ c ≤ '9') ∧ ∀ rest, Stops rest →
      skipScalar (some c) (tail.map some ++ rest) = .ok rest := by
  cases written with
  | @intro minus whole fraction exponent isMinus isWhole writtenFraction writtenExponent =>
    have passed : ∀ rest, Stops rest →
        skipNumeral ((whole ++ fraction ++ exponent).map some ++ rest) = .ok rest := by
      intro rest stops
      simp only [List.map_append, List.append_assoc]
      exact skipNumeral_text isWhole writtenFraction writtenExponent stops
    simp only [List.mem_cons, List.not_mem_nil, or_false] at isMinus
    rcases isMinus with rfl | rfl
    · obtain ⟨c, tail, rfl, digit, -⟩ := isWhole.1.begins
      refine ⟨c, _, rfl, .inr digit, fun rest stops => ?_⟩
      unfold skipScalar
      rw [if_neg, if_neg, if_pos (isDigitPlace_iff.2 digit)]
      · exact passed rest stops
      · rintro ⟨⟩
        exact absurd digit (by decide)
      · rintro ⟨⟩
        exact absurd digit (by decide)
    · exact ⟨'-', _, rfl, .inl rfl, passed⟩

/-! ## Words -/

theorem readWord_text (word : List Char) (rest : Input) :
    readWord word (word.map some ++ rest) = .ok rest := by
  induction word with
  | nil => rfl
  | cons c word ih =>
    simp only [List.map_cons, List.cons_append]
    rw [readWord, if_pos rfl, ih]

end ReviewDesk.Json
