-- The tokens of JSON, read from the left: blanks, words, strings and numerals. The
-- first problem from the left decides how a text is refused.
import ReviewDesk.Number.Binary64
import ReviewDesk.Number.Unsigned
import ReviewDesk.Text.Hex

namespace ReviewDesk.Json

/-- Why a text is refused: it holds JSON of the wrong kind, it is no JSON, or it ends too
early. -/
inductive Refusal where
  | mismatch
  | malformed
  | truncated
  deriving DecidableEq, Repr

/-- The places of a text. A place is `none` when its bytes are no character. -/
abbrev Input := List (Option Char)

/-- A text without damaged places. -/
def input (text : String) : Input := text.toList.map some

/-! ## Blanks and words -/

def isSpace : Option Char → Bool
  | some c => c = ' ' || c = '\n' || c = '\t' || c = '\r'
  | none => false

/-- What is left after the blanks at the front. -/
def skipBlanks (cs : Input) : Input := cs.dropWhile isSpace

theorem length_skipBlanks_le (cs : Input) : (skipBlanks cs).length ≤ cs.length :=
  (List.dropWhile_sublist _).length_le

/-- Reads the rest of a word. -/
def readWord : List Char → Input → Except Refusal Input
  | [], cs => .ok cs
  | _ :: _, [] => .error .truncated
  | w :: word, c :: cs => if c = some w then readWord word cs else .error .malformed

theorem length_readWord_le {word : List Char} {cs rest : Input} (h : readWord word cs = .ok rest) :
    rest.length ≤ cs.length := by
  induction word generalizing cs with
  | nil => simp_all [readWord]
  | cons w word ih =>
    cases cs with
    | nil => simp [readWord] at h
    | cons c cs =>
      simp only [readWord] at h
      split at h
      · exact Nat.le_succ_of_le (ih h)
      · simp at h

/-! ## Strings -/

/-- The value of a hexadecimal digit. A damaged place is none. -/
def hexValue? (c : Option Char) : Option Nat := c.bind Hex.value?

/-- The value of four hexadecimal digits. -/
def hexFour? (a b c d : Option Char) : Option Nat :=
  match hexValue? a, hexValue? b, hexValue? c, hexValue? d with
  | some a, some b, some c, some d => some (((a * 16 + b) * 16 + c) * 16 + d)
  | _, _, _, _ => none

/-- The bytes that the places of a text take, a damaged place counting as one. -/
def byteSize : Input → Nat
  | [] => 0
  | none :: cs => 1 + byteSize cs
  | some c :: cs => c.utf8Size + byteSize cs

/-- How a text is refused that holds fewer than the four places that an escape needs. It
ends too early unless these places are four bytes all the same. -/
def shortEscape (cs : Input) : Refusal := if byteSize cs < 4 then .truncated else .malformed

/-- The character that a one-letter escape stands for. -/
def escaped? (c : Char) : Option Char :=
  if c = '"' ∨ c = '\\' ∨ c = '/' then some c
  else if c = 'b' then some '\x08'
  else if c = 'f' then some '\x0c'
  else if c = 'n' then some '\n'
  else if c = 'r' then some '\r'
  else if c = 't' then some '\t'
  else none

def isHighSurrogate (n : Nat) : Bool := 0xd800 ≤ n && n ≤ 0xdbff

def isLowSurrogate (n : Nat) : Bool := 0xdc00 ≤ n && n ≤ 0xdfff

/-- The character of a pair of surrogates. -/
def ofSurrogates (high low : Nat) : Char :=
  Char.ofNat ((high - 0xd800) * 0x400 + (low - 0xdc00) + 0x10000)

/-- Reads a string after its first quote. `done` is what was read of it, last first, and a
string with a damaged place is refused at its end. -/
def readChars (done : List Char) (sound : Bool) : Input → Except Refusal (String × Input)
  | [] => .error .truncated
  | none :: cs => readChars done false cs
  | some c :: cs =>
    if c = '"' then
      if sound then .ok (String.ofList done.reverse, cs) else .error .malformed
    else if c = '\\' then
      match cs with
      | [] => .error .truncated
      | none :: _ => .error .malformed
      | some e :: cs =>
        if e = 'u' then
          match cs with
          | a :: b :: c :: d :: cs =>
            match hexFour? a b c d with
            | none => .error .malformed
            | some n =>
              if isLowSurrogate n then .error .malformed
              else if isHighSurrogate n then
                match cs with
                | [] => .error .truncated
                | mark :: cs =>
                  if mark = some '\\' then
                    match cs with
                    | [] => .error .truncated
                    | letter :: cs =>
                      if letter = some 'u' then
                        match cs with
                        | a :: b :: c :: d :: cs =>
                          match hexFour? a b c d with
                          | none => .error .malformed
                          | some low =>
                            if isLowSurrogate low then
                              readChars (ofSurrogates n low :: done) sound cs
                            else .error .malformed
                        | cs => .error (shortEscape cs)
                      else .error .malformed
                  else .error .malformed
              else readChars (Char.ofNat n :: done) sound cs
          | cs => .error (shortEscape cs)
        else
          match escaped? e with
          | some c => readChars (c :: done) sound cs
          | none => .error .malformed
    else if c.toNat < 0x20 then .error .malformed
    else readChars (c :: done) sound cs

/-- Passes over a string after its first quote. Its escapes need digits but no sense. -/
def skipChars : Input → Except Refusal Input
  | [] => .error .truncated
  | none :: cs => skipChars cs
  | some c :: cs =>
    if c = '"' then .ok cs
    else if c = '\\' then
      match cs with
      | [] => .error .truncated
      | none :: _ => .error .malformed
      | some e :: cs =>
        if e = 'u' then
          match cs with
          | a :: b :: c :: d :: cs =>
            if (hexFour? a b c d).isSome then skipChars cs else .error .malformed
          | cs => .error (shortEscape cs)
        else if (escaped? e).isSome then skipChars cs
        else .error .malformed
    else if c.toNat < 0x20 then .error .malformed
    else skipChars cs

theorem length_readChars_lt {done : List Char} {sound : Bool} {cs rest : Input} {s : String}
    (h : readChars done sound cs = .ok (s, rest)) : rest.length < cs.length := by
  fun_induction readChars done sound cs <;> simp_all <;> omega

theorem length_skipChars_lt {cs rest : Input} (h : skipChars cs = .ok rest) :
    rest.length < cs.length := by
  fun_induction skipChars cs <;> simp_all <;> omega

/-! ## Numerals -/

def isDigitPlace : Option Char → Bool
  | some c => Unsigned.isDigit c
  | none => false

/-- The digits at the front. -/
def frontDigits (cs : Input) : List Char := (cs.takeWhile isDigitPlace).filterMap id

/-- What is left after the digits at the front. -/
def skipDigits (cs : Input) : Input := cs.dropWhile isDigitPlace

def startsWithDigit (cs : Input) : Bool := (cs.head?.map isDigitPlace).getD false

/-- What is left after a sign at the front. -/
def skipSign : Input → Input
  | some '+' :: cs => cs
  | some '-' :: cs => cs
  | cs => cs

theorem length_skipDigits_le (cs : Input) : (skipDigits cs).length ≤ cs.length :=
  (List.dropWhile_sublist _).length_le

theorem length_skipSign_le (cs : Input) : (skipSign cs).length ≤ cs.length := by
  unfold skipSign; split <;> simp

/-- Passes over an exponent, if there is one. -/
def skipExponent : Input → Except Refusal Input
  | c :: cs =>
    if c = some 'e' ∨ c = some 'E' then
      if startsWithDigit (skipSign cs) then .ok (skipDigits (skipSign cs)) else .error .malformed
    else .ok (c :: cs)
  | [] => .ok []

/-- Passes over a fraction and an exponent, if there are any. -/
def skipFraction : Input → Except Refusal Input
  | c :: cs =>
    if c = some '.' then
      if startsWithDigit cs then skipExponent (skipDigits cs) else .error .malformed
    else skipExponent (c :: cs)
  | [] => .ok []

/-- Passes over a numeral after its minus. Here a numeral that ends too early is refused
like any other that is none. -/
def skipNumeral : Input → Except Refusal Input
  | c :: cs =>
    if c = some '0' then
      if startsWithDigit cs then .error .malformed else skipFraction cs
    else if isDigitPlace c then skipFraction (skipDigits cs)
    else .error .malformed
  | [] => .error .malformed

theorem length_skipExponent_le {cs rest : Input} (h : skipExponent cs = .ok rest) :
    rest.length ≤ cs.length := by
  cases cs with
  | nil => simp_all [skipExponent]
  | cons c cs =>
    have hd := length_skipDigits_le (skipSign cs)
    have hs := length_skipSign_le cs
    simp only [skipExponent] at h
    split at h
    · split at h
      · cases h
        simp
        omega
      · cases h
    · cases h
      exact Nat.le_refl _

theorem length_skipFraction_le {cs rest : Input} (h : skipFraction cs = .ok rest) :
    rest.length ≤ cs.length := by
  cases cs with
  | nil => simp_all [skipFraction]
  | cons c cs =>
    have hd := length_skipDigits_le cs
    simp only [skipFraction] at h
    repeat' split at h
    · have := length_skipExponent_le h
      simp; omega
    · simp at h
    · exact length_skipExponent_le h

theorem length_skipNumeral_lt {cs rest : Input} (h : skipNumeral cs = .ok rest) :
    rest.length < cs.length := by
  cases cs with
  | nil => simp [skipNumeral] at h
  | cons c cs =>
    have hd := length_skipDigits_le cs
    simp only [skipNumeral] at h
    repeat' split at h
    · simp at h
    · have := length_skipFraction_le h
      simp; omega
    · have := length_skipFraction_le h
      simp; omega
    · simp at h

/-- A numeral, taken apart: the digits before the point, those after it, and the sign and
the digits of the exponent. -/
structure Numeral where
  negative : Bool
  whole : List Char
  fraction : Option (List Char)
  exponent : Option (Bool × List Char)
  deriving Repr

/-- Reads digits, of which there has to be one. -/
def readDigits (cs : Input) : Except Refusal (List Char × Input) :=
  if startsWithDigit cs then .ok (frontDigits cs, skipDigits cs)
  else .error (if cs = [] then .truncated else .malformed)

/-- Reads an exponent, if there is one. -/
def readExponent : Input → Except Refusal (Option (Bool × List Char) × Input)
  | c :: cs =>
    if c = some 'e' ∨ c = some 'E' then do
      let (digits, rest) ← readDigits (skipSign cs)
      .ok (some (cs.head? = some (some '-'), digits), rest)
    else .ok (none, c :: cs)
  | [] => .ok (none, [])

/-- Reads a fraction, if there is one. -/
def readFraction : Input → Except Refusal (Option (List Char) × Input)
  | c :: cs =>
    if c = some '.' then do
      let (digits, rest) ← readDigits cs
      .ok (some digits, rest)
    else .ok (none, c :: cs)
  | [] => .ok (none, [])

/-- Reads a numeral after its minus. A zero in front stands alone. -/
def readNumeral (negative : Bool) (cs : Input) : Except Refusal (Numeral × Input) := do
  let (whole, rest) ← readDigits cs
  if whole.head? = some '0' ∧ 1 < whole.length then .error .malformed
  let (fraction, rest) ← readFraction rest
  let (exponent, rest) ← readExponent rest
  .ok ({ negative, whole, fraction, exponent }, rest)

namespace Numeral

/-- Appends digits to a number of 64 bits while it has room. The second part counts the
digits that did not fit. -/
def fill : Nat → List Char → Nat × Nat
  | n, [] => (n, 0)
  | n, c :: digits =>
    let m := n * 10 + Unsigned.digitValue c
    if m < 18446744073709551616 then fill m digits else (n, digits.length + 1)

/-- Whether the numeral is beyond every double. It is judged by the digits that fit 64 bits,
which are rounded, times a rounded power of ten. -/
def tooLarge (x : Numeral) : Bool :=
  let (whole, cut) := fill 0 x.whole
  let after := x.fraction.getD []
  let (digits, left) := fill whole after
  let shift : Int := (cut : Int) - ((after.length : Int) - left)
  let (down, size) := match x.exponent with
    | some (down, exponent) => (down, Unsigned.value exponent)
    | none => (false, 0)
  if digits = 0 then false
  else if 2147483648 ≤ size then !down
  else
    let power := if down then shift - size else shift + size
    if 308 < power then true
    else if power < 0 then false
    else Binary64.overflows (Binary64.roundNat digits * Binary64.roundNat (Nat.pow 10 power.toNat))

/-- The whole number that the numeral is. One with a fraction or an exponent is none, and
neither is `-0`. -/
def integer? (x : Numeral) : Option Int :=
  let n := Unsigned.value x.whole
  if x.fraction.isSome ∨ x.exponent.isSome ∨ (x.negative = true ∧ n = 0) then none
  else some (if x.negative then -(n : Int) else n)

end Numeral

/-- Reads a numeral that a double can hold. -/
def readNumber (negative : Bool) (cs : Input) : Except Refusal (Numeral × Input) := do
  let (x, rest) ← readNumeral negative cs
  if x.tooLarge then .error .malformed
  .ok (x, rest)

end ReviewDesk.Json
