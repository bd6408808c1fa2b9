-- Punycode: characters beyond ASCII as letters and digits. The characters of ASCII come first,
-- then, after a hyphen, numbers that say which other characters go where.

namespace ReviewDesk.Punycode

/-! ## Numbers -/

/-- The digits are the small letters and then the decimal digits. -/
def digit (n : Nat) : Char := if n < 26 then Char.ofNat (97 + n) else Char.ofNat (22 + n)

def digitValue? (c : Char) : Option Nat :=
  if 'a' ≤ c ∧ c ≤ 'z' then some (c.toNat - 97)
  else if '0' ≤ c ∧ c ≤ '9' then some (c.toNat - 22)
  else none

/-- A digit below this value ends a number, at a place that counts in steps of 36. -/
def threshold (bias place : Nat) : Nat :=
  if place ≤ bias then 1 else if bias + 26 ≤ place then 26 else place - bias

theorem threshold_pos (bias place : Nat) : 0 < threshold bias place := by
  unfold threshold
  split
  · omega
  · split <;> omega

/-- The rest of a change that is divided until it is small, and 36 for each division. -/
def shrink (delta bias : Nat) : Nat × Nat :=
  if 455 < delta then shrink (delta / 35) (bias + 36) else (delta, bias)
termination_by delta
decreasing_by omega

/-- The bias after a number. The larger the numbers, the later they may end. -/
def adapt (delta count : Nat) (isFirst : Bool) : Nat :=
  let delta := if isFirst then delta / 700 else delta / 2
  let (delta, bias) := shrink (delta + delta / count) 0
  bias + 36 * delta / (delta + 38)

/-! ## Writing -/

/-- Writes a number, lowest digit first. -/
def writeNumber (bias place n : Nat) : List Char :=
  let t := threshold bias place
  if n < t then [digit n]
  else digit (t + (n - t) % (36 - t)) :: writeNumber bias (place + 36) ((n - t) / (36 - t))
termination_by n
decreasing_by
  have := threshold_pos bias place
  have := Nat.div_le_self (n - threshold bias place) (36 - threshold bias place)
  omega

/-- What a writer has: how far it has come, which characters it has written, and the text,
last first. -/
structure Writing where
  delta : Nat
  bias : Nat
  count : Nat
  isFirst : Bool
  text : List Char

/-- Goes past one character on the round for the characters with the number `n`. -/
def Writing.step (n : Nat) (s : Writing) (c : Char) : Writing :=
  if c.toNat < n then { s with delta := s.delta + 1 }
  else if c.toNat = n then
    { delta := 0
      bias := adapt s.delta (s.count + 1) s.isFirst
      count := s.count + 1
      isFirst := false
      text := (writeNumber s.bias 36 s.delta).reverse ++ s.text }
  else s

/-- Writes the characters of some numbers, which stand in ascending order, from `n` on. -/
def writeRounds (cs : List Char) : List Nat → Nat → Writing → Writing
  | [], _, s => s
  | m :: rest, n, s =>
    let s := { s with delta := s.delta + (m - n) * (s.count + 1) }
    let s := cs.foldl (Writing.step m) s
    writeRounds cs rest (m + 1) { s with delta := s.delta + 1 }

/-- The numbers of the characters beyond ASCII, each once, in ascending order. -/
def numbersBeyond (cs : List Char) : List Nat :=
  ((cs.map Char.toNat).filter (128 ≤ ·)).mergeSort.eraseDups

def encode (cs : List Char) : List Char :=
  let basic := cs.filter (·.toNat < 128)
  let front := if basic = [] then [] else basic ++ ['-']
  let s := writeRounds cs (numbersBeyond cs) 128 ⟨0, 72, basic.length, true, []⟩
  front ++ s.text.reverse

/-! ## Reading -/

/-- Reads a number, where the digit at this place counts `weight` times. -/
def readNumber? (bias place weight : Nat) : List Char → Option (Nat × List Char)
  | [] => none
  | c :: rest =>
    match digitValue? c with
    | none => none
    | some d =>
      let t := threshold bias place
      if d < t then some (d * weight, rest)
      else
        match readNumber? bias (place + 36) (weight * (36 - t)) rest with
        | some (n, rest) => some (d * weight + n, rest)
        | none => none

/-- Reading a number takes at least one digit. -/
theorem readNumber?_shorter {bias place weight n : Nat} {cs rest : List Char}
    (h : readNumber? bias place weight cs = some (n, rest)) : rest.length < cs.length := by
  induction cs generalizing place weight n with
  | nil => simp [readNumber?] at h
  | cons c cs ih =>
    unfold readNumber? at h
    split at h
    · simp at h
    · dsimp only at h
      split at h
      · simp only [Option.some.injEq, Prod.mk.injEq] at h
        simp [h.2]
      · split at h
        · next found =>
          simp only [Option.some.injEq, Prod.mk.injEq] at h
          have := ih (h.2 ▸ found)
          simp only [List.length_cons]
          omega
        · simp at h

/-- Reads the numbers and puts their characters in among those there are, from the place
`index` on. -/
def readRounds (bias n index : Nat) (done : List Char) (cs : List Char) :
    Option (List Char) :=
  if cs = [] then some done
  else
    match h : readNumber? bias 36 1 cs with
    | none => none
    | some (delta, rest) =>
      let count := done.length + 1
      let n := n + (index + delta) / count
      let place := (index + delta) % count
      if n.isValidChar then
        readRounds (adapt delta count (index = 0)) n (place + 1)
          (done.insertIdx place (Char.ofNat n)) rest
      else none
termination_by cs.length
decreasing_by exact readNumber?_shorter h

/-- Reads a text of small letters, digits and what else is ASCII. The numbers follow the last
hyphen. -/
def decode? (cs : List Char) : Option (List Char) :=
  let numbers := (cs.reverse.takeWhile (· ≠ '-')).reverse
  let basic := cs.take (cs.length - numbers.length - 1)
  if basic = [] then readRounds 72 128 0 [] cs else readRounds 72 128 0 basic numbers

end ReviewDesk.Punycode
