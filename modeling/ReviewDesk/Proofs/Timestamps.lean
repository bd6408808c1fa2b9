-- Instants as texts. A date tells its day, digits tell their number, and the parts of an instant
-- in RFC 3339 stand where they can be told apart. So no two instants are written alike.
import Mathlib.Algebra.Ring.Nat
import Mathlib.Data.List.Basic
import ReviewDesk.Time.Calendar

namespace ReviewDesk

/-! ## Dates -/

/-- A day of the calendar whose years begin in March. The year is counted within an era of 400
years, and the month from 0. -/
structure MarchDate where
  era : Int
  year : Int
  month : Int
  day : Int

namespace MarchDate

/-- The first day of a year within its era. -/
def firstDay (year : Int) : Int := 365 * year + year / 4 - year / 100

/-- The year that a day of an era lies in. -/
def yearOf (dayOfEra : Int) : Int :=
  (dayOfEra - dayOfEra / 1460 + dayOfEra / 36524 - dayOfEra / 146096) / 365

/-- The day that is a number of days after 1970-01-01. -/
def ofDays (days : Int) : MarchDate :=
  let era := (days + 719468) / 146097
  let dayOfEra := (days + 719468) % 146097
  let year := yearOf dayOfEra
  let month := (5 * (dayOfEra - firstDay year) + 2) / 153
  { era, year, month, day := dayOfEra - firstDay year - (153 * month + 2) / 5 + 1 }

/-- The number of days after 1970-01-01. -/
def days (d : MarchDate) : Int :=
  d.era * 146097 + firstDay d.year + (153 * d.month + 2) / 5 + d.day - 1 - 719468

/-- The day as it stands in the calendar. -/
def toDate (d : MarchDate) : Date :=
  let month := if d.month < 10 then d.month + 3 else d.month - 9
  { year := d.era * 400 + d.year + (if month ≤ 2 then 1 else 0), month, day := d.day }

def ofDate (d : Date) : MarchDate :=
  let year := if d.month ≤ 2 then d.year - 1 else d.year
  { era := year / 400, year := year % 400, day := d.day,
    month := if d.month ≤ 2 then d.month + 9 else d.month - 3 }

/-- The bounds of the parts. -/
structure Sound (d : MarchDate) : Prop where
  year_nonneg : 0 ≤ d.year
  year_lt : d.year < 400
  month_nonneg : 0 ≤ d.month
  month_lt : d.month < 12
  day_pos : 1 ≤ d.day
  day_le : d.day ≤ 31

theorem toDate_ofDays (days : Int) : (ofDays days).toDate = Date.ofDays days := rfl

theorem days_ofDays (n : Int) : (ofDays n).days = n := by
  unfold days ofDays
  dsimp only
  omega

theorem ofDate_toDate {d : MarchDate} (sound : d.Sound) : ofDate d.toDate = d := by
  obtain ⟨low, high, first, last, -, -⟩ := sound
  cases d
  unfold toDate ofDate
  simp only [mk.injEq, and_true] at *
  refine ⟨?_, ?_, ?_⟩ <;> split <;> split <;> omega

section Bounds

variable {e : Int}

theorem yearOf_bounds (low : 0 ≤ e) (high : e < 146097) : 0 ≤ yearOf e ∧ yearOf e < 400 := by
  unfold yearOf
  omega

theorem firstDay_le (low : 0 ≤ e) (high : e < 146097) : firstDay (yearOf e) ≤ e := by
  -- The years are cut at the same days as the centuries.
  have century : e / 36524 - e / 146096 = yearOf e / 100 := by
    unfold yearOf
    have places : e / 36524 = 0 ∨ e / 36524 = 1 ∨ e / 36524 = 2 ∨ e / 36524 = 3 ∨ e / 36524 = 4 := by
      omega
    rcases places with h | h | h | h | h <;> omega
  have quarter : yearOf e / 4 ≤ e / 1460 := by
    unfold yearOf
    omega
  unfold firstDay
  unfold yearOf at *
  omega

theorem le_firstDay (low : 0 ≤ e) (high : e < 146097) : e ≤ firstDay (yearOf e) + 366 := by
  unfold firstDay yearOf
  omega

theorem sound_ofDays (days : Int) : (ofDays days).Sound := by
  have low : 0 ≤ (days + 719468) % 146097 := by omega
  have high : (days + 719468) % 146097 < 146097 := by omega
  have year := yearOf_bounds low high
  have first := firstDay_le low high
  have last := le_firstDay low high
  constructor <;> (unfold ofDays; dsimp only; omega)

end Bounds

end MarchDate

namespace Date

theorem ofDays_injective : Function.Injective ofDays := by
  intro a b same
  rw [← MarchDate.toDate_ofDays, ← MarchDate.toDate_ofDays] at same
  have back := congrArg MarchDate.ofDate same
  rw [MarchDate.ofDate_toDate (MarchDate.sound_ofDays a),
    MarchDate.ofDate_toDate (MarchDate.sound_ofDays b)] at back
  rw [← MarchDate.days_ofDays a, back, MarchDate.days_ofDays]

theorem ofDays_bounds (days : Int) :
    1 ≤ (ofDays days).month ∧ (ofDays days).month ≤ 12 ∧ 1 ≤ (ofDays days).day ∧
      (ofDays days).day ≤ 31 := by
  obtain ⟨-, -, first, last, low, high⟩ := MarchDate.sound_ofDays days
  rw [← MarchDate.toDate_ofDays]
  unfold MarchDate.toDate
  dsimp only
  omega

end Date

namespace Instant

/-! ## Digits -/

section Digits

variable {c : Char} {width n : Nat}

theorem length_lastDigits (width n : Nat) : (lastDigits width n).length = width := by
  induction width generalizing n with
  | zero => rfl
  | succ width ih => rw [lastDigits, List.length_append, ih, List.length_singleton]

theorem isDigit_of_mem_lastDigits (listed : c ∈ lastDigits width n) : c.isDigit = true := by
  induction width generalizing n with
  | zero => simp [lastDigits] at listed
  | succ width ih =>
    rw [lastDigits, List.mem_append, List.mem_singleton] at listed
    rcases listed with front | rfl
    · exact ih front
    · rw [Nat.isDigit_digitChar]
      simp [Nat.mod_lt]

/-- The digits tell the number, if there are enough of them. -/
theorem value_lastDigits (small : n < 10 ^ width) :
    Nat.ofDigitChars 10 (lastDigits width n) 0 = n := by
  induction width generalizing n with
  | zero =>
    rw [Nat.pow_zero, Nat.lt_one_iff] at small
    subst small
    rfl
  | succ width ih =>
    have front : n / 10 < 10 ^ width := by
      rw [Nat.pow_succ] at small
      omega
    rw [lastDigits, Nat.ofDigitChars_append, ih front,
      Nat.ofDigitChars_cons_digitChar_of_lt_ten (Nat.mod_lt _ (by decide)),
      Nat.ofDigitChars_nil]
    omega

theorem lastDigits_inj {m : Nat} (small : n < 10 ^ width) (small' : m < 10 ^ width)
    (same : lastDigits width n = lastDigits width m) : n = m := by
  rw [← value_lastDigits small, same, value_lastDigits small']

theorem value_fourOrMore (n : Nat) : Nat.ofDigitChars 10 (fourOrMore n) 0 = n := by
  unfold fourOrMore
  split
  · exact value_lastDigits ‹_›
  · rw [Nat.toString_eq_repr, Nat.toList_repr, Nat.ofDigitChars_toDigits (by decide) (by decide)]

theorem isDigit_of_mem_fourOrMore (listed : c ∈ fourOrMore n) : c.isDigit = true := by
  unfold fourOrMore at listed
  split at listed
  · exact isDigit_of_mem_lastDigits listed
  · rw [Nat.toString_eq_repr, Nat.toList_repr] at listed
    exact Nat.isDigit_of_mem_toDigits (by decide) (by decide) listed

end Digits

/-! ## Years -/

/-- The year that a text spells. -/
def readYear : List Char → Int
  | '-' :: digits => -(Nat.ofDigitChars 10 digits 0 : Int)
  | '+' :: digits => Nat.ofDigitChars 10 digits 0
  | digits => Nat.ofDigitChars 10 digits 0

theorem readYear_digits {digits : List Char} (plain : ∀ c ∈ digits, c.isDigit = true) :
    readYear digits = Nat.ofDigitChars 10 digits 0 := by
  unfold readYear
  split
  · exact absurd (plain '-' List.mem_cons_self) (by decide)
  · exact absurd (plain '+' List.mem_cons_self) (by decide)
  · rfl

theorem readYear_yearText (year : Int) : readYear (yearText year) = year := by
  unfold yearText
  split
  case isTrue short =>
    rw [readYear_digits fun _ => isDigit_of_mem_lastDigits,
      value_lastDigits (by omega)]
    omega
  split
  case isTrue negative =>
    rw [readYear, value_fourOrMore]
    omega
  · rw [readYear, value_fourOrMore]
    omega

theorem yearText_injective : Function.Injective yearText :=
  Function.LeftInverse.injective readYear_yearText

theorem not_mem_yearText (year : Int) : 'T' ∉ yearText year := by
  unfold yearText
  intro listed
  split at listed
  · exact absurd (isDigit_of_mem_lastDigits listed) (by decide)
  · rw [List.mem_cons] at listed
    rcases listed with sign | digit
    · split at sign <;> exact absurd sign (by decide)
    · exact absurd (isDigit_of_mem_fourOrMore digit) (by decide)

/-! ## Parts of a second -/

/-- The nanoseconds that a fraction of a second spells. -/
def readFraction (text : List Char) : Nat :=
  Nat.ofDigitChars 10 text.tail 0 * 10 ^ (10 - text.length)

theorem readFraction_digits {width n : Nat} (small : n < 10 ^ width) :
    readFraction ('.' :: lastDigits width n) = n * 10 ^ (9 - width) := by
  unfold readFraction
  rw [List.tail_cons, value_lastDigits small, List.length_cons, length_lastDigits,
    Nat.add_sub_add_right 9 1 width]

theorem readFraction_fractionText {nanos : Nat} (small : nanos < 1000000000) :
    readFraction (fractionText nanos) = nanos := by
  unfold fractionText
  split
  case isTrue none =>
    subst none
    rfl
  split
  · rw [readFraction_digits (by omega)]
    omega
  split
  · rw [readFraction_digits (by omega)]
    omega
  · rw [readFraction_digits (by omega)]
    omega

theorem not_mem_fractionText (nanos : Nat) : 'T' ∉ fractionText nanos := by
  have plain : ∀ width n, 'T' ∉ '.' :: lastDigits width n := by
    intro width n listed
    rw [List.mem_cons] at listed
    rcases listed with point | digit
    · exact absurd point (by decide)
    · exact absurd (isDigit_of_mem_lastDigits digit) (by decide)
  unfold fractionText
  split
  · simp
  split
  · exact plain _ _
  split <;> exact plain _ _

/-! ## Whole texts -/

/-- What two digits can show. -/
def Short (n : Int) : Prop := 0 ≤ n ∧ n < 100

/-- A number in two digits. -/
def two (n : Int) : List Char := lastDigits 2 n.toNat

theorem length_two (n : Int) : (two n).length = 2 := length_lastDigits 2 n.toNat

theorem not_mem_two (n : Int) : 'T' ∉ two n :=
  fun listed => absurd (isDigit_of_mem_lastDigits listed) (by decide)

theorem two_inj {m n : Int} (short : Short m) (short' : Short n) (same : two m = two n) :
    m = n := by
  obtain ⟨low, high⟩ := short
  obtain ⟨low', high'⟩ := short'
  have digits : m.toNat = n.toNat := lastDigits_inj (by omega) (by omega) same
  omega

/-- What stands before the `T`. -/
def dayText (t : Instant) : List Char :=
  yearText t.date.year ++ ('-' :: two t.date.month ++ '-' :: two t.date.day)

/-- The hour, the minute and the second. -/
def clockText (t : Instant) : List Char :=
  two t.hour ++ ':' :: two t.minute ++ ':' :: two t.second

theorem toList_rfc3339 (t : Instant) :
    t.rfc3339.toList =
      t.dayText ++ 'T' :: (t.clockText ++ (fractionText t.subsecond.toNat ++ ['Z'])) := by
  unfold rfc3339 dayText clockText two
  rw [String.toList_ofList]
  simp only [List.append_assoc, List.cons_append]

theorem length_clockText (t : Instant) : t.clockText.length = 8 := by
  simp [clockText, length_two]

/-- The `T` between the day and the clock is the only one. -/
theorem not_mem_dayText (t : Instant) : 'T' ∉ t.dayText := by
  simp [dayText, not_mem_yearText, not_mem_two]

theorem not_mem_afterDay (t : Instant) :
    'T' ∉ t.clockText ++ (fractionText t.subsecond.toNat ++ ['Z']) := by
  simp [clockText, not_mem_fractionText, not_mem_two]

variable {s t : Instant}

theorem date_eq_of_dayText (same : s.dayText = t.dayText) : s.date = t.date := by
  obtain ⟨year, rest⟩ := List.append_inj' same (by simp [length_two])
  obtain ⟨month, day⟩ := List.append_inj rest (by simp [length_two])
  simp only [List.cons.injEq, true_and] at month day
  have short : ∀ u : Instant, Short u.date.month ∧ Short u.date.day := by
    intro u
    have bounds := Date.ofDays_bounds (u.seconds / 86400)
    unfold Short date
    omega
  have year := yearText_injective year
  have month := two_inj (short s).1 (short t).1 month
  have day := two_inj (short s).2 (short t).2 day
  calc s.date = ⟨s.date.year, s.date.month, s.date.day⟩ := rfl
    _ = t.date := by rw [year, month, day]

theorem clock_eq_of_clockText (same : s.clockText = t.clockText) :
    s.seconds % 86400 = t.seconds % 86400 := by
  obtain ⟨front, second⟩ := List.append_inj same (by simp [length_two])
  obtain ⟨hour, minute⟩ := List.append_inj front (by simp [length_two])
  simp only [List.cons.injEq, true_and] at minute second
  have short : ∀ u : Instant, Short u.hour ∧ Short u.minute ∧ Short u.second := by
    intro u
    unfold Short Instant.hour Instant.minute Instant.second
    omega
  have hour := two_inj (short s).1 (short t).1 hour
  have minute := two_inj (short s).2.1 (short t).2.1 minute
  have second := two_inj (short s).2.2 (short t).2.2 second
  unfold Instant.hour at hour
  unfold Instant.minute at minute
  unfold Instant.second at second
  omega

theorem subsecond_eq_of_fractionText
    (same : fractionText s.subsecond.toNat = fractionText t.subsecond.toNat) :
    s.subsecond = t.subsecond := by
  have bounds : ∀ u : Instant, 0 ≤ u.subsecond ∧ u.subsecond < 1000000000 := by
    intro u
    unfold subsecond
    omega
  obtain ⟨low, high⟩ := bounds s
  obtain ⟨low', high'⟩ := bounds t
  have read := congrArg readFraction same
  rw [readFraction_fractionText (by omega), readFraction_fractionText (by omega)] at read
  omega

/-- No two instants are written alike, whatever their years and their fractions. -/
theorem rfc3339_injective : Function.Injective rfc3339 := by
  intro s t same
  have text := congrArg String.toList same
  rw [toList_rfc3339, toList_rfc3339] at text
  obtain ⟨day, -, rest⟩ :=
    (List.append_cons_inj_of_notMem (not_mem_dayText s) (not_mem_afterDay s)).1 text
  obtain ⟨clock, rest⟩ := List.append_inj rest (by rw [length_clockText, length_clockText])
  have days := Date.ofDays_injective (date_eq_of_dayText day)
  have clocks := clock_eq_of_clockText clock
  have fractions := subsecond_eq_of_fractionText (List.append_cancel_right rest)
  apply eq_of_nanos
  unfold seconds subsecond at *
  omega

end Instant

end ReviewDesk
