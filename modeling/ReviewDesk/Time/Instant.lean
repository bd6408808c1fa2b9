-- Points in time, counted in nanoseconds from 1970-01-01T00:00:00Z. What the desk
-- writes down is cut to whole microseconds, the finest step that the database keeps.

namespace ReviewDesk

/-- A point in time: whole nanoseconds since the start of 1970, negative before it. -/
structure Instant where
  nanos : Int
  deriving DecidableEq, Repr, Inhabited

namespace Instant

instance : LT Instant := ⟨fun a b => a.nanos < b.nanos⟩
instance : LE Instant := ⟨fun a b => a.nanos ≤ b.nanos⟩
instance (a b : Instant) : Decidable (a < b) := inferInstanceAs (Decidable (a.nanos < b.nanos))
instance (a b : Instant) : Decidable (a ≤ b) := inferInstanceAs (Decidable (a.nanos ≤ b.nanos))

theorem lt_iff {a b : Instant} : a < b ↔ a.nanos < b.nanos := Iff.rfl

theorem le_iff {a b : Instant} : a ≤ b ↔ a.nanos ≤ b.nanos := Iff.rfl

theorem eq_of_nanos {a b : Instant} (h : a.nanos = b.nanos) : a = b := by
  cases a
  cases b
  exact congrArg Instant.mk h

theorem le_refl (a : Instant) : a ≤ a := Int.le_refl a.nanos

theorem le_trans {a b c : Instant} (h : a ≤ b) (h' : b ≤ c) : a ≤ c := Int.le_trans h h'

/-- The instant at a number of seconds and of nanoseconds after them. -/
def ofSeconds (seconds : Int) (nanos : Int) : Instant := ⟨seconds * 1000000000 + nanos⟩

/-- The whole seconds of an instant, rounded down. -/
def seconds (t : Instant) : Int := t.nanos / 1000000000

/-- The nanoseconds after the whole second. -/
def subsecond (t : Instant) : Int := t.nanos % 1000000000

/-- The last whole microsecond that is not after the instant. -/
def toMicrosecond (t : Instant) : Instant := ⟨t.nanos - t.nanos % 1000⟩

/-- The instant one microsecond later. -/
def nextMicrosecond (t : Instant) : Instant := ⟨t.nanos + 1000⟩

/-- A whole number of microseconds. -/
def Whole (t : Instant) : Prop := 1000 ∣ t.nanos

theorem whole_toMicrosecond (t : Instant) : t.toMicrosecond.Whole := by
  unfold Whole toMicrosecond
  dsimp only
  omega

theorem Whole.nextMicrosecond {t : Instant} (h : t.Whole) : t.nextMicrosecond.Whole := by
  unfold Whole Instant.nextMicrosecond at *
  dsimp only
  omega

theorem Whole.toMicrosecond_eq {t : Instant} (h : t.Whole) : t.toMicrosecond = t := by
  unfold Instant.toMicrosecond
  rw [Int.emod_eq_zero_of_dvd h, Int.sub_zero]

/-- The later of two instants. -/
def later (a b : Instant) : Instant := if a < b then b else a

theorem le_later_left (a b : Instant) : a ≤ later a b := by
  unfold later; split <;> simp_all [lt_iff, le_iff]; omega

theorem le_later_right (a b : Instant) : b ≤ later a b := by
  unfold later; split <;> simp_all [lt_iff, le_iff]

end Instant

end ReviewDesk
