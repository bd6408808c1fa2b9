-- Variables that are set, and those that are not. The settings depend on nothing but what is set,
-- and where a URL is set, the parts of a connection do not count, whatever stands in them.
import Mathlib.Logic.Function.Basic
import ReviewDesk.Proofs.Trimming
import ReviewDesk.Settings.Basic

namespace ReviewDesk.Settings

variable {lookup other : String → Option String} {name value : String}

/-! ## Set and unset -/

/-- The variable has a value that is not blank. -/
def Holds (lookup : String → Option String) (name value : String) : Prop :=
  lookup name = some value ∧ ¬ AllBlank value.toList

/-- The variable has no value, or a blank one. -/
def Unset (lookup : String → Option String) (name : String) : Prop :=
  ∀ value, lookup name = some value → AllBlank value.toList

theorem set?_eq_some_iff : set? lookup name = some value ↔ Holds lookup name value := by
  unfold set? Holds
  rw [Option.filter_eq_some_iff, ← isBlankText_iff, Bool.not_eq_true', Bool.not_eq_true]

theorem set?_eq_none_iff : set? lookup name = none ↔ Unset lookup name := by
  unfold set? Unset
  rw [Option.filter_eq_none_iff]
  refine forall₂_congr fun value _ => ?_
  rw [← isBlankText_iff, Bool.not_eq_true', Bool.not_eq_false]

/-! ## Sources that agree -/

/-- Two sources agree on a variable, a blank value counting as none. -/
def Alike (lookup other : String → Option String) (name : String) : Prop :=
  ∀ value, Holds lookup name value ↔ Holds other name value

theorem alike_iff : Alike lookup other name ↔ set? lookup name = set? other name := by
  unfold Alike
  simp only [← set?_eq_some_iff]
  exact ⟨Option.ext, fun same value => by rw [same]⟩

theorem alike_of_eq (same : lookup name = other name) : Alike lookup other name := by
  unfold Alike Holds
  rw [same]
  exact fun value => Iff.rfl

theorem alike_of_unset (unset : Unset lookup name) (unset' : Unset other name) :
    Alike lookup other name := by
  rw [alike_iff, set?_eq_none_iff.2 unset, set?_eq_none_iff.2 unset']

/-- The variables that count in any case. -/
def generalNames : List String :=
  ["DATABASE_URL", "SERVER_PORT", "DATABASE_MAX_CONNECTIONS", "RUN_MIGRATIONS"]

/-- The variables that say the parts of a connection. -/
def partNames : List String := ["DB_HOST", "DB_PORT", "DB_USER", "DB_PASSWORD", "DB_NAME"]

theorem require_congr (alike : Alike lookup other name) :
    require lookup name = require other name := by
  unfold require
  rw [alike_iff.1 alike]

theorem optional_congr {α : Type} {read : String → Option α} {expected : String} {default : α}
    (alike : Alike lookup other name) :
    optional lookup read name expected default = optional other read name expected default := by
  unfold optional
  rw [alike_iff.1 alike]

theorem connectionTo_congr (parts : ∀ name ∈ partNames, Alike lookup other name) (host : String) :
    connectionTo lookup host = connectionTo other host := by
  unfold connectionTo
  rw [require_congr (parts "DB_PORT" (by decide)), require_congr (parts "DB_USER" (by decide)),
    require_congr (parts "DB_PASSWORD" (by decide)), require_congr (parts "DB_NAME" (by decide))]

variable {connect : String → Option Connection}

theorem connection_congr (url : Alike lookup other "DATABASE_URL")
    (database : (∃ url, Holds lookup "DATABASE_URL" url) ∨
      ∀ name ∈ partNames, Alike lookup other name) :
    connection connect lookup = connection connect other := by
  unfold connection
  rcases database with ⟨value, given⟩ | parts
  · simp only [set?_eq_some_iff.2 given, set?_eq_some_iff.2 ((url value).1 given)]
  · rw [alike_iff.1 url, alike_iff.1 (parts "DB_HOST" (by decide))]
    -- The host, if there is one, is the same, and so is what is made of the other parts.
    simp only [connectionTo_congr parts]

theorem fromLookup_congr (general : ∀ name ∈ generalNames, Alike lookup other name)
    (database : (∃ url, Holds lookup "DATABASE_URL" url) ∨
      ∀ name ∈ partNames, Alike lookup other name) :
    fromLookup connect lookup = fromLookup connect other := by
  unfold fromLookup
  rw [connection_congr (general "DATABASE_URL" (by decide)) database,
    optional_congr (general "SERVER_PORT" (by decide)),
    optional_congr (general "DATABASE_MAX_CONNECTIONS" (by decide)),
    optional_congr (general "RUN_MIGRATIONS" (by decide))]

/-! ## What the settings depend on -/

/-- The settings are the same where the variables that count are, blank ones counting as none. So
the parts of a connection do not count beside a URL, whether it can be read or not, and a variable
that is not set may as well be blank. -/
theorem only_what_is_set_counts (connect : String → Option Connection) :
    (∀ lookup other : String → Option String,
      (∀ name ∈ generalNames, Alike lookup other name) →
      ((∃ url, Holds lookup "DATABASE_URL" url) ∧ (∃ url, Holds other "DATABASE_URL" url) ∨
        ∀ name ∈ partNames, Alike lookup other name) →
      fromLookup connect lookup = fromLookup connect other) ∧
    (∀ (lookup other : String → Option String) (url : String),
      Holds lookup "DATABASE_URL" url → (∀ name, name ∉ partNames → other name = lookup name) →
      fromLookup connect other = fromLookup connect lookup) ∧
    ∀ (lookup : String → Option String) (name blank : String),
      Unset lookup name → AllBlank blank.toList →
      fromLookup connect (Function.update lookup name (some blank)) =
        fromLookup connect lookup := by
  refine ⟨fun lookup other general database => ?_, fun lookup other url given rest => ?_,
    fun lookup name blank unset isBlank => ?_⟩
  · exact fromLookup_congr general (database.imp_left And.left)
  · refine (fromLookup_congr (fun name listed => alike_of_eq (rest name ?_).symm)
      (.inl ⟨url, given⟩)).symm
    exact (by decide : ∀ name ∈ generalNames, name ∉ partNames) name listed
  · have alike : ∀ any, Alike (Function.update lookup name (some blank)) lookup any := by
      intro any
      by_cases same : any = name
      · subst same
        refine alike_of_unset (fun value given => ?_) unset
        rw [Function.update_self] at given
        exact Option.some.inj given ▸ isBlank
      · exact alike_of_eq (Function.update_of_ne same _ _)
    exact fromLookup_congr (fun any _ => alike any) (.inr fun any _ => alike any)

/-- A URL beside parts that are no connection, and what is left when the parts are taken away and a
variable that is not set gets a blank value. -/
theorem stray_parts_do_not_count :
    let connect := Connection.read? (.byDefault "default-host" "default-user")
    let lookup : String → Option String := fun name =>
      [("DATABASE_URL", "postgres://app@db/reviews"), ("DB_HOST", "elsewhere"),
        ("DB_PORT", "no port"), ("SERVER_PORT", " 9090")].lookup name
    let other : String → Option String := fun name =>
      [("DATABASE_URL", "postgres://app@db/reviews"), ("SERVER_PORT", " 9090")].lookup name
    fromLookup connect lookup =
        fromLookup connect (Function.update other "RUN_MIGRATIONS" (some "\u2003\t")) ∧
      fromLookup connect other =
        .ok ⟨⟨"db", 5432, "app", none, some "reviews"⟩, 9090, 5, true⟩ := by
  intro connect lookup other
  obtain ⟨-, beside, blanks⟩ := only_what_is_set_counts connect
  have given : Holds other "DATABASE_URL" "postgres://app@db/reviews" := ⟨by decide, by decide⟩
  have alone : fromLookup connect lookup = fromLookup connect other := by
    refine beside other lookup _ given fun name rest => ?_
    have skip : ∀ part ∈ partNames, (name == part) = false := fun part listed =>
      beq_eq_false_iff_ne.2 fun same => rest (same ▸ listed)
    simp only [lookup, other, List.lookup_cons, skip "DB_HOST" (by decide),
      skip "DB_PORT" (by decide)]
  have blank : fromLookup connect (Function.update other "RUN_MIGRATIONS" (some "\u2003\t")) =
      fromLookup connect other := by
    refine blanks other "RUN_MIGRATIONS" _ ?_ (by decide)
    intro value given
    cases given
  exact ⟨alone.trans blank.symm, by decide +kernel⟩

end ReviewDesk.Settings
