-- Settings from the parts of a connection. What can be wrong with the variables stands in a list,
-- and the first complaint that applies is the answer. Where none applies, every part is taken as it
-- is given, and every number is the one that its text spells.
import ReviewDesk.Proofs.Variables

namespace ReviewDesk.Settings

/-! ## Complaints -/

/-- Something that can be wrong with the variables, told by the errors that it leads to. -/
abbrev Complaint := SettingsError → Prop

/-- The error that the first complaint that applies leads to. -/
inductive FirstOf : List Complaint → SettingsError → Prop
  | here {complaint : Complaint} {rest : List Complaint} {e : SettingsError}
      (applies : complaint e) : FirstOf (complaint :: rest) e
  | later {complaint : Complaint} {rest : List Complaint} {e : SettingsError}
      (passed : ∀ other, ¬ complaint other) (first : FirstOf rest e) :
      FirstOf (complaint :: rest) e

/-- None of the complaints applies. -/
def Clear (complaints : List Complaint) : Prop :=
  ∀ complaint ∈ complaints, ∀ e, ¬ complaint e

section Lists

variable {complaint : Complaint} {first rest : List Complaint} {e : SettingsError}

theorem firstOf_cons :
    FirstOf (complaint :: rest) e ↔
      complaint e ∨ (∀ other, ¬ complaint other) ∧ FirstOf rest e := by
  constructor
  · intro found
    cases found with
    | here applies => exact .inl applies
    | later passed first => exact .inr ⟨passed, first⟩
  · rintro (applies | ⟨passed, first⟩)
    · exact .here applies
    · exact .later passed first

theorem not_firstOf_nil : ¬ FirstOf [] e := nofun

theorem firstOf_singleton : FirstOf [complaint] e ↔ complaint e := by
  rw [firstOf_cons]
  exact or_iff_left fun found => not_firstOf_nil found.2

theorem clear_cons : Clear (complaint :: rest) ↔ (∀ e, ¬ complaint e) ∧ Clear rest :=
  List.forall_mem_cons

theorem FirstOf.not_clear (found : FirstOf first e) : ¬ Clear first := by
  induction found with
  | here applies => exact fun clear => clear _ List.mem_cons_self _ applies
  | later _ _ ih => exact fun clear => ih (clear_cons.1 clear).2

theorem clear_append : Clear (first ++ rest) ↔ Clear first ∧ Clear rest := List.forall_mem_append

theorem firstOf_append :
    FirstOf (first ++ rest) e ↔ FirstOf first e ∨ Clear first ∧ FirstOf rest e := by
  induction first with
  | nil =>
    rw [List.nil_append]
    refine ⟨fun found => .inr ⟨nofun, found⟩, ?_⟩
    rintro (found | ⟨-, found⟩)
    · exact absurd found not_firstOf_nil
    · exact found
  | cons complaint first ih =>
    rw [List.cons_append, firstOf_cons, firstOf_cons, clear_cons, ih]
    constructor
    · rintro (applies | ⟨passed, found | ⟨clear, found⟩⟩)
      · exact .inl (.inl applies)
      · exact .inl (.inr ⟨passed, found⟩)
      · exact .inr ⟨⟨passed, clear⟩, found⟩
    · rintro ((applies | ⟨passed, found⟩) | ⟨⟨passed, clear⟩, found⟩)
      · exact .inl applies
      · exact .inr ⟨passed, .inl found⟩
      · exact .inr ⟨passed, .inr ⟨clear, found⟩⟩

end Lists

/-! ## Answers -/

/-- An answer that is the first complaint that applies, and where none does, what is meant. -/
inductive Heard {α : Type} (against : List Complaint) (meant : α → Prop) :
    Except SettingsError α → Prop
  | refused {e : SettingsError} (first : FirstOf against e)
      (sole : ∀ other, FirstOf against other → other = e) : Heard against meant (.error e)
  | accepted {a : α} (clear : Clear against) (holds : meant a) (sole : ∀ b, meant b → b = a) :
      Heard against meant (.ok a)

namespace Heard

variable {α β : Type} {against rest : List Complaint} {complaint : Complaint}
  {meant other : α → Prop} {answer : Except SettingsError α} {a : α} {e : SettingsError}

theorem error_iff (heard : Heard against meant answer) :
    answer = .error e ↔ FirstOf against e := by
  cases heard with
  | refused first sole =>
    rw [Except.error.injEq]
    exact ⟨fun same => same ▸ first, fun found => (sole e found).symm⟩
  | accepted clear => exact iff_of_false nofun fun found => found.not_clear clear

theorem ok_iff (heard : Heard against meant answer) :
    answer = .ok a ↔ Clear against ∧ meant a := by
  cases heard with
  | refused first => exact iff_of_false nofun fun ⟨clear, _⟩ => first.not_clear clear
  | accepted clear holds sole =>
    rw [Except.ok.injEq]
    exact ⟨fun same => ⟨clear, same ▸ holds⟩, fun ⟨_, meant⟩ => (sole a meant).symm⟩

theorem done (a : α) : Heard [] (· = a) (.ok a) := .accepted nofun rfl fun _ same => same

/-- One step and then another, which goes by what the first one gave. -/
theorem bind {more : α → β → Prop} {next : α → Except SettingsError β}
    (first : Heard against meant answer)
    (second : ∀ a, meant a → Heard rest (more a) (next a)) :
    Heard (against ++ rest) (fun b => ∃ a, meant a ∧ more a b) (answer >>= next) := by
  cases first with
  | @refused e first sole =>
    -- A refusal is passed on, and nothing that comes later is looked at.
    change Heard _ _ (Except.error e)
    refine .refused (firstOf_append.2 (.inl first)) fun other found => ?_
    rcases firstOf_append.1 found with found | ⟨clear, -⟩
    · exact sole other found
    · exact absurd clear first.not_clear
  | @accepted a clear holds sole =>
    change Heard _ _ (next a)
    have after := second a holds
    generalize next a = answer at after
    cases after with
    | refused found alone =>
      refine .refused (firstOf_append.2 (.inr ⟨clear, found⟩)) fun other found' => ?_
      rcases firstOf_append.1 found' with early | ⟨-, late⟩
      · exact absurd clear early.not_clear
      · exact alone other late
    | accepted free made alone =>
      refine .accepted (clear_append.2 ⟨clear, free⟩) ⟨a, holds, made⟩ ?_
      rintro b ⟨a', holds', made'⟩
      cases sole a' holds'
      exact alone b made'

theorem congr (heard : Heard against meant answer) (same : ∀ a, meant a ↔ other a) :
    Heard against other answer := by
  cases heard with
  | refused first sole => exact .refused first sole
  | accepted clear holds sole =>
    exact .accepted clear ((same _).1 holds) fun b meant => sole b ((same b).2 meant)

end Heard

/-! ## What one variable says -/

variable {lookup : String → Option String} {name value expected : String}

/-- A variable that has to be set is not. -/
def absent (lookup : String → Option String) (name : String) : Complaint := fun e =>
  Unset lookup name ∧ e = .missing name

/-- A variable is set to what means nothing. The error shows all of it. -/
def unfit {α : Type} (lookup : String → Option String) (means : String → α → Prop)
    (name expected : String) : Complaint := fun e =>
  ∃ value, Holds lookup name value ∧ (∀ a, ¬ means value a) ∧ e = .invalid name expected value

/-- What a variable says that may be left out. -/
def Says {α : Type} (lookup : String → Option String) (means : String → α → Prop) (name : String)
    (default a : α) : Prop :=
  (Unset lookup name ∧ a = default) ∨ ∃ value, Holds lookup name value ∧ means value a

/-- The words for on and off, the blanks around them apart. -/
def Switched (text : String) (on : Bool) : Prop :=
  Trimmed text (if on then "true" else "false")

theorem readSwitch_trim (text : String) (on : Bool) :
    readSwitch (trim text) = some on ↔ Switched text on := by
  unfold readSwitch Switched
  rw [← trim_eq_iff]
  split
  · rename_i same
    rw [same]
    cases on <;> decide
  · rename_i other
    split
    · rename_i same
      rw [same]
      cases on <;> decide
    · rename_i none
      cases on
      · simpa using none
      · simpa using other

theorem holds_unique {other : String} (given : Holds lookup name value)
    (given' : Holds lookup name other) : other = value :=
  Option.some.inj (given'.1.symm.trans given.1)

theorem Holds.not_unset (given : Holds lookup name value) : ¬ Unset lookup name := fun unset =>
  given.2 (unset value given.1)

theorem heard_require (lookup : String → Option String) (name : String) :
    Heard [absent lookup name] (Holds lookup name) (require lookup name) := by
  unfold require
  cases set : set? lookup name with
  | none =>
    have unset := set?_eq_none_iff.1 set
    refine .refused (firstOf_singleton.2 ⟨unset, rfl⟩) fun e found => ?_
    exact (firstOf_singleton.1 found).2
  | some value =>
    have given := set?_eq_some_iff.1 set
    refine .accepted (clear_cons.2 ⟨?_, nofun⟩) given fun other => holds_unique given
    exact fun e complained => given.not_unset complained.1

section Interpreting

variable {α : Type} {read : String → Option α} {means : String → α → Prop}

theorem heard_interpret (spec : ∀ text a, read (trim text) = some a ↔ means text a)
    (given : Holds lookup name value) (expected : String) :
    Heard [unfit lookup means name expected] (means value)
      (interpret read name expected value) := by
  unfold interpret
  cases made : read (trim value) with
  | none =>
    refine .refused (firstOf_singleton.2 ⟨value, given, fun a meant => ?_, rfl⟩) fun e found => ?_
    · rw [(spec value a).2 meant] at made
      cases made
    · obtain ⟨other, given', -, same⟩ := firstOf_singleton.1 found
      rw [same, holds_unique given given']
  | some a =>
    have meant := (spec value a).1 made
    refine .accepted (clear_cons.2 ⟨?_, nofun⟩) meant fun b meant' => ?_
    · rintro e ⟨other, given', none, -⟩
      exact none a (holds_unique given given' ▸ meant)
    · rw [(spec value b).2 meant'] at made
      exact Option.some.inj made

theorem heard_optional (spec : ∀ text a, read (trim text) = some a ↔ means text a)
    (lookup : String → Option String) (name expected : String) (default : α) :
    Heard [unfit lookup means name expected] (Says lookup means name default)
      (optional lookup read name expected default) := by
  unfold optional
  cases set : set? lookup name with
  | none =>
    have unset := set?_eq_none_iff.1 set
    refine .accepted (clear_cons.2 ⟨?_, nofun⟩) (.inl ⟨unset, rfl⟩) ?_
    · rintro e ⟨value, given, -⟩
      exact given.not_unset unset
    · rintro a (⟨-, same⟩ | ⟨value, given, -⟩)
      · exact same
      · exact absurd unset given.not_unset
  | some value =>
    have given := set?_eq_some_iff.1 set
    refine (heard_interpret spec given expected).congr fun a => ?_
    refine ⟨fun meant => .inr ⟨value, given, meant⟩, ?_⟩
    rintro (⟨unset, -⟩ | ⟨other, given', meant⟩)
    · exact absurd unset given.not_unset
    · exact holds_unique given given' ▸ meant

end Interpreting

/-! ## Settings without a URL -/

/-- What can be wrong with the parts of a connection. -/
def partComplaints (lookup : String → Option String) : List Complaint :=
  [absent lookup "DB_PORT", unfit lookup (Fits 65535) "DB_PORT" "port number",
    absent lookup "DB_USER", absent lookup "DB_PASSWORD", absent lookup "DB_NAME"]

/-- What can be wrong with the variables where there is a host and no URL, in the order in which it
counts. -/
def complaints (lookup : String → Option String) : List Complaint :=
  partComplaints lookup ++
    [unfit lookup (Fits 65535) "SERVER_PORT" "port number",
      unfit lookup (Fits 4294967295) "DATABASE_MAX_CONNECTIONS" "number",
      unfit lookup Switched "RUN_MIGRATIONS" "boolean"]

/-- The connection that the variables describe. The texts are taken as they are given. -/
structure Connects (lookup : String → Option String) (c : Connection) : Prop where
  host : Holds lookup "DB_HOST" c.host
  port : ∃ text, Holds lookup "DB_PORT" text ∧ Fits 65535 text c.port
  user : Holds lookup "DB_USER" c.user
  password : ∃ password, Holds lookup "DB_PASSWORD" password ∧ c.password = some password
  database : ∃ name, Holds lookup "DB_NAME" name ∧ c.database = some name

/-- The settings that the variables describe. -/
structure Describes (lookup : String → Option String) (s : Settings) : Prop where
  database : Connects lookup s.database
  serverPort : Says lookup (Fits 65535) "SERVER_PORT" 8080 s.serverPort
  maxConnections :
    Says lookup (Fits 4294967295) "DATABASE_MAX_CONNECTIONS" 5 s.maxConnections
  runMigrations : Says lookup Switched "RUN_MIGRATIONS" true s.runMigrations

theorem readPort_trim (text : String) (n : Nat) :
    readPort (trim text) = some n ↔ Fits 65535 text n := Unsigned.read?_trim_eq_some_iff

theorem readCount_trim (text : String) (n : Nat) :
    readCount (trim text) = some n ↔ Fits 4294967295 text n := Unsigned.read?_trim_eq_some_iff

theorem heard_connectionTo {host : String} (given : Holds lookup "DB_HOST" host) :
    Heard (partComplaints lookup) (Connects lookup) (connectionTo lookup host) := by
  have heard := (heard_require lookup "DB_PORT").bind fun text hasPort =>
    (heard_interpret readPort_trim hasPort "port number").bind fun port _ =>
    (heard_require lookup "DB_USER").bind fun user _ =>
    (heard_require lookup "DB_PASSWORD").bind fun password _ =>
    (heard_require lookup "DB_NAME").bind fun database _ =>
    .done (Connection.mk host port user (some password) (some database))
  refine heard.congr fun c => ?_
  constructor
  · rintro ⟨text, hasPort, port, fits, user, hasUser, password, hasPassword, database, hasDatabase,
      rfl⟩
    exact ⟨given, ⟨text, hasPort, fits⟩, hasUser, ⟨password, hasPassword, rfl⟩,
      ⟨database, hasDatabase, rfl⟩⟩
  · obtain ⟨host', port, user, password, database⟩ := c
    rintro ⟨hasHost, ⟨text, hasPort, fits⟩, hasUser, ⟨secret, hasPassword, rfl⟩,
      ⟨base, hasDatabase, rfl⟩⟩
    cases holds_unique given hasHost
    exact ⟨text, hasPort, port, fits, user, hasUser, secret, hasPassword, base, hasDatabase, rfl⟩

theorem connection_of_host (connect : String → Option Connection) {host : String}
    (noUrl : Unset lookup "DATABASE_URL") (given : Holds lookup "DB_HOST" host) :
    connection connect lookup = connectionTo lookup host := by
  unfold connection
  simp only [set?_eq_none_iff.2 noUrl, set?_eq_some_iff.2 given]

theorem heard_fromLookup (connect : String → Option Connection) {host : String}
    (noUrl : Unset lookup "DATABASE_URL") (given : Holds lookup "DB_HOST" host) :
    Heard (complaints lookup) (Describes lookup) (fromLookup connect lookup) := by
  have heard := (heard_connectionTo given).bind fun database _ =>
    (heard_optional readPort_trim lookup "SERVER_PORT" "port number" 8080).bind fun serverPort _ =>
    (heard_optional readCount_trim lookup "DATABASE_MAX_CONNECTIONS" "number" 5).bind
      fun maxConnections _ =>
    (heard_optional readSwitch_trim lookup "RUN_MIGRATIONS" "boolean" true).bind
      fun runMigrations _ =>
    .done (Settings.mk database serverPort maxConnections runMigrations)
  unfold fromLookup
  rw [connection_of_host connect noUrl given]
  refine heard.congr fun s => ?_
  constructor
  · rintro ⟨database, connects, serverPort, port, maxConnections, count, runMigrations, switch, rfl⟩
    exact ⟨connects, port, count, switch⟩
  · obtain ⟨database, serverPort, maxConnections, runMigrations⟩ := s
    rintro ⟨connects, port, count, switch⟩
    exact ⟨database, connects, serverPort, port, maxConnections, count, runMigrations, switch, rfl⟩

/-- Where a host is given and no URL, the answer is the first complaint about the variables, and
without one, the settings that they describe. -/
theorem settings_of_parts (connect : String → Option Connection) {host : String}
    (noUrl : Unset lookup "DATABASE_URL") (given : Holds lookup "DB_HOST" host) :
    (∀ e, fromLookup connect lookup = .error e ↔ FirstOf (complaints lookup) e) ∧
    (∀ s, fromLookup connect lookup = .ok s ↔ Clear (complaints lookup) ∧ Describes lookup s) ∧
    (Clear (complaints lookup) → ∃ s, fromLookup connect lookup = .ok s) := by
  have heard := heard_fromLookup connect noUrl given
  refine ⟨fun e => heard.error_iff, fun s => heard.ok_iff, fun clear => ?_⟩
  cases outcome : fromLookup connect lookup with
  | error e => exact absurd clear (heard.error_iff.1 outcome).not_clear
  | ok s => exact ⟨s, rfl⟩

/-- Parts with blanks and with what a URL would escape, beside a blank URL. -/
def spacedParts : String → Option String := fun name =>
  [("DATABASE_URL", " \u2003"), ("DB_HOST", " db:1 "), ("DB_PORT", "\t+005433 "),
    ("DB_USER", "ops@team "), ("DB_PASSWORD", "p@ss:w/rd#1"), ("DB_NAME", "assigner"),
    ("SERVER_PORT", "\n"), ("RUN_MIGRATIONS", " false")].lookup name

/-- The parts describe settings, until the port of the server is one too many. -/
theorem spacedParts_settings :
    (Clear (complaints spacedParts) ∧
      Describes spacedParts
        ⟨⟨" db:1 ", 5433, "ops@team ", some "p@ss:w/rd#1", some "assigner"⟩, 8080, 5, false⟩) ∧
    FirstOf (complaints (Function.update spacedParts "SERVER_PORT" (some "65536 ")))
      (.invalid "SERVER_PORT" "port number" "65536 ") := by
  have noUrl : Unset spacedParts "DATABASE_URL" := by
    intro value given
    cases given
    decide
  have host : Holds spacedParts "DB_HOST" " db:1 " := ⟨by decide, by decide⟩
  have sound := (settings_of_parts (fun _ => none) noUrl host).2.1
    ⟨⟨" db:1 ", 5433, "ops@team ", some "p@ss:w/rd#1", some "assigner"⟩, 8080, 5, false⟩
  have kept : ∀ name, name ≠ "SERVER_PORT" →
      Function.update spacedParts "SERVER_PORT" (some "65536 ") name = spacedParts name :=
    fun name other => Function.update_of_ne other _ _
  have noUrl' : Unset (Function.update spacedParts "SERVER_PORT" (some "65536 "))
      "DATABASE_URL" := by
    intro value given
    rw [kept "DATABASE_URL" (by decide)] at given
    exact noUrl value given
  have host' : Holds (Function.update spacedParts "SERVER_PORT" (some "65536 ")) "DB_HOST"
      " db:1 " := by
    refine ⟨?_, host.2⟩
    rw [kept "DB_HOST" (by decide)]
    exact host.1
  have late := (settings_of_parts (fun _ => none) noUrl' host').1
    (.invalid "SERVER_PORT" "port number" "65536 ")
  exact ⟨sound.1 (by decide +kernel), late.1 (by decide +kernel)⟩

end ReviewDesk.Settings
