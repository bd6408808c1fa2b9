-- The settings of the desk, which come from named variables. A variable that is blank
-- counts as one that is not set.
import ReviewDesk.Settings.Connection
import ReviewDesk.Text.Blank
import ReviewDesk.Text.Quoted

namespace ReviewDesk

inductive SettingsError where
  | noDatabase
  | missing (name : String)
  | invalid (name expected value : String)
  deriving DecidableEq, Repr

namespace SettingsError

def message : SettingsError → String
  | noDatabase => "either DATABASE_URL or DB_HOST must be set"
  | missing name => name ++ " environment variable is required when DB_HOST is set"
  | invalid name expected value =>
    name ++ " must be a valid " ++ expected ++ ", got " ++ Quoted.quote value

end SettingsError

structure Settings where
  database : Connection
  serverPort : Nat
  maxConnections : Nat
  runMigrations : Bool
  deriving DecidableEq, Repr

namespace Settings

/-! ## Variables -/

/-- The value of a variable that is set. -/
def set? (lookup : String → Option String) (name : String) : Option String :=
  (lookup name).filter (!isBlankText ·)

/-- Reads a value without the blanks at its ends. A refusal shows all of it. -/
def interpret {α : Type} (read : String → Option α) (name expected value : String) :
    Except SettingsError α :=
  match read (trim value) with
  | some a => .ok a
  | none => .error (.invalid name expected value)

def readPort : String → Option Nat := Unsigned.read? 65535

def readCount : String → Option Nat := Unsigned.read? 4294967295

def readSwitch (text : String) : Option Bool :=
  if text = "true" then some true else if text = "false" then some false else none

/-- A variable that has to be set. -/
def require (lookup : String → Option String) (name : String) : Except SettingsError String :=
  match set? lookup name with
  | some value => .ok value
  | none => .error (.missing name)

/-- A variable that may be left out. -/
def optional {α : Type} (lookup : String → Option String) (read : String → Option α)
    (name expected : String) (default : α) : Except SettingsError α :=
  match set? lookup name with
  | some value => interpret read name expected value
  | none => .ok default

/-! ## Settings -/

/-- The connection that the variables of its parts describe. -/
def connectionTo (lookup : String → Option String) (host : String) :
    Except SettingsError Connection := do
  let port ← interpret readPort "DB_PORT" "port number" (← require lookup "DB_PORT")
  let user ← require lookup "DB_USER"
  let password ← require lookup "DB_PASSWORD"
  let database ← require lookup "DB_NAME"
  return { host, port, user, password := some password, database := some database }

/-- The connection to the database. A URL comes before the parts. -/
def connection (connect : String → Option Connection) (lookup : String → Option String) :
    Except SettingsError Connection :=
  match set? lookup "DATABASE_URL", set? lookup "DB_HOST" with
  | some url, _ =>
    match connect url with
    | some c => .ok c
    | none => .error (.invalid "DATABASE_URL" "PostgreSQL connection URL" url)
  | none, some host => connectionTo lookup host
  | none, none => .error .noDatabase

/-- The settings that the variables describe, where `connect` reads a URL. -/
def fromLookup (connect : String → Option Connection) (lookup : String → Option String) :
    Except SettingsError Settings := do
  let database ← connection connect lookup
  let serverPort ← optional lookup readPort "SERVER_PORT" "port number" 8080
  let maxConnections ← optional lookup readCount "DATABASE_MAX_CONNECTIONS" "number" 5
  let runMigrations ← optional lookup readSwitch "RUN_MIGRATIONS" "boolean" true
  return { database, serverPort, maxConnections, runMigrations }

/-- Where the server listens: at its port, on every address of the machine. -/
def bindAddress (s : Settings) : String := "0.0.0.0:" ++ toString s.serverPort

end Settings

end ReviewDesk
