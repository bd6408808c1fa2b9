-- How the database is reached, and what a URL says about it.
import ReviewDesk.Text.Percent
import ReviewDesk.Url.Basic

namespace ReviewDesk

/-- Where the database is, who connects, and to which of its databases. -/
structure Connection where
  host : String
  port : Nat
  user : String
  password : Option String
  database : Option String
  deriving DecidableEq, Repr

namespace Connection

/-- The connection of a user to a host, where nothing else is said. -/
def byDefault (host user : String) : Connection :=
  { host, user, port := 5432, password := none, database := none }

/-- The text that escapes spell, if it is one. -/
def spelled? (cs : List Char) : Option String :=
  Utf8.decode? (Percent.decodeText (String.ofList cs))

/-- An empty password is none. -/
def passwordOf (text : String) : Option String := if text = "" then none else some text

/-- Takes the host over. One that spells a path in the file system leaves the host as it is. -/
def withHost? (c : Connection) : Option (List Char) → Option Connection
  | none => some c
  | some host =>
    if (Percent.decodeText (String.ofList host)).head? = some 0x2f then
      (spelled? host).map fun _ => c
    else some { c with host := String.ofList host }

def withUser? (c : Connection) (user : List Char) : Option Connection :=
  if user = [] then some c else (spelled? user).map fun user => { c with user }

def withPassword? (c : Connection) : Option (List Char) → Option Connection
  | none => some c
  | some password => (spelled? password).map fun text => { c with password := passwordOf text }

/-- The ways of encryption that may be asked for. -/
def encryptions : List String :=
  ["disable", "allow", "prefer", "require", "verify-ca", "verify-full"]

/-- Takes one pair of the query over. A name that says nothing here is passed over. -/
def withPair? (c : Connection) : String × String → Option Connection
  | (name, value) =>
    if name = "sslmode" ∨ name = "ssl-mode" then
      if encryptions.contains (value.map Char.toLower) then some c else none
    else if name = "statement-cache-capacity" then
      (Unsigned.read? 18446744073709551615 value).map fun _ => c
    else if name = "host" then
      if value.toList.head? = some '/' then some c else some { c with host := value }
    else if name = "hostaddr" then
      if isIpAddress value then some { c with host := value } else none
    else if name = "port" then
      (Unsigned.read? 65535 value).map fun port => { c with port }
    else if name = "dbname" then some { c with database := some value }
    else if name = "user" then some { c with user := value }
    else if name = "password" then some { c with password := passwordOf value }
    else some c

/-- What a URL says about a connection, over what holds by default. The database is the path
without the slashes in front. -/
def ofUrl? (default : Connection) (url : Url) : Option Connection := do
  let c ← default.withHost? url.host
  let c := { c with port := url.port.getD c.port }
  let c ← c.withUser? url.user
  let c ← c.withPassword? url.password
  let path := url.path.dropWhile (· = '/')
  let c := if path = [] then c else { c with database := some (String.ofList path) }
  (Percent.formPairs (String.ofList url.query)).foldlM withPair? c

/-- Reads a connection from the text of a URL. -/
def read? (default : Connection) (text : String) : Option Connection := do
  ofUrl? default (← Url.parse? text)

end Connection

end ReviewDesk
