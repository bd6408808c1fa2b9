-- What the desk says to its database, as a tree: it ends, or sends a command and goes on
-- by the reply.
import ReviewDesk.Sql.Statement

namespace ReviewDesk.Sql

/-- What a command is answered with. -/
abbrev Reply := Except Cause (List Row)

inductive Exchange (α : Type) : Type where
  | done (value : α)
  | send (c : Command) (resume : Reply → Exchange α)

namespace Exchange

/-- Goes on with a second exchange when the first is done. -/
def bind {α β : Type} : Exchange α → (α → Exchange β) → Exchange β
  | done value, f => f value
  | send c resume, f => send c fun reply => (resume reply).bind f

instance : Monad Exchange where
  pure := done
  bind := bind

@[simp]
theorem pure_eq {α : Type} (a : α) : (pure a : Exchange α) = done a := rfl

@[simp]
theorem done_bind {α β : Type} (a : α) (f : α → Exchange β) : (done a >>= f) = f a := rfl

@[simp]
theorem send_bind {α β : Type} (c : Command) (resume : Reply → Exchange α)
    (f : α → Exchange β) :
    (send c resume >>= f) = send c fun reply => resume reply >>= f := rfl

theorem bind_done {α : Type} (x : Exchange α) : x.bind done = x := by
  induction x with
  | done value => rfl
  | send c resume ih => exact congrArg (send c) (funext ih)

theorem bind_bind {α β γ : Type} (x : Exchange α) (f : α → Exchange β) (g : β → Exchange γ) :
    (x.bind f).bind g = x.bind fun a => (f a).bind g := by
  induction x with
  | done value => rfl
  | send c resume ih => exact congrArg (send c) (funext ih)

instance : LawfulMonad Exchange := LawfulMonad.mk' Exchange bind_done (fun _ _ => rfl) bind_bind

end Exchange

/-- An exchange that may fail. -/
abbrev Attempt (α : Type) := ExceptT StoreError Exchange α

namespace Attempt

/-- Ends the attempt unless there is an outcome. -/
def ofOutcome {α : Type} (context : String) : Except Cause α → Attempt α
  | .ok a => pure a
  | .error cause => throw (cause.error context)

/-- Sends a command. An error ends the attempt. -/
def send (context : String) (c : Command) : Attempt (List Row) := do
  ofOutcome context (← ExceptT.lift (Exchange.send c .done))

/-- Sends a statement whose rows do not matter. -/
def execute (s : Statement) : Attempt Unit := do
  let _ ← send s.context (.statement s)

/-- Sends a statement and reads each row, up to the first that cannot be read. -/
def fetchAll {α : Type} (s : Statement) (read : Row → Except Cause α) : Attempt (List α) := do
  let rows ← send s.context (.statement s)
  ofOutcome s.context (rows.mapM read)

/-- Sends a statement and reads the first row, if there is one. -/
def fetchFirst? {α : Type} (s : Statement) (read : Row → Except Cause α) :
    Attempt (Option α) := do
  let rows ← send s.context (.statement s)
  ofOutcome s.context (rows.head?.mapM read)

/-- Makes an attempt one transaction. Whatever fails from the first command to the last, the
transaction is rolled back. -/
def transaction {α : Type} (ending : String) (body : Attempt α) : Attempt α :=
  tryCatch
    (do
      let _ ← send "Failed to begin transaction" (.control .begin)
      let a ← body
      let _ ← send ending (.control .commit)
      return a)
    fun e => do
      let _ ← ExceptT.lift (Exchange.send (.control .rollback) .done)
      throw e

/-- Makes an attempt one transaction that changes nothing and sees one state of all tables. -/
def snapshot {α : Type} (body : Attempt α) : Attempt α :=
  transaction "Failed to end read transaction" do
    let _ ← send "Failed to set isolation level" (.control .isolate)
    body

end Attempt

end ReviewDesk.Sql
