-- What the desk does, as a tree: it ends, or writes into its log and goes on, or calls
-- the store and goes on by the reply. A tree can be run against any store, against
-- replies from anywhere, or one call at a time among other programs.
import ReviewDesk.Call
import ReviewDesk.Event

namespace ReviewDesk

inductive Program (α : Type) : Type where
  | done (value : α)
  | note (event : Event) (rest : Program α)
  | call (c : Call) (resume : c.Reply → Program α)

namespace Program

/-- Goes on with a second program when the first is done. -/
def bind {α β : Type} : Program α → (α → Program β) → Program β
  | done value, f => f value
  | note event rest, f => note event (rest.bind f)
  | call c resume, f => call c fun reply => (resume reply).bind f

instance : Monad Program where
  pure := done
  bind := bind

@[simp]
theorem pure_eq {α : Type} (a : α) : (pure a : Program α) = done a := rfl

@[simp]
theorem done_bind {α β : Type} (a : α) (f : α → Program β) : (done a >>= f) = f a := rfl

@[simp]
theorem note_bind {α β : Type} (event : Event) (p : Program α) (f : α → Program β) :
    (note event p >>= f) = note event (p >>= f) := rfl

@[simp]
theorem call_bind {α β : Type} (c : Call) (resume : c.Reply → Program α) (f : α → Program β) :
    (call c resume >>= f) = call c fun reply => resume reply >>= f := rfl

theorem bind_done {α : Type} (p : Program α) : p.bind done = p := by
  induction p with
  | done value => rfl
  | note event rest ih => exact congrArg (note event) ih
  | call c resume ih => exact congrArg (call c) (funext ih)

theorem bind_bind {α β γ : Type} (p : Program α) (f : α → Program β) (g : β → Program γ) :
    (p.bind f).bind g = p.bind fun a => (f a).bind g := by
  induction p with
  | done value => rfl
  | note event rest ih => exact congrArg (note event) ih
  | call c resume ih => exact congrArg (call c) (funext ih)

instance : LawfulMonad Program := LawfulMonad.mk' Program bind_done (fun _ _ => rfl) bind_bind

/-- Writes one event. -/
def log (event : Event) : Program Unit := note event (done ())

/-- Makes one call. -/
def ask (c : Call) : Program c.Reply := call c done

/-- Runs a program where calls can be answered and events be written. -/
def interpret {m : Type → Type} [Monad m] {α : Type} (answer : (c : Call) → m c.Reply)
    (write : Event → m Unit) : Program α → m α
  | done value => pure value
  | note event rest => do
    write event
    interpret answer write rest
  | call c resume => do
    let reply ← answer c
    interpret answer write (resume reply)

end Program

end ReviewDesk
