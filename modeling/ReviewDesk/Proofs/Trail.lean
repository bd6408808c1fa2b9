-- What a program has done, whoever answered it: the calls that it has made, what each was
-- answered, and what it has written into the log between them. The calls alone are its trail.
-- They decide what the program asks next, and how it ends.
import ReviewDesk.Program

namespace ReviewDesk

/-- A call and what it was answered. -/
structure Exchange where
  call : Call
  reply : call.Reply

/-- A step that shows outside: a call with its reply, or an event for the log. -/
inductive Act where
  | exchange (x : Exchange)
  | event (event : Event)

def Act.exchange? : Act → Option Exchange
  | exchange x => some x
  | event _ => none

/-- The calls among some acts. -/
def trailOf (acts : List Act) : List Exchange := acts.filterMap Act.exchange?

namespace Program

variable {α : Type}

/-- What is left of a program after some acts. -/
inductive Performs : Program α → List Act → Program α → Prop
  | here (p : Program α) : Performs p [] p
  | note {event : Event} {rest q : Program α} {acts : List Act} :
      Performs rest acts q → Performs (note event rest) (.event event :: acts) q
  | call {c : Call} {resume : c.Reply → Program α} {q : Program α} {acts : List Act}
      (reply : c.Reply) : Performs (resume reply) acts q →
      Performs (call c resume) (.exchange ⟨c, reply⟩ :: acts) q

/-- What is left of a program after the calls of a trail. Writing into the log leaves no mark
on the trail. -/
inductive Reaches : Program α → List Exchange → Program α → Prop
  | here (p : Program α) : Reaches p [] p
  | note {event : Event} {rest q : Program α} {trail : List Exchange} :
      Reaches rest trail q → Reaches (note event rest) trail q
  | call {c : Call} {resume : c.Reply → Program α} {q : Program α} {trail : List Exchange}
      (reply : c.Reply) : Reaches (resume reply) trail q →
      Reaches (call c resume) (⟨c, reply⟩ :: trail) q

/-- After the calls of a trail, the program waits for the answer to a call. -/
def Asks (p : Program α) (trail : List Exchange) (c : Call) : Prop :=
  ∃ resume, p.Reaches trail (call c resume)

/-- After the calls of a trail, the program is done. -/
def Ends (p : Program α) (trail : List Exchange) (value : α) : Prop :=
  p.Reaches trail (done value)

theorem performs_done {a : α} {acts : List Act} {q : Program α} :
    (done a).Performs acts q ↔ acts = [] ∧ q = done a := by
  constructor
  · intro h
    cases h
    exact ⟨rfl, rfl⟩
  · rintro ⟨rfl, rfl⟩
    exact .here _

theorem performs_trans {p q r : Program α} {first second : List Act} (h : p.Performs first q)
    (h' : q.Performs second r) : p.Performs (first ++ second) r := by
  induction h with
  | here p => exact h'
  | note _ ih => exact .note (ih h')
  | call reply _ ih => exact .call reply (ih h')

/-- A trail keeps the calls of what was done, and nothing of the log. -/
theorem reaches_iff_performs {p q : Program α} {trail : List Exchange} :
    p.Reaches trail q ↔ ∃ acts, p.Performs acts q ∧ trailOf acts = trail := by
  constructor
  · intro h
    induction h with
    | here p => exact ⟨[], .here p, rfl⟩
    | @note event _ _ _ _ ih =>
      obtain ⟨acts, performs, rfl⟩ := ih
      exact ⟨.event event :: acts, .note performs, rfl⟩
    | @call c _ _ _ reply _ ih =>
      obtain ⟨acts, performs, rfl⟩ := ih
      exact ⟨.exchange ⟨c, reply⟩ :: acts, .call reply performs, rfl⟩
  · rintro ⟨acts, performs, rfl⟩
    induction performs with
    | here p => exact .here p
    | note _ ih => exact .note ih
    | call reply _ ih => exact .call reply ih

theorem reaches_trans {p q r : Program α} {first second : List Exchange}
    (h : p.Reaches first q) (h' : q.Reaches second r) : p.Reaches (first ++ second) r := by
  obtain ⟨acts, performs, rfl⟩ := reaches_iff_performs.1 h
  obtain ⟨acts', performs', rfl⟩ := reaches_iff_performs.1 h'
  exact reaches_iff_performs.2 ⟨_, performs_trans performs performs', List.filterMap_append ..⟩

/-- Every program can come to an end. -/
theorem ends_somewhere (p : Program α) : ∃ trail a, p.Ends trail a := by
  induction p with
  | done a => exact ⟨[], a, .here _⟩
  | note event rest ih =>
    obtain ⟨trail, a, ends⟩ := ih
    exact ⟨trail, a, .note ends⟩
  | call c resume ih =>
    obtain ⟨trail, a, ends⟩ := ih (.error (.database ""))
    exact ⟨_ :: trail, a, .call _ ends⟩

/-- Each call on a trail was what the program asked for after the calls before it. -/
theorem asks_of_reaches {p q : Program α} {l l' : List Exchange} {x : Exchange}
    (h : p.Reaches (l ++ x :: l') q) : p.Asks l x.call := by
  generalize path : l ++ x :: l' = trail at h
  induction h generalizing l with
  | here p => simp at path
  | note _ ih =>
    obtain ⟨resume, h⟩ := ih path
    exact ⟨resume, .note h⟩
  | @call c resume q trail reply _ ih =>
    cases l with
    | nil =>
      cases path
      exact ⟨resume, .here _⟩
    | cons y l =>
      cases path
      obtain ⟨next, h⟩ := ih rfl
      exact ⟨next, .call reply h⟩

/-! ## What comes next -/

@[simp]
theorem asks_done {a : α} {trail : List Exchange} {c : Call} : (done a).Asks trail c ↔ False := by
  constructor
  · rintro ⟨resume, h⟩
    cases h
  · exact False.elim

@[simp]
theorem asks_note {event : Event} {p : Program α} {trail : List Exchange} {c : Call} :
    (note event p).Asks trail c ↔ p.Asks trail c := by
  constructor
  · rintro ⟨resume, h⟩
    cases h with
    | note h => exact ⟨resume, h⟩
  · rintro ⟨resume, h⟩
    exact ⟨resume, .note h⟩

theorem asks_call {d : Call} {resume : d.Reply → Program α} {trail : List Exchange} {c : Call} :
    (call d resume).Asks trail c ↔ (trail = [] ∧ c = d) ∨
      ∃ reply rest, trail = ⟨d, reply⟩ :: rest ∧ (resume reply).Asks rest c := by
  constructor
  · rintro ⟨next, h⟩
    cases h with
    | here => exact .inl ⟨rfl, rfl⟩
    | call reply h => exact .inr ⟨reply, _, rfl, next, h⟩
  · rintro (⟨rfl, rfl⟩ | ⟨reply, rest, rfl, next, h⟩)
    · exact ⟨resume, .here _⟩
    · exact ⟨next, .call reply h⟩

theorem asks_answered {d : Call} {resume : d.Reply → Program α} {reply : d.Reply}
    {trail : List Exchange} {c : Call} :
    (call d resume).Asks (⟨d, reply⟩ :: trail) c ↔ (resume reply).Asks trail c := by
  constructor
  · rintro ⟨next, h⟩
    cases h with
    | call _ h => exact ⟨next, h⟩
  · rintro ⟨next, h⟩
    exact ⟨next, .call reply h⟩

/-- A write comes only after the reply to a read. -/
theorem asks_past {d : Call} {resume : d.Reply → Program α} {trail : List Exchange} {c : Call}
    (read : d.isWrite = false) (write : c.isWrite = true) :
    (call d resume).Asks trail c ↔
      ∃ reply rest, trail = ⟨d, reply⟩ :: rest ∧ (resume reply).Asks rest c := by
  rw [asks_call]
  constructor
  · rintro (⟨-, rfl⟩ | later)
    · rw [read] at write
      cases write
    · exact later
  · exact .inr

@[simp]
theorem ends_done {a b : α} {trail : List Exchange} :
    (done a).Ends trail b ↔ trail = [] ∧ b = a := by
  constructor
  · intro h
    cases h
    exact ⟨rfl, rfl⟩
  · rintro ⟨rfl, rfl⟩
    exact .here _

@[simp]
theorem ends_note {event : Event} {p : Program α} {trail : List Exchange} {a : α} :
    (note event p).Ends trail a ↔ p.Ends trail a := by
  constructor
  · intro h
    cases h with
    | note h => exact h
  · exact .note

theorem ends_call {d : Call} {resume : d.Reply → Program α} {trail : List Exchange} {a : α} :
    (call d resume).Ends trail a ↔
      ∃ reply rest, trail = ⟨d, reply⟩ :: rest ∧ (resume reply).Ends rest a := by
  constructor
  · intro h
    cases h with
    | call reply h => exact ⟨reply, _, rfl, h⟩
  · rintro ⟨reply, rest, rfl, h⟩
    exact .call reply h

theorem ends_answered {d : Call} {resume : d.Reply → Program α} {reply : d.Reply}
    {trail : List Exchange} {a : α} :
    (call d resume).Ends (⟨d, reply⟩ :: trail) a ↔ (resume reply).Ends trail a := by
  constructor
  · intro h
    cases h with
    | call _ h => exact h
  · exact .call reply

/-! ## What it can come to -/

/-- The program makes only calls that it may make, as long as the replies are fitting. -/
def Only (may : Call → Prop) (fits : (c : Call) → c.Reply → Prop) : Program α → Prop
  | done _ => True
  | note _ rest => rest.Only may fits
  | call c resume => may c ∧ ∀ reply, fits c reply → (resume reply).Only may fits

theorem only_done {may : Call → Prop} {fits : (c : Call) → c.Reply → Prop} {a : α} :
    (done a).Only may fits := trivial

theorem only_note {may : Call → Prop} {fits : (c : Call) → c.Reply → Prop} {event : Event}
    {p : Program α} : (note event p).Only may fits ↔ p.Only may fits := Iff.rfl

theorem only_call {may : Call → Prop} {fits : (c : Call) → c.Reply → Prop} {c : Call}
    {resume : c.Reply → Program α} : (call c resume).Only may fits ↔
      may c ∧ ∀ reply, fits c reply → (resume reply).Only may fits := Iff.rfl

theorem only_bind {β : Type} {may : Call → Prop} {fits : (c : Call) → c.Reply → Prop}
    {p : Program α} {f : α → Program β} (h : p.Only may fits) (h' : ∀ a, (f a).Only may fits) :
    (p >>= f).Only may fits := by
  induction p with
  | done a => exact h' a
  | note event rest ih => exact ih h
  | call c resume ih => exact ⟨h.1, fun reply fit => ih reply (h.2 reply fit)⟩

/-- Each call that was made is one that the program may make. -/
theorem may_of_reaches {may : Call → Prop} {fits : (c : Call) → c.Reply → Prop} {p q : Program α}
    {trail : List Exchange} (h : p.Only may fits) (reaches : p.Reaches trail q)
    (fitting : ∀ x ∈ trail, fits x.call x.reply) : ∀ x ∈ trail, may x.call := by
  induction reaches with
  | here p => simp
  | note _ ih => exact ih h fitting
  | call reply _ ih =>
    obtain ⟨first, later⟩ := List.forall_mem_cons.1 fitting
    exact List.forall_mem_cons.2 ⟨h.1, ih (h.2 reply first) later⟩

/-- The program makes no call that can change the store. -/
def Reads (p : Program α) : Prop := p.Only (fun c => c.isWrite = false) fun _ _ => True

end Program

end ReviewDesk
