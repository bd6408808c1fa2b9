-- What is said in an exchange with the database: each command and the reply to it, whoever gives
-- the replies. An attempt goes on only as long as none of them is an error, and a transaction that
-- does not get to its end is rolled back.
import ReviewDesk.Sql.Exchange

namespace ReviewDesk.Sql

/-- A command and the reply to it. -/
structure Line where
  command : Command
  reply : Reply

/-- The commands of some lines. -/
def commands (lines : List Line) : List Command := lines.map Line.command

namespace Exchange

variable {α β : Type}

/-- What is said in an exchange until it is done, and what it is done with. -/
inductive Says : Exchange α → List Line → α → Prop
  | done (a : α) : Says (done a) [] a
  | send {c : Command} {resume : Reply → Exchange α} {lines : List Line} {a : α} (reply : Reply) :
      Says (resume reply) lines a → Says (send c resume) (⟨c, reply⟩ :: lines) a

/-- Plays an exchange against a script, which has a reply for each command in turn. -/
def play : Exchange α → (Nat → Reply) → List Line × α
  | done a, _ => ([], a)
  | send c resume, replies =>
    let (lines, a) := (resume (replies 0)).play fun n => replies (n + 1)
    (⟨c, replies 0⟩ :: lines, a)

theorem says_play (x : Exchange α) (replies : Nat → Reply) :
    x.Says (x.play replies).1 (x.play replies).2 := by
  induction x generalizing replies with
  | done a => exact .done a
  | send c resume ih => exact .send (replies 0) (ih (replies 0) _)

theorem says_bind {x : Exchange α} {f : α → Exchange β} {lines : List Line} {b : β}
    (h : (x >>= f).Says lines b) :
    ∃ first a second, x.Says first a ∧ (f a).Says second b ∧ lines = first ++ second := by
  induction x generalizing lines with
  | done a => exact ⟨[], a, lines, .done a, h, rfl⟩
  | send c resume ih =>
    cases h with
    | send reply h =>
      obtain ⟨first, a, second, said, said', rfl⟩ := ih reply h
      exact ⟨_, a, second, .send reply said, said', rfl⟩

end Exchange

/-! ## Attempts -/

namespace Attempt

variable {α β : Type} {lines : List Line}

theorem says_pure {a : α} {outcome : Except StoreError α}
    (h : (pure a : Attempt α).run.Says lines outcome) : lines = [] ∧ outcome = .ok a := by
  cases h
  exact ⟨rfl, rfl⟩

theorem says_throw {e : StoreError} {outcome : Except StoreError α}
    (h : (throw e : Attempt α).run.Says lines outcome) : lines = [] ∧ outcome = .error e := by
  cases h
  exact ⟨rfl, rfl⟩

/-- After an error nothing more is said. -/
theorem says_bind {x : Attempt α} {f : α → Attempt β} {outcome : Except StoreError β}
    (h : (x >>= f).run.Says lines outcome) :
    (∃ e, x.run.Says lines (.error e) ∧ outcome = .error e) ∨
      ∃ first a second, x.run.Says first (.ok a) ∧ (f a).run.Says second outcome ∧
        lines = first ++ second := by
  rw [ExceptT.run_bind] at h
  obtain ⟨first, result, second, said, said', rfl⟩ := Exchange.says_bind h
  cases result with
  | error e =>
    cases said'
    rw [List.append_nil]
    exact .inl ⟨e, said, rfl⟩
  | ok a => exact .inr ⟨first, a, second, said, said', rfl⟩

/-- A command is sent, and an error ends the attempt. -/
theorem says_send_bind {context : String} {c : Command} {f : List Row → Attempt β}
    {outcome : Except StoreError β} (h : (send context c >>= f).run.Says lines outcome) :
    (∃ cause, lines = [⟨c, .error cause⟩] ∧ outcome = .error (cause.error context)) ∨
      ∃ rows rest, (f rows).run.Says rest outcome ∧ lines = ⟨c, .ok rows⟩ :: rest := by
  cases h with
  | send reply h =>
    cases reply with
    | error cause =>
      cases h
      exact .inl ⟨cause, rfl, rfl⟩
    | ok rows => exact .inr ⟨rows, _, h, rfl⟩

theorem says_execute_bind {s : Statement} {f : Unit → Attempt β} {outcome : Except StoreError β}
    (h : (execute s >>= f).run.Says lines outcome) :
    (∃ cause, lines = [⟨.statement s, .error cause⟩] ∧ outcome = .error (cause.error s.context)) ∨
      ∃ rows rest, (f ()).run.Says rest outcome ∧ lines = ⟨.statement s, .ok rows⟩ :: rest := by
  unfold execute at h
  rw [bind_assoc] at h
  exact says_send_bind h

/-- The rows of a reply have to be read before the attempt goes on. -/
theorem says_read_bind {s : Statement} {meaning : List Row → Except Cause α} {f : α → Attempt β}
    {outcome : Except StoreError β}
    (h : ((send s.context (.statement s) >>= fun rows => ofOutcome s.context (meaning rows)) >>=
      f).run.Says lines outcome) :
    (∃ cause, lines = [⟨.statement s, .error cause⟩] ∧ outcome = .error (cause.error s.context)) ∨
    (∃ rows cause, meaning rows = .error cause ∧ lines = [⟨.statement s, .ok rows⟩] ∧
      outcome = .error (cause.error s.context)) ∨
    ∃ rows found rest, meaning rows = .ok found ∧ (f found).run.Says rest outcome ∧
      lines = ⟨.statement s, .ok rows⟩ :: rest := by
  rw [bind_assoc] at h
  rcases says_send_bind h with failed | ⟨rows, rest, went, rfl⟩
  · exact .inl failed
  · cases read : meaning rows with
    | error cause =>
      rw [read] at went
      cases went
      exact .inr (.inl ⟨rows, cause, read, rfl, rfl⟩)
    | ok found =>
      rw [read] at went
      exact .inr (.inr ⟨rows, found, rest, read, went, rfl⟩)

/-- What is said in a transaction, and what comes of it. -/
inductive Transacts (ending : String) (body : Attempt α) : List Line → Except StoreError α → Prop
  | notBegun {cause : Cause} (reply : Reply) :
      Transacts ending body [⟨.control .begin, .error cause⟩, ⟨.control .rollback, reply⟩]
        (.error (cause.error "Failed to begin transaction"))
  | failed {rows : List Row} {inner : List Line} {e : StoreError} (reply : Reply)
      (said : body.run.Says inner (.error e)) :
      Transacts ending body
        (⟨.control .begin, .ok rows⟩ :: inner ++ [⟨.control .rollback, reply⟩]) (.error e)
  | notCommitted {rows : List Row} {inner : List Line} {a : α} {cause : Cause} (reply : Reply)
      (said : body.run.Says inner (.ok a)) :
      Transacts ending body
        (⟨.control .begin, .ok rows⟩ :: (inner ++ [⟨.control .commit, .error cause⟩]) ++
          [⟨.control .rollback, reply⟩]) (.error (cause.error ending))
  | committed {rows rows' : List Row} {inner : List Line} {a : α}
      (said : body.run.Says inner (.ok a)) :
      Transacts ending body
        (⟨.control .begin, .ok rows⟩ :: inner ++ [⟨.control .commit, .ok rows'⟩]) (.ok a)

theorem says_tryCatch {x : Attempt α} {f : StoreError → Attempt α} {outcome : Except StoreError α}
    (h : (tryCatch x f).run.Says lines outcome) :
    (∃ a, x.run.Says lines (.ok a) ∧ outcome = .ok a) ∨
      ∃ first e second, x.run.Says first (.error e) ∧ (f e).run.Says second outcome ∧
        lines = first ++ second := by
  obtain ⟨first, result, second, said, said', rfl⟩ := Exchange.says_bind h
  cases result with
  | ok a =>
    cases said'
    rw [List.append_nil]
    exact .inl ⟨a, said, rfl⟩
  | error e => exact .inr ⟨first, e, second, said, said', rfl⟩

theorem says_transaction {ending : String} {body : Attempt α} {outcome : Except StoreError α}
    (h : (transaction ending body).run.Says lines outcome) : Transacts ending body lines outcome := by
  rcases says_tryCatch h with ⟨a, went, rfl⟩ | ⟨first, e, second, went, undone, rfl⟩
  · rcases says_send_bind went with ⟨cause, -, no⟩ | ⟨rows, begun, rest, rfl⟩
    · cases no
    rcases says_bind rest with ⟨e, -, no⟩ | ⟨inner, b, last, did, ends, rfl⟩
    · cases no
    rcases says_send_bind ends with ⟨cause, -, no⟩ | ⟨rows', none, ended, rfl⟩
    · cases no
    obtain ⟨rfl, same⟩ := says_pure ended
    cases same
    exact .committed did
  · obtain ⟨reply, rfl, rfl⟩ : ∃ reply, second = [⟨.control .rollback, reply⟩] ∧
        outcome = .error e := by
      cases undone with
      | send reply undone =>
        cases undone
        exact ⟨reply, rfl, rfl⟩
    rcases says_send_bind went with ⟨cause, rfl, same⟩ | ⟨rows, begun, rest, rfl⟩
    · cases same
      exact .notBegun reply
    rcases says_bind rest with ⟨e, did, same⟩ | ⟨inner, b, last, did, ends, rfl⟩
    · cases same
      exact .failed reply did
    rcases says_send_bind ends with ⟨cause, rfl, same⟩ | ⟨rows', none, ended, rfl⟩
    · cases same
      exact .notCommitted reply did
    obtain ⟨rfl, no⟩ := says_pure ended
    cases no

/-- Every statement of a transaction is sent by what is inside of it, and an error from there is
what comes of the transaction. -/
theorem Transacts.inside {ending : String} {body : Attempt α} {outcome : Except StoreError α}
    (h : Transacts ending body lines outcome) {s : Statement} {reply : Reply}
    (listed : ⟨.statement s, reply⟩ ∈ lines) :
    ∃ inner result, body.run.Says inner result ∧ ⟨.statement s, reply⟩ ∈ inner ∧
      (∀ e, result = .error e → outcome = .error e) ∧
      ∀ line ∈ lines, line ∈ inner ∨ ∃ c, line.command = .control c := by
  obtain ⟨first, inner, closing, result, rfl, said, opens, closes, error⟩ :
      ∃ first inner closing result, lines = first :: inner ++ closing ∧
        body.run.Says inner result ∧ (∃ c, first.command = .control c) ∧
        (∀ line ∈ closing, ∃ c, line.command = .control c) ∧
        ∀ e, result = .error e → outcome = .error e := by
    cases h with
    | notBegun => simp at listed
    | failed _ said => exact ⟨_, _, _, _, rfl, said, ⟨_, rfl⟩, by simp, fun _ same => same⟩
    | @notCommitted _ inner _ cause reply said =>
      refine ⟨_, inner, [⟨.control .commit, .error cause⟩, ⟨.control .rollback, reply⟩], _,
        List.append_assoc (_ :: inner) [_] [_], said, ?_, by simp, nofun⟩
      exact ⟨.begin, rfl⟩
    | committed said => exact ⟨_, _, _, _, rfl, said, ⟨_, rfl⟩, by simp, nofun⟩
  have others : ∀ line ∈ first :: inner ++ closing,
      line ∈ inner ∨ ∃ c, line.command = .control c := by
    intro line there
    rcases List.mem_append.1 there with there | ends
    · rcases List.mem_cons.1 there with rfl | there
      · exact .inr opens
      · exact .inl there
    · exact .inr (closes line ends)
  refine ⟨inner, result, said, ?_, error, others⟩
  rcases others _ listed with within | ⟨c, control⟩
  · exact within
  · cases control

end Attempt

end ReviewDesk.Sql
