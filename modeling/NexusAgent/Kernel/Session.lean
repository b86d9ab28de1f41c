import NexusAgent.Kernel.Loop

/-!
# A session and the kernel calls on it

The durable side of one session, its log and the status in its row
(`internal/eventlog/postgres`, `internal/store/append.go`, `internal/store/status.go`), and
what the surroundings of a kernel call can answer. An append and a status write are a
transaction each: it commits or it fails, and a failure leaves nothing behind. Everything else
a call asks for is answered freely.
-/

namespace NexusAgent.Kernel

open EventLog Provider

structure Row where
  status : SessionStatus := .queued
  terminalReason : Option TerminalReason := none
  log : Log Payload := Log.empty

/-- `UpdateSessionStatus`: written whatever the status was. -/
def Row.setStatus (r : Row) (status : SessionStatus) (terminalReason : Option TerminalReason) :
    Row :=
  { r with status, terminalReason }

inductive Reply
  /-- The append commits, under this identifier. -/
  | appended (eventID : UUID)
  | notAppended (e : AppendError)
  /-- A write commits, or fails with an error. -/
  | wrote (err : Option String)
  | more (b : Bool)
  | reserved (res : Cost.Reservation) (refused : Option String)
  | streamed (answer : Except StreamError (List Chunk × Option StreamError))
  | executed (result : ToolResult)
  | executedApproved (result : Option ToolResult)
  | recorded (verdict : Option StuckVerdict)

/-- The turn is let through, with nothing reserved for it. -/
def Reply.unmetered : Reply :=
  .reserved
    { id := 0, tenantID := 0, sessionID := 0, modelID := ""
      decision := { kind := .skip, reason := "", reserved := { currency := "USD" } } } none

/-- The answer that a choice of the surroundings gives to a request, and the session after
it. -/
def Row.handle (r : Row) : (o : Op) → Reply → Option (o.Answer × Row)
  | .append d, .appended eventID =>
    (r.log.append (d.event eventID 0)).map fun log =>
      (.ok (eventID, r.log.nextSeq d.sessionID), { r with log })
  | .append _, .notAppended e => some (.error e, r)
  | .setStatus _ status reason, .wrote none => some (none, r.setStatus status reason)
  | .setStatus .., .wrote (some e) => some (some e, r)
  | .recordSuspension _, .wrote err => some (err, r)
  | .recordDelegation _, .wrote err => some (err, r)
  | .yield .., .more b => some (b, r)
  | .reserve _, .reserved res refused => some ((res, refused), r)
  | .reconcile .., .wrote err => some (err, r)
  | .stream .., .streamed answer => some (answer, r)
  | .execute .., .executed result => some (result, r)
  | .executeApproved .., .executedApproved result => some (result, r)
  | .record .., .recorded verdict => some (verdict, r)
  | .forget _, .wrote _ => some ((), r)
  | _, _ => none

variable {r r' : Row} {t : Reply}

lemma Row.handle_append {d : Draft} {answer : Except AppendError (UUID × ℕ)}
    (h : r.handle (.append d) t = some (answer, r')) :
    (∃ e, answer = .error e ∧ r' = r) ∨
      ∃ eventID log, answer = .ok (eventID, r.log.nextSeq d.sessionID) ∧
        r.log.append (d.event eventID 0) = some log ∧ r' = { r with log } := by
  cases t with
  | appended eventID =>
    obtain ⟨log, hlog, heq⟩ := Option.map_eq_some_iff.1 h
    cases heq
    exact .inr ⟨eventID, log, rfl, hlog, rfl⟩
  | notAppended e =>
    cases h
    exact .inl ⟨e, rfl, rfl⟩
  | _ => nomatch h

lemma Row.handle_setStatus {sessionID : UUID} {status : SessionStatus}
    {reason : Option TerminalReason} {err : Option String}
    (h : r.handle (.setStatus sessionID status reason) t = some (err, r')) :
    t = .wrote err ∧ r' = if err.isNone then r.setStatus status reason else r := by
  cases t with
  | wrote err' =>
    cases err' with
    | none | some =>
      cases h
      exact ⟨rfl, rfl⟩
  | _ => nomatch h

/-- The provider's answer is the one that the surroundings chose. -/
lemma Row.handle_stream {p : Prompt} {tools : List ToolSchema}
    {answer : Except StreamError (List Chunk × Option StreamError)}
    (h : r.handle (.stream p tools) t = some (answer, r')) : t = .streamed answer := by
  cases t with
  | streamed answer' =>
    cases h
    rfl
  | _ => nomatch h

/-- Requests other than appends and status writes leave the session as it is. -/
def Op.Writes : Op → Prop
  | .append _ | .setStatus .. => True
  | _ => False

lemma Row.handle_eq {o : Op} {answer : o.Answer} (ho : ¬ o.Writes)
    (h : r.handle o t = some (answer, r')) : r' = r := by
  cases o <;> cases t <;> first
    | exact absurd trivial ho
    | exact (Prod.mk.inj (Option.some.inj h)).2.symm
    | nomatch h

lemma Row.handle_log {o : Op} {answer : o.Answer}
    (ho : ∀ d, o ≠ .append d) (h : r.handle o t = some (answer, r')) : r'.log = r.log := by
  by_cases hwrites : o.Writes
  · cases o with
    | append d => exact absurd rfl (ho d)
    | setStatus sid status reason =>
      obtain ⟨-, rfl⟩ := Row.handle_setStatus h
      split <;> rfl
    | _ => exact hwrites.elim
  · rw [Row.handle_eq hwrites h]

end NexusAgent.Kernel
