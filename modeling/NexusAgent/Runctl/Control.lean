import NexusAgent.EventLog.Appender
import NexusAgent.Kernel.Session
import NexusAgent.Lib.Machine

/-!
# Controlling a session

The operations that act on a session beside its kernel loop (`internal/runctl/cancel.go`,
`converse.go`, `resume.go`, `internal/oversight/resume.go`, `internal/delegate/resolve.go`):
`Cancel`, `EndIdleConversation` and `ResumeConversation`, each one unit of work on the
session's row and log, and the drivers that load a session and call the kernel for it. A
driver looks at the status it loaded, or does not look at it, and calls the kernel later; the
status may be another by then.

`session` is the machine of one session: any number of kernel calls under way, each answered
one request at a time, between the units of work of the other operations. The invalidation of
pending approvals and inputs is a unit of work of its own and shows here as the events it
appends.
-/

namespace NexusAgent.Control

open EventLog Kernel
open UnitOfWork (bind_ok pure_ok statement_ok throw_ok commit_cases)

abbrev SessionWork := UnitOfWork Row UUID String

def storeError : String := "store unavailable"

/-! ### Statements -/

def getStatus : SessionWork SessionStatus :=
  UnitOfWork.statement storeError fun _ r => .ok (r.status, r)

def setSessionStatus (err : String) (status : SessionStatus)
    (terminalReason : Option TerminalReason) : SessionWork Unit :=
  UnitOfWork.statement (err ++ storeError) fun _ r => .ok ((), r.setStatus status terminalReason)

/-- `ClaimAwaitingInput`: the session leaves `awaiting_input` for `running`, if it is there. -/
def claimAwaitingInput : SessionWork Bool :=
  UnitOfWork.statement storeError fun _ r =>
    if r.status = .awaitingInput then .ok (true, r.setStatus .running none) else .ok (false, r)

/-- `Append`: one event under a fresh identifier. -/
def appendEvent (err : String) (sessionID : UUID) (type : EventType) (payload : Payload) :
    SessionWork Unit :=
  appendSystem Row.log (fun r log => { r with log }) (err ++ storeError) sessionID type none none
    payload

/-- `Invalidate`, of the approvals or the inputs that a session waits for: whether it went
through. What it does is a unit of work of its own. -/
def invalidatePending (err : String) : SessionWork Unit :=
  UnitOfWork.statement (err ++ storeError) fun _ r => .ok ((), r)

/-! ### Operations -/

/-- A terminal event and the status `failed`, in one unit of work. -/
def endRun (what : String) (sessionID : UUID) (t : Terminal) : SessionWork Unit := do
  appendEvent (what ++ ": append terminal event: ") sessionID .terminal
    (.terminal t.reason t.detail)
  setSessionStatus (what ++ ": update session status: ") .failed (some t.reason)

def release (status : SessionStatus) : SessionWork Unit :=
  if status = .suspended then do
    invalidatePending "cancel: invalidate pending approval: "
    invalidatePending "cancel: invalidate pending input requests: "
  else pure ()

/-- What `Cancel` does to a session that has not ended. -/
def abort (sessionID : UUID) (reason : String) (status : SessionStatus) : SessionWork Unit := do
  release status
  endRun "cancel" sessionID { reason := .aborted, detail := reason }

/-- `Cancel`: a session that has ended is left alone. -/
def cancel (sessionID : UUID) (reason : String) : SessionWork Unit := do
  let status ← getStatus
  if status.terminal then pure () else abort sessionID reason status

/-- `TerminalIdleTimeout`, with the detail that the sweep gives. -/
def idleTimeout : Terminal :=
  { reason := .idleTimeout
    detail := "no reply received before the idle-conversation sweep window elapsed" }

/-- `EndIdleConversation`: only a session that awaits input is ended. -/
def endIdleConversation (sessionID : UUID) : SessionWork Unit := do
  let status ← getStatus
  if status ≠ .awaitingInput then pure ()
  else endRun "end idle conversation" sessionID idleTimeout

def statusText : SessionStatus → String
  | .queued => "queued"
  | .running => "running"
  | .suspended => "suspended"
  | .awaitingInput => "awaiting_input"
  | .completed => "completed"
  | .failed => "failed"

/-- `ResumeConversation`: the session is claimed and the user's message recorded. -/
def converse (sessionID : UUID) (input : String) : SessionWork Unit := do
  let claimed ← claimAwaitingInput
  if claimed then appendEvent "" sessionID .userMessage (.userMessage input)
  else do
    let status ← getStatus
    throw ("runctl: session " ++ UUID.string sessionID ++ " is " ++
      Go.quote (statusText status) ++
      ", not awaiting_input; nothing to resume a conversation into")

def commitWork (work : SessionWork Unit) (script : List (Option UUID)) (r : Row) : Row :=
  (UnitOfWork.commit storeError work script r).2

/-! ### The session as a machine -/

/-- Whether the driver of a kernel call goes on after the status it loaded: a fresh run is
only started for a session that was just created, `Resume` refuses sessions that have ended or
wait for someone, the resume of a parent needs it suspended, and the approval's resume does not
look. -/
def Loads (status : SessionStatus) : Entry → Prop
  | .run _ => status = .queued
  | .continueRun _ =>
    status.terminal = false ∧ status ≠ .suspended ∧ status ≠ .awaitingInput
  | .resumeDelegation .. => status = .suspended
  | .resume .. | .resumeConversation .. => True

instance (status : SessionStatus) (entry : Entry) : Decidable (Loads status entry) := by
  cases entry <;> unfold Loads <;> infer_instance

/-- A session and the kernel calls on it that are under way. -/
structure System where
  row : Row := {}
  live : List Live := []

inductive Action
  /-- A driver loads the session and calls the kernel. -/
  | start (entry : Entry)
  /-- The request a kernel call waits at is answered. -/
  | reply (i : ℕ) (t : Reply)
  /-- A kernel call is over: it has returned, or its process is gone. -/
  | leave (i : ℕ)
  | cancel (reason : String) (script : List (Option UUID))
  | endIdleConversation (script : List (Option UUID))
  | resumeConversation (input : String) (script : List (Option UUID))
  /-- Another component appends an event that is not terminal. -/
  | note (d : Draft) (eventID : UUID)

def session (k : Kernel) (tenantID sid : UUID) : Machine System Action where
  step s
    | .start entry =>
      if Loads s.row.status entry then
        some { s with live := s.live ++ [entry.start k tenantID sid s.row.log.events] }
      else none
    | .reply i t => do
      let p ← s.live[i]?
      let (row, p') ← p.advance Row.handle s.row t
      some { row, live := s.live.set i p' }
    | .leave i => if i < s.live.length then some { s with live := s.live.eraseIdx i } else none
    | .cancel reason script => some { s with row := commitWork (cancel sid reason) script s.row }
    | .endIdleConversation script =>
      some { s with row := commitWork (endIdleConversation sid) script s.row }
    | .resumeConversation input script =>
      some { s with row := commitWork (converse sid input) script s.row }
    | .note d eventID =>
      if d.type = .terminal then none
      else (s.row.log.append (d.event eventID 0)).map fun log =>
        { s with row := { s.row with log } }

def terminals (log : Log Payload) : ℕ := log.events.countP fun e => e.type = .terminal

lemma terminals_append {log log' : Log Payload} {e : Event Payload} (h : log.append e = some log') :
    terminals log' = terminals log + if e.type = .terminal then 1 else 0 := by
  obtain ⟨-, hevents⟩ := Log.append_eq_some h
  unfold terminals
  rw [hevents, List.countP_append, List.countP_singleton]
  by_cases ht : e.type = .terminal
  · rw [if_pos (by simpa using ht), if_pos ht]
  · rw [if_neg (by simpa using ht), if_neg ht]

/-! ### What the operations do -/

variable {status : SessionStatus} {sid : UUID}

section Spec

variable {r r' : Row} {script script' : List (Option UUID)} {u : Unit}

lemma getStatus_ok (h : getStatus (r, script) = .ok (status, (r', script'))) :
    status = r.status ∧ r' = r := by
  obtain ⟨i, -, hf⟩ := statement_ok.1 h
  obtain ⟨rfl, rfl⟩ : r.status = status ∧ r = r' := by simpa using hf
  exact ⟨rfl, rfl⟩

lemma invalidatePending_ok {err : String}
    (h : invalidatePending err (r, script) = .ok (u, (r', script'))) : r' = r := by
  obtain ⟨i, -, hf⟩ := statement_ok.1 h
  obtain rfl : r = r' := by simpa using hf
  rfl

/-- Ending a run writes its one terminal event and the status `failed` together. -/
lemma endRun_ok {what : String} {t : Terminal}
    (h : endRun what sid t (r, script) = .ok (u, (r', script'))) :
    r'.status = .failed ∧ terminals r'.log = terminals r.log + 1 := by
  obtain ⟨_, ⟨r₁, script₁⟩, happend, hset⟩ := bind_ok.1 h
  obtain ⟨i, -, hf⟩ := statement_ok.1 hset
  obtain rfl : r₁.setStatus .failed (some t.reason) = r' := by simpa using hf
  refine ⟨rfl, ?_⟩
  obtain ⟨log, e, hr₁, hevents, -, htype, -⟩ := appendSystem_ok happend
  show terminals r₁.log = _
  rw [hr₁]
  show terminals log = _
  unfold terminals
  rw [hevents, List.countP_append, List.countP_singleton, if_pos (by simpa using htype)]

lemma release_ok (h : release status (r, script) = .ok (u, (r', script'))) : r' = r := by
  unfold release at h
  split at h
  · obtain ⟨_, ⟨r₁, script₁⟩, h₁, h₂⟩ := bind_ok.1 h
    obtain rfl := invalidatePending_ok h₁
    exact invalidatePending_ok h₂
  · exact (pure_ok.1 h).2.1

lemma abort_ok {reason : String}
    (h : abort sid reason status (r, script) = .ok (u, (r', script'))) :
    r'.status = .failed ∧ terminals r'.log = terminals r.log + 1 := by
  obtain ⟨_, ⟨r₁, script₁⟩, hrelease, hend⟩ := bind_ok.1 h
  obtain rfl := release_ok hrelease
  exact endRun_ok hend

end Spec

def Ends (p : SessionStatus → Prop) (r r' : Row) : Prop :=
  r' = r ∨ p r.status ∧ r'.status = .failed ∧ terminals r'.log = terminals r.log + 1

/-- `Cancel` ends a session that has not ended, or does nothing. -/
lemma cancel_ends (sid : UUID) (reason : String) (script : List (Option UUID)) (r : Row) :
    Ends (fun status => status.terminal = false) r (commitWork (cancel sid reason) script r) := by
  unfold commitWork
  rcases commit_cases storeError (cancel sid reason) script r with
    ⟨e, hc⟩ | ⟨u, r', script', hc, hrun⟩
  · rw [hc]
    exact .inl rfl
  rw [hc]
  obtain ⟨status, ⟨r₁, script₁⟩, hget, hrest⟩ := bind_ok.1 hrun
  obtain ⟨rfl, rfl⟩ := getStatus_ok hget
  split at hrest
  · obtain ⟨-, rfl, -⟩ := pure_ok.1 hrest
    exact .inl rfl
  next hlive =>
    obtain ⟨hstatus, hcount⟩ := abort_ok hrest
    exact .inr ⟨by simpa using hlive, hstatus, hcount⟩

/-- `EndIdleConversation` ends a session that awaits input, or does nothing. -/
lemma endIdleConversation_ends (sid : UUID) (script : List (Option UUID)) (r : Row) :
    Ends (· = .awaitingInput) r (commitWork (endIdleConversation sid) script r) := by
  unfold commitWork
  rcases commit_cases storeError (endIdleConversation sid) script r with
    ⟨e, hc⟩ | ⟨u, r', script', hc, hrun⟩
  · rw [hc]
    exact .inl rfl
  rw [hc]
  obtain ⟨status, ⟨r₁, script₁⟩, hget, hrest⟩ := bind_ok.1 hrun
  obtain ⟨rfl, rfl⟩ := getStatus_ok hget
  split at hrest
  · obtain ⟨-, rfl, -⟩ := pure_ok.1 hrest
    exact .inl rfl
  next hidle =>
    obtain ⟨hstatus, hcount⟩ := endRun_ok hrest
    exact .inr ⟨not_not.1 hidle, hstatus, hcount⟩

/-- `ResumeConversation` claims a session that awaits input and adds a message to its log. -/
lemma converse_ok {input : String} {script script' : List (Option UUID)}
    {r r' : Row} {u : Unit} (h : converse sid input (r, script) = .ok (u, (r', script'))) :
    r.status = .awaitingInput ∧ r'.status = .running ∧
      ∃ e, r'.log.events = r.log.events ++ [e] ∧ e.type = .userMessage := by
  obtain ⟨claimed, ⟨r₁, script₁⟩, hclaim, hrest⟩ := bind_ok.1 h
  obtain ⟨i, -, hf⟩ := statement_ok.1 hclaim
  by_cases hawaiting : r.status = .awaitingInput
  · obtain ⟨rfl, rfl⟩ : true = claimed ∧ r.setStatus .running none = r₁ := by
      simpa [hawaiting] using hf
    obtain ⟨log, e, rfl, hevents, -, htype, -⟩ := appendSystem_ok hrest
    exact ⟨hawaiting, rfl, e, hevents, htype⟩
  · -- a claim that fails makes the unit of work fail
    obtain ⟨rfl, rfl⟩ : false = claimed ∧ r = r₁ := by simpa [hawaiting] using hf
    obtain ⟨status, ⟨r₂, script₂⟩, -, hthrow⟩ := bind_ok.1 hrest
    exact absurd hthrow throw_ok

/-- `ResumeConversation` claims a session that awaits input, or does nothing. -/
lemma converse_cases (sid : UUID) (input : String) (script : List (Option UUID)) (r : Row) :
    commitWork (converse sid input) script r = r ∨
      r.status = .awaitingInput ∧
        (commitWork (converse sid input) script r).status = .running ∧
        terminals (commitWork (converse sid input) script r).log = terminals r.log := by
  unfold commitWork
  rcases commit_cases storeError (converse sid input) script r with
    ⟨e, hc⟩ | ⟨u, r', script', hc, hrun⟩
  · rw [hc]
    exact .inl rfl
  rw [hc]
  obtain ⟨hawaiting, hrunning, e, hevents, htype⟩ := converse_ok hrun
  refine .inr ⟨hawaiting, hrunning, ?_⟩
  unfold terminals
  rw [hevents, List.countP_append, List.countP_singleton, if_neg (by simp [htype]), Nat.add_zero]

end NexusAgent.Control
