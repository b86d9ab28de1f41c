import Mathlib.Data.List.AList
import NexusAgent.EventLog.Appender

/-!
# Approvals

The approval transaction (`internal/oversight/approval.go`, `invalidate.go` and the
Postgres statements of `internal/oversight/postgres/store.go`): a tool call that needs a
human decision waits as a pending row; `Grant`, `GrantModified` and `Deny` decide it,
`Invalidate` releases it, and a decision that arrives after the deadline expires it. Each
call is one unit of work that locks the row, changes it and appends the event that records
the change.

The digest of a tool call is a parameter `digest`: it may refuse an input, and nothing else
about it matters here.
-/

namespace NexusAgent.Oversight

open EventLog

/-- A canonical digest, as bytes. -/
abbrev Digest := List UInt8

inductive ApprovalStatus
  | pending
  | granted
  | grantedModified
  | denied
  | expired
  | invalidated
  deriving DecidableEq

/-- Why a session's outstanding request was invalidated. -/
inductive InvalidationReason
  | cancel
  | terminal
  | reap
  | ceiling
  | steer

def InvalidationReason.text : InvalidationReason → String
  | .cancel => "cancel"
  | .terminal => "terminal"
  | .reap => "reap"
  | .ceiling => "ceiling_breach"
  | .steer => "steer_into_suspension"

/-- One row of the approvals table. The rendering shown to the approver is left out. -/
structure Approval where
  approvalID : UUID
  tenantID : UUID
  sessionID : UUID
  toolUseEventID : UUID
  toolID : String
  askKind : String
  /-- Binds the approval to the exact tool call asked about. -/
  canonicalDigest : Digest
  assignee : String
  status : ApprovalStatus
  grantedInput : Option String := none
  expiresAt : ℕ
  decidedBy : Option String := none
  reason : Option String := none

structure ApprovalDecisionPayload where
  approvalID : UUID
  toolID : String
  decidedBy : String := ""
  reason : String := ""
  input : Option String := none

/-- The payload of a tool result released without an execution. -/
structure SyntheticResultPayload where
  isError : Bool
  reason : String
  synthetic : Bool

/-- Payloads of the events on a session's log, as far as approvals write them. -/
inductive Payload
  | approvalDecision (p : ApprovalDecisionPayload)
  | syntheticResult (p : SyntheticResultPayload)
  /-- The payload of an event another component writes. -/
  | foreign (text : String)

/-- The tables an approval reads and writes. -/
structure Store where
  approvals : AList fun _ : UUID => Approval
  log : Log Payload
  /-- The user a session belongs to, as text. -/
  sessionOwner : UUID → Option String

inductive Err
  /-- A statement or the commit failed. -/
  | store
  | notFound
  | notPending (approvalID : UUID) (status : ApprovalStatus)
  /-- The digest of a modified input could not be computed. -/
  | digest

/-- A unit of work on the approval tables; inserts draw identifiers. -/
abbrev Work := UnitOfWork Store UUID Err

/-- An empty text is stored as null. -/
def nullIfEmpty (s : String) : Option String := if s = "" then none else some s

/-! ### Statements -/

namespace Store

/-- The row with an identifier, when it is in the tenant's scope. -/
def visible (db : Store) (tenantID approvalID : UUID) : Option Approval :=
  (db.approvals.lookup approvalID).filter fun ap => ap.tenantID = tenantID

/-- The pending rows of a session in the tenant's scope. -/
def pendingOf (db : Store) (tenantID sessionID : UUID) : List Approval :=
  (db.approvals.entries.map Sigma.snd).filter fun ap =>
    ap.tenantID = tenantID ∧ ap.sessionID = sessionID ∧ ap.status = .pending

/-- An update of the row with an identifier, which touches nothing when there is none. -/
def update (db : Store) (approvalID : UUID) (f : Approval → Approval) : Store :=
  match db.approvals.lookup approvalID with
  | some ap => { db with approvals := db.approvals.insert approvalID (f ap) }
  | none => db

end Store

def lockApproval (tenantID approvalID : UUID) : Work Approval :=
  UnitOfWork.statement .store fun _ db =>
    match db.visible tenantID approvalID with
    | some ap => .ok (ap, db)
    | none => .error .notFound

/-- `LockPendingApproval`: one pending row of the session. Which row the query returns
first is the store's choice, so the drawn value picks it. -/
def lockPendingApproval (tenantID sessionID : UUID) : Work (Option Approval) :=
  UnitOfWork.statement .store fun pick db =>
    let rows := db.pendingOf tenantID sessionID
    .ok ((rows.find? fun ap => ap.approvalID = pick).or rows.head?, db)

def setApprovalStatus (approvalID : UUID) (status : ApprovalStatus)
    (decidedBy reason : String) : Work Unit :=
  UnitOfWork.statement .store fun _ db =>
    .ok ((), db.update approvalID fun ap =>
      { ap with status, decidedBy := nullIfEmpty decidedBy, grantedInput := none,
                reason := nullIfEmpty reason })

def setApprovalModified (approvalID : UUID) (decidedBy grantedInput : String)
    (newDigest : Digest) : Work Unit :=
  UnitOfWork.statement .store fun _ db =>
    .ok ((), db.update approvalID fun ap =>
      { ap with status := .grantedModified, decidedBy := nullIfEmpty decidedBy,
                grantedInput := some grantedInput, canonicalDigest := newDigest })

/-- `InsertApproval`: refused when the identifier is taken. -/
def insertApproval (ap : Approval) : Work Unit :=
  UnitOfWork.statement .store fun _ db =>
    if db.approvals.lookup ap.approvalID = none then
      .ok ((), { db with approvals := db.approvals.insert ap.approvalID ap })
    else .error .store

def sessionOwner (sessionID : UUID) : Work String :=
  UnitOfWork.statement .store fun _ db =>
    match db.sessionOwner sessionID with
    | some owner => .ok (owner, db)
    | none => .error .store

/-- `Append`: one event under a fresh identifier. -/
def append (sessionID : UUID) (type : EventType) (toolID : Option String)
    (pairRef : Option UUID) (payload : Payload) : Work Unit :=
  appendSystem Store.log (fun db log => { db with log }) .store sessionID type toolID pairRef
    payload

/-! ### Calls -/

def inTenant {α : Type} (work : Work α) (script : List (Option UUID)) (db : Store) :
    Except Err α × Store :=
  UnitOfWork.commit .store work script db

/-- Marks a row expired and records it. -/
def expireApproval (ap : Approval) : Work Unit := do
  setApprovalStatus ap.approvalID .expired "" ""
  append ap.sessionID .approvalExpired (some ap.toolID) none
    (.approvalDecision { approvalID := ap.approvalID, toolID := ap.toolID })

/-- The unit of work of a decision: the locked row is expired when its deadline has passed
(`true`), and otherwise decided by `fn` if it is still pending. -/
def decideWork (tenantID approvalID : UUID) (now : ℕ) (fn : Approval → Work Approval) :
    Work (Approval × Bool) := do
  let ap ← lockApproval tenantID approvalID
  if ap.status = .pending ∧ ap.expiresAt < now then
    expireApproval ap
    pure ({ ap with status := .expired }, true)
  else if ap.status ≠ .pending then
    throw (.notPending approvalID ap.status)
  else
    let ap ← fn ap
    pure (ap, false)

/-- `decide`: an expiry is committed, and only then is the decision refused. -/
def decide (tenantID approvalID : UUID) (now : ℕ) (fn : Approval → Work Approval)
    (script : List (Option UUID)) (db : Store) : Except Err Approval × Store :=
  match inTenant (decideWork tenantID approvalID now fn) script db with
  | (.error e, db) => (.error e, db)
  | (.ok (_, true), db) => (.error (.notPending approvalID .expired), db)
  | (.ok (ap, false), db) => (.ok ap, db)

def grantWork (approvalID : UUID) (decidedBy : String) (ap : Approval) : Work Approval := do
  setApprovalStatus approvalID .granted decidedBy ""
  append ap.sessionID .approvalGranted (some ap.toolID) none
    (.approvalDecision { approvalID, toolID := ap.toolID, decidedBy })
  pure { ap with status := .granted }

/-- What `GrantModified` does to a pending row: the digest is rebound to the new input. -/
def grantModifiedWork (digest : String → String → Option Digest) (approvalID : UUID)
    (decidedBy modifiedInput : String) (ap : Approval) : Work Approval := do
  match digest ap.toolID modifiedInput with
  | none => throw .digest
  | some newDigest =>
    setApprovalModified approvalID decidedBy modifiedInput newDigest
    append ap.sessionID .approvalGrantedModified (some ap.toolID) none
      (.approvalDecision { approvalID, toolID := ap.toolID, decidedBy,
                           input := some modifiedInput })
    pure { ap with status := .grantedModified, grantedInput := some modifiedInput,
                   canonicalDigest := newDigest }

def denyWork (approvalID : UUID) (decidedBy reason : String) (ap : Approval) :
    Work Approval := do
  setApprovalStatus approvalID .denied decidedBy reason
  append ap.sessionID .approvalDenied (some ap.toolID) none
    (.approvalDecision { approvalID, toolID := ap.toolID, decidedBy, reason })
  pure { ap with status := .denied, reason := some reason }

/-- `Invalidate`: the session's pending approval, if any, is released together with a
synthetic result for its tool use. -/
def invalidateWork (tenantID sessionID : UUID) (reason : InvalidationReason) :
    Work (Option Approval) := do
  match ← lockPendingApproval tenantID sessionID with
  | none => pure none
  | some ap =>
    setApprovalStatus ap.approvalID .invalidated "" reason.text
    append sessionID .approvalInvalidated (some ap.toolID) none
      (.approvalDecision { approvalID := ap.approvalID, toolID := ap.toolID,
                           reason := reason.text })
    append sessionID .toolResult (some ap.toolID) (some ap.toolUseEventID)
      (.syntheticResult { isError := true, synthetic := true,
                          reason := "approval_invalidated: " ++ reason.text })
    pure (some { ap with status := .invalidated, reason := some reason.text })

structure CreateApprovalRequest where
  approvalID : UUID
  tenantID : UUID
  sessionID : UUID
  toolUseEventID : UUID
  toolID : String
  askKind : String
  canonicalDigest : Digest
  assignee : String
  expiresAt : ℕ

/-- The assignee of a new approval: the session's owner by default. -/
def assigneeOf (req : CreateApprovalRequest) : Work String :=
  if req.assignee = "" then sessionOwner req.sessionID else pure req.assignee

def createWork (req : CreateApprovalRequest) : Work Approval := do
  let assignee ← assigneeOf req
  let ap : Approval :=
    { approvalID := req.approvalID, tenantID := req.tenantID, sessionID := req.sessionID
      toolUseEventID := req.toolUseEventID, toolID := req.toolID, askKind := req.askKind
      canonicalDigest := req.canonicalDigest, assignee, status := .pending
      expiresAt := req.expiresAt }
  insertApproval ap
  pure ap

inductive Call
  | create (req : CreateApprovalRequest)
  | grant (tenantID approvalID : UUID) (now : ℕ) (decidedBy : String)
  | grantModified (tenantID approvalID : UUID) (now : ℕ) (decidedBy modifiedInput : String)
  | deny (tenantID approvalID : UUID) (now : ℕ) (decidedBy reason : String)
  | invalidate (tenantID sessionID : UUID) (reason : InvalidationReason)

/-- What a call returns, and the store after it. -/
def Call.exec (digest : String → String → Option Digest) (script : List (Option UUID))
    (db : Store) : Call → Except Err (Option Approval) × Store
  | .create req => (inTenant (createWork req) script db).map (·.map some) id
  | .grant tenantID approvalID now decidedBy =>
    (decide tenantID approvalID now (grantWork approvalID decidedBy) script db).map
      (·.map some) id
  | .grantModified tenantID approvalID now decidedBy modifiedInput =>
    (decide tenantID approvalID now
      (grantModifiedWork digest approvalID decidedBy modifiedInput) script db).map
      (·.map some) id
  | .deny tenantID approvalID now decidedBy reason =>
    (decide tenantID approvalID now (denyWork approvalID decidedBy reason) script db).map
      (·.map some) id
  | .invalidate tenantID sessionID reason =>
    inTenant (invalidateWork tenantID sessionID reason) script db

end NexusAgent.Oversight
