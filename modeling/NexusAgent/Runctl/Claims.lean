import Mathlib.Data.List.AList
import NexusAgent.EventLog.Appender
import NexusAgent.Tools.Types

/-!
# The claims ledger

Write-ahead idempotency claims (`internal/runctl/claims.go`,
`internal/runctl/postgres/claims.go`, `migrations/0012_claims.sql`). Before the effect of a
tool leaves the process, `Open` durably records a claim for the session and the digest of
the call; a second `Open` for the same pair finds that claim and refuses. `Complete` and
`ResolveClaim` resolve a claim that is in flight. No operation removes a claim.

The ledger is keyed by session and digest, which carries the table's uniqueness constraint.
-/

namespace NexusAgent.Runctl

open EventLog Tools

inductive ClaimStatus
  | inFlight
  | completed
  | abandoned
  deriving DecidableEq

def ClaimStatus.text : ClaimStatus → String
  | .inFlight => "in_flight"
  | .completed => "completed"
  | .abandoned => "abandoned"

abbrev ClaimKey := UUID × Digest

/-- One row of the ledger, under its session and digest. -/
structure Claim where
  claimID : UUID
  tenantID : UUID
  toolID : String
  status : ClaimStatus
  reason : Option String := none

inductive ClaimPayload
  | claimed (claimID : UUID) (toolID : String)
  | resolved (claimID : UUID) (status : String) (reason : String)

structure Ledger where
  claims : AList fun _ : ClaimKey => Claim
  log : Log ClaimPayload

inductive ClaimErr
  | store
  | notFound
  /-- A claim can only be resolved as completed or abandoned. -/
  | status

/-- A unit of work on the ledger; inserts draw identifiers. -/
abbrev ClaimWork := UnitOfWork Ledger UUID ClaimErr

/-- What `Open` reports about a session and a digest. -/
inductive ClaimOutcome
  /-- A new claim was created: the call may proceed. -/
  | fresh
  /-- A claim exists and is not known to have completed. -/
  | ambiguous
  /-- The call already completed. -/
  | done

def appendClaimEvent (sessionID : UUID) (type : EventType) (toolID : String)
    (payload : ClaimPayload) : ClaimWork Unit :=
  appendSystem Ledger.log (fun db log => { db with log }) .store sessionID type (some toolID)
    none payload

/-- The insert of `openOrFindClaim`: nothing on a conflict of session and digest. The claim
identifier is a primary key, so a drawn identifier in use fails the statement. -/
def insertClaim (tenantID : UUID) (key : ClaimKey) (toolID : String) :
    ClaimWork (Option Claim) :=
  UnitOfWork.statement .store fun claimID db =>
    match db.claims.lookup key with
    | some _ => .ok (none, db)
    | none =>
      if db.claims.entries.any fun row => row.2.claimID == claimID then .error .store
      else
        let claim : Claim := { claimID, tenantID, toolID, status := .inFlight }
        .ok (some claim, { db with claims := db.claims.insert key claim })

/-- The claim of a session and a digest, in the tenant's scope. -/
def selectClaim (tenantID : UUID) (key : ClaimKey) : ClaimWork Claim :=
  UnitOfWork.statement .store fun _ db =>
    match (db.claims.lookup key).filter fun c => c.tenantID = tenantID with
    | some claim => .ok (claim, db)
    | none => .error .notFound

/-- `openOrFindClaim`: a fresh claim, or the one that exists. -/
def openOrFindClaim (tenantID : UUID) (key : ClaimKey) (toolID : String) :
    ClaimWork (Claim × Bool) := do
  match ← insertClaim tenantID key toolID with
  | some claim => pure (claim, true)
  | none =>
    let claim ← selectClaim tenantID key
    pure (claim, false)

/-- The unit of work of `Open`: a new claim is recorded on the log. -/
def openWork (tenantID : UUID) (key : ClaimKey) (toolID : String) :
    ClaimWork (Claim × Bool) := do
  let (claim, created) ← openOrFindClaim tenantID key toolID
  if created then
    appendClaimEvent key.1 .effectClaimed toolID (.claimed claim.claimID toolID)
    pure (claim, created)
  else pure (claim, created)

/-- What an opened or found claim means for the call. -/
def outcomeOf (claim : Claim) (created : Bool) : ClaimOutcome :=
  if created then .fresh
  else match claim.status with
    | .completed => .done
    | _ => .ambiguous

/-- `Open`. -/
def openClaim (tenantID : UUID) (key : ClaimKey) (toolID : String)
    (script : List (Option UUID)) (db : Ledger) :
    Except ClaimErr (UUID × ClaimOutcome) × Ledger :=
  (UnitOfWork.commit .store (openWork tenantID key toolID) script db).map
    (·.map fun r => (r.1.claimID, outcomeOf r.1 r.2)) id

/-- The update of `resolveClaim`: only a claim in flight changes. -/
def updateClaim (claimID : UUID) (status : ClaimStatus) (reason : String) : ClaimWork Unit :=
  UnitOfWork.statement .store fun _ db =>
    match db.claims.entries.find? fun row => row.2.claimID = claimID ∧
        row.2.status = .inFlight with
    | some ⟨key, claim⟩ =>
      let resolved := { claim with status, reason := if reason = "" then none else some reason }
      .ok ((), { db with claims := db.claims.insert key resolved })
    | none => .ok ((), db)

/-- The claim with an identifier, in the tenant's scope. -/
def claimByID (tenantID claimID : UUID) : ClaimWork Claim :=
  UnitOfWork.statement .store fun _ db =>
    match db.claims.entries.find? fun row => row.2.claimID = claimID ∧
        row.2.tenantID = tenantID with
    | some row => .ok (row.2, db)
    | none => .error .notFound

def resolveClaim (tenantID claimID : UUID) (status : ClaimStatus) (reason : String) :
    ClaimWork Claim := do
  if status = .inFlight then throw .status
  else
    updateClaim claimID status reason
    claimByID tenantID claimID

/-- The unit of work of `Complete` and of the operator's `ResolveClaim`. -/
def resolveWork (tenantID sessionID claimID : UUID) (status : ClaimStatus) (reason : String) :
    ClaimWork Claim := do
  let claim ← resolveClaim tenantID claimID status reason
  appendClaimEvent sessionID .effectClaimResolved claim.toolID
    (.resolved claimID status.text reason)
  pure claim

/-- `ResolveClaim`. -/
def resolve (tenantID sessionID claimID : UUID) (status : ClaimStatus) (reason : String)
    (script : List (Option UUID)) (db : Ledger) : Except ClaimErr Claim × Ledger :=
  UnitOfWork.commit .store (resolveWork tenantID sessionID claimID status reason) script db

/-- `Complete`: a failed call leaves its claim abandoned. -/
def complete (tenantID sessionID claimID : UUID) (failed : Bool) (reason : String)
    (script : List (Option UUID)) (db : Ledger) : Except ClaimErr Claim × Ledger :=
  resolve tenantID sessionID claimID (if failed then .abandoned else .completed) reason script
    db

end NexusAgent.Runctl
