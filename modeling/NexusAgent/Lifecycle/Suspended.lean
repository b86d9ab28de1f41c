import NexusAgent.Delegate.Resolve
import NexusAgent.Kernel.Suspension
import NexusAgent.Oversight.DecidedOnce
import NexusAgent.Oversight.Inputs

/-!
# A suspended session and what it waits for

Five components take part in the suspension of a session. The kernel writes the status and records
an approval or binds a delegation (`kernel/terminal.go`); the executor of plans creates an approval,
an input request or a cohort of children and then writes the status (`internal/plan/steps.go`). The
approvals and the input requests are decided, expire or are invalidated
(`internal/oversight/approval.go`, `input.go`, `invalidate.go`); delegations are resolved
(`internal/delegate/resolve.go`); the run control steers, cancels and resumes
(`internal/runctl/steer.go`, `cancel.go`, `resume.go`). Each writes in transactions of its own.

`lifecycle` is the machine of one session under all of them. A driver is something under way that
acts on the session: a kernel call, answered one request at a time; a handler that has decided an
approval, has answered an input or has written the outcome of a delegation and has yet to drive the
session on; a call of `Cancel` or `Steer` between its transactions. Each may be lost between two of
its transactions, because its process is gone or because the next transaction fails.

`Held` says what a suspended session may wait for.
-/

namespace NexusAgent.Lifecycle

open EventLog Kernel

/-! ### Decisions -/

/-- What an approver decides. -/
inductive Decision
  | grant (decidedBy : String)
  | grantModified (decidedBy modifiedInput : String)
  | deny (decidedBy reason : String)

/-- The part of a decision that is done on the locked row. -/
def Decision.work (digest : String → String → Option Oversight.Digest) (approvalID : UUID) :
    Decision → Oversight.Approval → Oversight.Work Oversight.Approval
  | .grant decidedBy => Oversight.grantWork approvalID decidedBy
  | .grantModified decidedBy modifiedInput =>
    Oversight.grantModifiedWork digest approvalID decidedBy modifiedInput
  | .deny decidedBy reason => Oversight.denyWork approvalID decidedBy reason

/-- What the resumer hands to the kernel, for the input that the approval shows. -/
def Decision.resolution (input : String) (ap : Oversight.Approval) : Decision → PendingResolution
  | .grant _ =>
    { toolUseEventID := ap.toolUseEventID, toolID := ap.toolID, input
      approvedDigest := ap.canonicalDigest, decision := .granted }
  | .grantModified .. =>
    { toolUseEventID := ap.toolUseEventID, toolID := ap.toolID, input
      approvedDigest := ap.canonicalDigest, decision := .grantedModified
      modifiedInput := ap.grantedInput.getD "" }
  | .deny _ reason =>
    { toolUseEventID := ap.toolUseEventID, toolID := ap.toolID, input
      approvedDigest := ap.canonicalDigest, decision := .denied, reason }

/-! ### Drivers -/

/-- What a step of a plan waits for. -/
inductive Gate
  | approval (approvalID : UUID)
  | input (inputRequestID : UUID)
  | fanout (fanoutID : UUID)

/-- How far a call of `Cancel` is. -/
inductive CancelPhase
  /-- The session was found suspended; its approval is to be invalidated. -/
  | approvals
  /-- Its input requests are to be invalidated. -/
  | inputs
  /-- The run is to be ended, after what it waited for was released or without that. -/
  | ending (released : Bool)

/-- Something under way that acts on the session. -/
inductive Driver
  /-- A kernel call; one that applies a decision has yet to write the status `running`. -/
  | kernel (applies : Bool) (live : Live)
  /-- An approval is decided, and the resumer is to load the session. -/
  | approved (res : PendingResolution)
  /-- The outcome of a delegation is written, and the parent is to be resumed. -/
  | returned (res : DelegationResolution)
  /-- The outcome of a child is written, and the plan is asked whether its cohort is done. -/
  | resolvingFanout (fanoutID : UUID)
  /-- What a step of a plan waited for is there, and the status `running` is to be written. -/
  | entering
  /-- A step of a plan has made what it waits for and is to suspend the session. -/
  | suspending (gate : Gate)
  | cancelling (reason : String) (phase : CancelPhase)
  /-- `Steer`, which invalidates an approval first if it found the session suspended. -/
  | steering (input : String) (releases : Bool)
  | gone

/-- The session, the tables and the drivers. -/
structure World where
  row : Row := {}
  approvals : Oversight.Store
  inputs : Oversight.InputTable := []
  /-- The input requests that steps of plans have made. -/
  gates : List UUID := []
  /-- The delegations whose parent is the session. -/
  delegations : List Delegate.Delegation := []
  drivers : List Driver := []

/-- What can happen. -/
inductive Action
  /-- The run control starts or resumes a run. -/
  | start (entry : Entry)
  /-- A step of a plan calls `Continue`, whatever the status is. -/
  | agentStep (cfg : RunConfig)
  /-- A request of a kernel call is answered, other than a record. -/
  | reply (i : ℕ) (t : Reply)
  /-- `RecordSuspension`: the approval is created. -/
  | record (i : ℕ) (approvalID : UUID) (expiresAt : ℕ) (script : List (Option UUID))
  /-- `RecordDelegation`: the delegation is bound, unless the store fails. -/
  | bind (i : ℕ) (err : Option String)
  /-- `Grant`, `GrantModified` or `Deny`, by a handler that goes on with the resumer or, for the
  approval of a plan, with `ResumeGate`. -/
  | decide (approvalID : UUID) (now : ℕ) (decision : Decision) (input : String) (gate : Bool)
      (script : List (Option UUID))
  /-- The resumer, or the resume of a parent, loads the session and calls the kernel. -/
  | load (i : ℕ) (cfg : RunConfig)
  /-- `RequestInput`, by something other than a plan. -/
  | requestInput (ir : Oversight.InputRequest)
  /-- `Answer`, by a handler that goes on with `ResumeGate` or does not. -/
  | answer (inputRequestID : UUID) (now : ℕ) (text : String) (gate : Bool)
  /-- `Expire`. -/
  | expireInput (inputRequestID : UUID)
  /-- A child is spawned for the session. -/
  | spawn (d : Delegate.Delegation)
  /-- `finalize` commits the outcome of a child. -/
  | finalize (delegationID : UUID) (child : Delegate.Session) (x : Delegate.Extracted)
  /-- `ResolveFanout` asks whether the cohort is done. -/
  | resolveFanout (i : ℕ)
  /-- `ResumeGate` or `ResolveFanout` writes the status `running`. -/
  | enter (i : ℕ)
  | gateApproval (req : Oversight.CreateApprovalRequest) (script : List (Option UUID))
  | gateInput (ir : Oversight.InputRequest)
  /-- A step of a plan has spawned its children. -/
  | gateFanout (fanoutID : UUID)
  /-- A step of a plan writes the status `suspended`. -/
  | suspend (i : ℕ)
  /-- `Cancel` reads the status. -/
  | cancel (reason : String)
  /-- `Steer` reads the status. -/
  | steer (input : String)
  /-- `Cancel` or `Steer` invalidates the pending approval. -/
  | release (i : ℕ) (script : List (Option UUID))
  /-- `Cancel` invalidates the pending input requests. -/
  | releaseInputs (i : ℕ)
  /-- The last transaction of `Cancel` or `Steer`. -/
  | finish (i : ℕ) (script : List (Option UUID))
  | converse (input : String) (script : List (Option UUID))
  | endIdleConversation (script : List (Option UUID))
  /-- Another component appends an event. -/
  | note (d : Draft) (eventID : UUID)
  /-- A driver is lost: its process is gone, or its next transaction fails. -/
  | lose (i : ℕ)

/-! ### Steps -/

/-- The answer to a request of a kernel call other than a record. -/
def handle (r : Row) : (o : Op) → Reply → Option (o.Answer × Row)
  | .recordSuspension _, _ | .recordDelegation _, _ => none
  | o, t => r.handle o t

/-- What `onSuspendFunc` creates for a suspended call. -/
def creation (req : SuspendRequest) (approvalID : UUID) (expiresAt : ℕ) :
    Oversight.CreateApprovalRequest where
  approvalID := approvalID
  tenantID := req.tenantID
  sessionID := req.sessionID
  toolUseEventID := req.toolUseEventID
  toolID := req.toolID
  askKind := req.askKind.text
  canonicalDigest := req.canonicalDigest
  assignee := ""
  expiresAt := expiresAt

/-- `Bind`: the answer, and the delegations after it. -/
def bindDelegation (rows : List Delegate.Delegation) (childSessionID toolUseEventID : UUID)
    (err : Option String) : Option String × List Delegate.Delegation :=
  match err with
  | some err =>
    (some ("delegate: bind delegation for child " ++ childSessionID.string ++ ": " ++ err), rows)
  | none =>
    if ∃ d ∈ rows, d.childSessionID = childSessionID ∧ d.status = .pending then
      (none, Delegate.bindRows rows childSessionID toolUseEventID)
    else
      (some ("delegate: bind delegation for child " ++ childSessionID.string ++
        ": no pending row found"), rows)

namespace World

/-- A driver begins. -/
def add (w : World) (d : Driver) : World := { w with drivers := w.drivers ++ [d] }

/-- A driver goes on. -/
def put (w : World) (i : ℕ) (d : Driver) : World := { w with drivers := w.drivers.set i d }

def CohortOpen (w : World) (fanoutID : UUID) : Prop :=
  ∃ d ∈ w.delegations, d.fanoutID = some fanoutID ∧ d.status = .pending

instance (w : World) (fanoutID : UUID) : Decidable (w.CohortOpen fanoutID) :=
  inferInstanceAs (Decidable (∃ d ∈ w.delegations, _))

/-- `finalize` commits: the outcome is written whatever the status was. -/
def finalize (w : World) (d : Delegate.Delegation) (child : Delegate.Session)
    (x : Delegate.Extracted) : World :=
  let (outcome, status, result, reason) := Delegate.outcomeOf child x
  let driver : Driver :=
    match d.fanoutID with
    | none => .returned (Delegate.resolution d outcome result reason)
    | some fanoutID => .resolvingFanout fanoutID
  { w with
    delegations := Delegate.setDelegationResult w.delegations d.delegationID status result reason
    drivers := w.drivers ++ [driver] }

end World

section

variable (k : Kernel) (digest : String → String → Option Oversight.Digest) (tenantID sid : UUID)

/-- A kernel call on the session. -/
def World.callKernel (w : World) (entry : Entry) : Live :=
  entry.start k tenantID sid w.row.log.events

/-- The run control calls the kernel for a fresh run and to continue one. -/
def byRunControl : Entry → Prop
  | .run _ | .continueRun _ | .resumeConversation .. => True
  | .resume .. | .resumeDelegation .. => False

instance (entry : Entry) : Decidable (byRunControl entry) :=
  match entry with
  | .run _ | .continueRun _ | .resumeConversation .. => .isTrue trivial
  | .resume .. | .resumeDelegation .. => .isFalse id

/-- The next transaction of `Cancel` or `Steer` on the approvals. -/
def World.release (w : World) (i : ℕ) (script : List (Option UUID))
    (reason : Oversight.InvalidationReason) (next : Driver) : World :=
  match Oversight.inTenant (Oversight.invalidateWork tenantID sid reason) script w.approvals with
  | (.ok _, approvals) => { w.put i next with approvals }
  | (.error _, approvals) => { w.put i .gone with approvals }

/-- The machine of the session `sid`. -/
def lifecycle : Machine World Action where
  step w
    | .start entry =>
      if Control.Loads w.row.status entry ∧ byRunControl entry then
        some (w.add (.kernel false (w.callKernel k tenantID sid entry)))
      else none
    | .agentStep cfg =>
      some (w.add (.kernel false (w.callKernel k tenantID sid (.continueRun cfg))))
    | .reply i t =>
      match w.drivers[i]? with
      | some (.kernel _ live) =>
        (live.advance handle w.row t).map fun (row, live') =>
          { w.put i (.kernel false live') with row }
      | _ => none
    | .record i approvalID expiresAt script =>
      match w.drivers[i]? with
      | some (.kernel _ (.ask (.recordSuspension req) rest)) =>
        -- the status was written in another transaction, and stays if this one fails
        match Oversight.inTenant (Oversight.createWork (creation req approvalID expiresAt)) script
            w.approvals with
        | (.ok _, approvals) => some { w.put i (.kernel false (rest none)) with approvals }
        | (.error _, approvals) =>
          some { w.put i (.kernel false (rest (some Control.storeError))) with approvals }
      | _ => none
    | .bind i err =>
      match w.drivers[i]? with
      | some (.kernel _ (.ask (.recordDelegation req) rest)) =>
        let (answer, delegations) :=
          bindDelegation w.delegations (req.childSessionID.getD 0) req.toolUseEventID err
        some { w.put i (.kernel false (rest answer)) with delegations }
      | _ => none
    | .decide approvalID now decision input gate script =>
      match Oversight.decide tenantID approvalID now (decision.work digest approvalID) script
          w.approvals with
      -- a decision that is refused as too late has expired the approval
      | (.error _, approvals) => some { w with approvals }
      | (.ok ap, approvals) =>
        let w := { w with approvals }
        if ap.sessionID = sid then
          some (w.add (if gate then .entering else .approved (decision.resolution input ap)))
        else some w
    | .load i cfg =>
      match w.drivers[i]? with
      | some (.approved res) =>
        -- the resumer does not look at the status
        some (w.put i (.kernel true (w.callKernel k tenantID sid (.resume cfg res))))
      | some (.returned res) =>
        if w.row.status = .suspended then
          some (w.put i (.kernel true (w.callKernel k tenantID sid (.resumeDelegation cfg res))))
        else some (w.put i .gone)
      | _ => none
    | .requestInput ir =>
      if ir.status = .pending ∧ ir.inputRequestID ∉ w.gates then
        some { w with inputs := w.inputs ++ [ir] }
      else none
    | .answer inputRequestID now text gate =>
      match Oversight.answerInput tenantID inputRequestID now text w.inputs with
      | (.error _, inputs) => some { w with inputs }
      | (.ok _, inputs) =>
        -- the answer itself resumes nothing
        let w := { w with inputs }
        some (if gate then w.add .entering else w)
    | .expireInput inputRequestID =>
      some { w with inputs := (Oversight.expireInput tenantID inputRequestID w.inputs).2 }
    | .spawn d =>
      if d.parentSessionID = sid ∧ d.status = .pending ∧ d.parentToolUseEventID = none then
        some { w with delegations := w.delegations ++ [d] }
      else none
    | .finalize delegationID child x =>
      (w.delegations.find? fun d => d.delegationID = delegationID).map fun d =>
        w.finalize d child x
    | .resolveFanout i =>
      match w.drivers[i]? with
      | some (.resolvingFanout fanoutID) =>
        -- a cohort that is not done is left to its last child
        some (w.put i (if w.CohortOpen fanoutID then .gone else .entering))
      | _ => none
    | .enter i =>
      match w.drivers[i]? with
      | some .entering => some { w.put i .gone with row := w.row.setStatus .running none }
      | _ => none
    | .gateApproval req script =>
      if req.tenantID = tenantID ∧ req.sessionID = sid then
        match Oversight.inTenant (Oversight.createWork req) script w.approvals with
        | (.ok ap, approvals) =>
          some (World.add { w with approvals } (.suspending (.approval ap.approvalID)))
        | (.error _, approvals) => some { w with approvals }
      else none
    | .gateInput ir =>
      if ir.status = .pending ∧ ir.tenantID = tenantID ∧ ir.sessionID = sid then
        some (World.add
          { w with inputs := w.inputs ++ [ir], gates := w.gates ++ [ir.inputRequestID] }
          (.suspending (.input ir.inputRequestID)))
      else none
    | .gateFanout fanoutID => some (w.add (.suspending (.fanout fanoutID)))
    | .suspend i =>
      match w.drivers[i]? with
      -- what the step waits for was made in another transaction, and may be decided by now
      | some (.suspending _) => some { w.put i .gone with row := w.row.setStatus .suspended none }
      | _ => none
    | .cancel reason =>
      if w.row.status.terminal then some w
      else
        some (w.add (.cancelling reason
          (if w.row.status = .suspended then .approvals else .ending false)))
    | .steer input =>
      -- an ended session and one that awaits its user are not steered
      if w.row.status.terminal ∨ w.row.status = .awaitingInput then some w
      else some (w.add (.steering input (w.row.status = .suspended)))
    | .release i script =>
      match w.drivers[i]? with
      | some (.cancelling reason .approvals) =>
        some (w.release tenantID sid i script .cancel (.cancelling reason .inputs))
      | some (.steering input true) =>
        some (w.release tenantID sid i script .steer (.steering input false))
      | _ => none
    | .releaseInputs i =>
      match w.drivers[i]? with
      | some (.cancelling reason .inputs) =>
        some { w.put i (.cancelling reason (.ending true)) with
          inputs := Oversight.invalidateInputs tenantID sid .cancel w.inputs }
      | _ => none
    | .finish i script =>
      match w.drivers[i]? with
      -- the status is not read again
      | some (.cancelling reason (.ending _)) =>
        some { w.put i .gone with
          row := Control.commitWork
            (Control.endRun "cancel" sid { reason := .aborted, detail := reason }) script w.row }
      -- the message is appended, and a suspended session stays suspended
      | some (.steering input false) =>
        some { w.put i .gone with
          row := Control.commitWork
            (Control.appendEvent "" sid .userMessage (.userMessage input)) script w.row }
      | _ => none
    | .converse input script =>
      some { w with row := Control.commitWork (Control.converse sid input) script w.row }
    | .endIdleConversation script =>
      some { w with row := Control.commitWork (Control.endIdleConversation sid) script w.row }
    | .note d eventID =>
      (w.row.log.append (d.event eventID 0)).map fun log => { w with row := { w.row with log } }
    | .lose i => if i < w.drivers.length then some (w.put i .gone) else none

/-! ### What a suspended session may wait for -/

/-- Whether a driver still has to drive the session on, to end it, or to record what it waits
for. -/
def Driver.holds : Driver → Bool
  | .kernel applies live => applies || atRecord tenantID sid live
  | .approved _ | .returned _ | .resolvingFanout _ | .entering => true
  | .cancelling _ .inputs | .cancelling _ (.ending true) => true
  | .cancelling .. | .suspending _ | .steering .. | .gone => false

/-- An input request that a step of a plan waits for is pending. -/
def World.Asked (w : World) : Prop :=
  ∃ ir ∈ w.inputs, ir.inputRequestID ∈ w.gates ∧ ir.status = .pending

/-- A delegation that the session waits for is pending: it is bound to a tool use, or belongs to a
cohort. -/
def World.Delegated (w : World) : Prop :=
  ∃ d ∈ w.delegations, d.status = .pending ∧ (d.parentToolUseEventID.isSome ∨ d.fanoutID.isSome)

/-- Something pending whose resolution drives the session on. -/
def World.Pending (w : World) : Prop :=
  w.approvals.pendingOf tenantID sid ≠ [] ∨ w.Asked ∨ w.Delegated

/-- Something is pending, or a driver has it in hand. -/
def World.Held (w : World) : Prop :=
  w.Pending tenantID sid ∨ ∃ d ∈ w.drivers, d.holds tenantID sid = true

instance (w : World) : Decidable w.Asked := inferInstanceAs (Decidable (∃ ir ∈ w.inputs, _))

instance (w : World) : Decidable w.Delegated :=
  inferInstanceAs (Decidable (∃ d ∈ w.delegations, _))

instance (w : World) : Decidable (w.Pending tenantID sid) := instDecidableOr

instance (w : World) : Decidable (w.Held tenantID sid) := instDecidableOr

end

end NexusAgent.Lifecycle
