import NexusAgent.Cost.Gate
import NexusAgent.Permissions.Types
import NexusAgent.Promptctx.Window

/-!
# The kernel's vocabulary

The data of the turn loop (`kernel/types.go`, `kernel/events.go`, `kernel/terminal.go`,
`kernel/ports.go`): tool calls and their results, the payloads of the events it writes, the
reasons a run ends under, the state and the configuration of a run, and the requests it makes
of its surroundings through its ports. Payloads are kept as the values that are encoded; raw
inputs and outputs are texts.
-/

namespace NexusAgent

/-- What a kernel is built from, apart from its ports. -/
structure Kernel where
  prunePolicy : Promptctx.PrunePolicy := {}
  /-- Not positive means that transcripts are never condensed. -/
  condenseThresholdBytes : ℤ := 0
  /-- The fingerprint in the marker of a shortened text. -/
  pruneRef : String → String := fun _ => ""
  /-- The thinking and the signature that reasoning bytes decode to, if they do. -/
  decodeReasoning : List UInt8 → Option (String × String) := fun _ => none

namespace Kernel

open EventLog Provider

abbrev Digest := List UInt8

structure ToolUseRequest where
  toolUseID : String := ""
  toolName : String
  input : String

/-- What an executor returns for a tool use. -/
structure ToolResult where
  output : String := ""
  isError : Bool := false
  reason : String := ""
  /-- The platform made the result up. -/
  synthetic : Bool := false
  permissionDenied : Bool := false
  awaitingApproval : Bool := false
  askKind : Permissions.AskKind := .none
  canonicalDigest : Digest := []
  approvalMismatch : Bool := false
  effectClass : String := ""
  awaitingDelegation : Bool := false
  childSessionID : Option UUID := none
  taintChanged : Bool := false
  taintEngaged : Permissions.TaintState := {}
  deriving DecidableEq

/-- `resultText`: what the model reads. -/
def resultText (r : ToolResult) : String := if r.isError then "error: " ++ r.reason else r.output

/-- The per-run facts an executor needs. -/
structure ExecContext where
  tenantID : UUID
  sessionID : UUID
  autonomyLevel : String

inductive TerminalReason
  | completed | maxTurnsExceeded | costExhausted | aborted | stuckTerminated
  | permissionDenied | contextOverflow | error | refused | idleTimeout
  deriving DecidableEq

structure Terminal where
  reason : TerminalReason
  detail : String := ""

def terminalMaxTurnsExceeded (maxTurns : ℕ) : Terminal :=
  { reason := .maxTurnsExceeded, detail := "exceeded max_turns=" ++ toString maxTurns }

def terminalPermissionDenied (toolID : String) : Terminal :=
  { reason := .permissionDenied, detail := "denied: " ++ toolID }

def terminalRefused (category : String) : Terminal :=
  { reason := .refused, detail := if category = "" then "refused" else "refused: " ++ category }

def terminalOfStreamError (e : StreamError) : Terminal :=
  match classifyTrigger e with
  | .contextOverflow => { reason := .contextOverflow, detail := e.text }
  | .retryable | .permanent => { reason := .error, detail := e.text }

def Terminal.status (t : Terminal) : SessionStatus :=
  if t.reason = .completed then .completed else .failed

inductive StuckReason
  | repeatedAction | oscillation | zeroNetChange
  deriving DecidableEq

def StuckReason.string : StuckReason → String
  | .repeatedAction => "repeated_action"
  | .oscillation => "oscillation"
  | .zeroNetChange => "zero_net_change"

/-- A stuck run was suspected, and possibly for the second time. -/
structure StuckVerdict where
  reason : StuckReason
  terminate : Bool

/-- What made a session's taint state change. -/
inductive TaintOrigin
  | toolCall
  | child (childSessionID : UUID)
  /-- A card of the team's board that was read. -/
  | card (cardID : UUID)
  deriving DecidableEq

inductive Payload
  | userMessage (body : String)
  | content (body : String)
  | thought (raw : List UInt8)
  | toolLoaded (toolID : String)
  | memoryLoaded (sources : List String)
  | contextPruned (prunedCount : ℕ)
  | condensation (coveredThroughSeq : ℕ) (summary : String) (degraded : Bool)
  | toolUse (toolName input toolUseID : String)
  | toolResult (result : ToolResult)
  | stuckSuspected (reason : StuckReason)
  | approvalRequested (toolID reason : String) (askKind : Permissions.AskKind)
  | delegationRequested (toolID : String) (childSessionID : Option UUID)
  | awaitingInput
  | taintTransition (engaged : Permissions.TaintState) (origin : TaintOrigin)
  | budgetDecision (decision : Cost.DecisionKind) (reason : String) (budgetID : Option UUID)
      (reserved : String)
  | terminal (reason : TerminalReason) (detail : String)
  /-- The payload of an event that another component writes and the kernel never reads. -/
  | other
  deriving DecidableEq

/-- An event before it has an identifier and a place in the log. -/
structure Draft where
  sessionID : UUID
  type : EventType
  actor : Actor
  toolID : Option String := none
  pairRef : Option UUID := none
  payload : Payload

def Draft.event (d : Draft) (eventID : UUID) (seq : ℕ) : Event Payload :=
  { eventID, seq, sessionID := d.sessionID, type := d.type, actor := d.actor
    toolID := d.toolID, pairRef := d.pairRef, payload := d.payload }

inductive AppendError
  | marshal (text : String)
  | seal (text : String)
  | store (text : String)

def AppendError.text (type : EventType) : AppendError → String
  | .marshal e => "marshal " ++ type.string ++ " payload: " ++ e
  | .seal e => "seal " ++ type.string ++ " payload: " ++ e
  | .store e => "append " ++ type.string ++ ": " ++ e

/-- What a run needs beyond its history. -/
structure RunConfig where
  system : String := ""
  catalog : List ToolSchema := []
  modelID : String := ""
  maxTurns : ℤ := 0
  input : String := ""
  autonomyLevel : String := ""
  loadedTools : List String := []
  condenserModelID : String := ""
  memorySources : List String := []
  /-- A plain reply pauses the session and does not end it. -/
  conversational : Bool := false

/-- The state one kernel call owns. -/
structure RunState where
  tenantID : UUID
  sessionID : UUID
  /-- The events of the session, as far as this call knows them. -/
  history : List (Event Payload) := []
  transcript : List Message := []
  /-- The provider's identifier of each tool use that was read back from the log. -/
  toolUseIDs : UUID → Option String := fun _ => none

/-- The provider's identifier of a tool use, or the empty one. -/
def RunState.toolUseID (st : RunState) (eventID : UUID) : String :=
  (st.toolUseIDs eventID).getD ""

/-- The approval a run suspends on. -/
structure SuspendRequest where
  tenantID : UUID
  sessionID : UUID
  toolUseEventID : UUID
  approvalEventID : UUID
  toolID : String
  input : String
  canonicalDigest : Digest
  askKind : Permissions.AskKind
  effectClass : String

structure DelegateSuspendRequest where
  tenantID : UUID
  sessionID : UUID
  toolUseEventID : UUID
  delegationEventID : UUID
  toolID : String
  childSessionID : Option UUID

inductive ApprovalDecisionKind
  | granted | grantedModified | denied | invalidated
  deriving DecidableEq

structure PendingResolution where
  toolUseEventID : UUID
  toolID : String
  input : String
  modifiedInput : String := ""
  approvedDigest : Digest := []
  decision : ApprovalDecisionKind
  reason : String := ""

inductive DelegationOutcomeKind
  | returned | reaped | boundExceeded

structure DelegationResolution where
  toolUseEventID : UUID
  toolID : String
  outcome : DelegationOutcomeKind
  result : String := ""
  reason : String := ""

/-- The block that reasoning bytes give, if any. -/
def thinkingBlock (k : Kernel) (raw : List UInt8) : Option ContentBlock :=
  match k.decodeReasoning raw with
  | some (thinking, signature) =>
    if thinking ≠ "" ∨ signature ≠ "" then some (.thinking thinking signature) else none
  | none => none

/-! ### Requests -/

/-- What the kernel asks of its surroundings: the event log, the consumer of its events, the
budget gate, the provider, the tool executor and the stuck detector. -/
inductive Op
  | append (d : Draft)
  | setStatus (sessionID : UUID) (status : SessionStatus) (terminalReason : Option TerminalReason)
  | recordSuspension (r : SuspendRequest)
  | recordDelegation (r : DelegateSuspendRequest)
  /-- An event, an error or both are handed to the consumer. -/
  | yield (e : Option (Event Payload)) (err : Option String)
  | reserve (r : Cost.ReserveRequest)
  | reconcile (r : Cost.Reservation) (usage : Usage) (reported : Bool)
  | stream (p : Prompt) (tools : List ToolSchema)
  | execute (req : ToolUseRequest) (rc : ExecContext)
  | executeApproved (req : ToolUseRequest) (approvedDigest : Digest) (rc : ExecContext)
  /-- The stuck detector records a call. -/
  | record (sessionID : UUID) (toolName input : String)
  /-- The stuck detector drops what it knows of a session. -/
  | forget (sessionID : UUID)
  /-- The call panics, which nothing answers. -/
  | panic

def Op.Answer : Op → Type
  /- the identifier and the sequence number of the event -/
  | .append _ => Except AppendError (UUID × ℕ)
  /- the error of a write that failed -/
  | .setStatus .. | .recordSuspension _ | .recordDelegation _ => Option String
  /- whether the consumer wants more -/
  | .yield .. => Bool
  /- a reservation, with the error of one that is refused -/
  | .reserve _ => Cost.Reservation × Option String
  | .reconcile .. => Option String
  /- the call fails, or gives chunks and then possibly fails -/
  | .stream .. => Except StreamError (List Chunk × Option StreamError)
  | .execute .. => ToolResult
  /- nothing when the executor cannot resume a call -/
  | .executeApproved .. => Option ToolResult
  /- nothing when no detector is wired or nothing is suspected -/
  | .record .. => Option StuckVerdict
  | .forget _ => Unit
  | .panic => Empty

end Kernel

end NexusAgent
