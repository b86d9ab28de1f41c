import NexusAgent.Kernel.History
import NexusAgent.Lib.Process

/-!
# The turn loop

The generator that drives a session (`kernel/loop.go`, `kernel/turns.go`, `kernel/terminal.go`,
`kernel/metering.go`): hygiene, reserve, prompt, stream, classify, dispatch, pair, and again,
until the run ends or is suspended. A kernel call is a program that makes the requests of its
ports one at a time; it ends early wherever the source yields an error, the consumer stops, or
the run is suspended or ended. The number of turns is bounded, so the loop is a recursion on
the turns that are left.

Spans, live chunk previews and the per-turn reset of the hooks' cost are observations that
nothing here reads, and are left out.
-/

namespace NexusAgent.Kernel

open EventLog Provider Routine

/-- A kernel call, or a part of one. -/
abbrev Call := Routine RunState Op Op.Answer

/-! ### Ports -/

def append (d : Draft) : Call (Except AppendError (UUID × ℕ)) := request (Op.append d)

def setStatus (sessionID : UUID) (status : SessionStatus)
    (terminalReason : Option TerminalReason) : Call (Option String) :=
  request (Op.setStatus sessionID status terminalReason)

def recordSuspension (r : SuspendRequest) : Call (Option String) :=
  request (Op.recordSuspension r)

def recordDelegation (r : DelegateSuspendRequest) : Call (Option String) :=
  request (Op.recordDelegation r)

def yield (e : Option (Event Payload)) (err : Option String) : Call Bool :=
  request (Op.yield e err)

def reserve (r : Cost.ReserveRequest) : Call (Cost.Reservation × Option String) :=
  request (Op.reserve r)

/-- `BudgetGate.Reconcile`, whose failure is only logged. -/
def reconcile (r : Cost.Reservation) (usage : Usage) (reported : Bool) : Call (Option String) :=
  request (Op.reconcile r usage reported)

/-- `Provider.Stream`, with all that is read from the stream. -/
def stream (p : Prompt) (tools : List ToolSchema) :
    Call (Except StreamError (List Chunk × Option StreamError)) :=
  request (Op.stream p tools)

def execute (req : ToolUseRequest) (rc : ExecContext) : Call ToolResult :=
  request (Op.execute req rc)

def executeApproved (req : ToolUseRequest) (approvedDigest : Digest) (rc : ExecContext) :
    Call (Option ToolResult) :=
  request (Op.executeApproved req approvedDigest rc)

def record (sessionID : UUID) (toolName input : String) : Call (Option StuckVerdict) :=
  request (Op.record sessionID toolName input)

def forget (sessionID : UUID) : Call Unit := request (Op.forget sessionID)

/-- A panic: the call neither goes on nor returns. -/
def panicked {α : Type} : Call α := do
  let answer : Empty ← request Op.panic
  nomatch answer

/-- A step that is only taken under a condition. -/
def when (b : Bool) (c : Call Unit) : Call Unit := if b then c else pure ()

/-! ### Events and status -/

/-- An event is handed to the consumer, who may stop the call. -/
def emit (ev : Event Payload) : Call Unit := do
  let more ← yield (some ev) none
  when (!more) stop

/-- An error is handed to the consumer, and the call ends. -/
def fail {α : Type} (ev : Option (Event Payload)) (err : String) : Call α := do
  let _ ← yield ev (some err)
  stop

/-- `appendEvent`, with the reaction of every caller of it to a failure. -/
def appendEvent (type : EventType) (actor : Actor) (toolID : Option String)
    (pairRef : Option UUID) (payload : Payload) : Call (Event Payload) := do
  let st ← get
  let d : Draft := { sessionID := st.sessionID, type, actor, toolID, pairRef, payload }
  match ← append d with
  | .error e => fail none (e.text type)
  | .ok (eventID, seq) =>
    let ev := d.event eventID seq
    set { st with history := st.history ++ [ev] }
    pure ev

/-- `appendToolResult`: results that the platform made are the system's. -/
def appendToolResult (pairRef : UUID) (toolID : Option String) (result : ToolResult) :
    Call (Event Payload) :=
  let actor :=
    if result.synthetic || result.permissionDenied || result.awaitingApproval then .system
    else .tool
  appendEvent .toolResult actor toolID (some pairRef) (.toolResult result)

/-- `appendBudgetDecision`, handed to the consumer. -/
def appendBudgetDecision (res : Cost.Reservation) : Call Unit := do
  let ev ← appendEvent .budgetDecision .system none none
    (.budgetDecision res.decision.kind res.decision.reason res.decision.budgetID
      res.decision.reserved.string)
  emit ev

/-- `updateStatus`: the error of a write that failed. -/
def updateStatus (status : SessionStatus) (terminalReason : Option TerminalReason) :
    Call (Option String) := do
  let st ← get
  setStatus st.sessionID status terminalReason

def say (m : Message) : Call Unit :=
  modify fun st => { st with transcript := st.transcript ++ [m] }

/-! ### Ending and suspending -/

/-- `terminate`: the terminal event, then the status. -/
def terminate {α : Type} (t : Terminal) : Call α := do
  let ev ← appendEvent .terminal .system none none (.terminal t.reason t.detail)
  match ← updateStatus t.status (some t.reason) with
  | some err =>
    fail (some ev) ("terminal event " ++ ev.eventID.string ++
      " appended but session status update failed: " ++ err)
  | none =>
    forget ev.sessionID
    let _ ← yield (some ev) none
    stop

def suspendForApproval {α : Type} (toolUse : Event Payload) (input : String)
    (result : ToolResult) : Call α := do
  let toolID := toolUse.toolID.getD ""
  let ev ← appendEvent .approvalRequested .system toolUse.toolID none
    (.approvalRequested toolID result.reason result.askKind)
  match ← updateStatus .suspended none with
  | some err =>
    fail (some ev) ("approval_requested event " ++ ev.eventID.string ++
      " appended but session status update failed: " ++ err)
  | none =>
    let st ← get
    let recorded ← recordSuspension
      { tenantID := st.tenantID, sessionID := st.sessionID
        toolUseEventID := toolUse.eventID, approvalEventID := ev.eventID, toolID, input
        canonicalDigest := result.canonicalDigest, askKind := result.askKind
        effectClass := result.effectClass }
    match recorded with
    | some err =>
      fail (some ev) ("approval_requested event " ++ ev.eventID.string ++
        " appended but recording the suspension failed: " ++ err)
    | none =>
      let _ ← yield (some ev) none
      stop

def suspendForDelegation {α : Type} (toolUse : Event Payload) (childSessionID : Option UUID) :
    Call α := do
  let toolID := toolUse.toolID.getD ""
  let ev ← appendEvent .delegationRequested .system toolUse.toolID none
    (.delegationRequested toolID childSessionID)
  match ← updateStatus .suspended none with
  | some err =>
    fail (some ev) ("delegation_requested event " ++ ev.eventID.string ++
      " appended but session status update failed: " ++ err)
  | none =>
    let st ← get
    let recorded ← recordDelegation
      { tenantID := st.tenantID, sessionID := st.sessionID
        toolUseEventID := toolUse.eventID, delegationEventID := ev.eventID, toolID
        childSessionID }
    match recorded with
    | some err =>
      fail (some ev) ("delegation_requested event " ++ ev.eventID.string ++
        " appended but recording the delegation failed: " ++ err)
    | none =>
      let _ ← yield (some ev) none
      stop

def suspendForUserInput {α : Type} : Call α := do
  let ev ← appendEvent .awaitingInput .system none none .awaitingInput
  match ← updateStatus .awaitingInput none with
  | some err =>
    fail (some ev) ("awaiting_input event " ++ ev.eventID.string ++
      " appended but session status update failed: " ++ err)
  | none =>
    let _ ← yield (some ev) none
    stop

/-! ### One turn -/

/-- The loop over the results that hygiene found owed: each is appended, and its block is
collected under the provider's identifier that the log gave. -/
def appendSynthetic : List SyntheticResult → Call (List ContentBlock)
  | [] => pure []
  | s :: rest => do
    let ev ← appendToolResult s.pairRef s.toolID
      { isError := true, synthetic := true, reason := s.reason }
    let st ← get
    emit ev
    let blocks ← appendSynthetic rest
    pure (.toolResult (st.toolUseID s.pairRef) ("[synthetic error] " ++ s.reason) true :: blocks)

/-- Hygiene before a model call. -/
def repair : Call Unit := do
  let st ← get
  let (kept, synth) := hygiene st.history
  set { st with history := kept }
  let blocks ← appendSynthetic synth
  when (!blocks.isEmpty) (say { role := .tool, blocks })

def reserveTurn (cfg : RunConfig) : Call Cost.Reservation := do
  let st ← get
  let (res, refused) ← reserve
    { tenantID := st.tenantID, sessionID := st.sessionID, modelID := cfg.modelID
      purpose := .turn }
  appendBudgetDecision res
  when refused.isSome (terminate { reason := .costExhausted, detail := res.decision.reason })
  pure res

/-- The transcript as this turn shows it. -/
def pruneView (k : Kernel) : Call (List Message) := do
  let st ← get
  match Promptctx.prune k.pruneRef st.transcript k.prunePolicy with
  | none => panicked
  | some (view, prunedCount) =>
    when (0 < prunedCount) do
      let ev ← appendEvent .contextPruned .system none none (.contextPruned prunedCount)
      emit ev
    pure view

/-- A model's answer, as it is collected from the stream. -/
structure Output where
  text : String := ""
  reasoning : List (List UInt8) := []
  toolUses : List ToolUseRequest := []
  usage : Usage := {}
  usageReported : Bool := false
  done : Option DoneReason := none
  refusalCategory : String := ""

def Output.chunk (o : Output) : Chunk → Output
  | .content text => { o with text := o.text ++ text }
  | .reasoning raw => { o with reasoning := o.reasoning ++ [raw] }
  | .toolUse toolUseID toolName input =>
    { o with toolUses := o.toolUses ++ [{ toolUseID, toolName, input }] }
  | .usage usage => { o with usage, usageReported := true }
  | .done reason refusalCategory => { o with done := some reason, refusalCategory }

/-- What the chunks of a stream amount to. -/
def Output.ofChunks (chunks : List Chunk) : Output := chunks.foldl Output.chunk {}

/-- `condense`: a metered summary, or the sign that there is none. -/
def condense (cfg : RunConfig) (covered : List Message) :
    Call (Option String × Cost.Reservation) := do
  let st ← get
  let (res, refused) ← reserve
    { tenantID := st.tenantID, sessionID := st.sessionID, modelID := cfg.condenserModelID
      purpose := .compaction }
  if refused.isSome then return (none, res)
  match ← stream (Promptctx.condensePrompt covered) [] with
  | .error _ =>
    let _ ← reconcile res {} false
    pure (none, res)
  | .ok (chunks, streamErr) =>
    let out := Output.ofChunks chunks
    let _ ← reconcile res out.usage (out.usageReported && streamErr.isNone)
    if streamErr.isSome || out.text = "" then pure (none, res) else pure (some out.text, res)

/-- A transcript over the threshold is replaced by a summary and its last messages. -/
def condenseView (k : Kernel) (cfg : RunConfig) (view : List Message) :
    Call (List Message) := do
  match Promptctx.shouldCondense view k.condenseThresholdBytes with
  | none => pure view
  | some covered =>
    let (metered, res) ← condense cfg (view.take covered)
    appendBudgetDecision res
    let summary := metered.getD (Promptctx.extractivePass (view.take covered))
    let st ← get
    let coveredSeq := (st.history.getLast?.map Event.seq).getD 0
    let ev ← appendEvent .condensation .system none none
      (.condensation coveredSeq summary metered.isNone)
    emit ev
    let transcript := textMessage .assistant ("[condensed summary] " ++ summary) ::
      st.transcript.drop covered
    modify fun st => { st with transcript }
    pure transcript

/-- The model call. Its reservation is settled however the stream ends; a failure ends the
run. -/
def streamTurn (cfg : RunConfig) (res : Cost.Reservation) (view : List Message) :
    Call Output := do
  match ← stream (Promptctx.build cfg.system view) cfg.catalog with
  | .error e =>
    let _ ← reconcile res {} false
    terminate (terminalOfStreamError e)
  | .ok (chunks, streamErr) =>
    let out := Output.ofChunks chunks
    let _ ← reconcile res out.usage (out.usageReported && streamErr.isNone)
    match streamErr with
    | some e => terminate (terminalOfStreamError e)
    | none => pure out

/-- The loop over the reasoning of a turn. -/
def appendThoughts (k : Kernel) : List (List UInt8) → Call (List ContentBlock)
  | [] => pure []
  | raw :: rest => do
    let ev ← appendEvent .thought .model none none (.thought raw)
    emit ev
    let blocks ← appendThoughts k rest
    pure ((thinkingBlock k raw).toList ++ blocks)

def appendContent (text : String) : Call (List ContentBlock) := do
  if text = "" then return []
  let ev ← appendEvent .content .model none none (.content text)
  emit ev
  pure [.text text]

def ToolUseRequest.block (tu : ToolUseRequest) : ContentBlock :=
  .toolUse tu.toolUseID tu.toolName tu.input

/-- The loop over the tool uses of a turn. -/
def appendToolUses : List ToolUseRequest → Call (List (ToolUseRequest × Event Payload))
  | [] => pure []
  | tu :: rest => do
    let ev ← appendEvent .toolUse .model (some tu.toolName) none
      (.toolUse tu.toolName tu.input tu.toolUseID)
    emit ev
    let calls ← appendToolUses rest
    pure ((tu, ev) :: calls)

/-- The assistant's side of a turn: its events, and one message for all of them. A truncated
or refused answer ends the run. -/
def assistantTurn (k : Kernel) (out : Output) :
    Call (List (ToolUseRequest × Event Payload)) := do
  let thoughts ← appendThoughts k out.reasoning
  when (out.done = some .maxOutput) (terminate
    { reason := .error
      detail := "provider truncated output at max_output without a natural stop" })
  when (out.done = some .refusal) (terminate (terminalRefused out.refusalCategory))
  let text ← appendContent out.text
  let calls ← appendToolUses out.toolUses
  let blocks := thoughts ++ text ++ calls.map fun c => c.1.block
  when (!blocks.isEmpty) (say { role := .assistant, blocks })
  pure calls

/-- The stuck detector's part of a tool call. -/
def observe (tu : ToolUseRequest) : Call Unit := do
  let st ← get
  match ← record st.sessionID tu.toolName tu.input with
  | none => pure ()
  | some verdict =>
    let ev ← appendEvent .stuckSuspected .system none none (.stuckSuspected verdict.reason)
    emit ev
    when verdict.terminate
      (terminate { reason := .stuckTerminated, detail := verdict.reason.string })

def recordTaint (engaged : Permissions.TaintState) : Call Unit := do
  let ev ← appendEvent .taintTransition .system none none (.taintTransition engaged .toolCall)
  emit ev

/-- One tool call: executed, its result paired, its taint recorded. A denial ends the run; an
approval or a delegation to wait for suspends it. -/
def dispatchCall (cfg : RunConfig) (tu : ToolUseRequest) (toolUse : Event Payload) :
    Call ContentBlock := do
  let st ← get
  let result ← execute tu
    { tenantID := st.tenantID, sessionID := st.sessionID, autonomyLevel := cfg.autonomyLevel }
  let ev ← appendToolResult toolUse.eventID toolUse.toolID result
  emit ev
  when result.taintChanged (recordTaint result.taintEngaged)
  when result.permissionDenied
    (terminate (terminalPermissionDenied (toolUse.toolID.getD "unknown")))
  when result.awaitingApproval (suspendForApproval toolUse tu.input result)
  when result.awaitingDelegation (suspendForDelegation toolUse result.childSessionID)
  observe tu
  pure (.toolResult tu.toolUseID (resultText result) result.isError)

/-- The loop over the tool calls of a turn. -/
def dispatch (cfg : RunConfig) :
    List (ToolUseRequest × Event Payload) → Call (List ContentBlock)
  | [] => pure []
  | (tu, toolUse) :: rest => do
    let block ← dispatchCall cfg tu toolUse
    let blocks ← dispatch cfg rest
    pure (block :: blocks)

/-- What a model's turn amounts to. -/
inductive Classification
  | toolCalls
  | content
  | empty

/-- `Classify`: tool calls come first, whatever text stands beside them. -/
def classify (toolUses : List ToolUseRequest) (text : String) : Classification :=
  if !toolUses.isEmpty then .toolCalls else if text ≠ "" then .content else .empty

/-- One turn. It returns when the model has called tools; a plain reply pauses or ends the
run. -/
def turn (k : Kernel) (cfg : RunConfig) : Call Unit := do
  repair
  let res ← reserveTurn cfg
  let view ← pruneView k
  let view ← condenseView k cfg view
  let out ← streamTurn cfg res view
  let calls ← assistantTurn k out
  match classify out.toolUses out.text with
  | .toolCalls =>
    let blocks ← dispatch cfg calls
    when (!blocks.isEmpty) (say { role := .tool, blocks })
  | .content | .empty =>
    if cfg.conversational then suspendForUserInput else terminate { reason := .completed }

/-- How many turns a run has where its configuration does not say. -/
def defaultMaxTurns : ℕ := 25

def RunConfig.turns (cfg : RunConfig) : ℕ :=
  if cfg.maxTurns ≤ 0 then defaultMaxTurns else cfg.maxTurns.toNat

/-- The loop of `runTurns` with `n` turns left. -/
def turnsFrom (k : Kernel) (cfg : RunConfig) : ℕ → Call Unit
  | 0 => terminate (terminalMaxTurnsExceeded cfg.turns)
  | n + 1 => do
    turn k cfg
    turnsFrom k cfg n

def runTurns (k : Kernel) (cfg : RunConfig) : Call Unit := turnsFrom k cfg cfg.turns

/-! ### Kernel calls -/

/-- The status of a session that is being run. -/
def markRunning : Call Unit := do
  match ← updateStatus .running none with
  | some err => fail none err
  | none => pure ()

/-- The loop over the resident tools of a fresh run. -/
def appendToolsLoaded : List String → Call Unit
  | [] => pure ()
  | toolID :: rest => do
    let ev ← appendEvent .toolLoaded .system (some toolID) none (.toolLoaded toolID)
    emit ev
    appendToolsLoaded rest

def hear (input : String) : Call Unit := do
  let ev ← appendEvent .userMessage .user none none (.userMessage input)
  say (textMessage .user input)
  emit ev

/-- `seed`: what a fresh run records before its first turn. -/
def seed (cfg : RunConfig) : Call Unit := do
  markRunning
  appendToolsLoaded cfg.loadedTools
  when (!cfg.memorySources.isEmpty) do
    let ev ← appendEvent .memoryLoaded .system none none (.memoryLoaded cfg.memorySources)
    emit ev
  when (cfg.input ≠ "") (hear cfg.input)

def run (k : Kernel) (cfg : RunConfig) : Call Unit := do
  seed cfg
  runTurns k cfg

def pairResult (toolUseEventID : UUID) (toolID : String) (result : ToolResult) : Call Unit := do
  let ev ← appendToolResult toolUseEventID (some toolID) result
  let st ← get
  say (toolResultMessage (st.toolUseID toolUseEventID) (resultText result) result.isError)
  emit ev

def resolveApproval (cfg : RunConfig) (res : PendingResolution) : Call ToolResult := do
  let input := if res.decision = .grantedModified then res.modifiedInput else res.input
  match res.decision with
  | .granted | .grantedModified =>
    let st ← get
    let executed ← executeApproved { toolName := res.toolID, input } res.approvedDigest
      { tenantID := st.tenantID, sessionID := st.sessionID, autonomyLevel := cfg.autonomyLevel }
    match executed with
    | none =>
      fail none ("kernel: Resume called but the configured ToolExecutor does not implement " ++
        "ApprovedExecutor")
    | some result => pure result
  | .denied =>
    pure { isError := true, synthetic := true, permissionDenied := true
           reason := "approval_denied: " ++ res.reason }
  | .invalidated =>
    pure { isError := true, synthetic := true, permissionDenied := true
           reason := "approval_invalidated: " ++ res.reason }

/-- `Resume`: a session suspended on an approval goes on with its resolution. -/
def resume (k : Kernel) (cfg : RunConfig) (res : PendingResolution) : Call Unit := do
  markRunning
  let result ← resolveApproval cfg res
  pairResult res.toolUseEventID res.toolID result
  when (result.permissionDenied || result.approvalMismatch)
    (terminate (terminalPermissionDenied res.toolID))
  when result.awaitingApproval (fail none
    ("kernel: Resume's ApprovedExecutor unexpectedly resolved AwaitingApproval for " ++
      res.toolID))
  runTurns k cfg

def delegationResult (res : DelegationResolution) : ToolResult :=
  match res.outcome with
  | .returned => { output := res.result }
  | .reaped =>
    { isError := true, synthetic := true, reason := "delegation_reaped: " ++ res.reason }
  | .boundExceeded =>
    { isError := true, synthetic := true, reason := "bound_exceeded: " ++ res.reason }

/-- `ResumeDelegation`: a session suspended on a delegation goes on with its outcome. -/
def resumeDelegation (k : Kernel) (cfg : RunConfig) (res : DelegationResolution) :
    Call Unit := do
  markRunning
  pairResult res.toolUseEventID res.toolID (delegationResult res)
  runTurns k cfg

/-- `Continue`: the loop is entered again from the log. -/
def continueRun (k : Kernel) (cfg : RunConfig) : Call Unit := do
  markRunning
  runTurns k cfg

/-- `ResumeConversation`: the user's next message. -/
def resumeConversation (k : Kernel) (cfg : RunConfig) (input : String) : Call Unit := do
  markRunning
  hear input
  runTurns k cfg

inductive Entry
  | run (cfg : RunConfig)
  | resume (cfg : RunConfig) (res : PendingResolution)
  | resumeDelegation (cfg : RunConfig) (res : DelegationResolution)
  | continueRun (cfg : RunConfig)
  | resumeConversation (cfg : RunConfig) (input : String)

def Entry.call (k : Kernel) : Entry → Call Unit
  | .run cfg => Kernel.run k cfg
  | .resume cfg res => Kernel.resume k cfg res
  | .resumeDelegation cfg res => Kernel.resumeDelegation k cfg res
  | .continueRun cfg => Kernel.continueRun k cfg
  | .resumeConversation cfg input => Kernel.resumeConversation k cfg input

abbrev Live := Process Op Op.Answer (Option (Unit × RunState))

/-- A kernel call at its beginning: `Run` starts from nothing, every other call from what the
log gives. -/
def Entry.start (k : Kernel) (tenantID sessionID : UUID) (history : List (Event Payload))
    (entry : Entry) : Live :=
  let st := match entry with
    | .run _ => { tenantID, sessionID }
    | _ => loadState k tenantID sessionID history
  ((entry.call k) st).run

end NexusAgent.Kernel
