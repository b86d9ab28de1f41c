import NexusAgent.Tools.Types

/-!
# The tool pipeline up to the call

Steps 1 to 11 of `Execute` and steps 1 to 5 of `ExecuteApproved`
(`internal/tools/execute.go`, `dispatch.go`, `pipeline.go`): resolve the tool, gate its
admission, validate the input, bind its digest, ask the tool, the hooks and the permission
chain. An invocation is answered at once or dispatched; the call itself, with its
write-ahead claim, is the subject of the claims ledger.
-/

namespace NexusAgent.Tools

open Permissions

/-- An invocation that passed its gates: what the rest of the pipeline runs with. -/
structure Dispatch where
  inv : Invocation
  ref : ToolRef
  tool : Tool
  input : String
  digest : Digest
  taintChanged : Bool := false
  taintEngaged : TaintState := {}

/-- The surroundings of one `Execute`: what the hooks answer and how the safety classifier's
model leg behaves. -/
structure ExecuteEnv where
  preToolUse : HookOutcome
  safety : SafetyCall

/-- `toLayerOutcome`: a precomputed answer must be deny, ask or defer. -/
def toLayerOutcome (decision : Decision) (reason : String) : Except String LayerOutcome :=
  match decision with
  | .deny | .ask | .defer => .ok { decision, reason }
  | .allow =>
    .error ("a precomputed layer resolved Allow (" ++ Go.quote reason ++
      "), which is never valid")
  | .other t => .error ("unrecognized decision " ++ Go.quote t)

namespace Pipeline

/-- Steps 1 and 2: the tool a reference names, and whether it was resolved dynamically. -/
def resolveTool (p : Pipeline) (tenantID sessionID : UUID) (ref : ToolRef) :
    Except ExecuteResult (Tool × Bool) :=
  let unknown := errorResult ("unknown_tool: " ++ Go.quote ref.string ++
    " is not in this session's pinned catalog manifest")
  match p.cfg.manifest.find? fun e => e.id = ref with
  | some entry =>
    match p.cfg.registry ref with
    | none =>
      .error (errorResult ("unknown_tool: " ++ Go.quote ref.string ++
        " is pinned in the manifest but not registered in this process"))
    | some e =>
      if p.cfg.descriptorDigest e.tool.descriptor ≠ entry.descriptorDigest then
        .error (errorResult ("descriptor_drift: " ++ Go.quote ref.string ++
          " no longer matches the digest pinned at session start"))
      else .ok (e.tool, false)
  | none =>
    match p.cfg.dynamic with
    | none => .error unknown
    | some resolve =>
      match resolve tenantID sessionID ref with
      | .error e => .error (errorResult ("dynamic_resolve_error: " ++ e))
      | .ok (some tool) => .ok (tool, true)
      | .ok none => .error unknown

/-- Step 3: a tool of the registry runs only with a clean verdict. -/
def admission (p : Pipeline) (ref : ToolRef) (dynamic : Bool) : Except ExecuteResult Unit :=
  let status := ((p.cfg.registry ref).map ToolEntry.status).getD .unknown
  if dynamic ∨ status = .clean then .ok ()
  else .error (errorResult ("admission_" ++ status.text ++ ": " ++ Go.quote ref.string ++
    " is not admitted clean"))

/-- The input of an invocation, with the empty one read as an empty object. -/
def inputOf (inv : Invocation) : String := if inv.input = "" then "\x7b\x7d" else inv.input

/-- Steps 1 to 5, shared by `Execute` and `ExecuteApproved`. -/
def bindCall (p : Pipeline) (inv : Invocation) : Except ExecuteResult Dispatch := do
  let ref ← (parseToolRef inv.toolName).mapError fun e => errorResult ("unknown_tool: " ++ e)
  let (tool, dynamic) ← p.resolveTool inv.tenantID inv.sessionID ref
  p.admission ref dynamic
  let input := inputOf inv
  match tool.validateInput input with
  | some e => throw (errorResult ("invalid_input: " ++ e))
  | none =>
    let digest ← (p.cfg.canonicalDigest ref.string input).mapError fun e =>
      errorResult ("digest_error: " ++ e)
    pure { inv, ref, tool, input, digest }

/-- `stateFor`: the session's facilities, with autonomy pinned on first use. -/
def stateFor (p : Pipeline) (sessionID : UUID) (autonomyLevel : String) :
    SessionState × Pipeline :=
  match p.sessions sessionID with
  | some s => (s, p)
  | none =>
    let level := match parseAutonomyLevel autonomyLevel with
      | .ok level => level
      | .error _ => .readOnly
    let s : SessionState := { autonomy := ⟨level⟩ }
    (s, p.setSession sessionID s)

def taintStateFor (p : Pipeline) (sessionID : UUID) : TaintState × Pipeline :=
  let (s, p) := p.stateFor sessionID ""
  (s.taintState, p)

/-- The legs `engaged` joined to a session's state, which `FoldTaint` and `SeedTaint` do. -/
def seedTaint (p : Pipeline) (sessionID : UUID) (autonomyLevel : String)
    (engaged : TaintState) : Pipeline :=
  let (s, p) := p.stateFor sessionID autonomyLevel
  p.setSession sessionID { s with taintState := s.taintState.union engaged }

/-- `FoldTaint`: a session first seen here is pinned to the strictest level. -/
def foldTaint (p : Pipeline) (sessionID : UUID) (engaged : TaintState) : Pipeline :=
  p.seedTaint sessionID "" engaged

/-- Steps 6 to 8: the tool's own answer, the hooks' answer, and the call re-bound to an
input a hook rewrote. -/
def askHooks (p : Pipeline) (env : ExecuteEnv) (d : Dispatch) :
    Except ExecuteResult (LayerOutcome × LayerOutcome × Dispatch) := do
  let gate2Raw := d.tool.checkPermissions d.input
  let gate2 ← (toLayerOutcome gate2Raw.decision gate2Raw.reason).mapError fun e =>
    errorResult ("gate2_error: " ++ e)
  let hookOutcome ← (toLayerOutcome env.preToolUse.decision env.preToolUse.reason).mapError
    fun e => errorResult ("hook_error: " ++ e)
  match env.preToolUse.updatedInput with
  | none => pure (gate2, hookOutcome, d)
  | some input =>
    let digest ← (p.cfg.canonicalDigest d.ref.string input).mapError fun e =>
      errorResult ("digest_error: " ++ e)
    pure (gate2, hookOutcome, { d with input, digest })

/-- Steps 9 to 11: the permission chain and the decision gates, which also advance the
session's taint state. -/
def decideCall (p : Pipeline) (env : ExecuteEnv) (gate2 hookOutcome : LayerOutcome)
    (d : Dispatch) : (ExecuteResult ⊕ Dispatch) × Pipeline :=
  let (state, p) := p.stateFor d.inv.sessionID d.inv.autonomyLevel
  let req : Request :=
    { toolID := d.ref.string, ns := d.ref.ns, effectClass := d.tool.descriptor.effectClass
      taint := d.tool.taint, input := d.input, autonomy := some state.autonomy
      hookOutcome, gate2, taintState := state.taintState }
  let ((result, err), chain) := p.chain.resolve env.safety req
  let p := { p with chain }
  match err with
  | some e => (.inl (errorResult ("permission_chain_error: " ++ e)), p)
  | none =>
    let p := p.setSession d.inv.sessionID { state with taintState := result.taintState }
    let taintChanged := decide (state.taintState ≠ result.taintState)
    let taintEngaged := result.taintState
    let layer := (result.resolution.layer.map Layer.string).getD ""
    match result.resolution.decision with
    | .deny =>
      (.inl { isError := true
              reason := "denied at layer " ++ layer ++ ": " ++ result.resolution.reason
              permissionDenied := true, taintChanged, taintEngaged }, p)
    | .ask =>
      (.inl { isError := true
              reason := "approval required at layer " ++ layer ++ ": " ++
                result.resolution.reason
              awaitingApproval := true, askKind := result.resolution.askKind
              canonicalDigest := d.digest, effectClass := d.tool.descriptor.effectClass.text
              taintChanged, taintEngaged }, p)
    | .defer =>
      (.inl (errorResult ("permission_chain_bug: Resolve returned a non-final Defer at layer "
        ++ layer)), p)
    | _ => (.inr { d with taintChanged, taintEngaged }, p)

/-- `Execute` up to the call: an answer, or a dispatch for the remaining steps. -/
def execute (p : Pipeline) (env : ExecuteEnv) (inv : Invocation) :
    (ExecuteResult ⊕ Dispatch) × Pipeline :=
  match p.bindCall inv with
  | .error r => (.inl r, p)
  | .ok d =>
    match p.askHooks env d with
    | .error r => (.inl r, p)
    | .ok (gate2, hookOutcome, d) => p.decideCall env gate2 hookOutcome d

/-- `ExecuteApproved` up to the call: the digest must be the approved one. -/
def executeApproved (p : Pipeline) (inv : Invocation) (approvedDigest : Digest) :
    (ExecuteResult ⊕ Dispatch) × Pipeline :=
  match p.bindCall inv with
  | .error r => (.inl r, p)
  | .ok d =>
    if d.digest ≠ approvedDigest then
      (.inl { isError := true
              reason := "approval_mismatch: the input being executed for " ++
                Go.quote d.ref.string ++ " no longer matches what was approved"
              approvalMismatch := true }, p)
    else (.inr d, (p.stateFor inv.sessionID inv.autonomyLevel).2)

end Pipeline

end NexusAgent.Tools
