import NexusAgent.EventLog.Event
import NexusAgent.Permissions.Chain

/-!
# Tools and their invocations

The data of the tool pipeline (`internal/tools/types.go`, `identity.go`, `manifest.go`,
`admit.go`, `pipeline.go`): qualified tool references and their text form, descriptors, the
pinned manifest, the registry with its admission verdicts, invocations and results. Inputs
and outputs are raw texts. What a tool does is code outside the pipeline: its validation and
its own permission answer are functions of the input, and the outcome of a call comes from
the surroundings of the call.
-/

namespace NexusAgent.Tools

open Permissions

abbrev Digest := List UInt8

/-- A qualified tool identity `namespace/name@version`. -/
structure ToolRef where
  ns : String
  name : String
  version : String
  deriving DecidableEq

def ToolRef.string (r : ToolRef) : String := r.ns ++ "/" ++ r.name ++ "@" ++ r.version

/-- A character of a namespace segment or a name. -/
def isSegmentChar (c : Char) : Bool := c.isLower || c.isDigit || c == '_' || c == '-'

/-- A namespace segment or a name. -/
def isSegment (s : List Char) : Bool := !s.isEmpty && s.all isSegmentChar

/-- A version: a digit, possibly after a `v`, then letters, digits and `_.-`. -/
def isVersion (s : List Char) : Bool :=
  let digits := if s.head? = some 'v' then s.tail else s
  match digits with
  | [] => false
  | c :: rest =>
    c.isDigit && rest.all fun c => c.isAlphanum || c == '_' || c == '.' || c == '-'

def parseToolRef (s : String) : Except String ToolRef :=
  let malformed := "tools: " ++ Go.quote s ++
    " is not a valid \x7bnamespace\x7d/\x7bname\x7d@\x7bversion\x7d tool ref"
  match s.toList.splitOn '@' with
  | [path, version] =>
    let segments := path.splitOn '/'
    if 2 ≤ segments.length && segments.all isSegment && isVersion version then
      .ok { ns := String.ofList (List.intercalate ['/'] segments.dropLast)
            name := String.ofList (segments.getLastD [])
            version := String.ofList version }
    else .error malformed
  | _ => .error malformed

structure Descriptor where
  id : ToolRef
  description : String
  inputSchema : String
  effectClass : EffectClass

/-- A tool's own opinion of a call. -/
structure PermissionResult where
  decision : Decision
  reason : String

/-- A tool, as the pipeline sees it. -/
structure Tool where
  descriptor : Descriptor
  taint : Taint
  checkPermissions : String → PermissionResult
  /-- The error of an input the tool refuses. -/
  validateInput : String → Option String

structure ManifestEntry where
  id : ToolRef
  descriptorDigest : Digest

/-- A descriptor's scan verdict. -/
inductive AdmissionStatus
  | pending
  | clean
  | flagged
  | rejected
  | unknown
  deriving DecidableEq

def AdmissionStatus.text : AdmissionStatus → String
  | .pending => "pending"
  | .clean => "clean"
  | .flagged => "flagged"
  | .rejected => "rejected"
  | .unknown => ""

/-- A tool of the registry with its verdict. -/
structure ToolEntry where
  tool : Tool
  status : AdmissionStatus

/-- One tool use handed to the pipeline. -/
structure Invocation where
  tenantID : UUID
  sessionID : UUID
  toolName : String
  input : String
  autonomyLevel : String

/-- A tool's raw return from a call. -/
structure CallResult where
  output : String
  isError : Bool := false
  reason : String := ""
  /-- The child session a delegating tool waits for. -/
  awaitingChildSessionID : Option UUID := none

/-- The pipeline's answer to an invocation. -/
structure ExecuteResult where
  output : String := ""
  isError : Bool := false
  reason : String := ""
  permissionDenied : Bool := false
  awaitingApproval : Bool := false
  askKind : AskKind := .none
  approvalMismatch : Bool := false
  canonicalDigest : Digest := []
  effectClass : String := ""
  awaitingDelegation : Bool := false
  childSessionID : Option UUID := none
  taintChanged : Bool := false
  taintEngaged : TaintState := {}

def errorResult (reason : String) : ExecuteResult := { isError := true, reason }

/-- What the hooks of one event answer; a hook may rewrite the input. -/
structure HookOutcome where
  decision : Decision := .defer
  reason : String := ""
  updatedInput : Option String := none

/-- The per-session facilities of one process. -/
structure SessionState where
  autonomy : Autonomy
  taintState : TaintState := {}

/-- What a pipeline is built from. `descriptorDigest` and `canonicalDigest` are the hashes
over descriptors and over a tool with its input; the latter fails on malformed input. -/
structure Config where
  manifest : List ManifestEntry
  registry : ToolRef → Option ToolEntry
  dynamic : Option (UUID → UUID → ToolRef → Except String (Option Tool))
  descriptorDigest : Descriptor → Digest
  canonicalDigest : String → String → Except String Digest

structure Pipeline where
  cfg : Config
  chain : Chain
  sessions : UUID → Option SessionState

def Pipeline.setSession (p : Pipeline) (sessionID : UUID) (s : SessionState) : Pipeline :=
  { p with sessions := Function.update p.sessions sessionID (some s) }

end NexusAgent.Tools
