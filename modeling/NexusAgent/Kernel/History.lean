import Mathlib.Data.List.Sort
import NexusAgent.Kernel.Types

/-!
# Reading a session's history

What the kernel makes of the events of a session (`kernel/hygiene.go`,
`kernel/rehydrate.go`): the pass that pairs every tool use with one result before a model
call, the transcript and the taint state that a resumed session starts from.

Reading a payload back gives zero values for the fields it does not have. Synthesized results
are ordered by the text of the identifier they answer, which is the order of the identifiers.
-/

namespace NexusAgent.Kernel

open EventLog Provider

/-! ### Hygiene -/

/-- A result that is owed to a tool use. -/
structure SyntheticResult where
  pairRef : UUID
  toolID : Option String
  reason : String

def toolUses (history : List (Event Payload)) : List (Event Payload) :=
  history.filter fun e => e.type = .toolUse

/-- The tool use of an identifier; a later one replaces an earlier one. -/
def toolUseOf (history : List (Event Payload)) (eventID : UUID) : Option (Event Payload) :=
  (toolUses history).reverse.find? fun e => e.eventID = eventID

/-- The loop of `Hygiene` over the history: results without a reference, of an unknown tool
use or of one in `seen` are dropped. Returns the events kept and the tool uses answered. -/
def keepPaired (known : UUID → Bool) :
    List UUID → List (Event Payload) → List (Event Payload) × List UUID
  | seen, [] => ([], seen)
  | seen, e :: es =>
    if e.type = .toolResult then
      match e.pairRef with
      | none => keepPaired known seen es
      | some ref =>
        if known ref ∧ ref ∉ seen then
          let (kept, seen) := keepPaired known (ref :: seen) es
          (e :: kept, seen)
        else keepPaired known seen es
    else
      let (kept, seen) := keepPaired known seen es
      (e :: kept, seen)

/-- The result that a tool use left unanswered is owed. -/
def synthesize (history : List (Event Payload)) (eventID : UUID) : SyntheticResult :=
  { pairRef := eventID
    toolID := (toolUseOf history eventID).bind Event.toolID
    reason := "interrupted_before_execution" }

/-- `Hygiene`: the events kept, and a result for every tool use that has none. -/
def hygiene (history : List (Event Payload)) : List (Event Payload) × List SyntheticResult :=
  let known := fun ref => (toolUseOf history ref).isSome
  let (kept, seen) := keepPaired known [] history
  let unanswered := ((toolUses history).map Event.eventID).dedup.filter (· ∉ seen)
  (kept, (unanswered.map (synthesize history)).insertionSort fun a b => a.pairRef ≤ b.pairRef)

/-! ### Reading payloads -/

namespace Payload

def body : Payload → String
  | .userMessage b => b
  | .content b => b
  | _ => ""

def raw : Payload → List UInt8
  | .thought r => r
  | _ => []

def toolUseRequest : Payload → ToolUseRequest
  | .toolUse toolName input toolUseID => { toolUseID, toolName, input }
  | _ => { toolName := "", input := "" }

def result : Payload → ToolResult
  | .toolResult r => r
  | _ => {}

def engaged : Payload → Permissions.TaintState
  | .taintTransition t _ => t
  | _ => {}

end Payload

/-! ### The transcript -/

structure Replay where
  transcript : List Message := []
  toolUseIDs : UUID → Option String := fun _ => none
  /-- Blocks of the assistant's turn that is being collected. -/
  pendingAssistant : List ContentBlock := []
  pendingResults : List ContentBlock := []

namespace Replay

/-- The collected blocks of the assistant become a message. -/
def flushAssistant (r : Replay) : Replay :=
  if r.pendingAssistant.isEmpty then r
  else { r with
    transcript := r.transcript ++ [{ role := .assistant, blocks := r.pendingAssistant }]
    pendingAssistant := [] }

/-- The collected results become a message. -/
def flushResults (r : Replay) : Replay :=
  if r.pendingResults.isEmpty then r
  else { r with
    transcript := r.transcript ++ [{ role := .tool, blocks := r.pendingResults }]
    pendingResults := [] }

/-- More blocks for the assistant's turn, which ends the results before it. -/
def assistant (r : Replay) (blocks : List ContentBlock) : Replay :=
  let r := r.flushResults
  { r with pendingAssistant := r.pendingAssistant ++ blocks }

def event (k : Kernel) (r : Replay) (e : Event Payload) : Replay :=
  match e.type with
  | .thought => r.assistant (thinkingBlock k e.payload.raw).toList
  | .content => r.assistant [.text e.payload.body]
  | .toolUse =>
    let tu := e.payload.toolUseRequest
    { r.assistant [.toolUse tu.toolUseID tu.toolName tu.input] with
      toolUseIDs := Function.update r.toolUseIDs e.eventID (some tu.toolUseID) }
  | .userMessage =>
    let r := r.flushAssistant.flushResults
    { r with transcript := r.transcript ++ [textMessage .user e.payload.body] }
  | .toolResult =>
    let r := r.flushAssistant
    let toolUseID := (e.pairRef.bind r.toolUseIDs).getD ""
    let result := e.payload.result
    { r with
      pendingResults :=
        r.pendingResults ++ [.toolResult toolUseID (resultText result) result.isError] }
  -- everything else is bookkeeping and not a turn of the conversation
  | _ => r

end Replay

/-- `Rehydrate`: the transcript of a history, and the provider's identifier of each tool use
of it. -/
def rehydrate (k : Kernel) (history : List (Event Payload)) :
    List Message × (UUID → Option String) :=
  let r := (history.foldl (Replay.event k) {}).flushAssistant.flushResults
  (r.transcript, r.toolUseIDs)

/-! ### The taint state -/

/-- `RehydrateTaint`: the legs of the last taint transition. -/
def rehydrateTaint (history : List (Event Payload)) : Permissions.TaintState :=
  match (history.filter fun e => e.type = .taintTransition).getLast? with
  | some e => e.payload.engaged
  | none => {}

def loadState (k : Kernel) (tenantID sessionID : UUID) (history : List (Event Payload)) :
    RunState :=
  let (transcript, toolUseIDs) := rehydrate k history
  { tenantID, sessionID, history, transcript, toolUseIDs }

end NexusAgent.Kernel
