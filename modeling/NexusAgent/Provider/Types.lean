import NexusAgent.Go.Strings

/-!
# Messages to and from the provider

The transcript sent to a model and the stream it answers with
(`internal/provider/provider.go`, `internal/provider/failover.go`): typed content blocks
grouped into messages, normalized stream chunks, and the classes of stream failures. A block
carries the fields that are meaningful for its kind; tool inputs are raw texts.
-/

namespace NexusAgent.Provider

/-- One typed unit of a message's content. -/
inductive ContentBlock
  | text (text : String)
  /-- Visible reasoning with its signature. -/
  | thinking (text signature : String)
  /-- A call of a tool, under the identifier the provider gave it. -/
  | toolUse (toolUseID toolName input : String)
  | toolResult (toolUseID text : String) (isError : Bool)

/-- The text that a block carries. -/
def ContentBlock.plain : ContentBlock → String
  | .text t => t
  | .thinking t _ => t
  | .toolUse .. => ""
  | .toolResult _ t _ => t

inductive Role
  | user
  | assistant
  | tool
  deriving DecidableEq

def Role.string : Role → String
  | .user => "user"
  | .assistant => "assistant"
  | .tool => "tool"

/-- One turn of the transcript. -/
structure Message where
  role : Role
  blocks : List ContentBlock

/-- `TextMessage`: a message of one text block. -/
def textMessage (role : Role) (text : String) : Message := { role, blocks := [.text text] }

/-- `ToolResultMessage`: one result, paired to its call. -/
def toolResultMessage (toolUseID text : String) (isError : Bool) : Message :=
  { role := .tool, blocks := [.toolResult toolUseID text isError] }

/-- `PlainText`: the texts of the blocks, one a line. -/
def Message.plainText (m : Message) : String := "\n".intercalate (m.blocks.map ContentBlock.plain)

/-- What a model is called with. -/
structure Prompt where
  system : String
  messages : List Message

/-- A tool as it is offered to the model. -/
structure ToolSchema where
  name : String
  description : String
  inputSchema : String

/-- Tokens used by a call, by class. -/
structure Usage where
  inputUncached : Int64 := 0
  inputCacheRead : Int64 := 0
  inputCacheWrite : Int64 := 0
  outputTokens : Int64 := 0
  deriving DecidableEq

inductive DoneReason
  | stop
  | maxOutput
  | error
  /-- The provider declined by policy. -/
  | refusal
  deriving DecidableEq

/-- One normalized unit of a response stream. -/
inductive Chunk
  | content (text : String)
  /-- Reasoning, as bytes that are kept and never shown. -/
  | reasoning (raw : List UInt8)
  | toolUse (toolUseID toolName input : String)
  | usage (usage : Usage)
  | done (reason : DoneReason) (refusalCategory : String)
  deriving DecidableEq

inductive StreamError
  | contextOverflow (reason : String)
  | throttle (text : String)
  | deadlineExceeded (text : String)
  | unexpectedEOF (text : String)
  | other (text : String)
  deriving DecidableEq

def StreamError.text : StreamError → String
  | .contextOverflow reason => "provider context overflow: " ++ reason
  | .throttle t => t
  | .deadlineExceeded t => t
  | .unexpectedEOF t => t
  | .other t => t

/-- How a failure bears on a second attempt. -/
inductive TriggerClass
  | retryable
  | permanent
  | contextOverflow
  deriving DecidableEq

def classifyTrigger : StreamError → TriggerClass
  | .contextOverflow _ => .contextOverflow
  | .throttle _ | .deadlineExceeded _ | .unexpectedEOF _ => .retryable
  | .other _ => .permanent

end NexusAgent.Provider
