import NexusAgent.Provider.Types

/-!
# The prompt and its window

How the transcript of a session becomes a prompt (`internal/promptctx/builder.go`,
`prune.go`, `condense.go`): the texts of old tool messages are shortened, and a transcript
that has grown too large is condensed to a summary and its last messages. Sizes are counted
in bytes. `ref` is the fingerprint of a shortened text that its marker shows.
-/

namespace NexusAgent.Promptctx

open Provider

/-- When old tool messages are shortened. The zero policy shortens none. -/
structure PrunePolicy where
  /-- How many of the last messages are kept as they are. -/
  keepLast : ℤ := 0
  /-- Beyond this size a text is cut to a preview. -/
  softTrimAt : ℤ := 0
  /-- Beyond this size a text is dropped. -/
  hardClearAt : ℤ := 0

def previewBytes : ℕ := 256

def preview (text : String) : String :=
  if previewBytes < text.utf8ByteSize then Go.bytePrefix text previewBytes else text

section Prune

variable (ref : String → String)

def pruneMarker (original : String) : String :=
  "[pruned: " ++ toString original.utf8ByteSize ++ " bytes, ref=" ++ ref original ++ "]"

/-- What an old message is replaced by, if it is. -/
def pruneMessage (policy : PrunePolicy) (m : Message) : Option Message :=
  let text := m.plainText
  if m.role ≠ .tool then none
  else if 0 < policy.hardClearAt ∧ policy.hardClearAt < text.utf8ByteSize then
    some (textMessage m.role (pruneMarker ref text))
  else if 0 < policy.softTrimAt ∧ policy.softTrimAt < text.utf8ByteSize then
    some (textMessage m.role (preview text ++ "\n" ++ pruneMarker ref text))
  else none

/-- The loop of `Prune` over the messages before the cutoff, which are the first `n`. -/
def pruneFirst (policy : PrunePolicy) : ℕ → List Message → List Message × ℕ
  | 0, ms => (ms, 0)
  | _ + 1, [] => ([], 0)
  | n + 1, m :: ms =>
    let (out, count) := pruneFirst policy n ms
    match pruneMessage ref policy m with
    | some m' => (m' :: out, count + 1)
    | none => (m :: out, count)

/-- How many of the first messages may be shortened, in the arithmetic of 64 bits. -/
def cutoff (transcript : List Message) (policy : PrunePolicy) : ℤ :=
  (transcript.length - policy.keepLast).bmod (2 ^ 64)

/-- `Prune`: the shortened transcript and the number of messages that were shortened. A
cutoff beyond the end of the transcript reads past it, which is a panic. -/
def prune (transcript : List Message) (policy : PrunePolicy) : Option (List Message × ℕ) :=
  if policy.keepLast ≤ 0 ∧ policy.softTrimAt ≤ 0 ∧ policy.hardClearAt ≤ 0 then
    some (transcript, 0)
  else if transcript.length < cutoff transcript policy then none
  else some (pruneFirst ref policy (cutoff transcript policy).toNat transcript)

/-- A policy that shortens nothing. -/
def PrunePolicy.Off (policy : PrunePolicy) : Prop :=
  policy.keepLast ≤ 0 ∧ policy.softTrimAt ≤ 0 ∧ policy.hardClearAt ≤ 0

lemma prune_off {policy : PrunePolicy} (h : policy.Off) (transcript : List Message) :
    prune ref transcript policy = some (transcript, 0) :=
  if_pos h

end Prune

/-- How many of the last messages condensation keeps. -/
def condenseKeepTail : ℕ := 4

/-- `ShouldCondense`: how many messages are condensed, if any. -/
def shouldCondense (transcript : List Message) (thresholdBytes : ℤ) : Option ℕ :=
  let total := (transcript.map fun m => m.plainText.utf8ByteSize).sum
  if thresholdBytes ≤ 0 then none
  else if total ≤ thresholdBytes then none
  else if transcript.length ≤ condenseKeepTail then none
  else some (transcript.length - condenseKeepTail)

/-- `line`: a message on one line, cut to a preview. -/
def line (m : Message) : String := m.role.string ++ ": " ++ preview m.plainText

/-- `ExtractivePass`: a summary without a model, from the first and the last message. -/
def extractivePass (transcript : List Message) : String :=
  match transcript, transcript.getLast? with
  | [], _ | _, none => ""
  | [m], _ => line m
  | [m, _], some last => line m ++ "\n" ++ line last
  | m :: _, some last =>
    line m ++ "\n[extractive: " ++ toString (transcript.length - 2) ++ " messages omitted]\n" ++
      line last

def condensePrompt (transcript : List Message) : Prompt :=
  { system := "Summarize the following conversation history concisely, preserving any " ++
      "decisions, facts, or open questions. Never state or imply that any external effect " ++
      "(a tool call, a send, a write) completed or failed — only summarize what was said."
    messages := [textMessage .user (String.join (transcript.map fun m => line m ++ "\n"))] }

def build (system : String) (transcript : List Message) : Prompt :=
  { system, messages := transcript }

end NexusAgent.Promptctx
