import NexusAgent.Kernel.Prompts

/-!
# What a fresh run shows and what is read back

While a run goes on, the loop builds the transcript turn by turn; `Rehydrate` builds it from the
single events of the log. Inputs and outputs of tools are raw JSON: the log keeps their values, but
not their spelling, since the encoder compacts them.

- `rehydrate_event`: reading back a log whose raw JSON has been respelled gives the respelled
  transcript.
-/

namespace NexusAgent.Kernel

open EventLog Provider

/-- How raw JSON comes back from the log: with another spelling, and the same value. -/
structure Respelling (J : Type) where
  input : String → String
  output : String → String
  value : String → J
  value_input : ∀ text, value (input text) = value text
  value_output : ∀ text, value (output text) = value text

namespace Respelling

variable {J : Type} (c : Respelling J)

/-- An event as it comes back from the log, decoded as its type says. -/
def event (e : Event Payload) : Event Payload :=
  { e with
    payload := match e.type with
      | .toolUse =>
        let tu := e.payload.toolUseRequest
        .toolUse tu.toolName (c.input tu.input) tu.toolUseID
      | .toolResult =>
        .toolResult { e.payload.result with output := c.output e.payload.result.output }
      | _ => e.payload }

/-- A block with its raw JSON respelled. The text of an error is none. -/
def block : ContentBlock → ContentBlock
  | .toolUse toolUseID toolName input => .toolUse toolUseID toolName (c.input input)
  | .toolResult toolUseID text false => .toolResult toolUseID (c.output text) false
  | b => b

def message (m : Message) : Message := { m with blocks := m.blocks.map c.block }

/-- The blocks are of one kind and agree, where tool inputs and outputs are compared as JSON
values. -/
def SameBlock : ContentBlock → ContentBlock → Prop
  | .text t, .text t' => t = t'
  | .thinking t signature, .thinking t' signature' => t = t' ∧ signature = signature'
  | .toolUse id name input, .toolUse id' name' input' =>
    id = id' ∧ name = name' ∧ c.value input = c.value input'
  | .toolResult id text isError, .toolResult id' text' isError' =>
    id = id' ∧ isError = isError' ∧
      if isError then text = text' else c.value text = c.value text'
  | _, _ => False

def SameMessage (m m' : Message) : Prop :=
  m.role = m'.role ∧ List.Forall₂ c.SameBlock m.blocks m'.blocks

lemma sameBlock_block (b : ContentBlock) : c.SameBlock (c.block b) b := by
  cases b with
  | text t => rfl
  | thinking t signature => exact ⟨rfl, rfl⟩
  | toolUse id name input => exact ⟨rfl, rfl, c.value_input input⟩
  | toolResult id text isError =>
    cases isError with
    | false => exact ⟨rfl, rfl, c.value_output text⟩
    | true => exact ⟨rfl, rfl, rfl⟩

lemma sameMessage_message (m : Message) : c.SameMessage (c.message m) m :=
  ⟨rfl, List.forall₂_map_left_iff.2 (List.forall₂_same.2 fun b _ => c.sameBlock_block b)⟩

/-! ### Reading back a respelled log -/

/-- A replay with the raw JSON of its blocks respelled. -/
def replay (r : Replay) : Replay :=
  { transcript := r.transcript.map c.message
    toolUseIDs := r.toolUseIDs
    pendingAssistant := r.pendingAssistant.map c.block
    pendingResults := r.pendingResults.map c.block }

lemma flushAssistant_replay (r : Replay) :
    (c.replay r).flushAssistant = c.replay r.flushAssistant := by
  unfold Replay.flushAssistant
  by_cases h : r.pendingAssistant = [] <;> simp [replay, message, h]

lemma flushResults_replay (r : Replay) :
    (c.replay r).flushResults = c.replay r.flushResults := by
  unfold Replay.flushResults
  by_cases h : r.pendingResults = [] <;> simp [replay, message, h]

lemma assistant_replay (r : Replay) (bs : List ContentBlock) :
    (c.replay r).assistant (bs.map c.block) = c.replay (r.assistant bs) := by
  unfold Replay.assistant
  rw [flushResults_replay]
  simp [replay]

lemma block_thinkingBlock (k : Kernel) (raw : List UInt8) :
    (thinkingBlock k raw).toList.map c.block = (thinkingBlock k raw).toList := by
  unfold thinkingBlock
  split
  · split_ifs <;> rfl
  · rfl

lemma resultBlock_event (toolUseID : String) (result : ToolResult) :
    c.block (.toolResult toolUseID (resultText result) result.isError) =
      .toolResult toolUseID (resultText { result with output := c.output result.output })
        result.isError := by
  unfold resultText
  cases result.isError <;> rfl

/-- One event, respelled before or after it is read. -/
lemma event_replay (k : Kernel) (r : Replay) (e : Event Payload) :
    (c.replay r).event k (c.event e) = c.replay (r.event k e) := by
  unfold Replay.event event
  dsimp only
  split
  next htype =>
    simp only [htype]
    rw [← assistant_replay, block_thinkingBlock]
  next htype =>
    simp only [htype]
    exact c.assistant_replay r [.text _]
  next htype =>
    let tu := e.payload.toolUseRequest
    have h : (c.replay r).assistant [.toolUse tu.toolUseID tu.toolName (c.input tu.input)] =
        c.replay (r.assistant [.toolUse tu.toolUseID tu.toolName tu.input]) :=
      c.assistant_replay r [.toolUse _ _ _]
    simp only [htype]
    exact congrArg (fun r' : Replay => { r' with
      toolUseIDs := Function.update r.toolUseIDs e.eventID (some tu.toolUseID) }) h
  next htype =>
    rw [flushAssistant_replay, flushResults_replay]
    simp [replay, message, textMessage, block, htype]
  next htype =>
    rw [flushAssistant_replay]
    simp [replay, resultBlock_event, Payload.result, htype]
  next => rfl

theorem rehydrate_event (k : Kernel) (history : List (Event Payload)) :
    (rehydrate k (history.map c.event)).1 = (rehydrate k history).1.map c.message := by
  have hfold : (history.map c.event).foldl (Replay.event k) (c.replay {}) =
      c.replay (history.foldl (Replay.event k) {}) := by
    generalize ({} : Replay) = r
    induction history generalizing r with
    | nil => rfl
    | cons e es ih =>
      rw [List.map_cons, List.foldl_cons, List.foldl_cons, event_replay]
      exact ih _
  show Replay.transcript (Replay.flushResults (Replay.flushAssistant
    ((history.map c.event).foldl (Replay.event k) (c.replay {})))) = _
  rw [hfold, flushAssistant_replay, flushResults_replay]
  rfl

end Respelling

/-! ### Runs -/

/-- Only a fresh run is started. -/
def FreshRun (_ : Driven) : Drive → Prop
  | .start entry => entry.isRun = true
  | _ => True

instance (s : Driven) (a : Drive) : Decidable (FreshRun s a) := by
  unfold FreshRun
  split <;> infer_instance

lemma turning_freshRun {k : Kernel} (hk : Windowless k) (tenantID sessionID : UUID) (s : Driven)
    (a : Drive) (s' : Driven) (h : Turning k .first s) (hadm : FreshRun s a)
    (hst : (calls k tenantID sessionID).step s a = some s') : Turning k .first s' := by
  cases a with
  | start entry =>
    obtain ⟨⟨-, hrun⟩, ⟨⟩⟩ := Option.ite_none_right_eq_some.1 hst
    refine h.start hk tenantID sessionID ?_
    cases entry with
    | run cfg => exact h.log_eq_nil hrun
    | _ => nomatch hadm
  | reply t =>
    obtain ⟨p, ⟨row, p'⟩, hp, hadv, rfl⟩ := Option.bind_map_some hst
    have ht : t.Suits .first s.row.log.events := by
      cases t with
      | streamed answer => exact nofun
      | _ => trivial
    exact (h.reply hp ht hadv).1
  | leave =>
    cases hst
    exact h.leave

/-- In every fresh run with pruning and condensation off, whatever the provider and the tools
answer, what is read back from the log at a model call is what the model is shown: the same messages
in the same order, with the same roles, blocks, identifiers, names, flags, signatures and texts,
where tool inputs and outputs are compared as JSON values. -/
theorem prompt_replayed {J : Type} (c : Respelling J) (k : Kernel) (hk : Windowless k)
    (tenantID sessionID : UUID) (s : Driven)
    (hs : (calls k tenantID sessionID).ReachesBy FreshRun {} s) (p : Prompt)
    (hp : s.prompt = some p) :
    List.Forall₂ c.SameMessage (rehydrate k (s.row.log.events.map c.event)).1 p.messages := by
  have h := hs.invariant (I := Turning k .first) .init (turning_freshRun hk tenantID sessionID)
  obtain ⟨tools, cont, hlive⟩ := Driven.prompt_eq_some.1 hp
  obtain ⟨-, -, hshown⟩ := (h.follows _ hlive).1
  rw [hshown rfl, c.rehydrate_event]
  exact List.forall₂_map_left_iff.2 (List.forall₂_same.2 fun m _ => c.sameMessage_message m)

/-- JSON texts without blanks, compared by what is left without them. -/
def unblanked : Respelling String where
  input text := String.ofList (text.toList.filter (· ≠ ' '))
  output text := String.ofList (text.toList.filter (· ≠ ' '))
  value text := String.ofList (text.toList.filter (· ≠ ' '))
  value_input text := by simp
  value_output text := by simp

/-- A tool use whose input and output come back without their blanks. -/
theorem answeredCall_replayed :
    ∃ s p, (calls {} 7 1).ReachesBy FreshRun {} s ∧ s.prompt = some p ∧
      p.messages.map (·.role) = [.assistant, .tool] ∧
      List.Forall₂ unblanked.SameMessage
        (rehydrate {} (s.row.log.events.map unblanked.event)).1 p.messages := by
  have hroles : (((calls {} 7 1).runBy (fun s a => decide (FreshRun s a)) {}
      (oneCall { output := "[1, 2]" } ++ [.reply (.recorded none), .reply .unmetered,
        .reply (.appended 4), .reply (.more true)])).bind Driven.prompt).map
        (fun p => p.messages.map (·.role)) = some [.assistant, .tool] := by decide +kernel
  obtain ⟨p, hprompt, hp⟩ := Option.map_eq_some_iff.1 hroles
  obtain ⟨s, hrun, hs⟩ := Option.bind_eq_some_iff.1 hprompt
  have hreach := Machine.ReachesBy.of_runBy _ hrun
  have hk : Windowless {} := ⟨⟨le_rfl, le_rfl, le_rfl⟩, le_rfl⟩
  exact ⟨s, p, hreach, hs, hp, prompt_replayed unblanked {} hk 7 1 s hreach p hs⟩

end NexusAgent.Kernel
