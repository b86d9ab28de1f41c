import NexusAgent.Kernel.Hygiene
import NexusAgent.Lib.Exchange

/-!
# Tool uses and results, in the log and on the wire

A tool use and its result are known by two names: in the log the result refers to the event of
its tool use, on the wire both carry the identifier that the provider gave the call. The
`journal` of a log is what it says about calls and answers, in the terms of `Exchange`; the
transcript shows its wire.
-/

namespace NexusAgent.Kernel

open EventLog Provider Exchange

/-! ### Two readings -/

/-- What a block is on the wire. -/
def signal : ContentBlock → Option (Signal String)
  | .toolUse toolUseID _ _ => some (.call toolUseID)
  | .toolResult toolUseID _ _ => some (.reply toolUseID)
  | .text _ | .thinking .. => none

/-- The tool uses and results among some blocks. -/
def signals (blocks : List ContentBlock) : List (Signal String) := blocks.filterMap signal

/-- The blocks of all messages, in order. -/
def blocksOf (transcript : List Message) : List ContentBlock := transcript.flatMap Message.blocks

/-- The tool uses and results that a transcript shows. -/
def signalsOf (transcript : List Message) : List (Signal String) := signals (blocksOf transcript)

/-- What an event says about calls and answers. -/
def exchange (e : Event Payload) : Option (Exchange UUID String) :=
  match e.type with
  | .toolUse => some (.asked e.eventID e.payload.toolUseRequest.toolUseID)
  | .toolResult => e.pairRef.map .answered
  | _ => none

/-- What a history says about calls and answers. -/
def journal (history : List (Event Payload)) : List (Exchange UUID String) :=
  history.filterMap exchange

/-- Every tool result of a log refers to something. -/
def Referenced (history : List (Event Payload)) : Prop :=
  ∀ e ∈ history, e.type = .toolResult → e.pairRef.isSome

@[simp]
lemma signals_append (b b' : List ContentBlock) : signals (b ++ b') = signals b ++ signals b' :=
  List.filterMap_append

@[simp]
lemma blocksOf_append (ms ms' : List Message) :
    blocksOf (ms ++ ms') = blocksOf ms ++ blocksOf ms' :=
  List.flatMap_append

lemma blocksOf_singleton (m : Message) : blocksOf [m] = m.blocks := List.flatMap_singleton ..

lemma signalsOf_snoc (ms : List Message) (m : Message) :
    signalsOf (ms ++ [m]) = signalsOf ms ++ signals m.blocks := by
  unfold signalsOf
  rw [blocksOf_append, signals_append, blocksOf_singleton]

lemma journal_snoc (history : List (Event Payload)) (e : Event Payload) :
    journal (history ++ [e]) = journal history ++ (exchange e).toList := by
  unfold journal
  cases he : exchange e <;> simp [he]

variable {e : Event Payload} {history : List (Event Payload)}

lemma exchange_of_toolUse (he : e.type = .toolUse) :
    exchange e = some (.asked e.eventID e.payload.toolUseRequest.toolUseID) := by
  unfold exchange
  rw [he]

lemma exchange_of_toolResult (he : e.type = .toolResult) :
    exchange e = e.pairRef.map .answered := by
  unfold exchange
  rw [he]

lemma exchange_of_other (huse : e.type ≠ .toolUse) (hresult : e.type ≠ .toolResult) :
    exchange e = none := by
  unfold exchange
  split
  · exact absurd ‹_› huse
  · exact absurd ‹_› hresult
  · rfl

/-! ### Reading a transcript back -/

namespace Replay

/-- All blocks of a replay, collected in messages or not yet. -/
def blocks (r : Replay) : List ContentBlock :=
  blocksOf r.transcript ++ r.pendingAssistant ++ r.pendingResults

/-- A replay of a history with the journal `l`: it shows the wire of `l` and knows its
identifiers. -/
structure Agrees (r : Replay) (l : List (Exchange UUID String)) : Prop where
  signals_eq : signals r.blocks = wire "" l
  ids_eq : r.toolUseIDs = idOf "" l
  pending : r.pendingAssistant = [] ∨ r.pendingResults = []

variable {r : Replay} {l : List (Exchange UUID String)}

lemma blocks_flushAssistant (r : Replay) : r.flushAssistant.blocks = r.blocks := by
  unfold flushAssistant
  split
  · rfl
  · simp [blocks, blocksOf_singleton]

lemma pendingAssistant_flushAssistant (r : Replay) : r.flushAssistant.pendingAssistant = [] := by
  unfold flushAssistant
  split
  next h => exact List.isEmpty_iff.1 h
  next => rfl

lemma Agrees.flushAssistant (h : r.Agrees l) : r.flushAssistant.Agrees l where
  signals_eq := by
    rw [blocks_flushAssistant]
    exact h.signals_eq
  ids_eq := by
    unfold Replay.flushAssistant
    split <;> exact h.ids_eq
  pending := .inl (pendingAssistant_flushAssistant r)

lemma pendingResults_flushResults (r : Replay) : r.flushResults.pendingResults = [] := by
  unfold flushResults
  split
  next h => exact List.isEmpty_iff.1 h
  next => rfl

lemma Agrees.flushResults (h : r.Agrees l) : r.flushResults.Agrees l where
  signals_eq := by
    have hblocks : r.flushResults.blocks = r.blocks := by
      unfold Replay.flushResults
      split
      · rfl
      · -- the results move in front of the assistant's blocks, of which there are none
        rcases h.pending with hnone | hnone <;> simp [blocks, blocksOf_singleton, hnone]
    rw [hblocks]
    exact h.signals_eq
  ids_eq := by
    unfold Replay.flushResults
    split <;> exact h.ids_eq
  pending := .inr (pendingResults_flushResults r)

lemma signals_assistant (h : r.Agrees l) (bs : List ContentBlock) :
    signals (r.assistant bs).blocks = wire "" l ++ signals bs := by
  have hflush := h.flushResults
  have hnone := pendingResults_flushResults r
  rw [← hflush.signals_eq, ← signals_append]
  unfold assistant blocks
  rw [hnone]
  simp

lemma Agrees.assistant (h : r.Agrees l) {bs : List ContentBlock} (hbs : signals bs = []) :
    (r.assistant bs).Agrees l where
  signals_eq := by rw [signals_assistant h, hbs, List.append_nil]
  ids_eq := h.flushResults.ids_eq
  pending := .inr (pendingResults_flushResults r)

lemma signals_thinkingBlock (k : Kernel) (raw : List UInt8) :
    signals (thinkingBlock k raw).toList = [] := by
  unfold thinkingBlock
  split
  · split <;> rfl
  · rfl

lemma Agrees.event (k : Kernel) (h : r.Agrees l) {e : Event Payload}
    (href : e.type = .toolResult → e.pairRef.isSome) :
    (r.event k e).Agrees (l ++ (exchange e).toList) := by
  by_cases huse : e.type = .toolUse
  · rw [exchange_of_toolUse huse, Option.toList_some]
    unfold Replay.event
    rw [huse]
    refine ⟨?_, ?_, .inr (pendingResults_flushResults r)⟩
    · rw [wire_asked]
      exact signals_assistant h _
    · rw [idOf_asked, ← h.ids_eq]
  by_cases hresult : e.type = .toolResult
  · obtain ⟨ref, hpair⟩ := Option.isSome_iff_exists.1 (href hresult)
    rw [exchange_of_toolResult hresult, hpair, Option.map_some, Option.toList_some]
    have hflush := h.flushAssistant
    unfold Replay.event
    rw [hresult]
    refine ⟨?_, ?_, .inl (pendingAssistant_flushAssistant r)⟩
    · rw [wire_answered, ← hflush.signals_eq, ← hflush.ids_eq, hpair]
      simp [blocks, signals, signal]
    · rw [idOf_answered]
      exact hflush.ids_eq
  -- nothing else is a call or an answer
  rw [exchange_of_other huse hresult, Option.toList_none, List.append_nil]
  unfold Replay.event
  split
  · exact h.assistant (signals_thinkingBlock k _)
  · exact h.assistant rfl
  · exact absurd ‹_› huse
  · have hflush := h.flushAssistant.flushResults
    refine ⟨?_, hflush.ids_eq, hflush.pending⟩
    have hassistant : r.flushAssistant.flushResults.pendingAssistant = [] := by
      have hnone := pendingAssistant_flushAssistant r
      unfold Replay.flushResults
      split <;> exact hnone
    rw [← hflush.signals_eq]
    simp [blocks, blocksOf_singleton, hassistant, pendingResults_flushResults, textMessage, signals,
      signal]
  · exact absurd ‹_› hresult
  · exact h

end Replay

lemma Referenced.of_append {h h' : List (Event Payload)} (href : Referenced (h ++ h')) :
    Referenced h := fun e he => href e (List.mem_append_left _ he)

lemma Referenced.snoc (h : Referenced history) (he : e.type = .toolResult → e.pairRef.isSome) :
    Referenced (history ++ [e]) :=
  List.forall_mem_append.2 ⟨h, List.forall_mem_singleton.2 he⟩

lemma agrees_foldl (k : Kernel) (href : Referenced history) :
    (history.foldl (Replay.event k) {}).Agrees (journal history) := by
  induction history using List.reverseRecOn with
  | nil => exact ⟨rfl, rfl, .inl rfl⟩
  | append_singleton history e ih =>
    rw [List.foldl_append, journal_snoc]
    exact (ih href.of_append).event k (href e (by simp))

/-- The transcript that is read back shows the wire of the log's journal. -/
theorem rehydrate_signals (k : Kernel) (href : Referenced history) :
    signalsOf (rehydrate k history).1 = wire "" (journal history) := by
  have hagrees := (agrees_foldl k href).flushAssistant
  have hflush := hagrees.flushResults
  rw [← hflush.signals_eq]
  have hassistant : (history.foldl (Replay.event k) {}).flushAssistant.flushResults.pendingAssistant
      = [] := by
    have hnone := Replay.pendingAssistant_flushAssistant (history.foldl (Replay.event k) {})
    unfold Replay.flushResults
    split <;> exact hnone
  show signals _ = signals (Replay.blocks _)
  unfold Replay.blocks
  rw [hassistant, Replay.pendingResults_flushResults, List.append_nil, List.append_nil]
  rfl

/-! ### Tool uses and results -/

theorem mem_answers_iff {ref : UUID} : ref ∈ answers history ↔ .answered ref ∈ journal history := by
  unfold answers journal
  rw [List.mem_filterMap, List.mem_filterMap]
  refine exists_congr fun e => and_congr_right fun _ => ?_
  by_cases hresult : e.type = .toolResult
  · rw [exchange_of_toolResult hresult, answer, if_pos hresult]
    simp
  · rw [answer_of_ne hresult]
    by_cases huse : e.type = .toolUse
    · rw [exchange_of_toolUse huse]
      simp
    · rw [exchange_of_other huse hresult]
      simp

theorem mem_toolUses_iff {ref : UUID} :
    ref ∈ (toolUses history).map Event.eventID ↔ ∃ id, .asked ref id ∈ journal history := by
  rw [List.mem_map]
  constructor
  · rintro ⟨e, he, rfl⟩
    obtain ⟨hmem, htype⟩ := mem_toolUses.1 he
    exact ⟨_, List.mem_filterMap.2 ⟨e, hmem, exchange_of_toolUse htype⟩⟩
  · rintro ⟨id, hid⟩
    obtain ⟨e, hmem, he⟩ := List.mem_filterMap.1 hid
    by_cases huse : e.type = .toolUse
    · rw [exchange_of_toolUse huse] at he
      exact ⟨e, mem_toolUses.2 ⟨hmem, huse⟩, (Exchange.asked.inj (Option.some.inj he)).1⟩
    by_cases hresult : e.type = .toolResult
    · rw [exchange_of_toolResult hresult] at he
      obtain ⟨ref', -, heq⟩ := Option.map_eq_some_iff.1 he
      nomatch heq
    · rw [exchange_of_other huse hresult] at he
      nomatch he

end NexusAgent.Kernel
