import Mathlib.Data.List.Nodup
import NexusAgent.Go.Strings

/-!
# The event log

Events, their taxonomy, the status of a session and the append-only log
(`internal/eventlog/event.go`, `internal/eventlog/status.go`, `internal/store/append.go`,
`migrations/0003_events.sql`). An event carries a payload of a
type `P` that each component chooses; sealing and opening a payload are inverse to each
other, so that the model keeps the plaintext.

Identifiers are numbers: nothing depends on their size, and the text form of an identifier
is ordered as the number is. The primary key of the events table is carried by `Log`: two
events of a log never share an identifier.
-/

namespace NexusAgent

abbrev UUID := ℕ

/-- The text form of an identifier: 32 hexadecimal digits in groups of 8, 4, 4, 4 and 12. -/
def UUID.string (u : UUID) : String :=
  let digits := (List.range 32).map fun i => Go.hexDigit (u / 16 ^ (31 - i) % 16)
  let groups := [digits.take 8, (digits.drop 8).take 4, (digits.drop 12).take 4,
    (digits.drop 16).take 4, digits.drop 20]
  String.ofList (List.intercalate ['-'] groups)

namespace EventLog

inductive Actor
  | model
  | tool
  | user
  | system
  deriving DecidableEq

inductive EventType
  | thought | content | toolUse
  | toolResult | toolReceiptRef | effectClaimed | effectClaimResolved
  | condensation | contextPruned | checkpoint
  | userMessage | awaitingInput
  | inputRequested | inputAnswered | inputExpired | inputInvalidated
  | approvalRequested | approvalNotified | approvalReminded | approvalEscalated
  | approvalGranted | approvalGrantedModified | approvalDenied | approvalExpired
  | approvalInvalidated | approvalResolutionRefused | approvalMismatch
  | budgetDecision | toolLoaded | memoryLoaded
  | skillActivated | skillCapabilityIgnored
  | deliveryEnqueued | deliveryDelivered | deliveryFailed | deliverySuppressed
  | taintTransition | sanitizationBoundary
  | delegationRequested | delegationTargetSelected | delegationRefused
  | delegationReturned | delegationReaped
  | planStarted | planStepEntered | planTransition | planStepExited | planCompleted
  | contentAccessGranted | contentAccessed | contentAccessRefused
  | error | stuckSuspected | forked | terminal | erasure
  | autonomyTightened
  | teamCreated | teamEnded | boardCardFlagged
  deriving DecidableEq

def EventType.string : EventType → String
  | .thought => "thought"
  | .content => "content"
  | .toolUse => "tool_use"
  | .toolResult => "tool_result"
  | .toolReceiptRef => "tool_receipt_ref"
  | .effectClaimed => "effect_claimed"
  | .effectClaimResolved => "effect_claim_resolved"
  | .condensation => "condensation"
  | .contextPruned => "context_pruned"
  | .checkpoint => "checkpoint"
  | .userMessage => "user_message"
  | .awaitingInput => "awaiting_input"
  | .inputRequested => "input_requested"
  | .inputAnswered => "input_answered"
  | .inputExpired => "input_expired"
  | .inputInvalidated => "input_invalidated"
  | .approvalRequested => "approval_requested"
  | .approvalNotified => "approval_notified"
  | .approvalReminded => "approval_reminded"
  | .approvalEscalated => "approval_escalated"
  | .approvalGranted => "approval_granted"
  | .approvalGrantedModified => "approval_granted_modified"
  | .approvalDenied => "approval_denied"
  | .approvalExpired => "approval_expired"
  | .approvalInvalidated => "approval_invalidated"
  | .approvalResolutionRefused => "approval_resolution_refused"
  | .approvalMismatch => "approval_mismatch"
  | .budgetDecision => "budget_decision"
  | .toolLoaded => "tool_loaded"
  | .memoryLoaded => "memory_loaded"
  | .skillActivated => "skill_activated"
  | .skillCapabilityIgnored => "skill_capability_ignored"
  | .deliveryEnqueued => "delivery_enqueued"
  | .deliveryDelivered => "delivery_delivered"
  | .deliveryFailed => "delivery_failed"
  | .deliverySuppressed => "delivery_suppressed"
  | .taintTransition => "taint_transition"
  | .sanitizationBoundary => "sanitization_boundary"
  | .delegationRequested => "delegation_requested"
  | .delegationTargetSelected => "delegation_target_selected"
  | .delegationRefused => "delegation_refused"
  | .delegationReturned => "delegation_returned"
  | .delegationReaped => "delegation_reaped"
  | .planStarted => "plan_started"
  | .planStepEntered => "plan_step_entered"
  | .planTransition => "plan_transition"
  | .planStepExited => "plan_step_exited"
  | .planCompleted => "plan_completed"
  | .contentAccessGranted => "content_access_granted"
  | .contentAccessed => "content_accessed"
  | .contentAccessRefused => "content_access_refused"
  | .error => "error"
  | .stuckSuspected => "stuck_suspected"
  | .forked => "forked"
  | .terminal => "terminal"
  | .erasure => "erasure"
  | .autonomyTightened => "autonomy_tightened"
  | .teamCreated => "team_created"
  | .teamEnded => "team_ended"
  | .boardCardFlagged => "board_card_flagged"

inductive SessionStatus
  /-- Created, with no run started. -/
  | queued
  | running
  /-- Waiting for an approval, an input or a delegation. -/
  | suspended
  /-- Waiting for the user's next message. -/
  | awaitingInput
  | completed
  | failed
  deriving DecidableEq

def SessionStatus.terminal : SessionStatus → Bool
  | .completed => true
  | .failed => true
  | _ => false

/-- One record of the log. -/
structure Event (P : Type) where
  eventID : UUID
  sessionID : UUID
  seq : ℕ := 0
  type : EventType
  actor : Actor
  toolID : Option String := none
  /-- Links a tool result to its tool use. -/
  pairRef : Option UUID := none
  payload : P
  deriving DecidableEq

/-- The events table: appended to, never changed, with distinct event identifiers. -/
structure Log (P : Type) where
  events : List (Event P)
  nodup_eventID : (events.map Event.eventID).Nodup

namespace Log

variable {P : Type}

def empty : Log P := ⟨[], by simp⟩

def session (l : Log P) (sessionID : UUID) : List (Event P) :=
  l.events.filter fun e => e.sessionID = sessionID

/-- The sequence number after the largest of a session. -/
def nextSeq (l : Log P) (sessionID : UUID) : ℕ :=
  ((l.session sessionID).map Event.seq).foldr max 0 + 1

/-- `Append`: the event is written with the next sequence number of its session, unless its
identifier is taken. -/
def append (l : Log P) (e : Event P) : Option (Log P) :=
  if h : e.eventID ∈ l.events.map Event.eventID then none
  else some {
    events := l.events ++ [{ e with seq := l.nextSeq e.sessionID }]
    nodup_eventID := by
      rw [List.map_append, List.nodup_append]
      refine ⟨l.nodup_eventID, by simp, ?_⟩
      intro i hi j hj
      obtain rfl : j = e.eventID := by simpa using hj
      rintro rfl
      exact h hi }

/-- An append that goes through adds one event with a new identifier at the end. -/
lemma append_eq_some {l l' : Log P} {e : Event P} (h : l.append e = some l') :
    e.eventID ∉ l.events.map Event.eventID ∧
      l'.events = l.events ++ [{ e with seq := l.nextSeq e.sessionID }] := by
  unfold append at h
  split at h
  · nomatch h
  next hnew =>
    cases h
    exact ⟨hnew, rfl⟩

/-- A new sequence number is larger than those of the session so far. -/
lemma seq_lt_nextSeq {l : Log P} {e : Event P} (he : e ∈ l.events) :
    e.seq < l.nextSeq e.sessionID := by
  have hmem : e.seq ∈ (l.session e.sessionID).map Event.seq :=
    List.mem_map_of_mem (List.mem_filter.2 ⟨he, decide_eq_true rfl⟩)
  have hle : ∀ {seqs : List ℕ}, e.seq ∈ seqs → e.seq ≤ seqs.foldr max 0 := by
    intro seqs hseq
    induction seqs with
    | nil => exact absurd hseq List.not_mem_nil
    | cons seq seqs ih =>
      rcases List.mem_cons.1 hseq with rfl | hseq
      · exact Nat.le_max_left _ _
      · exact Nat.le_trans (ih hseq) (Nat.le_max_right _ _)
  exact Nat.lt_succ_of_le (hle hmem)

end Log

end EventLog

end NexusAgent
