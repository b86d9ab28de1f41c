import NexusAgent.Runctl.Control

/-!
# Continuing a conversation

`ResumeConversation` (`internal/runctl/converse.go`) by any number of callers at once, beside the
kernel loop of the session. A call is a unit of work, which claims the session and records the
message, and then a job for the workers. The kernel pauses the session by writing
`awaiting_input` to its row (`suspendForUserInput`); every pause is continued at most once.
-/

namespace NexusAgent.Control

open EventLog Kernel
open UnitOfWork (commit_cases)

/-- A session, with a tally of its pauses and of what the `ResumeConversation` calls on it have
done. -/
structure Conversation extends System where
  /-- How often the kernel has set the session to `awaiting_input`. -/
  pauses : ℕ := 0
  /-- The messages that the calls have appended. -/
  messages : ℕ := 0
  /-- Calls that have committed their message and not asked the queue yet. -/
  enqueuing : ℕ := 0
  /-- The jobs that the calls have enqueued. -/
  jobs : ℕ := 0
  returned : List (Except String Unit) := []

inductive ConversationAction
  | session (a : Action)
  /-- The queue answers a call that has committed its message. -/
  | enqueue (answer : Except String Unit)

/-- Whether an action is the kernel's write of `awaiting_input`, and goes through. -/
def System.pausesBy (s : System) : Action → Bool
  | .reply i (.wrote none) =>
    match s.live[i]? with
    | some (.ask (.setStatus _ .awaitingInput _) _) => true
    | _ => false
  | _ => false

/-- `ResumeConversation`, up to the commit of its unit of work: an error is returned, and after a
commit the job is to be enqueued. -/
def Conversation.resume (sid : UUID) (input : String) (script : List (Option UUID))
    (c : Conversation) : Conversation :=
  let (result, row) := UnitOfWork.commit storeError (converse sid input) script c.row
  let appended := row.log.events.length - c.row.log.events.length
  let c := { c with row, messages := c.messages + appended }
  match result with
  | .ok _ => { c with enqueuing := c.enqueuing + 1 }
  | .error e => { c with returned := c.returned ++ [.error e] }

def conversations (k : Kernel) (tenantID sid : UUID) :
    Machine Conversation ConversationAction where
  step c
    | .session (.resumeConversation input script) => some (c.resume sid input script)
    | .session a =>
      ((session k tenantID sid).step c.toSystem a).map fun s =>
        { c with toSystem := s, pauses := c.pauses + if c.pausesBy a then 1 else 0 }
    | .enqueue answer =>
      if c.enqueuing = 0 then none
      else
        let c := { c with enqueuing := c.enqueuing - 1 }
        match answer with
        | .ok () => some { c with jobs := c.jobs + 1, returned := c.returned ++ [.ok ()] }
        | .error e => some { c with returned := c.returned ++
            [.error ("runctl: resume conversation: enqueue continue job: " ++ e)] }

variable {k : Kernel} {tenantID sid : UUID} {s s' : System} {c c' : Conversation}

/-- The pause that a session is in. -/
def awaiting (r : Row) : ℕ := if r.status = .awaitingInput then 1 else 0

/-- A call wins the pause that the session is in, or leaves the session alone. -/
lemma resume_cases (sid : UUID) (input : String) (script : List (Option UUID)) (c : Conversation) :
    (∃ e, c.resume sid input script = { c with returned := c.returned ++ [.error e] }) ∨
      ∃ row, c.row.status = .awaitingInput ∧ row.status = .running ∧
        c.resume sid input script =
          { c with row, messages := c.messages + 1, enqueuing := c.enqueuing + 1 } := by
  unfold Conversation.resume
  rcases commit_cases storeError (converse sid input) script c.row with
    ⟨e, hc⟩ | ⟨u, row, script', hc, hrun⟩
  · refine .inl ⟨e, ?_⟩
    simp [hc]
  · obtain ⟨hawaiting, hrunning, e, hevents, -⟩ := converse_ok hrun
    refine .inr ⟨row, hawaiting, hrunning, ?_⟩
    simp [hc, hevents]

/-- A session comes to a pause by the kernel's write only. -/
lemma awaiting_step {a : Action} (ha : ∀ input script, a ≠ .resumeConversation input script)
    (h : (session k tenantID sid).step s a = some s') :
    awaiting s'.row ≤ awaiting s.row + if s.pausesBy a then 1 else 0 := by
  have hends {p : SessionStatus → Prop} {row : Row} (h : Ends p s.row row) :
      awaiting row ≤ awaiting s.row := by
    obtain rfl | ⟨-, hfailed, -⟩ := h
    · exact le_rfl
    · simp [awaiting, hfailed]
  dsimp only [session] at h
  cases a with
  | reply i t =>
    obtain ⟨p, hp, hrest⟩ := Option.bind_eq_some_iff.1 h
    obtain ⟨⟨row, p'⟩, hadvance, heq⟩ := Option.bind_eq_some_iff.1 hrest
    cases heq
    obtain ⟨o, f, answer, rfl, hh, rfl⟩ := Process.advance_eq_some.1 hadvance
    by_cases hw : o.Writes
    · cases o with
      | append d =>
        rcases Row.handle_append hh with ⟨e, rfl, rfl⟩ | ⟨eventID, log, rfl, -, rfl⟩
        all_goals exact Nat.le_add_right ..
      | setStatus id status reason =>
        obtain ⟨rfl, rfl⟩ := Row.handle_setStatus hh
        cases answer with
        | some e => exact Nat.le_add_right ..
        | none => cases status <;> simp [awaiting, Row.setStatus, System.pausesBy, hp]
      | _ => exact hw.elim
    · rw [Row.handle_eq hw hh]
      exact Nat.le_add_right ..
  | resumeConversation input script => exact absurd rfl (ha input script)
  | cancel reason script =>
    cases h
    exact hends (cancel_ends sid reason script s.row)
  | endIdleConversation script =>
    cases h
    exact hends (endIdleConversation_ends sid script s.row)
  | start | leave =>
    obtain ⟨-, ⟨⟩⟩ := Option.ite_none_right_eq_some.1 h
    exact le_rfl
  | note d eventID =>
    obtain ⟨-, hnote⟩ := Option.ite_none_left_eq_some.1 h
    obtain ⟨log, -, ⟨⟩⟩ := Option.map_eq_some_iff.1 hnote
    exact le_rfl

/-- A message for each pause that has been left, and a job for each message at most. -/
structure Tallied (c : Conversation) : Prop where
  messages : c.messages + awaiting c.row ≤ c.pauses
  jobs : c.jobs + c.enqueuing ≤ c.messages

lemma Tallied.step {a : ConversationAction} (hc : Tallied c)
    (h : (conversations k tenantID sid).step c a = some c') : Tallied c' := by
  obtain ⟨hmessages, hjobs⟩ := hc
  dsimp only [conversations] at h
  split at h
  next input script =>
    obtain rfl := Option.some.inj h
    obtain ⟨e, heq⟩ | ⟨row, hawaiting, hrunning, heq⟩ := resume_cases sid input script c
    · rw [heq]
      exact ⟨hmessages, hjobs⟩
    · -- the pause that the message is counted for is over
      rw [heq]
      simp only [awaiting, hawaiting, if_true] at hmessages
      constructor
      · simpa [awaiting, hrunning] using hmessages
      · dsimp only
        omega
  next a ha =>
    obtain ⟨s, hst, rfl⟩ := Option.map_eq_some_iff.1 h
    have hstep := awaiting_step (fun input script heq => ha input script heq) hst
    exact ⟨by dsimp only; omega, hjobs⟩
  next answer =>
    split_ifs at h with hnone
    cases answer with
    | ok | error =>
      cases h
      exact ⟨hmessages, by dsimp only; omega⟩

/-- The calls append no more messages and enqueue no more jobs than the kernel has paused the
session, and a call that does not win a pause leaves the session's row and log as they were. -/
theorem continued_oncePerPause {row : Row} (hrow : row.status ≠ .awaitingInput)
    (h : (conversations k tenantID sid).Reaches { row } c) :
    c.messages ≤ c.pauses ∧ c.jobs ≤ c.pauses ∧
      ∀ input script c',
        (conversations k tenantID sid).step c (.session (.resumeConversation input script)) =
          some c' →
        c'.row = c.row ∨ c.row.status = .awaitingInput ∧ c'.row.status = .running ∧
          c'.messages = c.messages + 1 := by
  have hinit : Tallied { row } := ⟨by simp [awaiting, hrow], le_rfl⟩
  obtain ⟨hmessages, hjobs⟩ := h.invariant hinit fun _ _ _ hc hst => hc.step hst
  refine ⟨by omega, by omega, fun input script c' hst => ?_⟩
  obtain rfl := Option.some.inj hst
  obtain ⟨e, heq⟩ | ⟨row, hawaiting, hrunning, heq⟩ := resume_cases sid input script c
  · rw [heq]
    exact .inl rfl
  · rw [heq]
    exact .inr ⟨hawaiting, hrunning, rfl⟩

/-- Two callers answer one pause of a conversation: one of them continues it. -/
theorem secondCaller_refused :
    ∃ c, (conversations {} 7 1).Reaches {} c ∧ c.pauses = 1 ∧ c.returned.length = 2 ∧
      c.messages ≤ c.pauses ∧ c.jobs ≤ c.pauses := by
  refine Machine.Reaches.exists_of_run_imp
    ([.start (.run { conversational := true }), .reply 0 (.wrote none), .reply 0 .unmetered,
      .reply 0 (.appended 1), .reply 0 (.more true),
      .reply 0 (.streamed (.ok ([.content "Hello."], none))), .reply 0 (.wrote none),
      .reply 0 (.appended 2), .reply 0 (.more true), .reply 0 (.appended 3),
      .reply 0 (.wrote none), .resumeConversation "a" [some 0, some 4, some 0],
      .resumeConversation "b" [some 0, some 0, some 0]].map .session ++ [.enqueue (.ok ())])
    (fun c => c.pauses = 1 ∧ c.returned.length = 2) ?_ fun c hreach ⟨hpauses, hreturned⟩ => ?_
  · decide +kernel
  obtain ⟨hmessages, hjobs, -⟩ := continued_oncePerPause (by decide) hreach
  exact ⟨hpauses, hreturned, hmessages, hjobs⟩

end NexusAgent.Control
