import NexusAgent.EventLog.Event
import NexusAgent.Lib.UnitOfWork

/-!
# Appending inside a unit of work

The appender that out-of-band services use (`internal/eventlog/appender.go`,
`internal/eventlog/sealed`): one system-authored event, written to the log in the caller's
unit of work, so that a state change and the event that records it commit together.

The store of a service holds more than the log; `get` and `set` read and replace its log.
-/

namespace NexusAgent.EventLog

variable {D E P : Type} (get : D → Log P) (set : D → Log P → D) (fault : E)

/-- `Append`: one system-authored event under a fresh identifier. -/
def appendSystem (sessionID : UUID) (type : EventType) (toolID : Option String)
    (pairRef : Option UUID) (payload : P) : UnitOfWork D UUID E Unit :=
  UnitOfWork.statement fault fun eventID d =>
    match (get d).append { eventID, sessionID, type, actor := .system, toolID, pairRef,
                           payload } with
    | some log => .ok ((), set d log)
    | none => .error fault

variable {get set fault}

/-- An append that goes through adds exactly the event asked for. -/
lemma appendSystem_ok {sessionID : UUID} {type : EventType} {toolID : Option String}
    {pairRef : Option UUID} {payload : P} {d d' : D} {script script' : List (Option UUID)}
    {u : Unit}
    (h : appendSystem get set fault sessionID type toolID pairRef payload (d, script) =
      .ok (u, (d', script'))) :
    ∃ (log : Log P) (e : Event P), d' = set d log ∧ log.events = (get d).events ++ [e] ∧
      e.sessionID = sessionID ∧ e.type = type ∧ e.toolID = toolID ∧ e.pairRef = pairRef ∧
      e.payload = payload := by
  obtain ⟨eventID, -, hf⟩ := UnitOfWork.statement_ok.1 h
  split at hf
  next log hlog =>
    obtain rfl : set d log = d' := by simpa using hf
    exact ⟨log, _, rfl, (Log.append_eq_some hlog).2, rfl, rfl, rfl, rfl, rfl⟩
  next => nomatch hf

end NexusAgent.EventLog
