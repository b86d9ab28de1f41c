import NexusAgent.Runctl.Control

/-!
# Resolving delegations

A delegation is a row that a parent session waits for and a child session answers. Whoever may
have driven a session to its end calls `OnChildTerminal` for it (`internal/delegate/resolve.go`):
the goroutine of `Spawn`, the worker of a queued job, the handlers of an approval. A call looks for
a pending delegation of the child in a transaction, reads what the child returned, writes the
outcome and the parent's events in a second transaction (`finalize`), and then resumes the parent,
under the session lock where one is configured (`resumeParent`). The second transaction updates the
row whatever its status is (`internal/delegate/postgres/store.go`, `SetDelegationResult`).

`resolver` is the machine of any number of calls on any number of delegations. Each transaction is
a step, and so are the requests of the resumed kernel call up to the result of the tool use. Other
components write the rows of sessions and hold their locks; a call may be gone at any point.
-/

namespace NexusAgent.Delegate

open EventLog Kernel

inductive Status
  | pending | returned | reaped | boundExceeded
  deriving DecidableEq

structure Delegation where
  delegationID : UUID
  parentSessionID : UUID
  childSessionID : UUID
  parentToolUseEventID : Option UUID := none
  fanoutID : Option UUID := none
  agentID : String := ""
  /-- Empty where there is none. -/
  returnSchema : String := ""
  status : Status := .pending
  result : String := ""
  reason : String := ""
  deriving DecidableEq

/-- What is read of a session's row. -/
structure Session where
  status : SessionStatus := .queued
  terminalReason : Option String := none

/-- The operations of the JSON library that are used. -/
structure Json where
  required : String → Except String (List String)
  fields : String → Except String (List String)
  /-- The object whose field `output` is a text. -/
  output : String → String

/-- What the resolver is set up with. -/
structure Setup where
  json : Json
  /-- Whether parents are resumed under their session's lock. -/
  lock : Bool
  /-- Whether the plans' resolver of fan-outs is wired. -/
  fanout : Bool

/-! ### The outcome of a child -/

/-- What a child returned, or why that is out of bounds. -/
structure Extracted where
  result : String
  reason : String
  boundExceeded : Bool

/-- `extractResult`, for the last content of the child. -/
def extractResult (json : Json) (schema text : String) : Except String Extracted :=
  if schema = "" then .ok { result := json.output text, reason := "", boundExceeded := false }
  else
    match json.required schema with
    | .error err => .error ("invalid return_schema: " ++ err)
    | .ok required =>
      match json.fields text with
      | .error err =>
        .ok { result := "", boundExceeded := true
              reason := "child's return was not a JSON object matching return_schema: " ++ err }
      | .ok fields =>
        match required.find? fun k => k ∉ fields with
        | some k =>
          .ok { result := "", boundExceeded := true
                reason := "child's return is missing required field " ++ Go.quote k }
        | none => .ok { result := text, reason := "", boundExceeded := false }

/-- The outcome that `finalize` records, with its result and its reason: a failed child returns
nothing. -/
def outcomeOf (child : Session) (x : Extracted) :
    DelegationOutcomeKind × Status × String × String :=
  let (result, reason) :=
    if child.status = .failed then
      ("", match child.terminalReason with
        | some r => "child session failed: " ++ r
        | none => "child session failed")
    else (x.result, x.reason)
  if x.boundExceeded then (.boundExceeded, .boundExceeded, result, reason)
  else (.returned, .returned, result, reason)

/-- The two events that `finalize` appends to the parent's log, in one transaction. -/
structure ResultEvents where
  parentSessionID : UUID
  delegationID : UUID
  childSessionID : UUID
  /-- The legs of the child, for the taint transition. -/
  engaged : Permissions.TaintState
  outcome : DelegationOutcomeKind
  reason : String

/-! ### Calls -/

/-- A call that resumes a parent: the delegation as it was found, what the parent is told, and the
token of the lock if there is one. -/
structure Resumption where
  delegation : Delegation
  res : DelegationResolution
  token : Option ℕ

/-- How far a call of `OnChildTerminal` is. -/
inductive Stage
  | called (childSessionID : UUID)
  | found (d : Delegation) (child : Session)
  /-- The outcome is written; the parent is to be resumed. -/
  | finalized (d : Delegation) (res : DelegationResolution)
  /-- The outcome is written; the plan is asked whether its cohort is done. -/
  | resolvingFanout (d : Delegation)
  | locked (r : Resumption)
  /-- `ResumeDelegation` is called, with the parent's history. -/
  | resuming (r : Resumption)
  /-- The parent's status is `running` again. -/
  | running (r : Resumption)
  /-- The result of the tool use is in the parent's log, and its turns go on. -/
  | delivered (r : Resumption)
  | returned (result : Except String Unit)
  | gone

/-- The rows, the locks, and the calls. -/
structure World where
  rows : List Delegation := []
  sessions : UUID → Session := fun _ => {}
  /-- The events that were appended to parents' logs. -/
  results : List ResultEvents := []
  locks : UUID → Option ℕ := fun _ => none
  calls : List Stage := []
  /-- The delegations that left `pending`. -/
  left : List UUID := []
  /-- The delegations that `ResumeDelegation` was called with. -/
  resumed : List UUID := []
  /-- The delegations whose result was appended for the parent's tool use. -/
  delivered : List UUID := []

/-- What can happen. Where a step can fail, its action says with what error it does. -/
inductive Action
  | insert (d : Delegation)
  | bind (childSessionID toolUseEventID : UUID)
  | write (sessionID : UUID) (session : Session)
  /-- Another worker takes a session's lock or gives it back, or the lock expires. -/
  | lock (sessionID : UUID) (holder : Option ℕ)
  | call (childSessionID : UUID)
  /-- The first transaction. -/
  | find (i : ℕ) (err : Option String)
  /-- The child's last content is read, its legs are folded, and `finalize` commits. -/
  | finalize (i : ℕ) (text : Except String String) (engaged : Permissions.TaintState)
      (err : Option String)
  | acquire (i : ℕ) (token : Except String ℕ)
  /-- `loadRunState`, and the check of the parent's status. -/
  | load (i : ℕ) (err : Option String)
  /-- The first request of `ResumeDelegation`. -/
  | setRunning (i : ℕ) (err : Option String)
  /-- The second request of `ResumeDelegation`. -/
  | appendResult (i : ℕ) (err : Option String)
  /-- The rest of the kernel call, or `ResolveFanout`, comes to an end. -/
  | finish (i : ℕ) (err : Option String)
  | crash (i : ℕ)

def World.findPendingByChild (w : World) (childSessionID : UUID) : Option Delegation :=
  w.rows.find? fun d => d.childSessionID = childSessionID ∧ d.status = .pending

/-- `SetDelegationResult`: whatever the status was. -/
def setDelegationResult (rows : List Delegation) (delegationID : UUID) (status : Status)
    (result reason : String) : List Delegation :=
  rows.map fun d =>
    if d.delegationID = delegationID then { d with status, result, reason } else d

def bindRows (rows : List Delegation) (childSessionID toolUseEventID : UUID) : List Delegation :=
  rows.map fun d =>
    if d.childSessionID = childSessionID ∧ d.status = .pending then
      { d with parentToolUseEventID := some toolUseEventID }
    else d

/-- What the parent is told. -/
def resolution (d : Delegation) (outcome : DelegationOutcomeKind) (result reason : String) :
    DelegationResolution :=
  { toolUseEventID := d.parentToolUseEventID.getD 0, toolID := d.agentID, outcome, result, reason }

namespace World

/-- A call comes to another stage. -/
def put (w : World) (i : ℕ) (s : Stage) : World := { w with calls := w.calls.set i s }

/-- A call of `resumeParent` returns: its lock is released, if it still holds it. -/
def leave (w : World) (i : ℕ) (r : Resumption) (result : Except String Unit) : World :=
  let parent := r.delegation.parentSessionID
  let w := w.put i (.returned result)
  if r.token.isSome ∧ w.locks parent = r.token then
    { w with locks := Function.update w.locks parent none }
  else w

/-- The first transaction. -/
def find (w : World) (i : ℕ) (childSessionID : UUID) : World :=
  match w.findPendingByChild childSessionID with
  | none => w.put i (.returned (.ok ()))
  | some d =>
    let child := w.sessions childSessionID
    -- not terminal yet: a later call site will find it
    if child.status.terminal then w.put i (.found d child) else w.put i (.returned (.ok ()))

/-- `finalize` commits, for what was extracted. -/
def finalize (setup : Setup) (w : World) (i : ℕ) (d : Delegation) (child : Session)
    (x : Extracted) (engaged : Permissions.TaintState) : World :=
  let (outcome, status, result, reason) := outcomeOf child x
  let w : World :=
    { w with
      rows := setDelegationResult w.rows d.delegationID status result reason
      left := w.left ++ (w.rows.filter fun d' =>
        d'.delegationID = d.delegationID ∧ d'.status = .pending).map Delegation.delegationID
      results := w.results ++
        [{ parentSessionID := d.parentSessionID, delegationID := d.delegationID
           childSessionID := d.childSessionID, engaged, outcome, reason }] }
  match d.fanoutID with
  | none => w.put i (.finalized d (resolution d outcome result reason))
  | some fanoutID =>
    if setup.fanout then w.put i (.resolvingFanout d)
    else w.put i (.returned (.error ("delegate: child " ++ d.childSessionID.string ++
      " belongs to fanout " ++ fanoutID.string ++ " but no FanoutResolver is wired")))

def acquire (setup : Setup) (w : World) (i : ℕ) (d : Delegation) (res : DelegationResolution)
    (token : Except String ℕ) : World :=
  let parent := d.parentSessionID
  if setup.lock then
    match token with
    | .error err => w.put i (.returned (.error ("delegate: acquire parent lock: " ++ err)))
    | .ok token =>
      if w.locks parent = none then
        { w.put i (.locked { delegation := d, res, token := some token }) with
          locks := Function.update w.locks parent (some token) }
      else
        w.put i (.returned (.error ("delegate: parent session " ++ parent.string ++
          " is locked by another worker; will retry on the next terminal check")))
  else w.put i (.locked { delegation := d, res, token := none })

def load (w : World) (i : ℕ) (r : Resumption) : World :=
  let parent := r.delegation.parentSessionID
  let status := (w.sessions parent).status
  if status = .suspended then
    { w.put i (.resuming r) with resumed := w.resumed ++ [r.delegation.delegationID] }
  else
    w.leave i r (.error ("delegate: parent session " ++ parent.string ++ " is " ++
      Control.statusText status ++
      ", not suspended; refusing to resume a delegation it isn't waiting on"))

/-- The error of a kernel call, as it is returned. -/
def resumeError (r : Resumption) (err : String) : Except String Unit :=
  .error ("delegate: resume parent " ++ r.delegation.parentSessionID.string ++ ": " ++ err)

end World

/-- The machine of the calls of `OnChildTerminal`. -/
def resolver (setup : Setup) : Machine World Action where
  step w
    | .insert d =>
      if d.status = .pending ∧ d.delegationID ∉ w.rows.map Delegation.delegationID then
        some { w with rows := w.rows ++ [d] }
      else none
    | .bind childSessionID toolUseEventID =>
      some { w with rows := bindRows w.rows childSessionID toolUseEventID }
    | .write sessionID session =>
      some { w with sessions := Function.update w.sessions sessionID session }
    | .lock sessionID holder =>
      some { w with locks := Function.update w.locks sessionID holder }
    | .call childSessionID => some { w with calls := w.calls ++ [.called childSessionID] }
    | .find i err =>
      match w.calls[i]?, err with
      | some (.called _), some err => some (w.put i (.returned (.error err)))
      | some (.called childSessionID), none => some (w.find i childSessionID)
      | _, _ => none
    | .finalize i text engaged err =>
      match w.calls[i]? with
      | some (.found d child) =>
        match text.bind fun text => extractResult setup.json d.returnSchema text, err with
        | .error e, _ =>
          some (w.put i (.returned (.error ("delegate: extract result for delegation " ++
            d.delegationID.string ++ ": " ++ e))))
        | .ok _, some err => some (w.put i (.returned (.error err)))
        | .ok x, none => some (w.finalize setup i d child x engaged)
      | _ => none
    | .acquire i token =>
      match w.calls[i]? with
      | some (.finalized d res) => some (w.acquire setup i d res token)
      | _ => none
    | .load i err =>
      match w.calls[i]?, err with
      | some (.locked r), some err => some (w.leave i r (.error err))
      | some (.locked r), none => some (w.load i r)
      | _, _ => none
    | .setRunning i err =>
      match w.calls[i]?, err with
      | some (.resuming r), some err => some (w.leave i r (World.resumeError r err))
      | some (.resuming r), none =>
        let parent := r.delegation.parentSessionID
        some { w.put i (.running r) with
          sessions := Function.update w.sessions parent { status := .running } }
      | _, _ => none
    | .appendResult i err =>
      match w.calls[i]?, err with
      | some (.running r), some err => some (w.leave i r (World.resumeError r err))
      | some (.running r), none =>
        some { w.put i (.delivered r) with delivered := w.delivered ++ [r.delegation.delegationID] }
      | _, _ => none
    | .finish i err =>
      match w.calls[i]?, err with
      | some (.delivered r), some err => some (w.leave i r (World.resumeError r err))
      | some (.delivered r), none => some (w.leave i r (.ok ()))
      | some (.resolvingFanout _), some err => some (w.put i (.returned (.error err)))
      | some (.resolvingFanout _), none => some (w.put i (.returned (.ok ())))
      | _, _ => none
    | .crash i => if i < w.calls.length then some (w.put i .gone) else none

/-- No delegations and no calls yet. -/
def initial (sessions : UUID → Session) : World := { sessions }

end NexusAgent.Delegate
