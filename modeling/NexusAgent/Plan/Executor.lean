import NexusAgent.Lib.Machine
import NexusAgent.Plan.Schema

/-!
# The plan executor

The platform walks the transition graph of a plan against one driving session
(`internal/plan/exec.go`, `internal/plan/run.go`, `internal/plan/steps.go`,
`internal/plan/replay.go`), and the children of a delegate_fanout step report back through
`internal/delegate/resolve.go`. Each transaction is one atomic step; between two transactions
any other call on the session may take steps of its own, fail or vanish with its process.

A call is at a `Stage`, named after the transaction it is about to make. `Stage.step` is what
the call does with the store's answer, up to its next transaction. What the store, the model
or a child decides is part of the step: whether the transaction goes through, the identifiers
it draws, how a kernel run ends.

Two lists record what happened for the statements about runs, and no step reads them: the
fan-outs that entries of steps created and the exits of entries. For the same reason a replayed
state remembers the event that entered its current step.
-/

namespace NexusAgent.Plans

open EventLog

/-! ### The log of a plan session -/

/-- What the events of a plan session carry. -/
inductive Payload
  | started
  | stepEntered (stepID : String)
  | transition (source target : String) (predicate : Option Predicate)
  | stepExited (stepID : String) (bindings : List (String × Value))
  | completed
  | userMessage (body : String)
  | taintTransition (childSessionID : UUID)
  | delegationReturned (childSessionID : UUID)

def Payload.type : Payload → EventType
  | .started => .planStarted
  | .stepEntered _ => .planStepEntered
  | .transition _ _ _ => .planTransition
  | .stepExited _ _ => .planStepExited
  | .completed => .planCompleted
  | .userMessage _ => .userMessage
  | .taintTransition _ => .taintTransition
  | .delegationReturned _ => .delegationReturned

def bindAll (vars : Context) (bindings : List (String × Value)) : Context :=
  bindings.foldl (fun vars b => Function.update vars b.1 (some b.2)) vars

/-- What replaying the log of a plan session gives. -/
structure RunState where
  vars : Context := fun _ => none
  /-- The step entered last without an exit since, or no text. -/
  currentStep : String := ""
  iterations : String → ℕ := fun _ => 0
  completed : Bool := false
  entry : Option UUID := none

def RunState.enter (st : RunState) (stepID : String) (eventID : UUID) : RunState :=
  { st with
    currentStep := stepID
    iterations := Function.update st.iterations stepID (st.iterations stepID + 1)
    entry := some eventID }

def RunState.replay (st : RunState) (e : Event Payload) : RunState :=
  match e.payload with
  | .stepEntered stepID => st.enter stepID e.eventID
  | .stepExited _ bindings =>
    { st with vars := bindAll st.vars bindings, currentStep := "", entry := none }
  | .completed => { st with completed := true, currentStep := "", entry := none }
  | _ => st

/-- The state that the log of a plan session stands for. -/
def replayState (history : List (Event Payload)) : RunState :=
  history.foldl RunState.replay {}

/-- The transition that fires: the first whose predicate holds, or the first without one. No
text stands for the end of the plan. -/
def evaluateTransitions (vars : Context) :
    List Transition → Except String (String × Option Predicate)
  | [] => .ok ("", none)
  | t :: ts => match t.when? with
    | none => .ok (t.target, none)
    | some p => match p.eval vars with
      | .error e => .error e
      | .ok true => .ok (t.target, some p)
      | .ok false => evaluateTransitions vars ts

/-! ### Delegations -/

inductive DelegationStatus
  | pending
  | returned
  | reaped
  | boundExceeded
  deriving DecidableEq

structure Delegation where
  childSessionID : UUID
  fanoutID : UUID
  status : DelegationStatus := .pending

/-! ### The store -/

/-- A fan-out that an entry of a step created. -/
structure Fanout where
  fanoutID : UUID
  entry : Option UUID
  step : Step
  /-- Whether the suspend that follows the spawns has been committed. -/
  suspended : Bool := false

structure Exit where
  /-- The event of the entry that is exited. -/
  entry : Option UUID
  step : Step
  /-- The fan-out whose resolution exits it. -/
  via : Option UUID

/-- The rows of one plan session, and the record of its fan-outs and exits. -/
structure Store where
  log : Log Payload := Log.empty
  status : SessionStatus := .queued
  delegations : List Delegation := []
  ended : List UUID := []
  fanouts : List Fanout := []
  exits : List Exit := []

/-- The delegations of a fan-out. -/
def Store.members (s : Store) (fanoutID : UUID) : List Delegation :=
  s.delegations.filter (·.fanoutID = fanoutID)

def Store.state (s : Store) : RunState := replayState s.log.events

/-- The executor: the pinned plan, its driving session, and which collaborators are wired. -/
structure Executor where
  plan : Plan
  sessionID : UUID
  approvals : Bool := true
  inputs : Bool := true
  delegations : Bool := true

/-- The store after an event has been appended, unless its identifier is taken. -/
def Store.append (s : Store) (x : Executor) (eventID : UUID) (payload : Payload) :
    Option Store :=
  (s.log.append { eventID, sessionID := x.sessionID, type := payload.type, actor := .system
                  payload }).map fun log => { s with log }

/-! ### Calls -/

/-- Which entry point loads the state of a plan session. -/
inductive Loader
  | resume
  | resumeGate (value : Value)
  | resolveFanout (fanoutID : UUID) (members : List Delegation)

/-- Where a call stands: the transaction it is about to make. -/
inductive Stage
  /-- `Start` appends the start of the plan. -/
  | starting
  /-- `enterStep` appends the entry of a step. -/
  | entering (st : RunState) (step : Step)
  /-- `runAgentStep` appends the user message. -/
  | messaging (st : RunState) (step : Step)
  /-- `continueAgentStep` drives the kernel and reads what became of it. -/
  | driving (st : RunState) (step : Step)
  /-- A gate opens its approval or input request. -/
  | asking (st : RunState) (step : Step)
  /-- `runDelegateFanout` reserves the envelope of the cohort. -/
  | reserving (st : RunState) (step : Step) (config : DelegateFanoutConfig)
  /-- `runDelegateFanout` spawns the next child. -/
  | spawning (st : RunState) (step : Step) (config : DelegateFanoutConfig) (fanoutID : UUID)
      (spawned : ℕ)
  /-- `suspend` marks the session suspended. -/
  | suspending (fanoutID : Option UUID)
  /-- `exitStepAndTransition` appends the exit. -/
  | exiting (st : RunState) (step : Step) (bindings : List (String × Value))
      (via : Option UUID)
  /-- `exitStepAndTransition` appends the transition. -/
  | moving (st : RunState) (step : Step) (next : String) (fired : Option Predicate)
  /-- `exitStepAndTransition` appends the completion of the plan. -/
  | completing
  /-- `OnChildTerminal` looks for the pending delegation of a child. -/
  | checking (childSessionID : UUID)
  /-- `finalize` commits the result of a child. -/
  | finalizing (pending : Delegation)
  /-- `ResolveFanout` lists the members of a fan-out. -/
  | listing (fanoutID : UUID)
  /-- `load` reads the session and its log. -/
  | loading (loader : Loader)
  /-- The session is marked running again. -/
  | resuming (st : RunState) (step : Step) (bindings : List (String × Value))
      (via : Option UUID)
  | returned (result : Except String Unit)

/-- What happens to a call in its next transaction. A transaction that fails makes the call
return. -/
inductive Move
  /-- The transaction goes through and draws these identifiers. -/
  | commit (ids : List UUID)
  | fail
  /-- The kernel run ends with an error, suspended, or with its last content; the session is
  left in a status. -/
  | drive (outcome : Except String (Option String)) (status : SessionStatus)
  /-- The result of the child cannot be read, or is committed, and its return is as declared
  or not. -/
  | finalize (boundExceeded : Except String Bool) (ids : List UUID)

def Stage.failed (text : String) : Stage := .returned (.error text)

/-- The top of the loop of `run`. -/
def enter (x : Executor) (st : RunState) (stepID : String) : Stage :=
  if stepID = "" then .returned (.ok ())
  else match x.plan.stepByID stepID with
    | none => .failed ("plan: step " ++ Go.quote stepID ++ " not found in plan " ++
        UUID.string x.plan.planID ++ " version " ++ toString x.plan.version)
    | some step =>
      let maxIterations := (step.loop.map (·.maxIterations)).getD 0
      if step.kind = .loop ∧ maxIterations ≤ (st.iterations step.id : ℤ) then
        .failed ("plan: step " ++ Go.quote step.id ++ " exceeded its max_iterations bound (" ++
          toString maxIterations ++ ") at runtime")
      else .entering st step

/-- What binding a variable gives, when it has a name. -/
def bindTo (var : String) (v : Value) : List (String × Value) :=
  if var = "" then [] else [(var, v)]

/-- `dispatch` of a step that has been entered, up to its first transaction. -/
def dispatch (x : Executor) (st : RunState) (step : Step) : Stage :=
  match step.kind with
  | .agent => .messaging st step
  | .condition => .exiting st step [] none
  | .loop => .exiting st step (bindTo ((step.loop.map (·.counterVar)).getD "")
      (.numberValue (st.iterations step.id))) none
  | .delegateFanout =>
    if !x.delegations then .failed "plan: delegations not wired"
    else
      let config := step.delegateFanout.getD {}
      match parseCeiling config.perChildCeiling with
      | .error e => .failed e
      | .ok _ => .reserving st step config
  | .approvalGate =>
    if !x.approvals then .failed "plan: approvals not wired" else .asking st step
  | .preauth =>
    if !x.approvals then .failed "plan: approvals not wired" else .asking st step
  | .inputRequest =>
    if !x.inputs then .failed "plan: inputs not wired" else .asking st step
  | .other text => .failed ("plan: unrecognized step kind " ++ Go.quote text)

def spawnNext (st : RunState) (step : Step) (config : DelegateFanoutConfig) (fanoutID : UUID)
    (spawned : ℕ) : Stage :=
  if (spawned : ℤ) < config.childCount then .spawning st step config fanoutID spawned
  else .suspending (some fanoutID)

/-- After the exit has been committed: the bindings are in force and the transitions are
evaluated. -/
def leave (st : RunState) (step : Step) (bindings : List (String × Value)) : Stage :=
  let st := { st with vars := bindAll st.vars bindings }
  match evaluateTransitions st.vars step.transitions with
  | .error e => .failed e
  | .ok (next, fired) => .moving st step next fired

/-- The variable that the answer to a gate is bound to. -/
def gateResultVar (step : Step) : String :=
  match step.kind with
  | .approvalGate => (step.approvalGate.map (·.resultVar)).getD ""
  | .inputRequest => (step.inputRequest.map (·.resultVar)).getD ""
  | _ => ""

/-- The text that names the session of a plan run. -/
def Executor.session (x : Executor) : String := "plan: session " ++ UUID.string x.sessionID

/-- `Resume` with the state it has loaded. -/
def resumeAgent (x : Executor) (st : RunState) : Stage :=
  if st.currentStep = "" then .failed (x.session ++ " has no in-progress step to resume")
  else match x.plan.stepByID st.currentStep with
    | none => .failed (x.session ++ "'s in-progress step " ++ Go.quote st.currentStep ++
        " no longer exists in its own pinned plan version")
    | some step =>
      if step.kind = .agent then .driving st step
      else .failed (x.session ++ "'s in-progress step " ++ Go.quote st.currentStep ++ " is a " ++
        step.kind.text ++ " step; use ResumeGate instead")

/-- `ResumeGate` with the state it has loaded. It does not ask for the kind of the step. -/
def resumeGate (x : Executor) (st : RunState) (value : Value) : Stage :=
  if st.currentStep = "" then .failed (x.session ++ " has no in-progress step to resume")
  else match x.plan.stepByID st.currentStep with
    | none => .failed (x.session ++ "'s in-progress step " ++ Go.quote st.currentStep ++
        " no longer exists in its own pinned plan version")
    | some step => .resuming st step (bindTo (gateResultVar step) value) none

/-- `ResolveFanout` with the state it has loaded. It asks for a step with children, not for
the fan-out that the entry of the step created. -/
def resumeFanout (x : Executor) (st : RunState) (fanoutID : UUID) (members : List Delegation) :
    Stage :=
  if st.currentStep = "" then .failed (x.session ++
    " has no in-progress step to resume for fanout " ++ UUID.string fanoutID)
  else match (x.plan.stepByID st.currentStep).bind fun step =>
      step.delegateFanout.map fun config => (step, config) with
    | none => .failed (x.session ++ "'s in-progress step " ++ Go.quote st.currentStep ++
        " is not a delegate_fanout step")
    | some (step, config) => .resuming st step (bindTo config.completionVar
        (.numberValue ((members.filter (·.status = .returned)).length))) (some fanoutID)

/-- An entry point with the state it has loaded. -/
def resumeWith (x : Executor) (st : RunState) : Loader → Stage
  | .resume => resumeAgent x st
  | .resumeGate value => resumeGate x st value
  | .resolveFanout fanoutID members => resumeFanout x st fanoutID members

/-- The delegation of a child whose result has been committed. -/
def settle (childSessionID : UUID) (status : DelegationStatus) (d : Delegation) : Delegation :=
  if d.childSessionID = childSessionID then { d with status } else d

/-- The fan-out whose suspend has been committed. -/
def markSuspended (fanoutID : Option UUID) (f : Fanout) : Fanout :=
  if some f.fanoutID = fanoutID then { f with suspended := true } else f

/-! ### Transactions -/

/-- The transaction of `finalize`: the result of the child and two events of the parent. -/
def finalize (x : Executor) (s : Store) (pending : Delegation) (boundExceeded : Bool) :
    List UUID → Option Store
  | [taintID, returnedID] => do
    let s ← s.append x taintID (.taintTransition pending.childSessionID)
    let s ← s.append x returnedID (.delegationReturned pending.childSessionID)
    let status := if boundExceeded then DelegationStatus.boundExceeded else .returned
    return { s with delegations := s.delegations.map (settle pending.childSessionID status) }
  | _ => none

/-- `OnChildTerminal` with the delegations it has read. -/
def check (s : Store) (childSessionID : UUID) : Stage :=
  match s.delegations.find? fun d =>
      d.childSessionID = childSessionID ∧ d.status = .pending with
  | none => .returned (.ok ())
  | some pending => if childSessionID ∈ s.ended then .finalizing pending else .returned (.ok ())

/-- `ResolveFanout` with the members it has read. -/
def list (s : Store) (fanoutID : UUID) : Stage :=
  let members := s.members fanoutID
  if members.isEmpty then
    .failed ("plan: fanout " ++ UUID.string fanoutID ++ " has no delegations")
  else if members.any (·.status = .pending) then .returned (.ok ())
  else .loading (.resolveFanout fanoutID members)

/-- What a call does with a transaction that goes through. An identifier that is taken cannot
be drawn. -/
def Stage.commit (x : Executor) (s : Store) : Stage → List UUID → Option (Store × Stage)
  | .starting, [id] => (s.append x id .started).map fun s =>
      ({ s with status := .running }, enter x {} x.plan.startStep)
  | .entering st step, [id] => (s.append x id (.stepEntered step.id)).map fun s =>
      (s, dispatch x (st.enter step.id id) step)
  | .messaging st step, [id] =>
    (s.append x id (.userMessage ((step.agent.map (·.input)).getD ""))).map fun s =>
      (s, .driving st step)
  | .asking _ _, [] => some (s, .suspending none)
  | .reserving st step config, [fanoutID] =>
    if fanoutID ∈ s.fanouts.map (·.fanoutID) then none
    else some ({ s with fanouts := s.fanouts ++ [{ fanoutID, entry := st.entry, step }] },
      spawnNext st step config fanoutID 0)
  | .spawning st step config fanoutID spawned, [childSessionID] =>
    if childSessionID ∈ s.delegations.map (·.childSessionID) then none
    else some ({ s with delegations := s.delegations ++ [{ childSessionID, fanoutID }] },
      spawnNext st step config fanoutID (spawned + 1))
  | .suspending fanoutID, [] =>
    some ({ s with status := .suspended, fanouts := s.fanouts.map (markSuspended fanoutID) },
      .returned (.ok ()))
  | .exiting st step bindings via, [id] =>
    (s.append x id (.stepExited step.id bindings)).map fun s =>
      ({ s with exits := s.exits ++ [{ entry := st.entry, step, via }] },
        leave st step bindings)
  | .moving st step next fired, [id] =>
    (s.append x id (.transition step.id next fired)).map fun s =>
      (s, if next = "" then .completing else enter x st next)
  | .completing, [id] => (s.append x id .completed).map fun s =>
      ({ s with status := .completed }, .returned (.ok ()))
  | .checking childSessionID, [] => some (s, check s childSessionID)
  | .listing fanoutID, [] => some (s, list s fanoutID)
  | .loading loader, [] => some (s, resumeWith x s.state loader)
  | .resuming st step bindings via, [] =>
    some ({ s with status := .running }, .exiting st step bindings via)
  | _, _ => none

/-- The text of the error of a failed transaction. -/
def Stage.fault : Stage → String
  | .spawning _ _ config _ spawned => "plan: spawn fanout child " ++ toString (spawned + 1) ++
      "/" ++ toString config.childCount ++ ": store"
  | _ => "store"

def Stage.step (x : Executor) (s : Store) (stage : Stage) : Move → Option (Store × Stage)
  | .commit ids => stage.commit x s ids
  | .fail => match stage with
    | .returned _ => none
    | stage => some (s, .failed stage.fault)
  | .drive outcome status => match stage with
    | .driving st step =>
      some ({ s with status }, match outcome with
        | .error e => .failed e
        | .ok none => .returned (.ok ())
        | .ok (some text) => .exiting st step (bindTo ((step.agent.map (·.outputVar)).getD "")
            (.stringValue text)) none)
    | _ => none
  | .finalize outcome ids => match stage with
    | .finalizing pending => match outcome with
      | .error e => some (s, .failed e)
      | .ok boundExceeded => (finalize x s pending boundExceeded ids).map fun s =>
          (s, .listing pending.fanoutID)
    | _ => none

/-! ### Runs -/

/-- The rows of a plan session and the calls on it, those that have returned included. -/
structure System where
  store : Store
  calls : List Stage

inductive Action
  | childEnds (childSessionID : UUID)
  | onChildTerminal (childSessionID : UUID)
  | resume
  | resumeGate (value : Value)
  /-- A call makes its next transaction. -/
  | step (i : ℕ) (m : Move)
  | crash (i : ℕ)

def System.call (s : System) (stage : Stage) : System := { s with calls := s.calls ++ [stage] }

/-- A system in which a call has moved on. -/
def System.goto (s : System) (i : ℕ) (r : Store × Stage) : System :=
  { store := r.1, calls := s.calls.set i r.2 }

/-- A plan session under every interleaving of the calls on it. -/
def executor (x : Executor) : Machine System Action where
  step s
    | .childEnds child => some { s with store := { s.store with ended := child :: s.store.ended } }
    | .onChildTerminal child => some (s.call (.checking child))
    | .resume => some (s.call (.loading .resume))
    | .resumeGate value => some (s.call (.loading (.resumeGate value)))
    | .step i m => match s.calls[i]? with
      | none => none
      | some stage => (stage.step x s.store m).map (s.goto i)
    | .crash i => match s.calls[i]? with
      | none => none
      | some _ => some (s.goto i (s.store, .failed "crash"))

def System.init : System := { store := {}, calls := [.starting] }

/-! ### Appends, lookups and calls that move on -/

variable {x : Executor} {s s' : Store} {stage stage' : Stage} {r : Store × Stage} {sys : System}
  {i : ℕ}

/-- An append that goes through adds one event with a new identifier. -/
lemma append_some {id : UUID} {payload : Payload} (h : s.append x id payload = some s') :
    ∃ log e, s' = { s with log := log } ∧ log.events = s.log.events ++ [e] ∧ e.eventID = id ∧
      e.payload = payload ∧ id ∉ s.log.events.map Event.eventID := by
  obtain ⟨log, hlog, rfl⟩ := Option.map_eq_some_iff.1 h
  obtain ⟨hnew, hevents⟩ := Log.append_eq_some hlog
  exact ⟨log, _, rfl, hevents, rfl, rfl, hnew⟩

lemma state_append {id : UUID} {payload : Payload} (h : s.append x id payload = some s') :
    ∃ e : Event Payload, e.eventID = id ∧ e.payload = payload ∧ s'.state = s.state.replay e := by
  obtain ⟨log, e, rfl, hevents, hid, hpayload, -⟩ := append_some h
  refine ⟨e, hid, hpayload, ?_⟩
  show replayState log.events = _
  rw [hevents, replayState, List.foldl_append]
  rfl

lemma stepByID_id {p : Plan} {id : String} {step : Step} (h : p.stepByID id = some step) :
    step.id = id := by
  simpa using List.find?_some h

/-- A call that moves on leaves the others where they were. -/
lemma getElem?_goto {j : ℕ} (h : (sys.goto i r).calls[j]? = some stage) :
    (j = i ∧ stage = r.2) ∨ (j ≠ i ∧ sys.calls[j]? = some stage) := by
  unfold System.goto at h
  rw [List.getElem?_set] at h
  split_ifs at h with hij hlt
  · exact .inl ⟨hij.symm, (Option.some.inj h).symm⟩
  · exact .inr ⟨fun hji => hij hji.symm, h⟩

lemma getElem?_goto_self (hi : sys.calls[i]? = some stage) (r : Store × Stage) :
    (sys.goto i r).calls[i]? = some r.2 := by
  unfold System.goto
  rw [List.getElem?_set_self (List.getElem?_eq_some_iff.1 hi).1]

/-- One more call leaves the others where they were. -/
lemma getElem?_call {j : ℕ} (h : (sys.call stage).calls[j]? = some stage') :
    sys.calls[j]? = some stage' ∨ stage' = stage := by
  unfold System.call at h
  rw [List.getElem?_append] at h
  split_ifs at h with hlt
  · exact .inl h
  · rw [List.getElem?_singleton] at h
    split_ifs at h
    exact .inr (Option.some.inj h).symm

/-- No call but the `i`-th is at a stage with `busy`. -/
def OthersIdle (busy : Stage → Bool) (sys : System) (i : ℕ) : Prop :=
  ∀ j stage, j ≠ i → sys.calls[j]? = some stage → busy stage = false

instance (busy : Stage → Bool) (sys : System) (i : ℕ) : Decidable (OthersIdle busy sys i) :=
  decidable_of_iff (∀ j < sys.calls.length, j ≠ i → ∀ stage ∈ sys.calls[j]?, busy stage = false)
    ⟨fun h j stage hj hget => h j (List.getElem?_eq_some_iff.1 hget).1 hj stage hget,
      fun h j _ hj stage hget => h j stage hj hget⟩

/-- At most one call is at a stage with `busy`, and `P` holds of it. -/
def Exclusive (busy : Stage → Bool) (P : ℕ → Stage → Prop) (sys : System) : Prop :=
  ∀ i stage, sys.calls[i]? = some stage → busy stage = true → P i stage ∧ OthersIdle busy sys i

section

variable {busy : Stage → Bool} {P P' : ℕ → Stage → Prop}

lemma exclusive_init (h : P 0 .starting) : Exclusive busy P System.init := by
  intro i stage hi _
  obtain ⟨rfl, rfl⟩ : i = 0 ∧ Stage.starting = stage := by
    simpa [System.init, List.getElem?_singleton] using hi
  refine ⟨h, fun j stage' hj hget => ?_⟩
  simp [System.init, hj] at hget

lemma Exclusive.call (h : Exclusive busy P sys) (hidle : busy stage = false) :
    Exclusive busy P (sys.call stage) := by
  intro i stage' hi hbusy
  obtain hi | rfl := getElem?_call hi
  · obtain ⟨hP, hothers⟩ := h i stage' hi hbusy
    refine ⟨hP, fun j stage'' hji hj => ?_⟩
    obtain hj | rfl := getElem?_call hj
    · exact hothers j stage'' hji hj
    · exact hidle
  · nomatch hidle.symm.trans hbusy

/-- A call moves on. If it is busy now no other call is; the others are as they were, or none of
them is busy. -/
lemma Exclusive.goto (h : Exclusive busy P sys) (hnew : P' i r.2)
    (halone : busy r.2 = true → OthersIdle busy sys i)
    (hothers : OthersIdle busy sys i ∨ ∀ j stage, j ≠ i → P j stage → P' j stage) :
    Exclusive busy P' (sys.goto i r) := by
  intro j stage hj hbusy
  obtain ⟨rfl, rfl⟩ | ⟨hji, hold⟩ := getElem?_goto hj
  · refine ⟨hnew, fun k stage' hkj hk => ?_⟩
    obtain ⟨hkj', -⟩ | ⟨-, hk⟩ := getElem?_goto hk
    · exact absurd hkj' hkj
    · exact halone hbusy k stage' hkj hk
  · obtain ⟨hP, hidle⟩ := h j stage hold hbusy
    obtain hothers | hothers := hothers
    · nomatch (hothers j stage hji hold).symm.trans hbusy
    refine ⟨hothers j stage hji hP, fun k stage' hkj hk => ?_⟩
    obtain ⟨rfl, rfl⟩ | ⟨-, hk⟩ := getElem?_goto hk
    · by_contra hne
      nomatch (halone (by simpa using hne) j stage hji hold).symm.trans hbusy
    · exact hidle k stage' hkj hk

end

lemma step_fail (h : stage.step x s .fail = some (s', stage')) :
    s' = s ∧ ∃ text, stage' = .failed text := by
  dsimp only [Stage.step] at h
  split at h
  · nomatch h
  · cases h
    exact ⟨rfl, _, rfl⟩

lemma step_finalize {outcome : Except String Bool}
    {ids : List UUID} (h : stage.step x s (.finalize outcome ids) = some (s', stage')) :
    ∃ pending, stage = .finalizing pending ∧ ((s' = s ∧ ∃ text, stage' = .failed text) ∨
      (∃ b, finalize x s pending b ids = some s') ∧ stage' = .listing pending.fanoutID) := by
  dsimp only [Stage.step] at h
  split at h
  next pending =>
    split at h
    · cases h
      exact ⟨pending, rfl, .inl ⟨rfl, _, rfl⟩⟩
    · obtain ⟨s₁, h₁, heq⟩ := Option.map_eq_some_iff.1 h
      cases heq
      exact ⟨pending, rfl, .inr ⟨⟨_, h₁⟩, rfl⟩⟩
  next => nomatch h

lemma executor_step_eq {m : Move} (hi : sys.calls[i]? = some stage)
    (hstep : stage.step x sys.store m = some r) :
    (executor x).step sys (.step i m) = some (sys.goto i r) := by
  dsimp only [executor]
  rw [hi]
  dsimp only
  rw [hstep]
  rfl

lemma executor_step {sys' : System} {m : Move} (h : (executor x).step sys (.step i m) = some sys') :
    ∃ stage r, sys.calls[i]? = some stage ∧ stage.step x sys.store m = some r ∧
      sys' = sys.goto i r := by
  dsimp only [executor] at h
  cases hi : sys.calls[i]? with
  | none => nomatch hi ▸ h
  | some stage =>
    rw [hi] at h
    obtain ⟨r, hstep, rfl⟩ := Option.map_eq_some_iff.1 h
    exact ⟨stage, r, rfl, hstep, rfl⟩

lemma executor_crash {sys' : System} (h : (executor x).step sys (.crash i) = some sys') :
    ∃ stage, sys.calls[i]? = some stage ∧ sys' = sys.goto i (sys.store, .failed "crash") := by
  dsimp only [executor] at h
  cases hi : sys.calls[i]? with
  | none => nomatch hi ▸ h
  | some stage =>
    rw [hi] at h
    exact ⟨stage, rfl, (Option.some.inj h).symm⟩

lemma resumeGate_eq {st : RunState} {step : Step} (hnone : st.currentStep ≠ "")
    (hfound : x.plan.stepByID st.currentStep = some step) (value : Value) :
    resumeGate x st value = .resuming st step (bindTo (gateResultVar step) value) none := by
  simp only [resumeGate, if_neg hnone, hfound]

end NexusAgent.Plans
