import NexusAgent.Kernel.Completion
import NexusAgent.Plan.Driver

/-!
# Agent steps and their kernel runs

An agent step appends its message and drives the kernel on the plan's own session with `Continue`
(`internal/plan/steps.go`); what the kernel writes goes to the same log, and the status it leaves
is that of the session. When the kernel run is over, `continueAgentStep` reads the status, and
unless the session is suspended it binds the last content of the log
(`internal/plan/rehydrate.go`) and exits the step.

`agentRuns` is the executor with these kernel runs made explicit: the log of the session with the
events of both, and for each call that drives an agent step the kernel run it is in, which makes
its requests one at a time. The plan moves as `executor` does. Other writers, such as a resolved
approval, append to the same log and write the same status.
-/

namespace NexusAgent.Plans

open EventLog

/-! ### The log of the session -/

/-- What an event of the session carries: what the executor wrote, or what the kernel or another
writer did. -/
inductive SessionPayload
  | plan (payload : Payload)
  | kernel (payload : Kernel.Payload)

/-- What the kernel reads from an event of the executor. -/
def Payload.view : Payload → Kernel.Payload
  | .userMessage body => .userMessage body
  | _ => .other

/-- What the kernel reads from an event of the session. -/
def SessionPayload.view : SessionPayload → Kernel.Payload
  | .plan payload => payload.view
  | .kernel payload => payload

def carry {P R : Type} (f : P → R) (e : Event P) : Event R :=
  { eventID := e.eventID, sessionID := e.sessionID, seq := e.seq, type := e.type
    actor := e.actor, toolID := e.toolID, pairRef := e.pairRef, payload := f e.payload }

/-- The body of a content event; a payload without one gives no text. -/
def body : Kernel.Payload → String
  | .content body | .userMessage body => body
  | _ => ""

/-- `lastContentText`: the last content of the whole log, or no text. -/
def lastContentText (history : List (Event SessionPayload)) : String :=
  match history.reverse.find? fun e => e.type = .content with
  | none => ""
  | some e => body e.payload.view

/-- An event of the executor, in the log of the session. -/
def planEvent (e : Event Payload) : Event SessionPayload :=
  { carry SessionPayload.plan e with type := e.payload.type }

def joinLog (log : Log SessionPayload) (es : List (Event Payload)) : Option (Log SessionPayload) :=
  es.foldlM (fun log e => log.append (planEvent e)) log

/-! ### Kernel runs -/

/-- The executor with what it drives agent steps with. -/
structure AgentExecutor extends Executor where
  tenantID : UUID
  kernel : Kernel := {}
  system : String := ""
  catalog : List Provider.ToolSchema := []
  maxTurns : ℤ := 0

def AgentExecutor.config (x : AgentExecutor) (autonomyLevel modelID : String) :
    Kernel.RunConfig :=
  { system := x.system, catalog := x.catalog, maxTurns := x.maxTurns, autonomyLevel, modelID }

/-- A kernel run that a call drives, with what it has done so far. -/
structure KernelRun where
  live : Kernel.Live
  record : Kernel.Record := {}
  progress : Kernel.Progress
  /-- The run is over and the session was found not to be suspended. -/
  settled : Bool := false

def KernelRun.answered (run : KernelRun) (o : Kernel.Op) (a : o.Answer) (live : Kernel.Live) :
    KernelRun :=
  { run with live, record := run.record.after o a, progress := run.progress.after o a }

/-- A plan session: the plan, the log with the events of all writers, and the kernel runs that the
calls on it are in. The status of the session is that of the plan's rows. -/
structure PlanSession where
  plan : System
  log : Log SessionPayload := Log.empty
  runs : ℕ → Option KernelRun := fun _ => none

namespace PlanSession

def setStatus (s : PlanSession) (status : SessionStatus) : PlanSession :=
  { s with plan := { s.plan with store := { s.plan.store with status } } }

def setRun (s : PlanSession) (i : ℕ) (run : Option KernelRun) : PlanSession :=
  { s with runs := Function.update s.runs i run }

def runsAfter (s : PlanSession) : Action → ℕ → Option KernelRun
  | .step i _ | .crash i => Function.update s.runs i none
  | _ => s.runs

/-- The kernel run of a call that drives an agent step. -/
def run? (s : PlanSession) (i : ℕ) : Option KernelRun :=
  match s.plan.calls[i]? with
  | some (.driving _ _) => s.runs i
  | _ => none

/-- The answer to a request of a kernel run, and the session after it. What it hands over goes to
the executor. -/
def handle (s : PlanSession) : (o : Kernel.Op) → Kernel.Reply → Option (o.Answer × PlanSession)
  | .append d, .appended eventID =>
    (s.log.append (carry .kernel (d.event eventID 0))).map fun log =>
      (.ok (eventID, s.log.nextSeq d.sessionID), { s with log })
  | .setStatus _ status _, .wrote none => some (none, s.setStatus status)
  | .yield .., _ => none
  | o, t => (Kernel.Row.handle {} o t).map fun r => (r.1, s)

end PlanSession

inductive SessionAction
  /-- A step of the plan, other than the end of a kernel run. -/
  | plan (a : Action)
  /-- A call that drives an agent step loads the session and enters the kernel. -/
  | continueRun (i : ℕ) (autonomyLevel modelID : String)
  | answer (i : ℕ) (t : Kernel.Reply)
  /-- The executor takes what the run hands over; an error ends the call. -/
  | take (i : ℕ)
  /-- The run is over, and the call reads the status. -/
  | readStatus (i : ℕ)
  /-- The call reads the last content. -/
  | readContent (i : ℕ)
  | otherAppend (e : Event Kernel.Payload)
  | otherStatus (status : SessionStatus)

namespace AgentExecutor

def move (x : AgentExecutor) (s : PlanSession) (a : Action) : Option PlanSession := do
  let plan ← (executor x.toExecutor).step s.plan a
  let log ← joinLog s.log (plan.store.log.events.drop s.plan.store.log.events.length)
  return { plan, log, runs := s.runsAfter a }

/-- `continueAgentStep` goes on with what became of the kernel run. -/
def drive (x : AgentExecutor) (s : PlanSession) (i : ℕ)
    (outcome : Except String (Option String)) : Option PlanSession :=
  x.move s (.step i (.drive outcome s.plan.store.status))

/-- `Continue`, from the log as it is now. -/
def continueRun (x : AgentExecutor) (s : PlanSession) (autonomyLevel modelID : String) :
    KernelRun :=
  let cfg := x.config autonomyLevel modelID
  { live := Kernel.Entry.start x.kernel x.tenantID x.sessionID
      (s.log.events.map (carry SessionPayload.view)) (.continueRun cfg)
    progress := { turns := cfg.turns } }

end AgentExecutor

/-- A plan session under every interleaving of its calls, their kernel runs and other writers. -/
def agentRuns (x : AgentExecutor) : Machine PlanSession SessionAction where
  step s
    | .plan (.step _ (.drive _ _)) => none
    | .plan a => x.move s a
    | .continueRun i autonomyLevel modelID =>
      match s.plan.calls[i]?, s.runs i with
      | some (.driving _ _), none =>
        some (s.setRun i (some (x.continueRun s autonomyLevel modelID)))
      | _, _ => none
    | .answer i t =>
      match s.run? i with
      | none => none
      | some run =>
        match run.live with
        | .done _ => none
        | .ask o k => (s.handle o t).map fun (a, s) => s.setRun i (some (run.answered o a (k a)))
    | .take i =>
      match s.run? i with
      | none => none
      | some run =>
        match run.live with
        | .ask (.yield ev none) k =>
          some (s.setRun i (some (run.answered (.yield ev none) true (k true))))
        | .ask (.yield _ (some err)) _ => x.drive s i (.error err)
        | _ => none
    | .readStatus i =>
      match s.run? i with
      | none => none
      | some run =>
        match run.live with
        | .done _ =>
          if s.plan.store.status = .suspended then x.drive s i (.ok none)
          else some (s.setRun i (some { run with settled := true }))
        | _ => none
    | .readContent i =>
      match s.run? i with
      | none => none
      | some run =>
        if run.settled then x.drive s i (.ok (some (lastContentText s.log.events))) else none
    | .otherAppend e =>
      (s.log.append (carry .kernel e)).map fun log => { s with log }
    | .otherStatus status => some (s.setStatus status)

/-- A plan session that `Start` is called on. -/
def PlanSession.init : PlanSession := { plan := System.init }

/-! ### Answers to a kernel run -/

variable {s s' : PlanSession} {t : Kernel.Reply}

lemma PlanSession.handle_append {d : Kernel.Draft} {answer : Except Kernel.AppendError (UUID × ℕ)}
    (h : s.handle (.append d) t = some (answer, s')) :
    (∃ e, answer = .error e ∧ s' = s) ∨
      ∃ eventID log, answer = .ok (eventID, s.log.nextSeq d.sessionID) ∧
        s.log.append (carry .kernel (d.event eventID 0)) = some log ∧ s' = { s with log } := by
  cases t with
  | appended eventID =>
    obtain ⟨log, hlog, heq⟩ := Option.map_eq_some_iff.1 h
    cases heq
    exact .inr ⟨eventID, log, rfl, hlog, rfl⟩
  | notAppended e =>
    cases h
    exact .inl ⟨e, rfl, rfl⟩
  | _ => nomatch h

lemma PlanSession.handle_setStatus {sessionID : UUID}
    {status : SessionStatus} {reason : Option Kernel.TerminalReason} {err : Option String}
    (h : s.handle (.setStatus sessionID status reason) t = some (err, s')) :
    (err = none ∧ s' = s.setStatus status) ∨ ∃ e, err = some e ∧ s' = s := by
  cases t with
  | wrote err' =>
    cases err' with
    | none =>
      cases h
      exact .inl ⟨rfl, rfl⟩
    | some e =>
      cases h
      exact .inr ⟨e, rfl, rfl⟩
  | _ => nomatch h

/-- Other requests leave the session as it is; what a run hands over is not answered here. -/
lemma PlanSession.handle_eq {o : Kernel.Op} {answer : o.Answer} (ho : ¬ o.Writes)
    (h : s.handle o t = some (answer, s')) :
    s' = s ∧ ∀ ev err, o ≠ .yield ev err := by
  cases o <;> cases t <;> first
    | exact absurd trivial ho
    | exact ⟨(Prod.mk.inj (Option.some.inj h)).2.symm, fun _ _ heq => nomatch heq⟩
    | nomatch h

/-! ### What a step of the plan appends -/

lemma joinLog_some {log log' : Log SessionPayload} {es : List (Event Payload)}
    (h : joinLog log es = some log') :
    ∃ joined, log'.events = log.events ++ joined ∧
      joined.map Event.payload = es.map (fun e => .plan e.payload) ∧
      joined.map Event.type = es.map (fun e => e.payload.type) := by
  induction es generalizing log with
  | nil =>
    cases h
    exact ⟨[], (List.append_nil _).symm, rfl, rfl⟩
  | cons e es ih =>
    obtain ⟨log₁, h₁, hrest⟩ := Option.bind_eq_some_iff.1 h
    obtain ⟨-, hevents⟩ := Log.append_eq_some h₁
    obtain ⟨joined, hjoined, hpayloads, htypes⟩ := ih hrest
    refine ⟨{ planEvent e with seq := log.nextSeq e.sessionID } :: joined, ?_, ?_, ?_⟩
    · rw [hjoined, hevents, List.append_assoc, List.singleton_append]
      rfl
    · rw [List.map_cons, List.map_cons, hpayloads]
      rfl
    · rw [List.map_cons, List.map_cons, htypes]
      rfl

lemma step_events {x : Executor} {s s' : Store} {stage stage' : Stage} {m : Move}
    (h : stage.step x s m = some (s', stage')) :
    ∃ es, s'.log.events = s.log.events ++ es ∧
      (es.map Event.payload = stage.writes.toList ∨ ∀ e ∈ es, e.payload.Ignored) := by
  have hnothing {s' : Store} (hlog : s'.log = s.log) : ∃ es, s'.log.events = s.log.events ++ es ∧
      (es.map Event.payload = stage.writes.toList ∨ ∀ e ∈ es, e.payload.Ignored) :=
    ⟨[], by rw [hlog, List.append_nil], .inr fun _ he => nomatch he⟩
  cases m with
  | commit ids =>
    obtain ⟨es, hevents, hpayloads⟩ := commit_events h
    exact ⟨es, hevents, .inl hpayloads⟩
  | fail =>
    obtain ⟨rfl, text, rfl⟩ := step_fail h
    exact hnothing rfl
  | drive outcome status =>
    unfold Stage.step at h
    dsimp only at h
    split at h
    · cases h
      exact hnothing rfl
    · nomatch h
  | finalize outcome ids =>
    obtain ⟨pending, rfl, ⟨rfl, -⟩ | ⟨⟨b, hfinal⟩, -⟩⟩ := step_finalize h
    · exact hnothing rfl
    · obtain ⟨⟨es, hevents, hignored⟩, -⟩ := finalize_events hfinal
      exact ⟨es, hevents, .inr hignored⟩

lemma move_some {x : AgentExecutor} {a : Action} (h : x.move s a = some s') :
    (executor x.toExecutor).step s.plan a = some s'.plan ∧
      joinLog s.log (s'.plan.store.log.events.drop s.plan.store.log.events.length) = some s'.log ∧
      s'.runs = s.runsAfter a := by
  obtain ⟨plan, hplan, h⟩ := Option.bind_eq_some_iff.1 h
  obtain ⟨log, hlog, h⟩ := Option.bind_eq_some_iff.1 h
  cases h
  exact ⟨hplan, hlog, rfl⟩

lemma Payload.type_ne_content (p : Payload) : p.type ≠ .content := by
  cases p <;> simp [Payload.type]

/-- What the `i`-th call does to the session when it makes its next transaction: it goes from a
stage to another, and `joined` are the events that are appended. -/
structure CallMoved (x : AgentExecutor) (s : PlanSession) (i : ℕ) (m : Move) (s' : PlanSession)
    (stage stage' : Stage) (joined : List (Event SessionPayload)) : Prop where
  call : s.plan.calls[i]? = some stage
  step : stage.step x.toExecutor s.plan.store m = some (s'.plan.store, stage')
  plan : s'.plan = s.plan.goto i (s'.plan.store, stage')
  runs : s'.runs = Function.update s.runs i none
  log : s'.log.events = s.log.events ++ joined
  payloads : joined.map Event.payload = stage.writes.toList.map .plan ∨
    ∀ e ∈ joined, ∃ p : Payload, e.payload = .plan p ∧ p.Ignored
  types : ∀ e ∈ joined, e.type ≠ .content

lemma moved_of_move {x : AgentExecutor} {i : ℕ} {m : Move} (h : x.move s (.step i m) = some s') :
    ∃ stage stage' joined, CallMoved x s i m s' stage stage' joined := by
  obtain ⟨hplan, hlog, hruns⟩ := move_some h
  obtain ⟨stage, ⟨store, stage'⟩, hi, hstep, heq⟩ := executor_step hplan
  obtain rfl : s'.plan.store = store := congrArg System.store heq
  obtain ⟨es, hevents, hes⟩ := step_events hstep
  rw [hevents, List.drop_left] at hlog
  obtain ⟨joined, hjoined, hpayloads, htypes⟩ := joinLog_some hlog
  refine ⟨stage, stage', joined, hi, hstep, heq, hruns, hjoined, ?_, ?_⟩
  · refine hes.imp (fun hwrites => ?_) fun hignored e he => ?_
    · rw [hpayloads, ← hwrites, List.map_map]
      rfl
    · have hmem : e.payload ∈ es.map fun e => SessionPayload.plan e.payload :=
        hpayloads ▸ List.mem_map_of_mem he
      obtain ⟨e₀, he₀, hpayload⟩ := List.mem_map.1 hmem
      exact ⟨e₀.payload, hpayload.symm, hignored e₀ he₀⟩
  · intro e he htype
    have hmem : e.type ∈ es.map fun e => e.payload.type := htypes ▸ List.mem_map_of_mem he
    obtain ⟨e₀, -, hpayload⟩ := List.mem_map.1 hmem
    exact e₀.payload.type_ne_content (hpayload.trans htype)

end NexusAgent.Plans
