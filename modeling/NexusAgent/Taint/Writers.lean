import NexusAgent.EventLog.Appender
import NexusAgent.Kernel.Session
import NexusAgent.Lib.Machine
import NexusAgent.Tools.Pipeline

/-!
# The writers of taint transitions

Three components write a session's taint transitions: the kernel, for a tool call that
engaged a leg; the delegation resolver, for the result of a child
(`internal/delegate/resolve.go`, `finalize`); and the team board, for a card that was read
(`internal/teams/board.go`, `foldCardRead`). Each takes the legs it writes from the memory of
the process it runs in, or from a card, and writes them in a transaction of its own later. The
memory of a process is its tool pipeline; it is lost when the process restarts, and the drivers
that resume a session, but for that of a plan's agent step, seed it from the log.

`processes` is the machine of any number of processes that share one log and one board. What
a process does in memory is one step, and so is each transaction. A tool call is two steps,
the permission chain and the return, since the call itself may read cards or spawn children.
-/

namespace NexusAgent.TaintLog

open EventLog Kernel Permissions Tools

/-- `kerneladapter.PipelineExecutor`: the pipeline's answer as the kernel reads it. -/
def toolResult (out : ExecuteResult) : ToolResult :=
  { output := out.output, isError := out.isError, reason := out.reason
    permissionDenied := out.permissionDenied, awaitingApproval := out.awaitingApproval
    askKind := out.askKind, canonicalDigest := out.canonicalDigest
    approvalMismatch := out.approvalMismatch, effectClass := out.effectClass
    awaitingDelegation := out.awaitingDelegation, childSessionID := out.childSessionID
    taintChanged := out.taintChanged, taintEngaged := out.taintEngaged }

def invocation (req : ToolUseRequest) (rc : ExecContext) : Invocation :=
  { tenantID := rc.tenantID, sessionID := rc.sessionID, toolName := req.toolName
    input := req.input, autonomyLevel := rc.autonomyLevel }

/-- A card of a team's board. -/
structure Card where
  cardID : UUID
  /-- The legs its writer had engaged when it was written. -/
  taintState : TaintState
  /-- Whether its text passed the scan; the body of another card is never shown. -/
  clean : Bool

/-- The legs that a result or a dispatch leaves to be recorded. -/
def dueOf (changed : Bool) (engaged : TaintState) : Option TaintState :=
  if changed then some engaged else none

/-- What a process is in the middle of. -/
inductive Task
  /-- A kernel call on a session. `executing` is the tool call it has dispatched and waits
  for; `due` holds the legs of a tool call that are to be recorded. -/
  | call (proc : ℕ) (sessionID : UUID) (p : Live) (executing : Option Dispatch)
      (due : Option TaintState)
  /-- A transition that has been folded in memory and not yet been written. -/
  | writer (proc : ℕ) (sessionID : UUID) (engaged : TaintState) (origin : TaintOrigin)
  | loaded (proc : ℕ) (sessionID : UUID) (entry : Entry) (history : List (Event Payload))
  | card (proc : ℕ) (sessionID : UUID) (card : Card)

namespace Task

def proc : Task → ℕ
  | .call proc .. | .writer proc .. | .loaded proc .. | .card proc .. => proc

def sessionID : Task → UUID
  | .call _ sessionID .. | .writer _ sessionID .. | .loaded _ sessionID ..
  | .card _ sessionID _ => sessionID

/-- The legs that a task has taken and not yet written. -/
def due : Task → Option TaintState
  | .call _ _ _ _ due => due
  | .writer _ _ engaged _ => some engaged
  | .loaded .. | .card .. => none

end Task

/-- Processes with their pipelines, the log and the board they share, and what they are in the
middle of. A task that is over leaves an empty place. -/
structure World where
  log : Log Payload := Log.empty
  pipelines : ℕ → Pipeline
  cards : List Card := []
  tasks : List (Option Task) := []

namespace World

/-- The task in a place. -/
def task (w : World) (i : ℕ) : Option Task := w.tasks[i]?.join

/-- A process's memory of a session's legs. -/
def memory (w : World) (proc : ℕ) (sessionID : UUID) : TaintState :=
  ((w.pipelines proc).taintStateFor sessionID).1

/-- A pipeline is replaced. -/
def setPipeline (w : World) (proc : ℕ) (p : Pipeline) : World :=
  { w with pipelines := Function.update w.pipelines proc p }

/-- A task is begun. -/
def begin (w : World) (t : Task) : World := { w with tasks := w.tasks ++ [some t] }

/-- A task goes on as another, or is over. -/
def put (w : World) (i : ℕ) (t : Option Task) : World := { w with tasks := w.tasks.set i t }

end World

/-! ### The two writers outside the kernel -/

/-- The error of a store that does not answer. -/
def fault : String := "store unavailable"

/-- The transaction of a writer: its transition, and for a child's result the event that the
delegation has returned. -/
def recordTransition (sessionID : UUID) (engaged : TaintState) (origin : TaintOrigin) :
    UnitOfWork (Log Payload) UUID String Unit := do
  appendSystem id (fun _ log => log) fault sessionID .taintTransition none none
    (.taintTransition engaged origin)
  match origin with
  | .child _ =>
    appendSystem id (fun _ log => log) fault sessionID .delegationReturned none none .other
  | _ => pure ()

/-! ### The machine -/

/-- What can happen. -/
inductive Action
  | run (proc : ℕ) (tenantID sessionID : UUID) (cfg : RunConfig)
  /-- A driver reads a session's log to resume it. -/
  | load (proc : ℕ) (sessionID : UUID) (entry : Entry)
  /-- The driver seeds the taint state, if it is one that does, and calls the kernel. -/
  | resume (i : ℕ) (tenantID : UUID) (autonomyLevel : String) (seeds : Bool)
  /-- A request of a kernel call other than a tool call is answered. -/
  | reply (i : ℕ) (t : Reply)
  /-- A tool call goes through the permission chain: it is answered, or dispatched. -/
  | dispatch (i : ℕ) (env : ExecuteEnv)
  /-- A dispatched tool call returns. -/
  | return (i : ℕ) (out : ExecuteResult)
  /-- `finalize` in memory: the child's legs are folded into its parent's. -/
  | finalize (proc : ℕ) (parent child : UUID)
  /-- `foldCardRead` in memory: the card's legs are folded into the reader's. -/
  | readCard (proc : ℕ) (reader cardID : UUID)
  /-- The transaction of a writer. -/
  | commit (i : ℕ) (script : List (Option UUID))
  /-- `WriteCard` in memory: the writer's legs are captured. -/
  | writeCard (proc : ℕ) (writer cardID : UUID) (clean : Bool)
  | insertCard (i : ℕ)
  /-- `Spawn` in memory: the parent's legs are folded into the child's. -/
  | spawn (proc : ℕ) (parent child : UUID)
  /-- A task is over: it has returned, failed or been given up. -/
  | leave (i : ℕ)
  /-- A process loses its memory and everything it is in the middle of. -/
  | restart (proc : ℕ)
  /-- Another component appends an event that is not a taint transition. -/
  | note (d : Draft) (eventID : UUID)

/-- A kernel call that has written its taint transition owes none. -/
def payDue (p : Live) (t : Reply) (due : Option TaintState) : Option TaintState :=
  match p, t with
  | .ask (.append d) _, .appended _ => if d.type = .taintTransition then none else due
  | _, _ => due

/-- A reply to a kernel call that is not executing a tool. -/
def replyTo (w : World) (i proc : ℕ) (sessionID : UUID) (p : Live) (due : Option TaintState)
    (t : Reply) : Option World :=
  match p with
  | .ask (.execute ..) _ => none
  | p => (p.advance Row.handle { log := w.log } t).map fun r =>
      { w.put i (some (.call proc sessionID r.2 none (payDue p t due))) with log := r.1.log }

/-- The permission chain of a tool call. -/
def dispatchTo (w : World) (i proc : ℕ) (sessionID : UUID) (p : Live) (env : ExecuteEnv) :
    Option World :=
  match p with
  | .ask (.execute req rc) k =>
    let (out, pipeline) := (w.pipelines proc).execute env (invocation req rc)
    let w := w.setPipeline proc pipeline
    match out with
    | .inl r =>
      some (w.put i (some (.call proc sessionID (k (toolResult r)) none
        (dueOf r.taintChanged r.taintEngaged))))
    | .inr d =>
      some (w.put i (some (.call proc sessionID (.ask (.execute req rc) k) (some d)
        (dueOf d.taintChanged d.taintEngaged))))
  | _ => none

/-- The return of a tool call: whatever its outcome, its result carries the legs that the
permission chain found. -/
def returnTo (w : World) (i proc : ℕ) (sessionID : UUID) (p : Live) (d : Dispatch)
    (due : Option TaintState) (out : ExecuteResult) : Option World :=
  match p with
  | .ask (.execute _ _) k =>
    let out := { out with taintChanged := d.taintChanged, taintEngaged := d.taintEngaged }
    some (w.put i (some (.call proc sessionID (k (toolResult out)) none due)))
  | _ => none

/-- The machine of the processes; `kernel` is what each of them is built from. -/
def processes (kernel : Kernel) : Machine World Action where
  step w
    | .run proc tenantID sessionID cfg =>
      some (w.begin (.call proc sessionID
        (Entry.start kernel tenantID sessionID [] (.run cfg)) none none))
    | .load proc sessionID entry =>
      some (w.begin (.loaded proc sessionID entry (w.log.session sessionID)))
    | .resume i tenantID autonomyLevel seeds =>
      match w.task i with
      | some (.loaded proc sessionID entry history) =>
        let pipeline :=
          if seeds then
            (w.pipelines proc).seedTaint sessionID autonomyLevel (rehydrateTaint history)
          else w.pipelines proc
        some ((w.setPipeline proc pipeline).put i (some (.call proc sessionID
          (entry.start kernel tenantID sessionID history) none none)))
      | _ => none
    | .reply i t =>
      match w.task i with
      | some (.call proc sessionID p none due) => replyTo w i proc sessionID p due t
      | _ => none
    | .dispatch i env =>
      match w.task i with
      | some (.call proc sessionID p none _) => dispatchTo w i proc sessionID p env
      | _ => none
    | .return i out =>
      match w.task i with
      | some (.call proc sessionID p (some d) due) => returnTo w i proc sessionID p d due out
      | _ => none
    | .finalize proc parent child =>
      let engaged := w.memory proc child
      let pipeline := ((w.pipelines proc).taintStateFor child).2.foldTaint parent engaged
      some ((w.setPipeline proc pipeline).begin (.writer proc parent engaged (.child child)))
    | .readCard proc reader cardID =>
      match w.cards.find? fun c => c.cardID = cardID ∧ c.clean with
      | some c =>
        let pipeline := (w.pipelines proc).foldTaint reader c.taintState
        some ((w.setPipeline proc pipeline).begin
          (.writer proc reader c.taintState (.card cardID)))
      | none => none
    | .commit i script =>
      match w.task i with
      | some (.writer _ sessionID engaged origin) =>
        let log := (UnitOfWork.commit fault (recordTransition sessionID engaged origin) script
          w.log).2
        some { w.put i none with log }
      | _ => none
    | .writeCard proc writer cardID clean =>
      some (w.begin (.card proc writer
        { cardID, clean, taintState := w.memory proc writer }))
    | .insertCard i =>
      match w.task i with
      | some (.card _ _ c) => some { w.put i none with cards := w.cards ++ [c] }
      | _ => none
    | .spawn proc parent child =>
      let pipeline := ((w.pipelines proc).taintStateFor parent).2.foldTaint child
        (w.memory proc parent)
      some (w.setPipeline proc pipeline)
    | .leave i => some (w.put i none)
    | .restart proc =>
      let lost := fun t : Task => if t.proc = proc then none else some t
      some { w.setPipeline proc { w.pipelines proc with sessions := fun _ => none } with
        tasks := w.tasks.map fun t => t.bind lost }
    | .note d eventID =>
      if d.type = .taintTransition then none
      else (w.log.append (d.event eventID 0)).map fun log => { w with log }

/-- Processes that have just started, with an empty log and an empty board. -/
def fresh (cfg : ℕ → Config) (chain : ℕ → Chain) : World :=
  { pipelines := fun i => { cfg := cfg i, chain := chain i, sessions := fun _ => none } }

end NexusAgent.TaintLog
