import NexusAgent.EventLog.Event
import NexusAgent.Lib.Pool

/-!
# The job queue

The queue over Redis Streams (`internal/queue/redis/streams.go`): jobs are entries of a stream
with a consumer group, retries wait in a sorted set, and a claim record leads from a leased job
back to its entry. Every call is a program over Redis commands. A pipeline that is executed as a
transaction is one command, and so is each other command.

A command that fails ends the call, and so does a crash, so both are programs that are cut off,
before or after the command was executed. The exception is the read of a claim record, whose
error one caller ignores: it can be answered with nothing at any time.

Which entry the consumer group hands out, and to whom, is left to the surroundings. The JSON of a
job in the sorted set, and the strings of its fields in an entry, are represented by what they
encode; entries and members that someone else has written are kept as they are.
-/

namespace NexusAgent.Queue

open Routine (request stop)

/-- What a worker does with a job. -/
inductive Kind
  | resume
  | start
  | converse
  deriving DecidableEq

/-- `Status`, as far as it is used here. -/
inductive Status
  | unset
  | pending
  | leased
  deriving DecidableEq

/-- `Job`. Times are in nanoseconds. -/
structure Job where
  jobID : UUID
  tenantID : UUID := 0
  sessionID : UUID := 0
  sessionKey : String := ""
  kind : Kind := .start
  payload : String := ""
  status : Status := .unset
  attempts : ℤ := 0
  /-- Nothing for the zero time. -/
  availableAt : Option ℤ := none
  leaseOwner : String := ""
  createdAt : Option ℤ := none
  deriving DecidableEq

/-- The fields of an entry. -/
inductive Values
  /-- `jobFields`. -/
  | job (jobID tenantID sessionID : UUID) (sessionKey : String) (kind : Kind) (attempts : ℤ)
  /-- Fields that cannot be parsed, with the reason. -/
  | other (raw reason : String)
  deriving DecidableEq

/-- The job of an entry that has one. -/
def Values.jobID? : Values → Option UUID
  | .job jobID .. => some jobID
  | .other .. => none

/-- A job as an entry of the stream. Its payload and its times are not written. -/
def jobFields (job : Job) : Values :=
  .job job.jobID job.tenantID job.sessionID job.sessionKey job.kind job.attempts

/-- What is not written has its zero value when it is read back. -/
def parseJobFields : Values → Except String Job
  | .job jobID tenantID sessionID sessionKey kind attempts =>
    .ok { jobID, tenantID, sessionID, sessionKey, kind, attempts }
  | .other _ reason => .error reason

/-- A member of the delay buffer: a job with all its fields, or text that is none. -/
inductive Member
  | job (job : Job)
  | malformed (raw : String)
  deriving DecidableEq

/-- The job of a member that is one. -/
def Member.jobID? : Member → Option UUID
  | .job j => some j.jobID
  | .malformed _ => none

/-- An entry of the stream. -/
structure Entry where
  id : ℕ
  values : Values
  deriving DecidableEq

/-- An entry of the dead-letter stream. -/
structure DeadEntry where
  values : Values
  /-- The entry that was discarded, if it could not be parsed. -/
  entryID : Option ℕ := none
  lastError : String

/-- The keys of the queue. The last three fields are not in Redis: they record which jobs were
ever added, and what has become of them. -/
structure Redis where
  stream : List Entry := []
  /-- The last entry identifier that was given out. -/
  lastID : ℕ := 0
  /-- The delay buffer, with the scores. -/
  delayed : List (Member × ℤ) := []
  claims : UUID → Option (ℕ × Job) := fun _ => none
  dead : List DeadEntry := []
  enqueued : List UUID := []
  completed : List UUID := []
  deadLettered : List UUID := []

/-- How many members of the delay buffer a lease looks at. -/
def promoteBatch : ℕ := 10

/-- The cap of the dead-letter stream. -/
def defaultDeadMaxLen : ℕ := 10000

/-- The scores of the delay buffer are in milliseconds. -/
def unixMilli (t : ℤ) : ℤ := t / 1000000

/-- What the calls ask for. -/
inductive Command
  | newUUID
  | now
  | xadd (values : Values)
  | zadd (m : Member) (score : ℤ)
  /-- `ZRANGE BYSCORE` up to a score. -/
  | zrangeDue (max : ℤ)
  | zrem (m : Member)
  | xautoclaim (owner : String)
  | xreadgroup (owner : String)
  | hgetall (jobID : UUID)
  /-- `HSET` and `EXPIRE` of a claim record, in a transaction. -/
  | record (entryID : ℕ) (job : Job)
  /-- `retire`: `XACK`, `XDEL` and `DEL` in a transaction. Redis is not told whether this is
  part of `Complete`. -/
  | retire (completes : Bool) (jobID : UUID) (entryID : ℕ)
  /-- `XADD` of a job to the dead-letter stream. -/
  | deadLetter (job : Job) (reason : String)
  /-- `discardUnparseable`: `XADD`, `XACK` and `XDEL` in a transaction. -/
  | discard (entry : Entry) (reason : String)
  | expire (jobID : UUID)

/-- What a command is answered with. -/
def Command.Answer : Command → Type
  | .newUUID => UUID
  | .now => ℤ
  | .xadd _ => Unit
  | .zadd _ _ => Unit
  | .zrangeDue _ => List Member
  | .zrem _ => Bool
  | .xautoclaim _ => Option Entry
  | .xreadgroup _ => Option Entry
  | .hgetall _ => Option (ℕ × Job)
  | .record _ _ => Unit
  | .retire _ _ _ => Unit
  | .deadLetter _ _ => Unit
  | .discard _ _ => Unit
  | .expire _ => Unit

/-- A call of the queue. It keeps nothing of its own between two commands. -/
abbrev Call := Routine Unit Command Command.Answer

/-! ### The calls -/

/-- A job identifier that is drawn at random. -/
def newUUID : Call UUID := request Command.newUUID

/-- The clock of the process. -/
def now : Call ℤ := request Command.now

/-- `XADD` to the stream. -/
def xadd (values : Values) : Call Unit := request (Command.xadd values)

/-- `ZADD` to the delay buffer. -/
def zadd (m : Member) (score : ℤ) : Call Unit := request (Command.zadd m score)

/-- The members of the delay buffer that are due, up to `promoteBatch` of them. -/
def zrangeDue (max : ℤ) : Call (List Member) := request (Command.zrangeDue max)

/-- Whether the member was still there, so that this call is the one that promotes it. -/
def zrem (m : Member) : Call Bool := request (Command.zrem m)

/-- An entry whose consumer has been idle for longer than the lease. -/
def xautoclaim (owner : String) : Call (Option Entry) := request (Command.xautoclaim owner)

/-- An entry that no consumer has been given. -/
def xreadgroup (owner : String) : Call (Option Entry) := request (Command.xreadgroup owner)

/-- The claim record of a job: its entry, and the job as it was leased. -/
def claimedEntry (jobID : UUID) : Call (Option (ℕ × Job)) := request (Command.hgetall jobID)

/-- A claim record is written, with the time to live of a lease. -/
def record (entryID : ℕ) (job : Job) : Call Unit := request (Command.record entryID job)

/-- The entry and the claim record of a job are removed. -/
def retire (completes : Bool) (jobID : UUID) (entryID : ℕ) : Call Unit :=
  request (Command.retire completes jobID entryID)

/-- A job is given up. -/
def deadLetter (job : Job) (reason : String) : Call Unit :=
  request (Command.deadLetter job reason)

/-- An entry that is no job is moved to the dead letters. -/
def discardUnparseable (entry : Entry) (reason : String) : Call Unit :=
  request (Command.discard entry reason)

/-- A job waits in the delay buffer until it is due. -/
def pushDelayed (job : Job) (at' : ℤ) : Call Unit := zadd (.job job) (unixMilli at')

/-- A job without an identifier is given one. -/
def identify (job : Job) : Call UUID :=
  if job.jobID = 0 then newUUID else return job.jobID

/-- `Enqueue`: a job that is not due yet goes to the delay buffer. -/
def enqueue (job : Job) : Call Job := do
  let jobID ← identify job
  let createdAt ← now
  let job := { job with jobID, status := .pending, createdAt := some createdAt }
  let t ← now
  match job.availableAt with
  | some availableAt =>
    if t < availableAt then
      pushDelayed job availableAt
      return job
    else
      xadd (jobFields job)
      return job
  | none =>
    xadd (jobFields job)
    return job

/-- The loop of `promoteDelayed`. -/
def promote : List Member → Call Unit
  | [] => return ()
  | m :: rest => do
    let removed ← zrem m
    if removed then
      match m with
      | .malformed _ => promote rest
      | .job job =>
        xadd (jobFields job)
        promote rest
    else
      promote rest

/-- `promoteDelayed`: members that are due move to the stream. -/
def promoteDelayed : Call Unit := do
  let t ← now
  let due ← zrangeDue (unixMilli t)
  promote due

/-- `claim`: the attempts of a job are counted in its claim record. -/
def claim (owner : String) (entry : Entry) : Call Job := do
  match parseJobFields entry.values with
  | .error reason =>
    discardUnparseable entry ("unparseable entry: " ++ reason)
    stop
  | .ok job =>
    let prior ← claimedEntry job.jobID
    let attempts := (prior.map fun p => p.2.attempts).getD job.attempts
    let job := { job with attempts := attempts + 1, status := .leased, leaseOwner := owner }
    record entry.id job
    return job

/-- `Lease`: an abandoned entry comes before a new one. -/
def lease (owner : String) : Call (Option Job) := do
  promoteDelayed
  match ← xautoclaim owner with
  | some entry => return some (← claim owner entry)
  | none =>
    match ← xreadgroup owner with
    | some entry => return some (← claim owner entry)
    | none => return none

/-- `Complete`, which needs the claim record. -/
def complete (jobID : UUID) : Call Unit := do
  match ← claimedEntry jobID with
  | none => stop
  | some (entryID, _) => retire true jobID entryID

/-- `Fail`: the job is retired before it is added again or given up. -/
def fail (jobID : UUID) (reason : String) (permanent : Bool) (retryAt : ℤ) : Call Unit := do
  match ← claimedEntry jobID with
  | none => stop
  | some (entryID, job) =>
    retire false jobID entryID
    if permanent then
      deadLetter job reason
    else
      let t ← now
      if t < retryAt then
        pushDelayed job retryAt
      else
        xadd (jobFields job)

/-- The calls, and what happens to the keys otherwise: a claim record expires, and someone else
adds an entry that is not a job. -/
inductive Task
  | enqueue (job : Job)
  | lease (owner : String)
  | complete (jobID : UUID)
  | fail (jobID : UUID) (reason : String) (permanent : Bool) (retryAt : ℤ)
  | expire (jobID : UUID)
  | foreign (raw reason : String)

/-- The commands of a task. -/
def Task.program : Task → Call Unit
  | .enqueue job => do
    let _ ← Queue.enqueue job
    return ()
  | .lease owner => do
    let _ ← Queue.lease owner
    return ()
  | .complete jobID => Queue.complete jobID
  | .fail jobID reason permanent retryAt => Queue.fail jobID reason permanent retryAt
  | .expire jobID => request (Command.expire jobID)
  | .foreign raw reason => xadd (.other raw reason)

/-! ### The commands -/

/-- What the surroundings decide in a command. -/
inductive Pick
  | plain
  | uuid (u : UUID)
  | time (t : ℤ)
  | due (ms : List Member)
  /-- The entry that the consumer group hands out. -/
  | entry (e : Option Entry)
  /-- The read of a claim record fails. -/
  | unread

/-- The new entry has the next identifier. -/
def Redis.xadd (w : Redis) (values : Values) : Redis :=
  { w with
    stream := w.stream ++ [{ id := w.lastID + 1, values }]
    lastID := w.lastID + 1
    enqueued := values.jobID?.toList ++ w.enqueued }

/-- `ZADD` to the delay buffer: a member that is there already gets the new score. -/
def Redis.zadd (w : Redis) (m : Member) (score : ℤ) : Redis :=
  { w with
    delayed := w.delayed.filter (fun d => d.1 ≠ m) ++ [(m, score)]
    enqueued := m.jobID?.toList ++ w.enqueued }

/-- `ZREM` from the delay buffer. -/
def Redis.zrem (w : Redis) (m : Member) : Redis :=
  { w with delayed := w.delayed.filter fun d => d.1 ≠ m }

/-- `XADD` to the dead-letter stream with its cap: the newest entries stay. -/
def Redis.addDead (w : Redis) (e : DeadEntry) : Redis :=
  { w with dead := ((w.dead ++ [e]).reverse.take defaultDeadMaxLen).reverse }

/-- `XDEL` from the stream. -/
def Redis.xdel (w : Redis) (entryID : ℕ) : Redis :=
  { w with stream := w.stream.filter fun e => e.id ≠ entryID }

/-- `HSET` of a claim record, or its removal. -/
def Redis.setClaim (w : Redis) (jobID : UUID) (c : Option (ℕ × Job)) : Redis :=
  { w with claims := Function.update w.claims jobID c }

/-- What a command does to the keys. -/
def Redis.after (w : Redis) : Command → Redis
  | .xadd values => w.xadd values
  | .zadd m score => w.zadd m score
  | .zrem m => w.zrem m
  | .record entryID job => w.setClaim job.jobID (some (entryID, job))
  | .retire completes jobID entryID =>
    let w := (w.xdel entryID).setClaim jobID none
    { w with completed := if completes then jobID :: w.completed else w.completed }
  | .deadLetter job reason =>
    let w := w.addDead { values := jobFields job, lastError := reason }
    { w with deadLettered := job.jobID :: w.deadLettered }
  | .discard entry reason =>
    (w.addDead { values := entry.values, entryID := some entry.id, lastError := reason }).xdel
      entry.id
  | .expire jobID => w.setClaim jobID none
  | _ => w

/-- How a command is answered, where that is one of the choices that it has. -/
def Redis.answer (w : Redis) : (o : Command) → Pick → Option o.Answer
  | .newUUID, .uuid u => some u
  | .now, .time t => some t
  | .zrangeDue max, .due ms =>
    if ms.length ≤ promoteBatch ∧ ∀ m ∈ ms, ∃ d ∈ w.delayed, d.1 = m ∧ d.2 ≤ max then some ms
    else none
  | .zrem m, .plain => some (w.delayed.any fun d => d.1 = m : Bool)
  | .xautoclaim _, .entry e => if ∀ entry ∈ e, entry ∈ w.stream then some e else none
  | .xreadgroup _, .entry e => if ∀ entry ∈ e, entry ∈ w.stream then some e else none
  | .hgetall jobID, .plain => some (w.claims jobID)
  | .hgetall _, .unread => some none
  | .xadd _, .plain | .zadd _ _, .plain | .record _ _, .plain | .retire _ _ _, .plain
  | .deadLetter _ _, .plain | .discard _ _, .plain | .expire _, .plain => some ()
  | _, _ => none

/-- A command that is answered has run once: that the client sends it again by itself is left
out. -/
def Redis.handle (w : Redis) (o : Command) (t : Pick) : Option (o.Answer × Redis) :=
  (w.answer o t).map fun a => (a, w.after o)

lemma Redis.handle_eq_some {w w' : Redis} {o : Command} {t : Pick} {a : o.Answer} :
    w.handle o t = some (a, w') ↔ w.answer o t = some a ∧ w' = w.after o := by
  unfold Redis.handle
  simp only [Option.map_eq_some_iff, Prod.mk.injEq]
  constructor
  · rintro ⟨_, ha, rfl, rfl⟩
    exact ⟨ha, rfl⟩
  · rintro ⟨ha, rfl⟩
    exact ⟨a, ha, rfl, rfl⟩

end NexusAgent.Queue
