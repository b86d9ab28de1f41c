import NexusAgent.Kernel.Rules

/-!
# What a kernel call writes, and in which order

Whatever its surroundings answer, a kernel call keeps to one order of writes. It works:
appends events, writes statuses that are not terminal, executes tools. A tool call that
changed the session's taint owes a taint transition with exactly the legs of its result, and
no other tool is executed before it is written. When the call ends the run it appends one
terminal event, then writes the status that belongs to it, and writes nothing after that. All
of its writes are about its own session.
-/

namespace NexusAgent.Kernel

open EventLog Provider Routine Permissions

/-- How far a kernel call has come in ending the run. -/
inductive Phase
  | working
  /-- The terminal event is appended and its status not yet written. -/
  | ending (status : SessionStatus)
  /-- The terminal event and its status are written. -/
  | ended
  /-- The terminal event is appended, and the write of its status failed. -/
  | cut

/-- Whether the status of a terminal event is to be written next. -/
def Phase.isEnding : Phase → Bool
  | .ending _ => true
  | _ => false

structure Stage where
  phase : Phase := .working
  /-- The legs of a tool result that changed the taint and has not been recorded. -/
  due : Option TaintState := none

/-- The status that belongs to a terminal payload. -/
def Payload.endStatus : Payload → SessionStatus
  | .terminal reason _ => Terminal.status { reason }
  | _ => .failed

def Stage.append (g : Stage) (d : Draft) : Stage :=
  if d.type = .terminal then { g with phase := .ending d.payload.endStatus }
  else if d.type = .taintTransition then { g with due := none }
  else g

def Stage.statusWritten (g : Stage) (err : Option String) : Stage :=
  if g.phase.isEnding then { g with phase := if err.isNone then .ended else .cut } else g

def Stage.executed (g : Stage) (r : ToolResult) : Stage :=
  { g with due := if r.taintChanged then some r.taintEngaged else none }

/-- The order of writes of a kernel call on the session `sid`. -/
def discipline (sid : UUID) : Protocol Stage Op Op.Answer where
  admits g
    | .append d =>
      g.phase = .working ∧ d.sessionID = sid ∧
        (d.type = .taintTransition →
          ∃ t, g.due = some t ∧ d.payload = .taintTransition t .toolCall)
    | .setStatus id status _ =>
      id = sid ∧
        match g.phase with
        | .working => status.terminal = false
        | .ending expected => status = expected
        | .ended | .cut => False
    | .stream .. => g.phase = .working
    | .execute _ rc => g.phase = .working ∧ g.due = none ∧ rc.sessionID = sid
    | _ => g.phase.isEnding = false
  step g
    | .append d, answer, g' =>
      match answer with
      | .ok _ => g' = g.append d
      | .error _ => g' = g
    | .setStatus .., err, g' => g' = g.statusWritten err
    | .execute .., r, g' => g' = g.executed r
    | _, _, g' => g' = g

variable {sid : UUID} {α β : Type}

/-- A call may be over unless the status of a terminal event is still to be written. -/
def Stage.MayStop (g : Stage) : Prop := g.phase.isEnding = false

lemma quiet_discipline {g : Stage} (h : g.MayStop) : Quiet (discipline sid) g := by
  intro o ho
  -- an observed request is excluded by `ho`, the others all have the same clause
  cases o <;> first | exact ho.elim | exact ⟨h, fun _ _ hst => hst⟩

/-- Nothing is due, in the session `sid`. -/
structure Clear (sid : UUID) (s : RunState) (g : Stage) : Prop where
  session : s.sessionID = sid
  stage : g = {}

lemma quietly_discipline (sid : UUID) :
    Quietly (discipline sid) (fun type => type ≠ .terminal ∧ type ≠ .taintTransition)
      (fun status => status.terminal = false) (Clear sid) Stage.MayStop where
  quiet := by
    rintro s g ⟨-, rfl⟩
    exact ⟨quiet_discipline rfl, rfl⟩
  append := by
    rintro s g ⟨rfl, rfl⟩ d ⟨hterm, htaint⟩ hd
    refine ⟨⟨rfl, hd, fun h => absurd h htaint⟩, ?_, fun eventID seq g hst => ?_⟩
    · rintro e g rfl
      exact ⟨quiet_discipline rfl, rfl⟩
    · have hstage : Stage.append {} d = {} := (if_neg hterm).trans (if_neg htaint)
      exact ⟨rfl, Eq.trans hst hstage⟩
  setStatus := by
    rintro s g ⟨rfl, rfl⟩ status hstatus reason
    exact ⟨⟨rfl, hstatus⟩, fun err g hst => ⟨rfl, hst⟩⟩

/-! ### Ending a run -/

lemma Terminal.status_terminal (t : Terminal) : t.status.terminal = true := by
  unfold Terminal.status
  split <;> rfl

/-- The terminal event and its status are the last writes of a call. -/
lemma keeps_terminate (t : Terminal) :
    Keeps (discipline sid) (Clear sid) (terminate t : Call α) Stage.MayStop := by
  rintro s _ ⟨hs, rfl⟩
  refine wp_bind.2 (wp_appendEvent ⟨rfl, hs, fun h => nomatch h⟩ ?_ ?_)
  · rintro e g rfl
    exact ⟨quiet_discipline rfl, rfl⟩
  rintro eventID seq g hst
  -- the call is now in the phase `ending`, which admits the status write only
  obtain rfl : g = { phase := .ending t.status } := hst
  refine wp_bind.2 (wp_bind.2 (wp_get.2 (wp_request.2 ⟨⟨hs, rfl⟩, fun err g hst => ?_⟩)))
  match err with
  | some err =>
    obtain rfl : g = { phase := .cut } := hst
    exact wp_fail (quiet_discipline rfl) rfl
  | none =>
    obtain rfl : g = { phase := .ended } := hst
    refine wp_bind.2 (wp_unobserved (quiet_discipline rfl) trivial fun _ => ?_)
    exact wp_yield_stop (quiet_discipline rfl) rfl

/-- A request that is not about the order of writes. -/
lemma keeps_aside {o : Op} (hadm : (discipline sid).admits {} o)
    (hstep : ∀ a g, (discipline sid).step {} o a g → g = {}) :
    Keeps (discipline sid) (Clear sid) (request o : Call o.Answer) Stage.MayStop := by
  rintro s _ ⟨hs, rfl⟩
  exact wp_request.2 ⟨hadm, fun a g hst => ⟨hs, hstep a g hst⟩⟩

/-- The order of writes is kept by whole calls. -/
lemma disciplined (sid : UUID) :
    Pervasive (discipline sid) (Clear sid) (fun _ => Clear sid) Stage.MayStop where
  toInvariant := by
    apply (quietly_discipline sid).invariant fun _ h => by simp_all [Plain]
    exact fun h hs => ⟨hs.session.trans h.session, h.stage⟩
  fail := (quietly_discipline sid).fail none
  running := (quietly_discipline sid).updateStatus rfl none
  terminate := keeps_terminate
  suspendForUserInput := (quietly_discipline sid).suspendForUserInput (by decide) rfl
  suspendForApproval := (quietly_discipline sid).suspendForApproval (by decide) rfl fun r =>
    keeps_aside (o := .recordSuspension r) rfl fun _ _ hst => hst
  suspendForDelegation := (quietly_discipline sid).suspendForDelegation (by decide) rfl fun r =>
    keeps_aside (o := .recordDelegation r) rfl fun _ _ hst => hst

/-! ### Tool calls -/

/-- A tool call whose result changed the taint pays what it owes before anything else can end
or suspend the run. -/
lemma keeps_dispatchCall (cfg : RunConfig) (tu : ToolUseRequest) (toolUse : Event Payload) :
    Keeps (discipline sid) (Clear sid) (dispatchCall cfg tu toolUse) Stage.MayStop := by
  rintro s _ ⟨hs, rfl⟩
  refine wp_bind.2 (wp_get.2 (wp_ask ⟨rfl, rfl, hs⟩ fun result g hst => ?_))
  obtain rfl : g = Stage.executed {} result := hst
  -- the result is appended while the transition may be due
  refine wp_bind.2 (wp_appendEvent ⟨rfl, hs, fun h => nomatch h⟩ ?_ ?_)
  · rintro e g rfl
    exact ⟨quiet_discipline rfl, rfl⟩
  rintro eventID seq g hst
  obtain rfl : g = Stage.executed {} result := hst
  refine wp_bind.2 (wp_emit (quiet_discipline rfl) rfl (wp_bind.2 ?_))
  -- what follows the transition starts with nothing due
  have hrest := (disciplined sid).afterResult tu toolUse result
  refine wp_when (fun hchanged => ?_) fun hchanged => ?_
  · have hdue : Stage.executed {} result = { due := some result.taintEngaged } := by
      show ({ due := if result.taintChanged then _ else none } : Stage) = _
      rw [if_pos hchanged]
    rw [hdue]
    refine wp_bind.2 (wp_appendEvent ⟨rfl, hs, fun _ => ⟨_, rfl, rfl⟩⟩ ?_ ?_)
    · rintro e g rfl
      exact ⟨quiet_discipline rfl, rfl⟩
    rintro eventID seq g hst
    obtain rfl : g = {} := hst
    exact wp_emit (quiet_discipline rfl) rfl (hrest _ _ ⟨hs, rfl⟩)
  · have hdue : Stage.executed {} result = {} := by
      show ({ due := if result.taintChanged then _ else none } : Stage) = _
      rw [hchanged]
      rfl
    rw [hdue]
    exact hrest _ _ ⟨hs, rfl⟩

/-! ### Kernel calls -/

/-- A call under way keeps to the order of writes from stage `g` on. -/
def Disciplined (sid : UUID) (p : Live) (g : Stage) : Prop :=
  p.Follows (discipline sid) g fun _ g' => g'.MayStop

/-- Every kernel call keeps to the order of writes. -/
theorem Entry.follows_discipline (k : Kernel) (tenantID sid : UUID)
    (history : List (Event Payload)) (entry : Entry) :
    Disciplined sid (entry.start k tenantID sid history) {} := by
  have hbudget {o : Op} (ho : o.Budgeting) :
      Keeps (discipline sid) (Clear sid) (request o : Call o.Answer) Stage.MayStop := by
    cases o <;> first | exact ho.elim | exact keeps_aside rfl fun _ _ hst => hst
  have hturn := (disciplined sid).turn hbudget
    (fun p tools => keeps_aside (o := .stream p tools) rfl fun _ _ hst => hst) keeps_dispatchCall k
  exact (disciplined sid).follows k hturn (fun s _ hs => ⟨hs, rfl⟩) history entry

end NexusAgent.Kernel
