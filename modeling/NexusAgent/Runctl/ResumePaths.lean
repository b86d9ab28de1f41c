import NexusAgent.Runctl.Control
import NexusAgent.Tools.Vetting

/-!
# The paths that drive a session on

Five components drive a session on from what is stored of it: `Resume` and `ResumeConversation`
of the run control (`internal/runctl/resume.go`, `converse.go`; the latter queues a job that a
worker hands to the former), the resumer of approvals (`internal/oversight/resume.go`), the resume
of a parent by its child (`internal/delegate/resolve.go`) and the agent step of a plan
(`internal/plan/steps.go`). Each loads the session, restores its taint in the pipeline of its
process, or does not, configures the kernel from the session's row, and calls it.

- `drive_eq`: the configuration and the pipeline of a path that goes on.
-/

namespace NexusAgent.Control

open EventLog Kernel Permissions Tools

/-- What the drivers of a process are set up with. -/
structure Service where
  system : String := ""
  catalog : List ToolSchema := []
  maxTurns : ℤ := 0

/-- The columns of a session's row that a run is configured from. -/
structure Columns where
  autonomyLevel : String
  routeModelID : String
  conversational : Bool

def config : Entry → RunConfig
  | .run cfg | .resume cfg _ | .resumeDelegation cfg _ | .continueRun cfg
  | .resumeConversation cfg _ => cfg

section Paths

variable (svc : Service) (sessionID : UUID) (sess : Columns) (r : Row) (p : Pipeline)

/-- `SeedTaint` with what `RehydrateTaint` reads from the log. -/
def seedFromLog : Pipeline :=
  p.seedTaint sessionID sess.autonomyLevel (rehydrateTaint r.log.events)

/-- `Resume` of the run control, for the claims that are in flight. -/
def resumeRun (claimIDs : List UUID) : Except String Entry × Pipeline :=
  if claimIDs ≠ [] then
    (.error ("runctl: session " ++ sessionID.string ++ " has " ++ toString claimIDs.length ++
      " unresolved claim(s); resolve them (ResolveClaim) before resuming"), p)
  else
    let p := seedFromLog sessionID sess r p
    if r.status.terminal then
      (.error ("runctl: session " ++ sessionID.string ++ " is already terminal (" ++
        statusText r.status ++ "); nothing to resume"), p)
    else if r.status = .suspended then
      (.error ("runctl: session " ++ sessionID.string ++
        " is suspended on a pending approval or input request; resolve it (internal/oversight)" ++
        " rather than calling Resume"), p)
    else if r.status = .awaitingInput then
      (.error ("runctl: session " ++ sessionID.string ++
        " is awaiting the next conversation turn; call ResumeConversation with the new message" ++
        " rather than Resume"), p)
    else
      (.ok (.continueRun { system := svc.system, catalog := svc.catalog, maxTurns := svc.maxTurns
                           autonomyLevel := sess.autonomyLevel, modelID := sess.routeModelID
                           conversational := sess.conversational }), p)

/-- `ResumeConversation` of the run control, and `Resume` by the worker of the job it queues. -/
def resumeConversation (input : String) (script : List (Option UUID)) (claimIDs : List UUID) :
    Except String Entry × Pipeline :=
  match UnitOfWork.commit storeError (converse sessionID input) script r with
  | (.error err, _) => (.error err, p)
  | (.ok _, r) => resumeRun svc sessionID sess r p claimIDs

/-- `resume` of the approvals' resumer, which reads only the autonomy level of the row. -/
def resumeApproval (res : PendingResolution) : Except String Entry × Pipeline :=
  (.ok (.resume { system := svc.system, catalog := svc.catalog, maxTurns := svc.maxTurns
                  autonomyLevel := sess.autonomyLevel } res), seedFromLog sessionID sess r p)

/-- `resumeParent`, once it holds the lock. The pipeline is that after `finalize`, whose `FoldTaint`
has pinned the parent to `read_only` where the process had no state for it. -/
def resumeParent (res : DelegationResolution) : Except String Entry × Pipeline :=
  let p := seedFromLog sessionID sess r p
  if r.status ≠ .suspended then
    (.error ("delegate: parent session " ++ sessionID.string ++ " is " ++ statusText r.status ++
      ", not suspended; refusing to resume a delegation it isn't waiting on"), p)
  else
    (.ok (.resumeDelegation
      { system := svc.system, catalog := svc.catalog, maxTurns := svc.maxTurns
        autonomyLevel := sess.autonomyLevel, modelID := sess.routeModelID } res), p)

/-- `continueAgentStep`, which leaves the pipeline as it is. -/
def continueAgentStep : Except String Entry × Pipeline :=
  (.ok (.continueRun { system := svc.system, catalog := svc.catalog, maxTurns := svc.maxTurns
                       autonomyLevel := sess.autonomyLevel, modelID := sess.routeModelID }), p)

end Paths

/-- The five paths, with what each is given. -/
inductive ResumePath
  | resume (claimIDs : List UUID)
  | resumeConversation (input : String) (script : List (Option UUID)) (claimIDs : List UUID)
  | approval (res : PendingResolution)
  | delegation (res : DelegationResolution)
  | planStep

/-- What a path calls the kernel with, or why it does not, and the pipeline it leaves. -/
def ResumePath.drive (svc : Service) (sessionID : UUID) (sess : Columns) (r : Row) (p : Pipeline) :
    ResumePath → Except String Entry × Pipeline
  | .resume claimIDs => resumeRun svc sessionID sess r p claimIDs
  | .resumeConversation input script claimIDs =>
    Control.resumeConversation svc sessionID sess r p input script claimIDs
  | .approval res => resumeApproval svc sessionID sess r p res
  | .delegation res => resumeParent svc sessionID sess r p res
  | .planStep => continueAgentStep svc sess p

/-! ### What each path configures and seeds -/

def ResumePath.modelID (sess : Columns) : ResumePath → String
  | .approval _ => ""
  | _ => sess.routeModelID

/-- The conversation flag that a path takes from the row. -/
def ResumePath.conversational (sess : Columns) : ResumePath → Bool
  | .resume _ | .resumeConversation .. => sess.conversational
  | _ => false

def ResumePath.seeded (sessionID : UUID) (sess : Columns) (r : Row) (p : Pipeline) :
    ResumePath → Pipeline
  | .planStep => p
  | _ => seedFromLog sessionID sess r p

lemma rehydrateTaint_append_message {history : List (Event Payload)} {e : Event Payload}
    (h : e.type = .userMessage) : rehydrateTaint (history ++ [e]) = rehydrateTaint history := by
  have hfilter : (history ++ [e]).filter (fun e => e.type = .taintTransition) =
      history.filter fun e => e.type = .taintTransition := by
    simp [h]
  unfold rehydrateTaint
  rw [hfilter]

lemma resumeRun_eq {svc : Service} {sessionID : UUID} {sess : Columns} {r : Row} {p p' : Pipeline}
    {claimIDs : List UUID} {entry : Entry}
    (h : resumeRun svc sessionID sess r p claimIDs = (.ok entry, p')) :
    (config entry).modelID = sess.routeModelID ∧
      (config entry).autonomyLevel = sess.autonomyLevel ∧
      (config entry).conversational = sess.conversational ∧
      p' = seedFromLog sessionID sess r p := by
  unfold resumeRun at h
  split_ifs at h with hclaims hterminal hsuspended hawaiting
  · nomatch (Prod.mk.inj h).1
  · nomatch (Prod.mk.inj h).1
  · nomatch (Prod.mk.inj h).1
  · nomatch (Prod.mk.inj h).1
  · obtain ⟨hentry, rfl⟩ := Prod.mk.inj h
    obtain rfl := Except.ok.inj hentry
    exact ⟨rfl, rfl, rfl, rfl⟩

theorem drive_eq {svc : Service} {sessionID : UUID} {sess : Columns} {r : Row} {p p' : Pipeline}
    {path : ResumePath} {entry : Entry}
    (h : path.drive svc sessionID sess r p = (.ok entry, p')) :
    (config entry).modelID = path.modelID sess ∧
      (config entry).autonomyLevel = sess.autonomyLevel ∧
      (config entry).conversational = path.conversational sess ∧
      p' = path.seeded sessionID sess r p := by
  cases path with
  | resume claimIDs => exact resumeRun_eq h
  | resumeConversation input script claimIDs =>
    have h : Control.resumeConversation svc sessionID sess r p input script claimIDs = _ := h
    unfold Control.resumeConversation at h
    rcases UnitOfWork.commit_cases storeError (converse sessionID input) script r with
      ⟨e, hc⟩ | ⟨u, r', script', hc, hrun⟩ <;> rw [hc] at h
    · nomatch (Prod.mk.inj h).1
    · -- the message that was added carries no legs
      obtain ⟨-, -, e, hevents, htype⟩ := converse_ok hrun
      have hseed : seedFromLog sessionID sess r' p = seedFromLog sessionID sess r p := by
        unfold seedFromLog
        rw [hevents, rehydrateTaint_append_message htype]
      obtain ⟨hmodel, hlevel, hflag, hp⟩ := resumeRun_eq h
      exact ⟨hmodel, hlevel, hflag, hp.trans hseed⟩
  | approval | planStep =>
    obtain ⟨hentry, rfl⟩ := Prod.mk.inj h
    obtain rfl := Except.ok.inj hentry
    exact ⟨rfl, rfl, rfl, rfl⟩
  | delegation res =>
    have h : resumeParent svc sessionID sess r p res = _ := h
    unfold resumeParent at h
    split_ifs at h
    · nomatch (Prod.mk.inj h).1
    · obtain ⟨hentry, rfl⟩ := Prod.mk.inj h
      obtain rfl := Except.ok.inj hentry
      exact ⟨rfl, rfl, rfl, rfl⟩

/-! ### Agreement -/

/-- Two paths that went on have configured the same model, level and flag, and the next tool call
of each finds the same state of the session. -/
structure Agree (sessionID : UUID) (entry entry' : Entry) (p p' : Pipeline) : Prop where
  modelID : (config entry).modelID = (config entry').modelID
  autonomyLevel : (config entry).autonomyLevel = (config entry').autonomyLevel
  conversational : (config entry).conversational = (config entry').conversational
  state : (p.stateFor sessionID (config entry).autonomyLevel).1 =
    (p'.stateFor sessionID (config entry').autonomyLevel).1

/-- The state that a tool call finds after the legs of the log were seeded. -/
lemma stateFor_seedTaint (p : Pipeline) (sessionID : UUID) (text : String) (engaged : TaintState) :
    ((p.seedTaint sessionID text engaged).stateFor sessionID text).1 =
      { (p.stateFor sessionID text).1 with
        taintState := (p.stateFor sessionID text).1.taintState ⊔ engaged } := by
  simp [Pipeline.seedTaint, Pipeline.stateFor, Pipeline.setSession]

/-- Seeding changes nothing exactly if the process already holds the legs of the log. -/
lemma stateFor_seedFromLog_eq_iff (sessionID : UUID) (sess : Columns) (r : Row) (p : Pipeline) :
    ((seedFromLog sessionID sess r p).stateFor sessionID sess.autonomyLevel).1 =
        (p.stateFor sessionID sess.autonomyLevel).1 ↔
      rehydrateTaint r.log.events ≤ (p.stateFor sessionID sess.autonomyLevel).1.taintState := by
  unfold seedFromLog
  rw [stateFor_seedTaint, ← sup_eq_left]
  constructor
  · intro h
    exact congrArg SessionState.taintState h
  · intro h
    rw [h]

/-- Whenever two of the five paths drive a session on, in whatever status each finds it, they
agree: exactly if the row names no model, the session is no conversation, and the process already
holds the legs of the log. -/
theorem resumePaths_agree_iff (svc : ResumePath → Service) (sessionID : UUID) (sess : Columns)
    (r : Row) (p : Pipeline) :
    (∀ (path path' : ResumePath) (status status' : SessionStatus) (entry entry' : Entry)
        (q q' : Pipeline),
        path.drive (svc path) sessionID sess { r with status } p = (.ok entry, q) →
        path'.drive (svc path') sessionID sess { r with status := status' } p = (.ok entry', q') →
        Agree sessionID entry entry' q q') ↔
      sess.routeModelID = "" ∧ sess.conversational = false ∧
        rehydrateTaint r.log.events ≤ (p.stateFor sessionID sess.autonomyLevel).1.taintState := by
  constructor
  · intro hall
    let res : PendingResolution :=
      { toolUseEventID := 0, toolID := "", input := "", decision := .denied }
    have happroval := hall (.approval res) (.resume []) .running .running _ _ _ _ rfl rfl
    have hplan := hall (.resume []) .planStep .running .running _ _ _ _ rfl rfl
    refine ⟨happroval.modelID.symm, happroval.conversational.symm, ?_⟩
    exact (stateFor_seedFromLog_eq_iff sessionID sess _ p).1 hplan.state
  · rintro ⟨hmodel, hflag, hlegs⟩ path path' status status' entry entry' q q' h h'
    have hmodelID (path : ResumePath) : path.modelID sess = "" := by
      cases path <;> first | rfl | exact hmodel
    have hconversational (path : ResumePath) : path.conversational sess = false := by
      cases path <;> first | rfl | exact hflag
    have hstate (path : ResumePath) (status : SessionStatus) :
        ((path.seeded sessionID sess { r with status } p).stateFor sessionID
          sess.autonomyLevel).1 = (p.stateFor sessionID sess.autonomyLevel).1 := by
      cases path <;>
        first | rfl | exact (stateFor_seedFromLog_eq_iff sessionID sess _ p).2 hlegs
    obtain ⟨hm, ha, hc, rfl⟩ := drive_eq h
    obtain ⟨hm', ha', hc', rfl⟩ := drive_eq h'
    constructor
    · rw [hm, hm', hmodelID, hmodelID]
    · rw [ha, ha']
    · rw [hc, hc', hconversational, hconversational]
    · rw [ha, ha', hstate, hstate]

/-! ### A conversation that has read untrusted text -/

def conversation : Columns :=
  { autonomyLevel := "supervised", routeModelID := "model-a", conversational := true }

/-- Its log: a tool call engaged a leg. -/
def taintedRow : Row :=
  { status := .running
    log :=
      { events := [{ eventID := 1, sessionID := 1, type := .taintTransition, actor := .system
                     payload := .taintTransition { untrustedInput := true } .toolCall }]
        nodup_eventID := by simp } }

/-- A process that has not seen it. -/
def restarted : Pipeline := filePipeline fun _ _ => .ok []

/-- What a path goes on with: the model, the flag, and the legs that the next tool call finds. -/
def goesOn (path : ResumePath) : Option (String × Bool × TaintState) :=
  match path.drive {} 1 conversation taintedRow restarted with
  | (.ok entry, p) =>
    some ((config entry).modelID, (config entry).conversational,
      (p.stateFor 1 (config entry).autonomyLevel).1.taintState)
  | (.error _, _) => none

/-- A worker goes on with the session as it is stored; after an approval the model is missing and
the session is no conversation; the step of a plan does without the legs. -/
theorem conversation_paths_differ :
    goesOn (.resume []) = some ("model-a", true, { untrustedInput := true }) ∧
    goesOn (.approval { toolUseEventID := 4, toolID := "files/write@1", input := ""
                        decision := .granted }) =
      some ("", false, { untrustedInput := true }) ∧
    goesOn .planStep = some ("model-a", false, {}) := by
  refine ⟨?_, ?_, ?_⟩ <;> decide +kernel

end NexusAgent.Control
