import NexusAgent.Lib.Machine
import NexusAgent.Runctl.Claims
import NexusAgent.Tools.Pipeline

/-!
# An effect runs at most once

The tail of the pipeline (`finishCall` in `internal/tools/dispatch.go`) opens a claim, calls
the tool and completes the claim, as three separate steps: two units of work on the ledger
with the call in between. Any number of calls, in any number of processes, interleave at
those steps; each can crash between them, retries are further calls, and an operator may
resolve claims at any time.

- `Inv.step`: for each session and digest, the calls made and the calls about to be made
  number at most one, and one only when the ledger holds a claim.
-/

namespace NexusAgent.Runctl

open EventLog Tools Permissions
open UnitOfWork (bind_ok pure_ok statement_ok throw_ok commit_cases)

/-! ### The tail of the pipeline -/

/-- A tool whose effect needs a claim. -/
def nonReadOnly (d : Dispatch) : Prop := d.tool.descriptor.effectClass ≠ .readOnly

instance (d : Dispatch) : Decidable (nonReadOnly d) := inferInstanceAs (Decidable (_ ≠ _))

def keyOf (d : Dispatch) : ClaimKey := (d.inv.sessionID, d.digest)

/-- What `Tool.Call` returns: its result, or the text of its error or panic. -/
abbrev Called := Except String CallResult

/-- Where a call stands in `finishCall`. -/
inductive Stage
  | opening
  /-- About to call the tool, under a claim for effects that need one. -/
  | calling (claimID : Option UUID)
  | completing (claimID : UUID) (out : Called)
  /-- About to run the hooks and budget the result. -/
  | emitting (out : Called)
  | returned (r : ExecuteResult)

structure Thread where
  dispatch : Dispatch
  stage : Stage

/-- A call that enters `finishCall`; a read-only tool never touches the ledger. -/
def Thread.start (d : Dispatch) : Thread where
  dispatch := d
  stage := if nonReadOnly d then .opening else .calling none

/-- The answer to a claim that is not fresh. -/
def refusal (claimID : UUID) : ClaimOutcome → Option ExecuteResult
  | .ambiguous =>
    some (errorResult ("effect_claim_in_flight: an earlier attempt at this exact call (" ++
      UUID.string claimID ++ ") is unresolved and must be resolved — probe or human, " ++
      "never re-executed — before this can run again"))
  | .done =>
    some (errorResult ("effect_claim_already_completed: this exact call already ran once " ++
      "(claim " ++ UUID.string claimID ++ "); not re-executed"))
  | .fresh => none

def ClaimErr.text : ClaimErr → String
  | .store => "store"
  | .notFound => "not found"
  | .status => "status must be completed or abandoned"

def joinReason (existing addition : String) : String :=
  if existing = "" then addition else existing ++ "; " ++ addition

/-- Steps 14 to 16: the hooks after the call and the budgeted output. -/
def emit (d : Dispatch) (out : Called) (post : HookOutcome)
    (budget : String → Except String String) : ExecuteResult :=
  match out with
  | .error e => errorResult ("tool_error: " ++ e)
  | .ok out =>
    match out.awaitingChildSessionID with
    | some child =>
      { awaitingDelegation := true, childSessionID := some child
        effectClass := d.tool.descriptor.effectClass.text }
    | none =>
      if post.decision = .deny then
        { isError := true
          reason := "result withheld by a post_tool_use hook: " ++ post.reason }
      else
        let reason := if post.decision = .ask then
            joinReason out.reason
              ("flagged for review by a post_tool_use hook: " ++ post.reason)
          else out.reason
        match budget out.output with
        | .error e => errorResult ("result_budget_error: " ++ e)
        | .ok output => { output, isError := out.isError, reason }

/-- What happens to a call in its next step, as far as the call does not decide it. -/
inductive Move
  /-- The unit of work of `Open` meets these faults. -/
  | openClaim (script : List (Option UUID))
  | callTool (out : Called)
  /-- The unit of work of `Complete` meets these faults. -/
  | completeClaim (script : List (Option UUID))
  | emit (post : HookOutcome) (budget : String → Except String String)

/-- Whether a call failed, and the reason `Complete` records. -/
def failureOf : Called → Bool × String
  | .error e => (true, e)
  | .ok out => (out.isError, out.reason)

def Move.runsTool : Move → Bool
  | .callTool _ => true
  | _ => false

def Thread.goto (t : Thread) (stage : Stage) : Thread := { t with stage }

def Thread.return (t : Thread) (r : ExecuteResult) : Thread :=
  t.goto (.returned { r with taintChanged := t.dispatch.taintChanged
                             taintEngaged := t.dispatch.taintEngaged })

/-- One step of `finishCall`. A completion that fails is only logged. -/
def Thread.step (db : Ledger) (t : Thread) : Move → Option (Ledger × Thread)
  | .openClaim script =>
    match t.stage with
    | .opening =>
      let d := t.dispatch
      match openClaim d.inv.tenantID (keyOf d) d.ref.string script db with
      | (.error e, db) => some (db, t.return (errorResult ("claim_error: " ++ e.text)))
      | (.ok (claimID, outcome), db) =>
        match refusal claimID outcome with
        | some r => some (db, t.return r)
        | none => some (db, t.goto (.calling (some claimID)))
    | _ => none
  | .callTool out =>
    match t.stage with
    | .calling (some claimID) =>
      some (db, t.goto (if claimID ≠ 0 then .completing claimID out else .emitting out))
    | .calling none => some (db, t.goto (.emitting out))
    | _ => none
  | .completeClaim script =>
    match t.stage with
    | .completing claimID out =>
      let d := t.dispatch
      let (failed, reason) := failureOf out
      some ((complete d.inv.tenantID d.inv.sessionID claimID failed reason script db).2,
        t.goto (.emitting out))
    | _ => none
  | .emit post budget =>
    match t.stage with
    | .emitting out => some (db, t.return (Runctl.emit t.dispatch out post budget))
    | _ => none

/-! ### Runs -/

/-- A run of `Tool.Call`: for which session and digest, and with which effect. -/
structure ToolRun where
  key : ClaimKey
  effectClass : EffectClass
  deriving DecidableEq

/-- The ledger, the calls in progress, and the tool runs so far. -/
structure System where
  ledger : Ledger
  threads : List Thread
  runs : List ToolRun

/-- A step of the system. The pipeline of a call is the state of whichever process serves
it. -/
inductive Action
  | execute (p : Pipeline) (env : ExecuteEnv) (inv : Invocation)
  | executeApproved (p : Pipeline) (inv : Invocation) (approvedDigest : Digest)
  | move (i : ℕ) (m : Move)
  | crash (i : ℕ)
  | resolveClaim (tenantID sessionID claimID : UUID) (status : ClaimStatus) (reason : String)
      (script : List (Option UUID))

def System.spawn (s : System) (d : Dispatch) : System :=
  { s with threads := s.threads ++ [Thread.start d] }

def runsOf (t : Thread) (m : Move) : List ToolRun :=
  if m.runsTool then [⟨keyOf t.dispatch, t.dispatch.tool.descriptor.effectClass⟩] else []

/-- Calls with a wired ledger, under every interleaving. -/
def pipelines : Machine System Action where
  step s
    | .execute p env inv =>
      match (p.execute env inv).1 with
      | .inl _ => some s
      | .inr d => some (s.spawn d)
    | .executeApproved p inv approvedDigest =>
      match (p.executeApproved inv approvedDigest).1 with
      | .inl _ => some s
      | .inr d => some (s.spawn d)
    | .move i m =>
      match s.threads[i]? with
      | none => none
      | some t =>
        (t.step s.ledger m).map fun (ledger, t') =>
          { ledger, threads := s.threads.set i t', runs := s.runs ++ runsOf t m }
    | .crash i => some { s with threads := s.threads.eraseIdx i }
    | .resolveClaim tenantID sessionID claimID status reason script =>
      some { s with ledger := (resolve tenantID sessionID claimID status reason script
                                s.ledger).2 }

/-- No call has been made. -/
def System.initial : System := { ledger := ⟨∅, Log.empty⟩, threads := [], runs := [] }

/-! ### What the ledger's units of work do -/

variable {toolID : String} {tenantID : UUID} {claim : Claim} {t : Thread} {s : System}

section Ledger

variable {db db' : Ledger} {script script' : List (Option UUID)} {k : ClaimKey}

lemma appendClaimEvent_ok {sessionID : UUID} {type : EventType} {payload : ClaimPayload} {u : Unit}
    (h : appendClaimEvent sessionID type toolID payload (db, script) =
      .ok (u, (db', script'))) : db'.claims = db.claims := by
  obtain ⟨log, e, rfl, -⟩ := appendSystem_ok h
  rfl

/-- An insert creates a claim under a key that had none, or finds the key taken. -/
lemma insertClaim_ok {r : Option Claim}
    (h : insertClaim tenantID k toolID (db, script) = .ok (r, (db', script'))) :
    (r = none ∧ db' = db) ∨
      ∃ claim, r = some claim ∧ k ∉ db.claims ∧ db'.claims = db.claims.insert k claim := by
  obtain ⟨claimID, -, hf⟩ := statement_ok.1 h
  cases hrow : db.claims.lookup k with
  | some row =>
    simp only [hrow, Except.ok.injEq, Prod.mk.injEq] at hf
    exact .inl ⟨hf.1.symm, hf.2.symm⟩
  | none =>
    simp only [hrow] at hf
    split at hf
    · nomatch hf
    · cases hf
      exact .inr ⟨_, rfl, AList.lookup_eq_none.1 hrow, rfl⟩

lemma selectClaim_ok (h : selectClaim tenantID k (db, script) = .ok (claim, (db', script'))) :
    db' = db := by
  obtain ⟨i, -, hf⟩ := statement_ok.1 h
  split at hf
  · cases hf
    rfl
  · nomatch hf

/-- A claim reported as created stands under a key that had none. -/
lemma openWork_ok {created : Bool}
    (h : openWork tenantID k toolID (db, script) = .ok ((claim, created), (db', script'))) :
    (created = false ∧ db' = db) ∨
      (created = true ∧ k ∉ db.claims ∧ db'.claims = db.claims.insert k claim) := by
  obtain ⟨⟨claim₁, created₁⟩, ⟨db₁, mid⟩, hfind, hrest⟩ := bind_ok.1 h
  obtain ⟨found, ⟨db₂, mid'⟩, hins, hcont⟩ := bind_ok.1 hfind
  rcases insertClaim_ok hins with ⟨rfl, rfl⟩ | ⟨claim₂, rfl, hfresh, hrows⟩
  · obtain ⟨claim₂, ⟨db₃, mid''⟩, hsel, hret⟩ := bind_ok.1 hcont
    obtain rfl := selectClaim_ok hsel
    obtain ⟨⟨⟩, rfl, rfl⟩ := pure_ok.1 hret
    obtain ⟨⟨⟩, rfl, rfl⟩ := pure_ok.1 hrest
    exact .inl ⟨rfl, rfl⟩
  · obtain ⟨⟨⟩, rfl, rfl⟩ := pure_ok.1 hcont
    obtain ⟨u, ⟨db₃, mid''⟩, happ, hret⟩ := bind_ok.1 hrest
    obtain ⟨⟨⟩, rfl, rfl⟩ := pure_ok.1 hret
    exact .inr ⟨rfl, hfresh, (appendClaimEvent_ok happ).trans hrows⟩

/-- What opening a claim can do: only a key without a claim is answered `fresh`, and then
holds one. -/
theorem openClaim_cases (tenantID : UUID) (k : ClaimKey) (toolID : String)
    (script : List (Option UUID)) (db : Ledger) :
    (∃ e, openClaim tenantID k toolID script db = (.error e, db)) ∨
    (∃ claimID outcome, outcome ≠ .fresh ∧
      openClaim tenantID k toolID script db = (.ok (claimID, outcome), db)) ∨
    ∃ claim db', k ∉ db.claims ∧ db'.claims = db.claims.insert k claim ∧
      openClaim tenantID k toolID script db = (.ok (claim.claimID, .fresh), db') := by
  unfold openClaim
  rcases commit_cases .store (openWork tenantID k toolID) script db with
    ⟨e, hc⟩ | ⟨⟨claim, created⟩, db', script', hc, hwork⟩
  · rw [hc]
    exact .inl ⟨e, rfl⟩
  · rw [hc]
    rcases openWork_ok hwork with ⟨rfl, rfl⟩ | ⟨rfl, hfresh, hrows⟩
    · refine .inr (.inl ⟨claim.claimID, outcomeOf claim false, ?_, rfl⟩)
      cases hst : claim.status <;> simp [outcomeOf, hst]
    · exact .inr (.inr ⟨claim, db', hfresh, hrows, rfl⟩)

lemma updateClaim_ok {claimID : UUID} {status : ClaimStatus} {reason : String} {u : Unit}
    (h : updateClaim claimID status reason (db, script) = .ok (u, (db', script'))) :
    k ∈ db'.claims ↔ k ∈ db.claims := by
  obtain ⟨i, -, hf⟩ := statement_ok.1 h
  split at hf
  next key claim hfind =>
    cases hf
    have hkey : key ∈ db.claims :=
      AList.mem_keys.2 (List.mem_map.2 ⟨_, List.mem_of_find?_eq_some hfind, rfl⟩)
    rw [AList.mem_insert]
    constructor
    · rintro (rfl | hmem)
      · exact hkey
      · exact hmem
    · exact .inr
  next =>
    cases hf
    rfl

lemma claimByID_ok {claimID : UUID}
    (h : claimByID tenantID claimID (db, script) = .ok (claim, (db', script'))) : db' = db := by
  obtain ⟨i, -, hf⟩ := statement_ok.1 h
  split at hf
  · cases hf
    rfl
  · nomatch hf

/-- Resolving a claim neither adds nor removes one. -/
lemma mem_resolve (tenantID sessionID claimID : UUID) (status : ClaimStatus)
    (reason : String) (script : List (Option UUID)) (db : Ledger) (k : ClaimKey) :
    k ∈ (resolve tenantID sessionID claimID status reason script db).2.claims ↔
      k ∈ db.claims := by
  unfold resolve
  rcases commit_cases .store
      (resolveWork tenantID sessionID claimID status reason) script db with
    ⟨e, hc⟩ | ⟨claim, db', script', hc, hwork⟩
  · rw [hc]
  · rw [hc]
    obtain ⟨claim₁, ⟨db₁, mid⟩, hres, hrest⟩ := bind_ok.1 hwork
    obtain ⟨u, ⟨db₂, mid'⟩, happ, hret⟩ := bind_ok.1 hrest
    obtain ⟨rfl, rfl, rfl⟩ := pure_ok.1 hret
    unfold resolveClaim at hres
    by_cases hst : status = .inFlight
    · rw [if_pos hst] at hres
      exact absurd hres throw_ok
    · rw [if_neg hst] at hres
      obtain ⟨u', ⟨db₃, mid''⟩, hupd, hsel⟩ := bind_ok.1 hres
      obtain rfl := claimByID_ok hsel
      rw [appendClaimEvent_ok happ]
      exact updateClaim_ok hupd

end Ledger

/-! ### Runs made and runs due -/

/-- Whether a call is about to run an effect under the key `k`. -/
def Thread.due (k : ClaimKey) (t : Thread) : Bool :=
  decide (keyOf t.dispatch = k ∧ nonReadOnly t.dispatch) &&
    match t.stage with
    | .calling _ => true
    | _ => false

/-- Whether a tool run is an effect under the key `k`. -/
def ToolRun.effectOn (k : ClaimKey) (r : ToolRun) : Bool :=
  decide (r.key = k ∧ r.effectClass ≠ .readOnly)

/-- The effects run under the key `k` so far. -/
def System.made (s : System) (k : ClaimKey) : ℕ := s.runs.countP (ToolRun.effectOn k)

/-- The calls about to run an effect under the key `k`. -/
def System.due (s : System) (k : ClaimKey) : ℕ := s.threads.countP (Thread.due k)

/-- Effects made and due under one key number at most one, and one only under a claim. -/
def Inv (s : System) : Prop :=
  ∀ k, s.made k + s.due k ≤ 1 ∧ (0 < s.made k + s.due k → k ∈ s.ledger.claims)

lemma inv_initial : Inv System.initial := by
  intro k
  simp [System.made, System.due, System.initial]

/-- A call that enters `finishCall` is not yet due. -/
lemma due_start (k : ClaimKey) (d : Dispatch) : (Thread.start d).due k = false := by
  by_cases h : nonReadOnly d <;> simp [Thread.due, Thread.start, h]

/-- What one step of `finishCall` does. -/
lemma Thread.step_cases {db db' : Ledger} {t' : Thread} {m : Move}
    (h : t.step db m = some (db', t')) :
    -- the claim is opened afresh, and the call becomes due
    (m.runsTool = false ∧ (∀ k, t.due k = false) ∧ (∀ k, t'.due k = true → k = keyOf t.dispatch) ∧
      keyOf t.dispatch ∉ db.claims ∧
      ∀ k, k ∈ db'.claims ↔ k = keyOf t.dispatch ∨ k ∈ db.claims) ∨
    -- the tool runs, and the call is no longer due
    (m.runsTool = true ∧ db' = db ∧ (∀ k, t.due k = true ↔
      keyOf t.dispatch = k ∧ nonReadOnly t.dispatch) ∧ ∀ k, t'.due k = false) ∨
    -- the call moves on without running anything
    (m.runsTool = false ∧ (∀ k, t'.due k = false) ∧ ∀ k, k ∈ db'.claims ↔ k ∈ db.claims) := by
  obtain ⟨d, stage⟩ := t
  cases m <;> cases stage
  all_goals try (simp [Thread.step] at h; done)
  case openClaim.opening script =>
    simp only [Thread.step] at h
    rcases openClaim_cases d.inv.tenantID (keyOf d) d.ref.string script db with
      ⟨e, hopen⟩ | ⟨claimID, outcome, hne, hopen⟩ | ⟨claim, db₁, hfresh, hrows, hopen⟩
    all_goals rw [hopen] at h
    · obtain ⟨rfl, rfl⟩ : db = db' ∧ _ = t' := by simpa using h
      exact .inr (.inr ⟨rfl, fun k => by simp [Thread.due, Thread.return, Thread.goto],
        fun k => Iff.rfl⟩)
    · have hrefuse : ∃ r, refusal claimID outcome = some r := by
        cases outcome with
        | fresh => exact absurd rfl hne
        | ambiguous | done => exact ⟨_, rfl⟩
      obtain ⟨r, hr⟩ := hrefuse
      simp only [hr] at h
      obtain ⟨rfl, rfl⟩ : db = db' ∧ _ = t' := by simpa using h
      exact .inr (.inr ⟨rfl, fun k => by simp [Thread.due, Thread.return, Thread.goto],
        fun k => Iff.rfl⟩)
    · obtain ⟨rfl, rfl⟩ : db₁ = db' ∧ _ = t' := by simpa [refusal] using h
      refine .inl ⟨rfl, fun k => by simp [Thread.due], ?_, hfresh, fun k => ?_⟩
      · intro k hk
        exact (of_decide_eq_true (Bool.and_elim_left hk)).1.symm
      · rw [hrows, AList.mem_insert]
  case callTool.calling out claim =>
    obtain ⟨rfl, hstage⟩ : db = db' ∧ ∀ k, t'.due k = false := by
      cases claim with
      | none =>
        obtain ⟨rfl, rfl⟩ : db = db' ∧ _ = t' := by simpa [Thread.step] using h
        exact ⟨rfl, fun k => by simp [Thread.due, Thread.goto]⟩
      | some claimID =>
        obtain ⟨rfl, rfl⟩ : db = db' ∧ _ = t' := by simpa [Thread.step] using h
        refine ⟨rfl, fun k => ?_⟩
        by_cases hz : claimID = 0 <;> simp [Thread.due, Thread.goto, hz]
    exact .inr (.inl ⟨rfl, rfl, fun k => by simp [Thread.due], hstage⟩)
  case completeClaim.completing script claimID out =>
    obtain ⟨rfl, rfl⟩ : _ = db' ∧ _ = t' := by simpa [Thread.step] using h
    refine .inr (.inr ⟨rfl, fun k => by simp [Thread.due, Thread.goto], fun k => ?_⟩)
    exact mem_resolve _ _ _ _ _ _ _ k
  case emit.emitting post budget out =>
    obtain ⟨rfl, rfl⟩ : db = db' ∧ _ = t' := by simpa [Thread.step] using h
    exact .inr (.inr ⟨rfl, fun k => by simp [Thread.due, Thread.return, Thread.goto],
      fun k => Iff.rfl⟩)

/-- The runs due after one call has moved. -/
lemma due_set {threads : List Thread} {i : ℕ} (hi : threads[i]? = some t)
    (t' : Thread) (k : ClaimKey) :
    (threads.set i t').countP (Thread.due k) + (t.due k).toNat =
      threads.countP (Thread.due k) + (t'.due k).toNat := by
  obtain ⟨hlt, hget⟩ := List.getElem?_eq_some_iff.1 hi
  rw [List.countP_set hlt, hget]
  cases hdue : t.due k with
  | false => cases t'.due k <;> simp
  | true =>
    have hpos : 0 < threads.countP (Thread.due k) :=
      List.countP_pos_iff.2 ⟨t, hget ▸ List.getElem_mem hlt, hdue⟩
    cases t'.due k <;> simp <;> omega

lemma Inv.spawn (hinv : Inv s) (d : Dispatch) : Inv (s.spawn d) := by
  intro k
  have hdue : (s.spawn d).due k = s.due k := by
    simp [System.due, System.spawn, due_start]
  have hmade : (s.spawn d).made k = s.made k := rfl
  rw [hdue, hmade]
  exact hinv k

lemma Inv.move {i : ℕ} {t' : Thread} {m : Move} {db' : Ledger} (hinv : Inv s)
    (hi : s.threads[i]? = some t) (h : t.step s.ledger m = some (db', t')) :
    Inv { ledger := db', threads := s.threads.set i t', runs := s.runs ++ runsOf t m } := by
  intro k
  obtain ⟨hle, hclaim⟩ := hinv k
  have hset := due_set hi t' k
  simp only [System.made, System.due] at hle hclaim ⊢
  rw [List.countP_append]
  rcases Thread.step_cases h with ⟨hm, hdue, hdue', hfresh, hmem⟩ | ⟨hm, rfl, hdue, hdue'⟩ |
      ⟨hm, hdue', hmem⟩
  · have hruns : (runsOf t m).countP (ToolRun.effectOn k) = 0 := by simp [runsOf, hm]
    rw [hruns, hmem]
    by_cases hk : k = keyOf t.dispatch
    · -- the key had no claim, so nothing was made or due under it
      subst hk
      have hzero : ¬ 0 < s.runs.countP (ToolRun.effectOn (keyOf t.dispatch)) +
          s.threads.countP (Thread.due (keyOf t.dispatch)) := fun hpos => hfresh (hclaim hpos)
      have hone := Bool.toNat_le (t'.due (keyOf t.dispatch))
      exact ⟨by omega, fun _ => .inl rfl⟩
    · have hnot : t'.due k = false := by
        by_contra hne
        exact hk (hdue' k (by simpa using hne))
      rw [hnot, Bool.toNat_false] at hset
      exact ⟨by omega, fun hpos => .inr (hclaim (by omega))⟩
  · rw [hdue', Bool.toNat_false] at hset
    -- a run that is an effect under `k` was due under `k` before
    have hruns : (runsOf t m).countP (ToolRun.effectOn k) = (t.due k).toNat := by
      have heff : ToolRun.effectOn k ⟨keyOf t.dispatch, t.dispatch.tool.descriptor.effectClass⟩ =
          t.due k := by
        rw [Bool.eq_iff_iff, hdue]
        simp [ToolRun.effectOn, nonReadOnly]
      cases hd : t.due k <;> simp [runsOf, hm, heff, hd]
    exact ⟨by omega, fun hpos => hclaim (by omega)⟩
  · have hruns : (runsOf t m).countP (ToolRun.effectOn k) = 0 := by simp [runsOf, hm]
    rw [hruns, hmem]
    rw [hdue', Bool.toNat_false] at hset
    exact ⟨by omega, fun hpos => hclaim (by omega)⟩

theorem Inv.step {s' : System} {act : Action} (hinv : Inv s)
    (h : pipelines.step s act = some s') : Inv s' := by
  cases act with
  | execute | executeApproved =>
    dsimp only [pipelines] at h
    split at h <;> cases h
    · exact hinv
    · exact hinv.spawn _
  | move i m =>
    dsimp only [pipelines] at h
    cases hi : s.threads[i]? with
    | none => simp [hi] at h
    | some t =>
      simp only [hi, Option.map_eq_some_iff] at h
      obtain ⟨⟨db', t'⟩, hstep, rfl⟩ := h
      exact hinv.move hi hstep
  | crash i =>
    cases h
    intro k
    obtain ⟨hle, hclaim⟩ := hinv k
    have hless : (s.threads.eraseIdx i).countP (Thread.due k) ≤ s.threads.countP (Thread.due k) :=
      (List.eraseIdx_sublist _ _).countP_le
    simp only [System.made, System.due] at hle hclaim ⊢
    exact ⟨by omega, fun hpos => hclaim (by omega)⟩
  | resolveClaim tenantID sessionID claimID status reason script =>
    cases h
    intro k
    obtain ⟨hle, hclaim⟩ := hinv k
    exact ⟨hle, fun hpos => (mem_resolve _ _ _ _ _ _ _ k).2 (hclaim hpos)⟩

/-- Effect idempotency: whatever calls are made, retried, crashed and resolved in whatever
order, `Tool.Call` has run at most once for each session and digest, for tools whose effect
class is not read-only. -/
theorem call_at_most_once (s : System) (h : pipelines.Reaches System.initial s)
    (k : ClaimKey) :
    (s.runs.countP fun r => decide (r.key = k ∧ r.effectClass ≠ .readOnly)) ≤ 1 := by
  have hinv : Inv s := h.invariant inv_initial fun _ _ _ hinv hst => hinv.step hst
  have hle := (hinv k).1
  exact Nat.le_of_add_right_le hle

/-- A process that resolves every reference to one tool with an external effect. -/
def mailer : Pipeline where
  cfg :=
    { manifest := [], registry := fun _ => none
      dynamic := some fun _ _ ref => .ok (some
        { descriptor := { id := ref, description := "", inputSchema := "",
                          effectClass := .external }
          taint := ⟨true, true, true⟩
          checkPermissions := fun _ => { decision := .defer, reason := "" }
          validateInput := fun _ => none })
      descriptorDigest := fun _ => [], canonicalDigest := fun _ _ => .ok [1] }
  chain := { denyRules := [], profiles := [], approval := ⟨fun _ => none⟩
             standingScopes := [], safety := { rules := [] } }
  sessions := fun _ => none

/-- An approved call and its retry: the first opens the claim and runs the tool, the second
finds the claim. -/
def retriedCall : List Action :=
  let inv : Invocation := { tenantID := 1, sessionID := 2, toolName := "mcp/mail@1"
                            input := "", autonomyLevel := "supervised" }
  [.executeApproved mailer inv [1], .executeApproved mailer inv [1],
    .move 0 (.openClaim [some 3, some 4, some 0]),
    .move 0 (.callTool (.ok { output := "sent" })),
    .move 1 (.openClaim [some 5, some 0, some 0])]

theorem retriedCall_runs_once :
    ∃ s, pipelines.run System.initial retriedCall = some s ∧
      s.runs = [⟨(2, [1]), .external⟩] ∧
      (s.runs.countP fun r => decide (r.key = (2, [1]) ∧ r.effectClass ≠ .readOnly)) ≤ 1 := by
  obtain ⟨s, hrun, hruns⟩ : ∃ s, pipelines.run System.initial retriedCall = some s ∧
      s.runs = [⟨(2, [1]), .external⟩] := by
    apply Machine.exists_run
    decide +kernel
  exact ⟨s, hrun, hruns, call_at_most_once s (Machine.Reaches.of_run retriedCall hrun) _⟩

end NexusAgent.Runctl
