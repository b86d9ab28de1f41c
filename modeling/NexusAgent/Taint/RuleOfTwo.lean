import NexusAgent.Lib.Machine
import NexusAgent.Tools.Gates

/-!
# The Rule of Two over a session

At most two of the three legs are engaged without a human's word. A pipeline keeps the legs that
each session has engaged (`internal/tools/pipeline.go`); a tool call joins its own
(`internal/tools/execute.go`), `FoldTaint` and `SeedTaint` join those of a child or of the log.
Each of the three holds the session's lock from its read to its write, so that a session sees them
one after another.
-/

namespace NexusAgent.Tools

open Permissions

/-! ### The legs of a session -/

namespace Pipeline

/-- The legs that a pipeline holds for a session, none before it has seen it. -/
def legs (p : Pipeline) (sessionID : UUID) : TaintState :=
  ((p.sessions sessionID).map SessionState.taintState).getD {}

variable (p : Pipeline)

lemma legs_setSession (sessionID s : UUID) (state : SessionState) :
    (p.setSession sessionID state).legs s =
      if s = sessionID then state.taintState else p.legs s := by
  unfold legs setSession
  by_cases h : s = sessionID <;> simp [h]

/-- A session that is seen for the first time has no legs. -/
@[simp]
lemma stateFor_taintState (sessionID : UUID) (autonomyLevel : String) :
    (p.stateFor sessionID autonomyLevel).1.taintState = p.legs sessionID := by
  unfold stateFor legs
  cases p.sessions sessionID <;> rfl

@[simp]
lemma legs_stateFor (sessionID : UUID) (autonomyLevel : String) (s : UUID) :
    (p.stateFor sessionID autonomyLevel).2.legs s = p.legs s := by
  unfold stateFor
  cases hs : p.sessions sessionID with
  | some state => rfl
  | none =>
    rw [legs_setSession]
    split
    next h => simp [legs, h, hs]
    next => rfl

lemma le_legs_setSession {p q : Pipeline} {sessionID : UUID} {state : SessionState}
    (hq : ∀ s, q.legs s = p.legs s) (hstate : p.legs sessionID ≤ state.taintState) (s : UUID) :
    p.legs s ≤ (q.setSession sessionID state).legs s := by
  rw [legs_setSession]
  split
  next h => exact h ▸ hstate
  next => rw [hq s]

lemma legs_le_seedTaint (sessionID : UUID) (autonomyLevel : String) (engaged : TaintState)
    (s : UUID) : p.legs s ≤ (p.seedTaint sessionID autonomyLevel engaged).legs s := by
  refine le_legs_setSession (legs_stateFor p sessionID autonomyLevel) ?_ s
  show p.legs sessionID ≤ (p.stateFor sessionID autonomyLevel).1.taintState.union engaged
  rw [stateFor_taintState, TaintState.union_eq_sup]
  exact le_sup_left

lemma legs_le_decideCall (env : ExecuteEnv) (gate2 hook : LayerOutcome) (d : Dispatch)
    (s : UUID) : p.legs s ≤ (p.decideCall env gate2 hook d).2.legs s := by
  have hresolve := (p.stateFor d.inv.sessionID d.inv.autonomyLevel).2.chain.taintState_le_resolve
    env.safety (p.chainRequest gate2 hook d)
  rw [show (p.chainRequest gate2 hook d).taintState = p.legs d.inv.sessionID from
    stateFor_taintState p _ _] at hresolve
  unfold decideCall
  dsimp only
  split
  -- the chain failed: its breaker may have moved, but nothing is written back
  · exact (legs_stateFor p d.inv.sessionID d.inv.autonomyLevel s).ge
  · split <;> exact le_legs_setSession (legs_stateFor p _ _) hresolve s

/-- A call that goes on, or waits for an approval, leaves its session with the legs that the chain
resolved. -/
lemma legs_decideCall {p : Pipeline} {env : ExecuteEnv} {gate2 hook : LayerOutcome} {d : Dispatch}
    (h : ∀ r, (p.decideCall env gate2 hook d).1 = .inl r → r.awaitingApproval = true) :
    (p.decideCall env gate2 hook d).2.legs d.inv.sessionID =
      (p.chain.resolve env.safety (p.chainRequest gate2 hook d)).1.1.taintState := by
  unfold decideCall at h ⊢
  dsimp only at h ⊢
  rw [stateFor_chain] at h ⊢
  split at h
  · nomatch h _ rfl
  split <;> rw [legs_setSession, if_pos rfl] <;> rfl

/-- A call that goes on, or waits for an approval, has engaged the legs of its tool. -/
lemma legsFor_le_execute {p : Pipeline} {env : ExecuteEnv} {inv : Invocation} {req : Request}
    (hasked : p.asked env inv = some req)
    (h : ∀ r, (p.execute env inv).1 = .inl r → r.awaitingApproval = true) :
    legsFor req.taint ≤ (p.execute env inv).2.legs inv.sessionID := by
  unfold asked at hasked
  split at hasked
  · nomatch hasked
  next d₀ hbind =>
  split at hasked
  · nomatch hasked
  next gate2 hook d hhooks =>
  cases hasked
  have hbound := bindCall_ok hbind
  have hinv : d.inv = inv := (askHooks_ok hhooks).inv_eq.trans hbound.inv_eq
  have hexecute : p.execute env inv = p.decideCall env gate2 hook d := by
    unfold execute
    simp only [hbind, hhooks]
  rw [hexecute] at h ⊢
  rw [← hinv, legs_decideCall h, p.chain.resolve_taintState (decideCall_passed h)]
  exact le_sup_right

/-- A tool call keeps the legs of every session. -/
lemma legs_le_execute (env : ExecuteEnv) (inv : Invocation) (s : UUID) :
    p.legs s ≤ (p.execute env inv).2.legs s := by
  unfold execute
  split
  · exact le_rfl
  split
  · exact le_rfl
  next gate2 hook d _ => exact p.legs_le_decideCall env gate2 hook d s

/-! ### The standing scopes of a session -/

/-- A tool call leaves the standing scopes as they are configured. -/
lemma execute_standingScopes (env : ExecuteEnv) (inv : Invocation) :
    (p.execute env inv).2.chain.standingScopes = p.chain.standingScopes := by
  obtain ⟨safety, hchain⟩ := p.execute_chain env inv
  rw [hchain]

end Pipeline

/-! ### Any sequence of operations -/

/-- What moves the legs of a pipeline's sessions. -/
inductive Operation
  | execute (env : ExecuteEnv) (inv : Invocation)
  | foldTaint (sessionID : UUID) (engaged : TaintState)
  | seedTaint (sessionID : UUID) (autonomyLevel : String) (engaged : TaintState)

def operations : Machine Pipeline Operation where
  step p
    | .execute env inv => some (p.execute env inv).2
    | .foldTaint sessionID engaged => some (p.foldTaint sessionID engaged)
    | .seedTaint sessionID autonomyLevel engaged =>
      some (p.seedTaint sessionID autonomyLevel engaged)

def Grows (p q : Pipeline) : Prop :=
  q.chain.standingScopes = p.chain.standingScopes ∧ ∀ s, p.legs s ≤ q.legs s

lemma Grows.trans {p q r : Pipeline} (h : Grows p q) (h' : Grows q r) : Grows p r :=
  ⟨h'.1.trans h.1, fun s => (h.2 s).trans (h'.2 s)⟩

lemma grows_seedTaint (p : Pipeline) (sessionID : UUID) (autonomyLevel : String)
    (engaged : TaintState) : Grows p (p.seedTaint sessionID autonomyLevel engaged) := by
  refine ⟨?_, p.legs_le_seedTaint sessionID autonomyLevel engaged⟩
  show (p.stateFor sessionID autonomyLevel).2.chain.standingScopes = _
  rw [Pipeline.stateFor_chain]

lemma grows_of_step {p q : Pipeline} {a : Operation} (h : operations.step p a = some q) :
    Grows p q := by
  cases a with
  | execute env inv =>
    cases h
    exact ⟨p.execute_standingScopes env inv, p.legs_le_execute env inv⟩
  | foldTaint sessionID engaged =>
    cases h
    exact grows_seedTaint p sessionID "" engaged
  | seedTaint sessionID autonomyLevel engaged =>
    cases h
    exact grows_seedTaint p sessionID autonomyLevel engaged

lemma grows_of_reaches {p q : Pipeline} (h : operations.Reaches p q) : Grows p q :=
  h.invariant (I := Grows p) ⟨rfl, fun _ => le_rfl⟩ fun _ _ _ hgrows hst =>
    hgrows.trans (grows_of_step hst)

/-! ### Calls that engage a third leg -/

/-- All three legs. -/
def allLegs : TaintState := ⟨true, true, true⟩

lemma allowed_of_allLegs {c : Chain} {call : SafetyCall} {req : Request}
    (hallow : (c.resolve call req).1.1.resolution.decision = .allow)
    (hlegs : (c.resolve call req).1.1.taintState = allLegs) :
    (c.resolve call req).1.1.resolution.layer = some .standingScope ∧
      ∃ scope ∈ c.standingScopes, scope.covers req.toolID req.ns = true := by
  cases c.resolve_ends call req with
  | failed _ _ _ _ hne => exact absurd hallow hne
  | denied _ _ _ hdecision | asked _ _ _ _ _ hdecision => nomatch hdecision.symm.trans hallow
  | satisfied _ _ _ _ hcovered _ hlayer => exact ⟨hlayer, List.any_eq_true.1 hcovered⟩
  | unopposed _ hnone _ _ htaint =>
    -- with three legs layer 7 asks, so that some layer objected
    have hask : (resolveRuleOfTwo req.taintState req.taint).1.decision = .ask := by
      rw [hlegs] at htaint
      rw [resolveRuleOfTwo_snd] at htaint
      unfold resolveRuleOfTwo
      rw [TaintState.union_eq_sup, ← htaint]
      rfl
    exact absurd hask (hnone .ruleOfTwo (by decide))

/-- Over every sequence of `Execute`, `FoldTaint` and `SeedTaint`, on any sessions and in any
order, no leg that a session has engaged becomes disengaged, and every call that `Execute` goes on
with, although its permission resolution leaves all three legs engaged, was allowed by one of the
configured standing scopes, which covers it. -/
theorem ruleOfTwo_holds {p q : Pipeline} (h : operations.Reaches p q) :
    (∀ s leg, (p.legs s).engaged leg = true → (q.legs s).engaged leg = true) ∧
      ∀ env inv d, (q.execute env inv).1 = .inr d → ∃ req, q.asked env inv = some req ∧
        (q.execute env inv).2.legs inv.sessionID =
          (q.chain.resolve env.safety req).1.1.taintState ∧
        ((q.chain.resolve env.safety req).1.1.taintState = allLegs →
          (q.chain.resolve env.safety req).1.1.resolution.decision = .allow ∧
            (q.chain.resolve env.safety req).1.1.resolution.layer = some .standingScope ∧
            ∃ scope ∈ p.chain.standingScopes, scope.covers d.ref.string d.ref.ns = true) := by
  obtain ⟨hscopes, hlegs⟩ := grows_of_reaches h
  refine ⟨fun s leg => hlegs s leg, fun env inv d hd => ?_⟩
  obtain ⟨d₀, gate2, hook, d₁, hbind, hhooks, hdecide⟩ := Pipeline.execute_dispatches hd
  have hasked : q.asked env inv = some (q.chainRequest gate2 hook d₁) := by
    unfold Pipeline.asked
    rw [hbind]
    dsimp only
    rw [hhooks]
  obtain ⟨hallow, href, hengaged⟩ := Pipeline.decideCall_allowed hdecide
  refine ⟨_, hasked, ?_, fun hall => ?_⟩
  · have hbound := Pipeline.bindCall_ok hbind
    have hhooked := Pipeline.askHooks_ok hhooks
    rw [← Pipeline.legs_decideCall fun r hr => (nomatch hdecide.symm.trans hr), hhooked.inv_eq,
      hbound.inv_eq]
    unfold Pipeline.execute
    rw [hbind]
    dsimp only
    rw [hhooks]
  · obtain ⟨hlayer, scope, hscope, hcovers⟩ := allowed_of_allLegs hallow hall
    refine ⟨hallow, hlayer, scope, hscopes ▸ hscope, ?_⟩
    rw [href]
    exact hcovers

def mailTool (ref : ToolRef) : Tool where
  descriptor := { id := ref, description := "", inputSchema := "", effectClass := .external }
  taint := ⟨false, false, true⟩
  checkPermissions _ := { decision := .defer, reason := "" }
  validateInput _ := none

/-- A pipeline with that tool, for which there is a standing scope. -/
def mailPipeline : Pipeline where
  cfg :=
    { manifest := [], registry := fun _ => none
      dynamic := some fun _ _ ref => .ok (some (mailTool ref))
      descriptorDigest := fun _ => [], canonicalDigest := fun _ _ => .ok [1] }
  chain :=
    { denyRules := [], approval := ⟨fun _ => none⟩
      standingScopes := [{ name := "reports", toolPattern := "mail/*" }]
      profiles := [{ name := "mail", version := 1, tools := ["mail/send@1"] }]
      safety := { rules := [] } }
  sessions _ := none

/-- The safety classifier's model leg has no opinion, and there are no hooks. -/
def unhooked : ExecuteEnv :=
  { preToolUse := {}, safety := { now := 0, leg := .answered .defer "", after := 0 } }

def sendMail : Invocation :=
  { tenantID := 7, sessionID := 1, toolName := "mail/send@1", input := ""
    autonomyLevel := "autonomous" }

/-- A session that has read untrusted input and private data sends mail: the third leg is asked
about, and the standing scope satisfies the ask. -/
theorem thirdLeg_covered :
    ∃ q d req, operations.Reaches mailPipeline q ∧ (q.execute unhooked sendMail).1 = .inr d ∧
      q.asked unhooked sendMail = some req ∧
      (q.chain.resolve unhooked.safety req).1.1.taintState = allLegs ∧
      (q.chain.resolve unhooked.safety req).1.1.resolution.layer = some .standingScope := by
  have hreach : operations.Reaches mailPipeline (mailPipeline.seedTaint 1 "autonomous"
      { untrustedInput := true, privateData := true }) :=
    Machine.Reaches.of_run [.seedTaint 1 "autonomous"
      { untrustedInput := true, privateData := true }] rfl
  obtain ⟨d, hd, -⟩ : ∃ d, ((mailPipeline.seedTaint 1 "autonomous"
      { untrustedInput := true, privateData := true }).execute unhooked sendMail).1 = .inr d ∧
      d.input = "\x7b\x7d" :=
    exists_dispatch (by decide +kernel)
  obtain ⟨req, hreq, hlegs, hscope⟩ := (ruleOfTwo_holds hreach).2 unhooked sendMail d hd
  have hall := hlegs.symm.trans (show _ = allLegs by decide +kernel)
  exact ⟨_, d, req, hreach, hd, hreq, hall, (hscope hall).2.1⟩

end NexusAgent.Tools
