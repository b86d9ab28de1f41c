import NexusAgent.Lib.Fallible
import NexusAgent.Permissions.Order
import NexusAgent.Tools.Pipeline

/-!
# What passes the gates of a tool call

`Execute` and `ExecuteApproved` are chains of gates, and each gate that a call passes is a fact
about the call. The lemmas here read these facts off a call that went through, one part of the
pipeline at a time.

- `Pipeline.bindCall_ok`: steps 1 to 5.
- `Pipeline.askHooks_ok`: steps 6 to 8.
- `Pipeline.decideCall_dispatches`: steps 9 to 11.
- `Pipeline.execute_dispatches`: all of them, for a call that `Execute` goes on with.
-/

namespace NexusAgent.Tools

open Permissions

namespace Pipeline

/-! ### Steps 1 to 5 -/

/-- What a call that is bound has passed. -/
structure Bound (p : Pipeline) (inv : Invocation) (d : Dispatch) : Prop where
  inv_eq : d.inv = inv
  ref : parseToolRef inv.toolName = .ok d.ref
  /-- The tool is the one that the reference names now, and it is admitted. -/
  resolved : ∃ dynamic, p.resolveTool inv.tenantID inv.sessionID d.ref = .ok (d.tool, dynamic) ∧
    p.admission d.ref dynamic = .ok ()
  input_eq : d.input = inputOf inv
  valid : d.tool.validateInput d.input = none
  digest : p.cfg.canonicalDigest d.ref.string d.input = .ok d.digest

variable {d d' : Dispatch} {env : ExecuteEnv} {r : ExecuteResult} {inv : Invocation}
  {gate2 hook : LayerOutcome} {p : Pipeline}

theorem bindCall_ok (h : p.bindCall inv = .ok d) : p.Bound inv d := by
  obtain ⟨ref, href, h⟩ := Except.bind_eq_ok.1 h
  obtain ⟨⟨tool, dynamic⟩, htool, h⟩ := Except.bind_eq_ok.1 h
  obtain ⟨_, hadmission, h⟩ := Except.bind_eq_ok.1 h
  dsimp only at h
  split at h
  · nomatch h
  next hvalid =>
    obtain ⟨digest, hdigest, h⟩ := Except.bind_eq_ok.1 h
    obtain rfl := Except.ok.inj h
    exact { inv_eq := rfl, ref := Except.mapError_eq_ok.1 href
            resolved := ⟨dynamic, htool, hadmission⟩, input_eq := rfl, valid := hvalid
            digest := Except.mapError_eq_ok.1 hdigest }

/-! ### Steps 6 to 8 -/

lemma toLayerOutcome_ok {decision : Decision} {reason : String} {o : LayerOutcome}
    (h : toLayerOutcome decision reason = .ok o) : o.decision = decision := by
  cases decision with
  | deny | ask | defer =>
    obtain rfl := Except.ok.inj h
    rfl
  | allow | other => nomatch h

/-- What the tool and the hooks have answered, and the call as it goes on. -/
structure Hooked (env : ExecuteEnv) (d : Dispatch) (gate2 : LayerOutcome) (d' : Dispatch) :
    Prop where
  inv_eq : d'.inv = d.inv
  ref_eq : d'.ref = d.ref
  tool_eq : d'.tool = d.tool
  gate2_eq : gate2.decision = (d.tool.checkPermissions d.input).decision
  input_eq : d'.input = env.preToolUse.updatedInput.getD d.input

theorem askHooks_ok (h : p.askHooks env d = .ok (gate2, hook, d')) :
    Hooked env d gate2 d' := by
  obtain ⟨g, hg, h⟩ := Except.bind_eq_ok.1 h
  obtain ⟨o, ho, h⟩ := Except.bind_eq_ok.1 h
  have hgate2 := toLayerOutcome_ok (Except.mapError_eq_ok.1 hg)
  split at h
  next hnone =>
    obtain ⟨rfl, rfl, rfl⟩ : g = gate2 ∧ o = hook ∧ d = d' := by simpa using Except.ok.inj h
    exact { inv_eq := rfl, ref_eq := rfl, tool_eq := rfl, gate2_eq := hgate2
            input_eq := by rw [hnone]; rfl }
  next input hsome =>
    obtain ⟨digest', hdigest', h⟩ := Except.bind_eq_ok.1 h
    obtain ⟨rfl, rfl, rfl⟩ : g = gate2 ∧ o = hook ∧ { d with input, digest := digest' } = d' := by
      simpa using Except.ok.inj h
    exact { inv_eq := rfl, ref_eq := rfl, tool_eq := rfl, gate2_eq := hgate2
            input_eq := by rw [hsome]; rfl }

/-! ### Refusals -/

/-- Results that refuse a call before the permission chain is asked. -/
def IsRefusal (r : ExecuteResult) : Prop := ∃ reason, r = errorResult reason

lemma isRefusal_of_mapError {α : Type} {x : Except String α} {text : String → String}
    (r : ExecuteResult) (h : x.mapError (fun e => errorResult (text e)) = .error r) :
    IsRefusal r := by
  obtain ⟨e, rfl⟩ := Except.mapError_eq_error h
  exact ⟨_, rfl⟩

lemma isRefusal_of_resolveTool {tenantID sessionID : UUID} {ref : ToolRef} (r : ExecuteResult)
    (h : p.resolveTool tenantID sessionID ref = .error r) : IsRefusal r := by
  unfold resolveTool at h
  repeat' split at h
  all_goals first
    | exact ⟨_, (Except.error.inj h).symm⟩
    | nomatch h

lemma isRefusal_of_bindCall (h : p.bindCall inv = .error r) : IsRefusal r := by
  refine Except.error_of_bind h isRefusal_of_mapError fun ref h => ?_
  refine Except.error_of_bind h isRefusal_of_resolveTool fun ⟨tool, dynamic⟩ h => ?_
  refine Except.error_of_bind h ?_ fun _ h => ?_
  · intro r hadm
    unfold admission at hadm
    dsimp only at hadm
    split at hadm
    · nomatch hadm
    · exact ⟨_, (Except.error.inj hadm).symm⟩
  · dsimp only at h
    split at h
    · exact ⟨_, (Except.error.inj h).symm⟩
    · refine Except.error_of_bind h isRefusal_of_mapError fun digest h => ?_
      nomatch h

lemma isRefusal_of_askHooks (h : p.askHooks env d = .error r) : IsRefusal r := by
  refine Except.error_of_bind h isRefusal_of_mapError fun gate2 h => ?_
  refine Except.error_of_bind h isRefusal_of_mapError fun hook h => ?_
  split at h
  · nomatch h
  · refine Except.error_of_bind h isRefusal_of_mapError fun digest h => ?_
    nomatch h

/-! ### Steps 9 to 11 -/

def chainRequest (p : Pipeline) (gate2 hookOutcome : LayerOutcome) (d : Dispatch) : Request :=
  let state := (p.stateFor d.inv.sessionID d.inv.autonomyLevel).1
  { toolID := d.ref.string, ns := d.ref.ns, effectClass := d.tool.descriptor.effectClass
    taint := d.tool.taint, input := d.input, autonomy := some state.autonomy
    hookOutcome, gate2, taintState := state.taintState }

/-- The request that `Execute` makes of the permission chain, if it comes to it. -/
def asked (p : Pipeline) (env : ExecuteEnv) (inv : Invocation) : Option Request :=
  match p.bindCall inv with
  | .error _ => none
  | .ok d =>
    match p.askHooks env d with
    | .error _ => none
    | .ok (gate2, hookOutcome, d) => some (p.chainRequest gate2 hookOutcome d)

lemma stateFor_chain (p : Pipeline) (sessionID : UUID) (autonomyLevel : String) :
    (p.stateFor sessionID autonomyLevel).2.chain = p.chain := by
  unfold stateFor
  cases p.sessions sessionID <;> rfl

/-- A call goes on when the chain neither fails, denies nor asks. -/
theorem decideCall_dispatches (h : (p.decideCall env gate2 hook d).1 = .inr d') :
    (p.chain.resolve env.safety (p.chainRequest gate2 hook d)).1.2 = none ∧
      (p.chain.resolve env.safety (p.chainRequest gate2 hook d)).1.1.resolution.decision ≠ .deny ∧
      d'.tool = d.tool ∧ d'.input = d.input ∧ d'.inv = d.inv := by
  unfold decideCall at h
  dsimp only at h
  rw [stateFor_chain] at h
  split at h
  · nomatch h
  next herr =>
  split at h
  · nomatch h
  · nomatch h
  · nomatch h
  next hdeny hask hdefer =>
    obtain rfl := Sum.inr.inj h
    exact ⟨herr, hdeny, rfl, rfl, rfl⟩

/-- A call goes on because the chain allows it, and it takes along the legs that the chain leaves
the session with. -/
lemma decideCall_allowed (h : (p.decideCall env gate2 hook d).1 = .inr d') :
    (p.chain.resolve env.safety (p.chainRequest gate2 hook d)).1.1.resolution.decision = .allow ∧
      d'.ref = d.ref ∧ d'.taintEngaged =
        (p.chain.resolve env.safety (p.chainRequest gate2 hook d)).1.1.taintState := by
  unfold decideCall at h
  dsimp only at h
  rw [stateFor_chain] at h
  split at h
  · nomatch h
  next herr =>
  split at h
  · nomatch h
  · nomatch h
  · nomatch h
  next hdeny hask hdefer =>
    obtain rfl := Sum.inr.inj h
    refine ⟨?_, rfl, rfl⟩
    cases p.chain.resolve_ends env.safety (p.chainRequest gate2 hook d) with
    | failed _ _ _ hsome =>
      rw [show (p.chain.resolve env.safety (p.chainRequest gate2 hook d)).1.2 = none from herr]
        at hsome
      nomatch hsome
    | denied _ _ _ hdecision => exact absurd hdecision hdeny
    | asked _ _ _ _ _ hdecision => exact absurd hdecision hask
    | satisfied _ _ _ _ _ hdecision | unopposed _ _ hdecision => exact hdecision

/-- A call that goes on, or waits for an approval, has been refused by no layer. -/
lemma decideCall_passed
    (h : ∀ r, (p.decideCall env gate2 hook d).1 = .inl r → r.awaitingApproval = true) :
    Passed (p.chain.answer env.safety (p.chainRequest gate2 hook d)) Layer.answering := by
  have hends := p.chain.resolve_ends env.safety (p.chainRequest gate2 hook d)
  unfold decideCall at h
  dsimp only at h
  rw [stateFor_chain] at h
  split at h
  · nomatch h _ rfl
  next herr =>
  cases hends with
  | failed _ _ _ hsome =>
    rw [show (p.chain.resolve env.safety (p.chainRequest gate2 hook d)).1.2 = none from herr]
      at hsome
    nomatch hsome
  | denied _ _ _ hdecision =>
    -- the answer to a denied call does not wait for an approval
    split at h
    · nomatch h _ rfl
    next hask => nomatch hdecision.symm.trans hask
    next hdefer => nomatch hdecision.symm.trans hdefer
    next hdeny _ _ => exact absurd hdecision hdeny
  | asked hpass | satisfied hpass | unopposed hpass => exact hpass

/-- A call moves nothing of the chain but the safety classifier's breaker. -/
lemma execute_chain (p : Pipeline) (env : ExecuteEnv) (inv : Invocation) :
    ∃ safety, (p.execute env inv).2.chain = { p.chain with safety } := by
  have hresolve (c : Chain) (call : SafetyCall) (req : Request) :
      ∃ safety, (c.resolve call req).2 = { c with safety } := by
    unfold Chain.resolve
    split
    · exact ⟨c.safety, rfl⟩
    · dsimp only
      split <;> exact ⟨_, rfl⟩
  unfold execute
  split
  · exact ⟨p.chain.safety, rfl⟩
  split
  · exact ⟨p.chain.safety, rfl⟩
  next gate2 hook d _ =>
  unfold decideCall
  dsimp only
  rw [stateFor_chain]
  split
  · exact hresolve _ _ _
  · split <;> exact hresolve _ _ _

/-- A call that goes on has passed each part of the pipeline. -/
theorem execute_dispatches (h : (p.execute env inv).1 = .inr d) :
    ∃ d₀ gate2 hook d₁, p.bindCall inv = .ok d₀ ∧ p.askHooks env d₀ = .ok (gate2, hook, d₁) ∧
      (p.decideCall env gate2 hook d₁).1 = .inr d := by
  unfold execute at h
  split at h
  · nomatch h
  next d₀ hbind =>
  split at h
  · nomatch h
  next gate2 hook d₁ hhooks => exact ⟨d₀, gate2, hook, d₁, hbind, hhooks, h⟩

end Pipeline

/-- A call goes on in a way that passes a test. -/
lemma exists_dispatch {out : ExecuteResult ⊕ Dispatch} {P : Dispatch → Prop} [DecidablePred P]
    (h : out.elim (fun _ => false) (fun d => decide (P d)) = true) : ∃ d, out = .inr d ∧ P d := by
  cases out with
  | inl r => nomatch h
  | inr d => exact ⟨d, rfl, of_decide_eq_true h⟩

end NexusAgent.Tools
